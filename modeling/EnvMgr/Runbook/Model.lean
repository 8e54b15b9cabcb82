/-
Cutover runbooks: the rows and the request bodies.

A plan belongs to one release and one environment; its tasks are carried out by
one team each and joined by dependencies; every change of a task's status
leaves an event row. The tables are those of `db/models/runbook.py`, the
requests those of `api/v1/schemas/runbook.py`.
-/
import EnvMgr.Core.Directory
import EnvMgr.Lib.Table

namespace EnvMgr.Runbook

/-! ## Enumerations -/

inductive TaskStatus
  | not_started
  | in_progress
  | done
  | failed
  | skipped
  deriving DecidableEq

/-- The status as it is stored and printed. -/
def TaskStatus.value : TaskStatus → String
  | not_started => "not_started"
  | in_progress => "in_progress"
  | done => "done"
  | failed => "failed"
  | skipped => "skipped"

inductive TaskKind
  | task
  | check
  | deploy
  | verification
  | ramp
  deriving DecidableEq

inductive DeployPattern
  | rolling
  | blue_green
  | canary
  | big_bang
  | other
  deriving DecidableEq

/-- The one definition of "a successor may proceed past this task". -/
def SATISFIED_STATUSES : List TaskStatus := [.done, .skipped]

/-- `duration_minutes: int = Field(ge=0, le=10080)`. -/
abbrev DurationMinutes := {n : ℕ // n ≤ 10080}

/-! ## Tables -/

structure RunbookPlan where
  id : ℕ
  tenant_id : ℕ
  release_id : ℕ
  environment_id : ℕ
  name : String
  anchor_start_at : DateTime
  deploy_pattern : Option DeployPattern
  notes : Option String
  deleted_at : Option DateTime
  deriving DecidableEq

structure RunbookTask where
  id : ℕ
  tenant_id : ℕ
  plan_id : ℕ
  name : String
  description : Option String
  team_group_id : Option ℕ
  system_id : Option ℕ
  kind : TaskKind
  duration_minutes : DurationMinutes
  fixed_start_at : Option DateTime
  status : TaskStatus
  actual_started_at : Option DateTime
  actual_finished_at : Option DateTime
  sort_order : ℤ
  deleted_at : Option DateTime
  deriving DecidableEq

/-- `task_id` cannot start until `predecessor_task_id` is done or skipped. -/
structure RunbookTaskDependency where
  id : ℕ
  tenant_id : ℕ
  task_id : ℕ
  predecessor_task_id : ℕ
  deriving DecidableEq

/-- `at_` is when the change is said to have happened, `recorded_at` when it was
reported. -/
structure RunbookTaskEvent where
  id : ℕ
  tenant_id : ℕ
  task_id : ℕ
  from_status : TaskStatus
  to_status : TaskStatus
  at_ : DateTime
  recorded_at : DateTime
  by_user_id : ℕ
  note : Option String
  deriving DecidableEq

/-- The rows the runbook services only read. -/
structure Directory where
  releases : List Release
  release_systems : List ReleaseSystem
  environments : List Environment
  user_groups : List UserGroup
  members : List UserGroupMember
  deriving DecidableEq

structure Db where
  directory : Directory
  plans : Table RunbookPlan RunbookPlan.id
  tasks : Table RunbookTask RunbookTask.id
  dependencies : Table RunbookTaskDependency RunbookTaskDependency.id
  events : Table RunbookTaskEvent RunbookTaskEvent.id

/-- A database in which no runbook has been made yet. -/
def Db.fresh (directory : Directory) : Db :=
  ⟨directory, Table.empty, Table.empty, Table.empty, Table.empty⟩

/-! ## Request bodies -/

structure RunbookPlanCreate where
  environment_id : ℕ
  name : String
  anchor_start_at : DateTime
  deploy_pattern : Option DeployPattern
  notes : Option String
  deriving DecidableEq

structure RunbookPlanUpdate where
  name : Sent String
  anchor_start_at : Sent DateTime
  deploy_pattern : Sent DeployPattern
  notes : Sent String
  deriving DecidableEq

structure RunbookTaskCreate where
  name : String
  description : Option String
  team_group_id : Option ℕ
  system_id : Option ℕ
  kind : TaskKind
  duration_minutes : DurationMinutes
  fixed_start_at : Option DateTime
  sort_order : ℤ
  predecessor_ids : List ℕ
  deriving DecidableEq

structure RunbookTaskUpdate where
  name : Sent String
  description : Sent String
  team_group_id : Sent ℕ
  system_id : Sent ℕ
  kind : Sent TaskKind
  duration_minutes : Sent DurationMinutes
  fixed_start_at : Sent DateTime
  sort_order : Sent ℤ
  deriving DecidableEq

structure TransitionRequest where
  to_status : TaskStatus
  at_ : Option DateTime
  reason : Option String
  deriving DecidableEq

end EnvMgr.Runbook
