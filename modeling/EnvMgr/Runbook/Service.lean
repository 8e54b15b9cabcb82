/-
The writes of `runbook_service.py`: plans, tasks and dependency edges, and the
validation that keeps the graph honest.
-/
import EnvMgr.Runbook.Model
import EnvMgr.Runbook.Schedule
import Mathlib.Data.Prod.Lex
import Mathlib.Data.String.Basic

namespace EnvMgr.Runbook

/-! ## Reads -/

def get_plan (db : Db) (plan_id tenant_id : ℕ) : Except Raised RunbookPlan :=
  get_or_raise
    (db.plans.select_one fun p =>
      p.id = plan_id ∧ p.tenant_id = tenant_id ∧ p.deleted_at = none)
    (http 404 "Runbook not found")

def _live_environment (db : Db) (environment_id tenant_id : ℕ) :
    Except Raised Environment :=
  get_or_raise
    (db.directory.environments.find? fun e =>
      e.id = environment_id ∧ e.tenant_id = tenant_id ∧ e.deleted_at = none)
    (http 404 "Environment not found")

/-- The live tasks of a plan, by `(sort_order, id)`. -/
def live_tasks (db : Db) (plan_id tenant_id : ℕ) : List RunbookTask :=
  order_by (fun t => toLex (t.sort_order, t.id))
    (db.tasks.select fun t =>
      t.plan_id = plan_id ∧ t.tenant_id = tenant_id ∧ t.deleted_at = none)

/-- The join condition on either end of an edge. -/
def is_live_in (db : Db) (plan_id task_id : ℕ) : Prop :=
  ∃ t ∈ db.tasks.rows, t.id = task_id ∧ t.plan_id = plan_id ∧ t.deleted_at = none
  deriving Decidable

/-- `(task_id, predecessor_id)` where both ends are live tasks of this plan. -/
def live_edges (db : Db) (plan_id tenant_id : ℕ) : List (ℕ × ℕ) :=
  (order_by RunbookTaskDependency.id
    (db.dependencies.select fun d =>
      d.tenant_id = tenant_id ∧ is_live_in db plan_id d.task_id
        ∧ is_live_in db plan_id d.predecessor_task_id)).map
    fun d => (d.task_id, d.predecessor_task_id)

def get_task (db : Db) (task_id tenant_id : ℕ) :
    Except Raised (RunbookTask × RunbookPlan) :=
  get_or_raise
    (do
      let task ← db.tasks.select_one fun t =>
        t.id = task_id ∧ t.tenant_id = tenant_id ∧ t.deleted_at = none
      let plan ← db.plans.select_one fun p => p.id = task.plan_id ∧ p.deleted_at = none
      some (task, plan))
    (http 404 "Runbook task not found")

/-! ## Plans -/

/-- What `create_plan` writes on a slot that it revives. -/
def RunbookPlanCreate.write (data : RunbookPlanCreate) (p : RunbookPlan) : RunbookPlan :=
  { p with
    name := data.name
    anchor_start_at := data.anchor_start_at
    deploy_pattern := data.deploy_pattern
    notes := data.notes
    deleted_at := none }

def RunbookPlanCreate.row (data : RunbookPlanCreate) (tenant_id release_id id : ℕ) :
    RunbookPlan where
  id := id
  tenant_id := tenant_id
  release_id := release_id
  environment_id := data.environment_id
  name := data.name
  anchor_start_at := data.anchor_start_at
  deploy_pattern := data.deploy_pattern
  notes := data.notes
  deleted_at := none

def create_plan (db : Db) (release_id tenant_id : ℕ) (data : RunbookPlanCreate) :
    Except Raised Db := do
  let _ ← get_release db.directory.releases release_id tenant_id
  let _ ← _live_environment db data.environment_id tenant_id
  let rows := order_by RunbookPlan.id (db.plans.select fun p =>
    p.release_id = release_id ∧ p.environment_id = data.environment_id
      ∧ p.tenant_id = tenant_id)
  raise_if (∃ p ∈ rows, p.deleted_at = none)
    (http 409 "This release already has a runbook for that environment")
  match rows with
  | plan :: _ =>
    -- a soft-deleted slot is revived; its old tasks stay deleted
    .ok { db with
      plans := db.plans.update (fun p => p.id = plan.id) ⟨data.write, fun _ => rfl⟩ }
  | [] =>
    .ok { db with
      plans := db.plans.insert ⟨fun id => data.row tenant_id release_id id, fun _ => rfl⟩ }

def RunbookPlanUpdate.write (data : RunbookPlanUpdate) (p : RunbookPlan) : RunbookPlan :=
  { p with
    name := data.name.set_required p.name
    anchor_start_at := data.anchor_start_at.set_required p.anchor_start_at
    deploy_pattern := data.deploy_pattern.set_nullable p.deploy_pattern
    notes := data.notes.set_nullable p.notes }

def update_plan (db : Db) (plan : RunbookPlan) (data : RunbookPlanUpdate) :
    Except Raised Db := do
  raise_if (data.name = .null) (http 422 "name cannot be null")
  raise_if (data.anchor_start_at = .null) (http 422 "anchor_start_at cannot be null")
  .ok { db with
    plans := db.plans.update (fun p => p.id = plan.id) ⟨data.write, fun _ => rfl⟩ }

def delete_plan (db : Db) (plan : RunbookPlan) (tenant_id : ℕ) (now : DateTime) :
    Except Raised Db := do
  let tasks := live_tasks db plan.id tenant_id
  let started := (tasks.filter fun t => t.status ≠ .not_started).map RunbookTask.name
  raise_if (started ≠ [])
    (http 409 ("A runbook whose tasks have started cannot be deleted — its history is "
      ++ "the record. Started: " ++ ", ".intercalate started))
  .ok { db with
    plans := db.plans.update (fun p => p.id = plan.id)
      ⟨fun p => { p with deleted_at := some now }, fun _ => rfl⟩
    tasks := db.tasks.update (fun t => t.id ∈ tasks.map RunbookTask.id)
      ⟨fun t => { t with deleted_at := some now }, fun _ => rfl⟩ }

/-! ## Dependencies -/

/-- The tasks in the way, as the refusals print them. -/
def listed (tasks : List RunbookTask) : String :=
  ", ".intercalate (tasks.map fun t => s!"{t.name} ({t.status.value})")

/-- One inserted edge, under `uq_runbook_task_dependency`. -/
def add_dependency (tenant_id task_id : ℕ)
    (dependencies : Table RunbookTaskDependency RunbookTaskDependency.id)
    (predecessor_task_id : ℕ) :
    Except Raised (Table RunbookTaskDependency RunbookTaskDependency.id) := do
  raise_if (∃ d ∈ dependencies.rows,
    d.task_id = task_id ∧ d.predecessor_task_id = predecessor_task_id) .IntegrityError
  .ok (dependencies.insert
    ⟨fun id => ⟨id, tenant_id, task_id, predecessor_task_id⟩, fun _ => rfl⟩)

/-- Replaces the task's whole predecessor set, validated as one unit. -/
def set_predecessors (db : Db) (task : RunbookTask) (plan : RunbookPlan) (tenant_id : ℕ)
    (predecessor_ids : List ℕ) : Except Raised Db := do
  let ids := predecessor_ids.eraseDups
  let tasks := live_tasks db plan.id tenant_id
  raise_if (task.id ∈ ids)
    (http 409 s!"This dependency would create a cycle through: {task.name}")
  let missing := ids.filter fun i => i ∉ tasks.map RunbookTask.id
  raise_if (missing ≠ [])
    (http 409 ("Not live tasks in this runbook: " ++ ", ".intercalate (missing.map toString)))
  let unsatisfied := (ids.filterMap fun i => tasks.find? fun t => t.id = i).filter
    fun t => t.status ∉ SATISFIED_STATUSES
  raise_if (task.status ≠ .not_started ∧ unsatisfied ≠ [])
    (http 409
      (s!"'{task.name}' has already started, so it cannot wait on tasks that are not done: "
        ++ listed unsatisfied))
  let edges := (live_edges db plan.id tenant_id).filter (fun e => e.1 ≠ task.id)
    ++ ids.map fun i => (task.id, i)
  let _ ← (topological_order (tasks.map RunbookTask.id) edges).mapError fun task_ids =>
    let names := order_by id ((tasks.filter fun t => t.id ∈ task_ids).map RunbookTask.name)
    http 409 ("This dependency would create a cycle through: " ++ ", ".intercalate names)
  let kept := db.dependencies.delete fun d => d.tenant_id = tenant_id ∧ d.task_id = task.id
  let dependencies ← ids.foldlM (add_dependency tenant_id task.id) kept
  .ok { db with dependencies := dependencies }

/-! ## Tasks -/

/-- An unchanged team is accepted even if it has since been archived; a new one
must be a live group of this tenant. -/
def _validate_team (db : Db) (tenant_id : ℕ) (new_id current_id : Option ℕ) :
    Except Raised Unit :=
  match new_id with
  | none => .ok ()
  | some group_id =>
    if new_id = current_id then .ok ()
    else do
      let _ ← get_group db.directory.user_groups group_id tenant_id
      .ok ()

/-- An unchanged system that has since left the release is accepted. -/
def _validate_system (db : Db) (plan : RunbookPlan) (tenant_id : ℕ)
    (new_id current_id : Option ℕ) : Except Raised Unit :=
  match new_id with
  | none => .ok ()
  | some system_id =>
    if new_id = current_id then .ok ()
    else raise_if (¬ ∃ r ∈ db.directory.release_systems,
        r.release_id = plan.release_id ∧ r.system_id = system_id ∧ r.tenant_id = tenant_id)
      (http 422 "That system is not part of this release")

/-- The row `create_task` adds. -/
def RunbookTaskCreate.row (data : RunbookTaskCreate) (tenant_id plan_id id : ℕ) :
    RunbookTask where
  id := id
  tenant_id := tenant_id
  plan_id := plan_id
  name := data.name
  description := data.description
  team_group_id := data.team_group_id
  system_id := data.system_id
  kind := data.kind
  duration_minutes := data.duration_minutes
  fixed_start_at := data.fixed_start_at
  status := .not_started
  actual_started_at := none
  actual_finished_at := none
  sort_order := data.sort_order
  deleted_at := none

def create_task (db : Db) (plan : RunbookPlan) (tenant_id : ℕ) (data : RunbookTaskCreate) :
    Except Raised Db := do
  _validate_team db tenant_id data.team_group_id none
  _validate_system db plan tenant_id data.system_id none
  let task := data.row tenant_id plan.id db.tasks.next
  let db' : Db := { db with
    tasks := db.tasks.insert ⟨data.row tenant_id plan.id, fun _ => rfl⟩ }
  if data.predecessor_ids = [] then .ok db'
  else set_predecessors db' task plan tenant_id data.predecessor_ids

/-- `_NOT_NULL & sent`, each with whether a null was sent for it. -/
def _NOT_NULL (data : RunbookTaskUpdate) : List (String × Bool) :=
  [("name", data.name = .null), ("kind", data.kind = .null),
    ("duration_minutes", data.duration_minutes = .null), ("sort_order", data.sort_order = .null)]

def RunbookTaskUpdate.write (data : RunbookTaskUpdate) (t : RunbookTask) : RunbookTask :=
  { t with
    name := data.name.set_required t.name
    description := data.description.set_nullable t.description
    team_group_id := data.team_group_id.set_nullable t.team_group_id
    system_id := data.system_id.set_nullable t.system_id
    kind := data.kind.set_required t.kind
    duration_minutes := data.duration_minutes.set_required t.duration_minutes
    fixed_start_at := data.fixed_start_at.set_nullable t.fixed_start_at
    sort_order := data.sort_order.set_required t.sort_order }

def update_task (db : Db) (task : RunbookTask) (plan : RunbookPlan) (tenant_id : ℕ)
    (data : RunbookTaskUpdate) : Except Raised Db := do
  for_each (_NOT_NULL data) fun field =>
    raise_if (field.2 = true) (http 422 s!"{field.1} cannot be null")
  -- a key left out stands for the current value, which either check accepts
  _validate_team db tenant_id (data.team_group_id.set_nullable task.team_group_id)
    task.team_group_id
  _validate_system db plan tenant_id (data.system_id.set_nullable task.system_id) task.system_id
  .ok { db with
    tasks := db.tasks.update (fun t => t.id = task.id) ⟨data.write, fun _ => rfl⟩ }

def delete_task (db : Db) (task : RunbookTask) (tenant_id : ℕ) (now : DateTime) :
    Except Raised Db := do
  raise_if (task.status ≠ .not_started)
    (http 409 s!"'{task.name}' has started and cannot be deleted — its history is the record")
  .ok { db with
    dependencies := db.dependencies.delete fun d =>
      d.tenant_id = tenant_id ∧ (d.task_id = task.id ∨ d.predecessor_task_id = task.id)
    tasks := db.tasks.update (fun t => t.id = task.id)
      ⟨fun t => { t with deleted_at := some now }, fun _ => rfl⟩ }

end EnvMgr.Runbook
