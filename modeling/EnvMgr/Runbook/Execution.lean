/-
Task status transitions: `runbook_execution_service.py`, and over it the routes
of `api/v1/runbooks.py` as one step function.
-/
import EnvMgr.Lib.Runs
import EnvMgr.Runbook.Service

namespace EnvMgr.Runbook

/-! ## The state machine -/

def EDGES : TaskStatus → List TaskStatus
  | .not_started => [.in_progress, .done, .skipped]
  | .in_progress => [.done, .failed]
  | .failed => [.in_progress, .skipped]
  | .done => [.not_started]
  | .skipped => [.not_started]

def MANAGER_ONLY : List (TaskStatus × TaskStatus) :=
  [(.not_started, .skipped), (.failed, .skipped), (.done, .not_started),
    (.skipped, .not_started)]

def NEEDS_PREDECESSORS : List (TaskStatus × TaskStatus) :=
  [(.not_started, .in_progress), (.not_started, .done)]

def NEEDS_QUIET_SUCCESSORS : List (TaskStatus × TaskStatus) :=
  [(.done, .not_started), (.skipped, .not_started)]

def _ORDER : List TaskStatus := [.in_progress, .done, .failed, .skipped, .not_started]

def is_manager (user : CurrentUser) : Bool :=
  user.is_master_admin ∨ user.role = Role.ADMIN ∨ user.role = Role.RELEASE_MANAGER

/-- Which of `group_ids` the user is a member of, in this tenant. -/
def team_ids_for (db : Db) (user_id tenant_id : ℕ) (group_ids : List ℕ) : List ℕ :=
  (db.directory.members.filter fun m =>
    m.user_id = user_id ∧ m.tenant_id = tenant_id ∧ m.group_id ∈ group_ids).map
    UserGroupMember.group_id

/-- Targets the caller could perform right now. -/
def allowed_transitions (task_status : TaskStatus) (pred_statuses succ_statuses : List TaskStatus)
    (manager team_member : Bool) : List TaskStatus :=
  let out := (EDGES task_status).filter fun to_status =>
    let pair := (task_status, to_status)
    (if pair ∈ MANAGER_ONLY then manager else manager || team_member)
      && !(pair ∈ NEEDS_PREDECESSORS ∧ ∃ s ∈ pred_statuses, s ∉ SATISFIED_STATUSES)
      && !(pair ∈ NEEDS_QUIET_SUCCESSORS ∧ ∃ s ∈ succ_statuses, s ≠ .not_started)
  order_by (fun to_status => _ORDER.idxOf to_status) out

/-- The live predecessors and the live successors of a task. -/
def _neighbours (db : Db) (task : RunbookTask) (tenant_id : ℕ) :
    List RunbookTask × List RunbookTask :=
  let by_id := fun i => (live_tasks db task.plan_id tenant_id).find? fun t => t.id = i
  let edges := (live_edges db task.plan_id tenant_id).filter fun e =>
    (by_id e.1).isSome ∧ (by_id e.2).isSome
  ((edges.filter fun e => e.1 = task.id).filterMap fun e => by_id e.2,
    (edges.filter fun e => e.2 = task.id).filterMap fun e => by_id e.1)

/-- A task cannot finish before its own recorded start. -/
def assert_not_before_start (task : RunbookTask) (at_ : DateTime) : Except Raised Unit :=
  match task.actual_started_at with
  | none => .ok ()
  | some started =>
    raise_if (task.status = .in_progress ∧ at_ < started)
      (http 422 s!"'{task.name}' cannot finish before it started ({isoformat started})")

/-- What a transition writes on the task. -/
def move (to_status : TaskStatus) (at_ : DateTime) (t : RunbookTask) : RunbookTask :=
  let stamped :=
    if to_status = .in_progress then
      { t with actual_started_at := some at_, actual_finished_at := none }
    else if to_status = .done ∧ t.status = .not_started then
      { t with actual_started_at := some at_, actual_finished_at := some at_ }
    else if to_status ∈ [.done, .failed, .skipped] then
      { t with actual_finished_at := some at_ }
    else { t with actual_started_at := none, actual_finished_at := none }
  { stamped with status := to_status }

theorem move_id (to_status : TaskStatus) (at_ : DateTime) (t : RunbookTask) :
    (move to_status at_ t).id = t.id := by
  unfold move
  dsimp only
  split_ifs <;> rfl

def transition (db : Db) (task : RunbookTask) (tenant_id : ℕ) (user : CurrentUser)
    (data : TransitionRequest) (now : DateTime) : Except Raised Db := do
  let to_status := data.to_status
  let frm := task.status
  let pair := (frm, to_status)
  raise_if (to_status ∉ EDGES frm)
    (http 409 s!"'{task.name}' is {frm.value} and cannot move to {to_status.value}")
  raise_if (pair ∈ MANAGER_ONLY ∧ is_manager user = false)
    (http 403 "Only an Admin or Release Manager can skip or reopen a task")
  raise_if (pair ∉ MANAGER_ONLY ∧ is_manager user = false ∧
      ¬ ∃ g ∈ task.team_group_id.toList, g ∈ team_ids_for db user.id tenant_id [g])
    (http 403 "Only the task's team, or an Admin or Release Manager, can update it")
  let stripped := strip (data.reason.getD "")
  let reason := if stripped = "" then none else some stripped
  raise_if (pair ∈ MANAGER_ONLY ∧ reason = none)
    (http 422 "A reason is required to skip or reopen a task")
  let at_ := data.at_.getD now
  raise_if (now < at_) (http 422 "'at' cannot be in the future")
  assert_not_before_start task at_
  let (preds, succs) := _neighbours db task tenant_id
  let blocking := preds.filter fun p => p.status ∉ SATISFIED_STATUSES
  raise_if (pair ∈ NEEDS_PREDECESSORS ∧ blocking ≠ [])
    (http 409 (s!"'{task.name}' cannot start until these are done or skipped: "
      ++ listed blocking))
  let moving := succs.filter fun s => s.status ≠ .not_started
  raise_if (pair ∈ NEEDS_QUIET_SUCCESSORS ∧ moving ≠ [])
    (http 409 (s!"'{task.name}' cannot be reopened while tasks that depend on it have started: "
      ++ listed moving))
  .ok { db with
    tasks := db.tasks.update (fun t => t.id = task.id) ⟨move to_status at_, move_id to_status at_⟩
    events := db.events.insert
      ⟨fun id => ⟨id, tenant_id, task.id, frm, to_status, at_, now, user.id, reason⟩,
        fun _ => rfl⟩ }

/-! ## The checks, on what was read

Rewiring and moving a task are these checks, one after another on one database, and
then their writes. Where requests overlap, each check has the rows of its own read. -/

/-- `set_predecessors` up to its first write, on the tasks and edges it has read. -/
def check_predecessors (task : RunbookTask) (tasks : List RunbookTask) (edges : List (ℕ × ℕ))
    (predecessor_ids : List ℕ) : Except Raised (List ℕ) := do
  let ids := predecessor_ids.eraseDups
  raise_if (task.id ∈ ids)
    (http 409 s!"This dependency would create a cycle through: {task.name}")
  let missing := ids.filter fun i => i ∉ tasks.map RunbookTask.id
  raise_if (missing ≠ [])
    (http 409 ("Not live tasks in this runbook: " ++ ", ".intercalate (missing.map toString)))
  let unsatisfied := (ids.filterMap fun i => tasks.find? fun t => t.id = i).filter
    fun t => t.status ∉ SATISFIED_STATUSES
  raise_if (task.status ≠ .not_started ∧ unsatisfied ≠ [])
    (http 409
      (s!"'{task.name}' has already started, so it cannot wait on tasks that are not done: "
        ++ listed unsatisfied))
  let edges := edges.filter (fun e => e.1 ≠ task.id) ++ ids.map fun i => (task.id, i)
  let _ ← (topological_order (tasks.map RunbookTask.id) edges).mapError fun task_ids =>
    let names := order_by id ((tasks.filter fun t => t.id ∈ task_ids).map RunbookTask.name)
    http 409 ("This dependency would create a cycle through: " ++ ", ".intercalate names)
  .ok ids

/-- What `transition` checks before it reads any other task: the time and the reason
it will write. -/
def check_move (db : Db) (task : RunbookTask) (tenant_id : ℕ) (user : CurrentUser)
    (data : TransitionRequest) (now : DateTime) : Except Raised (DateTime × Option String) := do
  let to_status := data.to_status
  let frm := task.status
  let pair := (frm, to_status)
  raise_if (to_status ∉ EDGES frm)
    (http 409 s!"'{task.name}' is {frm.value} and cannot move to {to_status.value}")
  raise_if (pair ∈ MANAGER_ONLY ∧ is_manager user = false)
    (http 403 "Only an Admin or Release Manager can skip or reopen a task")
  raise_if (pair ∉ MANAGER_ONLY ∧ is_manager user = false ∧
      ¬ ∃ g ∈ task.team_group_id.toList, g ∈ team_ids_for db user.id tenant_id [g])
    (http 403 "Only the task's team, or an Admin or Release Manager, can update it")
  let stripped := strip (data.reason.getD "")
  let reason := if stripped = "" then none else some stripped
  raise_if (pair ∈ MANAGER_ONLY ∧ reason = none)
    (http 422 "A reason is required to skip or reopen a task")
  let at_ := data.at_.getD now
  raise_if (now < at_) (http 422 "'at' cannot be in the future")
  assert_not_before_start task at_
  .ok (at_, reason)

/-- `_neighbours`, on the tasks and edges it has read. -/
def neighbours_among (task : RunbookTask) (tasks : List RunbookTask) (edges : List (ℕ × ℕ)) :
    List RunbookTask × List RunbookTask :=
  let by_id := fun i => tasks.find? fun t => t.id = i
  let edges := edges.filter fun e => (by_id e.1).isSome ∧ (by_id e.2).isSome
  ((edges.filter fun e => e.1 = task.id).filterMap fun e => by_id e.2,
    (edges.filter fun e => e.2 = task.id).filterMap fun e => by_id e.1)

/-- What `transition` checks of the neighbours. -/
def check_neighbours (task : RunbookTask) (to_status : TaskStatus) (tasks : List RunbookTask)
    (edges : List (ℕ × ℕ)) : Except Raised Unit := do
  let pair := (task.status, to_status)
  let (preds, succs) := neighbours_among task tasks edges
  let blocking := preds.filter fun p => p.status ∉ SATISFIED_STATUSES
  raise_if (pair ∈ NEEDS_PREDECESSORS ∧ blocking ≠ [])
    (http 409 (s!"'{task.name}' cannot start until these are done or skipped: "
      ++ listed blocking))
  let moving := succs.filter fun s => s.status ≠ .not_started
  raise_if (pair ∈ NEEDS_QUIET_SUCCESSORS ∧ moving ≠ [])
    (http 409 (s!"'{task.name}' cannot be reopened while tasks that depend on it have started: "
      ++ listed moving))

theorem set_predecessors_eq (db : Db) (task : RunbookTask) (plan : RunbookPlan) (tenant_id : ℕ)
    (predecessor_ids : List ℕ) :
    set_predecessors db task plan tenant_id predecessor_ids = (do
      let ids ← check_predecessors task (live_tasks db plan.id tenant_id)
        (live_edges db plan.id tenant_id) predecessor_ids
      let dependencies ← ids.foldlM (add_dependency tenant_id task.id)
        (db.dependencies.delete fun d => d.tenant_id = tenant_id ∧ d.task_id = task.id)
      .ok { db with dependencies := dependencies }) := by
  simp only [set_predecessors, check_predecessors, bind_assoc]
  rfl

theorem transition_eq (db : Db) (task : RunbookTask) (tenant_id : ℕ) (user : CurrentUser)
    (data : TransitionRequest) (now : DateTime) :
    transition db task tenant_id user data now = (do
      let (at_, reason) ← check_move db task tenant_id user data now
      check_neighbours task data.to_status (live_tasks db task.plan_id tenant_id)
        (live_edges db task.plan_id tenant_id)
      .ok { db with
        tasks := db.tasks.update (fun t => t.id = task.id)
          ⟨move data.to_status at_, move_id data.to_status at_⟩
        events := db.events.insert
          ⟨fun id => ⟨id, tenant_id, task.id, task.status, data.to_status, at_, now, user.id,
            reason⟩, fun _ => rfl⟩ }) := by
  simp only [transition, check_move, check_neighbours, bind_assoc]
  rfl

/-! ## The routes -/

/-- A request, with the clock it reads. `directory` is any write of another
service to the rows that runbooks only read. -/
inductive Request
  | create_runbook (current_user : CurrentUser) (release_id : ℕ) (data : RunbookPlanCreate)
  | update_runbook (current_user : CurrentUser) (plan_id : ℕ) (data : RunbookPlanUpdate)
  | delete_runbook (current_user : CurrentUser) (plan_id : ℕ) (now : DateTime)
  | create_task (current_user : CurrentUser) (plan_id : ℕ) (data : RunbookTaskCreate)
  | update_task (current_user : CurrentUser) (task_id : ℕ) (data : RunbookTaskUpdate)
  | delete_task (current_user : CurrentUser) (task_id : ℕ) (now : DateTime)
  | set_predecessors (current_user : CurrentUser) (task_id : ℕ) (predecessor_ids : List ℕ)
  | transition_task (current_user : CurrentUser) (task_id : ℕ) (data : TransitionRequest)
      (now : DateTime)
  | directory (rows : Directory)

def handle (db : Db) : Request → Except Raised Db
  | .create_runbook user release_id data => do
    require_role Role.RELEASE_MANAGER user
    create_plan db release_id user.active_tenant_id data
  | .update_runbook user plan_id data => do
    require_role Role.RELEASE_MANAGER user
    let plan ← get_plan db plan_id user.active_tenant_id
    update_plan db plan data
  | .delete_runbook user plan_id now => do
    require_role Role.RELEASE_MANAGER user
    let plan ← get_plan db plan_id user.active_tenant_id
    delete_plan db plan user.active_tenant_id now
  | .create_task user plan_id data => do
    require_role Role.RELEASE_MANAGER user
    let plan ← get_plan db plan_id user.active_tenant_id
    create_task db plan user.active_tenant_id data
  | .update_task user task_id data => do
    require_role Role.RELEASE_MANAGER user
    let (task, plan) ← get_task db task_id user.active_tenant_id
    update_task db task plan user.active_tenant_id data
  | .delete_task user task_id now => do
    require_role Role.RELEASE_MANAGER user
    let (task, _) ← get_task db task_id user.active_tenant_id
    delete_task db task user.active_tenant_id now
  | .set_predecessors user task_id predecessor_ids => do
    require_role Role.RELEASE_MANAGER user
    let (task, plan) ← get_task db task_id user.active_tenant_id
    set_predecessors db task plan user.active_tenant_id predecessor_ids
  | .transition_task user task_id data now => do
    let (task, _) ← get_task db task_id user.active_tenant_id
    transition db task user.active_tenant_id user data now
  | .directory rows => .ok { db with directory := rows }

def step (db : Db) (request : Request) : Db := commit_or_rollback db (handle db request)

end EnvMgr.Runbook
