/-
Rewiring and transitions under concurrency.

`n` requests, each `set_predecessors` or `transition_task`, each in a transaction of
its own under READ COMMITTED, the database's default. A statement reads what is
committed and what its own transaction has written. A row that one transaction has
changed or deleted is locked until it ends, and an `INSERT` waits for an open
transaction that decides whether its key is taken. No statement of the two services
locks what it only reads.

A request ends by computing the board it answers with, which raises if the tasks
and edges it reads by then have a cycle; only after that does it commit.
-/
import EnvMgr.Runbook.Execution

namespace EnvMgr.Runbook.Concurrent

/-! ## What a transaction has written -/

/-- The columns of which the loaded row has another value than the changed one: an
`UPDATE` sets no others. -/
def write_changed (loaded changed row : RunbookTask) : RunbookTask :=
  { row with
    status := if changed.status = loaded.status then row.status else changed.status
    actual_started_at :=
      if changed.actual_started_at = loaded.actual_started_at then row.actual_started_at
      else changed.actual_started_at
    actual_finished_at :=
      if changed.actual_finished_at = loaded.actual_finished_at then row.actual_finished_at
      else changed.actual_finished_at }

/-- The writes of an open transaction. `dropped` are the ids of the edges it has
deleted, `added` the predecessors it has inserted edges to. -/
inductive Work
  | rewire (task : RunbookTask) (tenant_id : ℕ) (dropped added : List ℕ)
  | move (loaded changed : RunbookTask) (event : Table.New RunbookTaskEvent.id)

theorem new_edge_id (tenant_id task_id predecessor_task_id id : ℕ) :
    RunbookTaskDependency.id ⟨id, tenant_id, task_id, predecessor_task_id⟩ = id := rfl

def new_edge (tenant_id task_id predecessor_task_id : ℕ) : Table.New RunbookTaskDependency.id :=
  ⟨fun id => ⟨id, tenant_id, task_id, predecessor_task_id⟩,
    new_edge_id tenant_id task_id predecessor_task_id⟩

/-- The database with the writes in it: what the transaction itself reads, and what
its commit leaves. -/
def Work.apply (db : Db) : Work → Db
  | .rewire task tenant_id dropped added =>
    { db with
      dependencies := (db.dependencies.delete fun d => d.id ∈ dropped).insert_all
        (added.map (new_edge tenant_id task.id)) }
  | .move loaded changed event =>
    { db with
      tasks := db.tasks.update (fun t => t.id = loaded.id)
        ⟨write_changed loaded changed, fun _ => rfl⟩
      events := db.events.insert event }

/-! ## Requests in flight -/

inductive Call
  | set_predecessors (current_user : CurrentUser) (task_id : ℕ) (predecessor_ids : List ℕ)
  | transition_task (current_user : CurrentUser) (task_id : ℕ) (data : TransitionRequest)
      (now : DateTime)

/-- How far a request has come: which of its statements have run. The plan is that of
the task. -/
inductive Phase
  | received
  | task_read (task : RunbookTask)
  /-- the tasks of the plan are read, to rewire one of them or to move it -/
  | to_rewire (task : RunbookTask) (predecessor_ids : List ℕ) (tasks : List RunbookTask)
  | to_move (task changed : RunbookTask) (event : Table.New RunbookTaskEvent.id)
      (tasks : List RunbookTask)
  /-- the new predecessors are checked -/
  | rewiring (task : RunbookTask) (ids : List ℕ)
  /-- the `DELETE` has found its rows -/
  | deleting (task : RunbookTask) (ids dropped : List ℕ)
  | inserting (task : RunbookTask) (dropped added ids : List ℕ)
  /-- the neighbours are checked -/
  | moving (loaded changed : RunbookTask) (event : Table.New RunbookTaskEvent.id)
  | written (work : Work)
  /-- the tasks of the answer are read -/
  | tasks_shown (work : Work) (tasks : List RunbookTask)
  /-- the answer is there, and the commit is next -/
  | shown (work : Work)
  | committed
  | raised (e : Raised)
  /-- the connection is gone -/
  | lost

structure State (n : ℕ) where
  db : Db
  phases : Fin n → Phase

def start (n : ℕ) (db : Db) : State n := ⟨db, fun _ => .received⟩

def Call.user : Call → CurrentUser
  | .set_predecessors user _ _ => user
  | .transition_task user _ _ _ => user

def Call.tenant_id (call : Call) : ℕ := call.user.active_tenant_id

/-- The uncommitted writes of a request. -/
def Phase.work (tenant_id : ℕ) : Phase → Option Work
  | .inserting task dropped added _ => some (.rewire task tenant_id dropped added)
  | .written work | .tasks_shown work _ | .shown work => some work
  | _ => none

def Work.dropped : Work → List ℕ
  | .rewire _ _ dropped _ => dropped
  | .move .. => []

/-- The pair is a key that the transaction has inserted. -/
def Work.inserts (task_id predecessor_task_id : ℕ) : Work → Bool
  | .rewire task _ _ added => task.id = task_id ∧ predecessor_task_id ∈ added
  | .move .. => false

def Work.updates (task_id : ℕ) : Work → Bool
  | .rewire .. => false
  | .move loaded _ _ => loaded.id = task_id

def Work.plan_id : Work → ℕ
  | .rewire task _ _ _ => task.plan_id
  | .move loaded _ _ => loaded.plan_id

section Statements

variable {n : ℕ} (calls : Fin n → Call)

/-- Another open transaction has written something of the kind. -/
def held (s : State n) (i : Fin n) (kind : Work → Bool) : Bool :=
  ∃ j, j ≠ i ∧ ((s.phases j).work (calls j).tenant_id).any kind

/-- A request whose check has raised ends. -/
def Phase.after {α : Type} (result : Except Raised α) (next : α → Phase) : Phase :=
  match result with
  | .ok a => next a
  | .error e => .raised e

/-- What the request makes of the database and of itself with its next statement. -/
def advance (s : State n) (i : Fin n) : Db × Phase :=
  let tenant_id := (calls i).tenant_id
  match s.phases i with
  | .received =>
    match calls i with
    | .set_predecessors user task_id _ =>
      (s.db, .after (do
        require_role Role.RELEASE_MANAGER user
        get_task s.db task_id tenant_id) fun row => .task_read row.1)
    | .transition_task _ task_id _ _ =>
      (s.db, .after (get_task s.db task_id tenant_id) fun row => .task_read row.1)
  | .task_read task =>
    let tasks := live_tasks s.db task.plan_id tenant_id
    match calls i with
    | .set_predecessors _ _ predecessor_ids => (s.db, .to_rewire task predecessor_ids tasks)
    | .transition_task user _ data now =>
      (s.db, .after (check_move s.db task tenant_id user data now) fun written =>
        .to_move task (move data.to_status written.1 task)
          ⟨fun id => ⟨id, tenant_id, task.id, task.status, data.to_status, written.1, now, user.id,
            written.2⟩, fun _ => rfl⟩ tasks)
  | .to_rewire task predecessor_ids tasks =>
    (s.db, .after
      (check_predecessors task tasks (live_edges s.db task.plan_id tenant_id) predecessor_ids)
      fun ids => .rewiring task ids)
  | .to_move task changed event tasks =>
    (s.db, .after
      (check_neighbours task changed.status tasks (live_edges s.db task.plan_id tenant_id))
      fun _ => .moving task changed event)
  | .rewiring task ids =>
    (s.db, .deleting task ids ((s.db.dependencies.select fun d =>
      d.tenant_id = tenant_id ∧ d.task_id = task.id).map RunbookTaskDependency.id))
  | .deleting task ids dropped =>
    if held calls s i fun work => work.dropped.any (· ∈ dropped) then
      (s.db, .deleting task ids dropped)
    else (s.db, .inserting task dropped [] ids)
  | .inserting task dropped added [] => (s.db, .written (.rewire task tenant_id dropped added))
  | .inserting task dropped added (p :: ids) =>
    let taken := s.db.dependencies.rows.filter fun d =>
      d.task_id = task.id ∧ d.predecessor_task_id = p ∧ d.id ∉ dropped
    if held calls s i fun work => work.inserts task.id p ∨ ∃ d ∈ taken, d.id ∈ work.dropped then
      (s.db, .inserting task dropped added (p :: ids))
    else (s.db, .after (raise_if (taken ≠ []) .IntegrityError) fun _ =>
      .inserting task dropped (added ++ [p]) ids)
  | .moving loaded changed event =>
    if held calls s i (Work.updates loaded.id) then (s.db, .moving loaded changed event)
    else (s.db, .written (.move loaded changed event))
  | .written work => (s.db, .tasks_shown work (live_tasks (work.apply s.db) work.plan_id tenant_id))
  | .tasks_shown work tasks =>
    let edges := (live_edges (work.apply s.db) work.plan_id tenant_id).filter fun e =>
      e.1 ∈ tasks.map RunbookTask.id ∧ e.2 ∈ tasks.map RunbookTask.id
    (s.db, .after
      ((topological_order (tasks.map RunbookTask.id) edges).mapError fun _ => .ValueError)
      fun _ => .shown work)
  | .shown work => (work.apply s.db, .committed)
  | .committed => (s.db, .committed)
  | .raised e => (s.db, .raised e)
  | .lost => (s.db, .lost)

/-- What a schedule consists of: the next statement of a request, and the loss of one
that has not ended (a deadlock is resolved so, too). -/
inductive Event (n : ℕ)
  | proceed (i : Fin n)
  | abort (i : Fin n)

def step (s : State n) : Event n → State n
  | .proceed i => ⟨(advance calls s i).1, Function.update s.phases i (advance calls s i).2⟩
  | .abort i =>
    match s.phases i with
    | .committed | .raised _ => s
    | _ => { s with phases := Function.update s.phases i .lost }

end Statements

end EnvMgr.Runbook.Concurrent
