/-
`compute` of `runbook_schedule_service.py`: the schedule of a plan, on read.

Three passes over the tasks in topological order. The planned pass is the
baseline and ignores status; the forecast pass is the plan as it now stands; the
backward pass over the forecast gives each task its latest finish, and a task is
critical when it has none to spare. A dictionary filled by a pass is a function
here: topological order means that no pass reads an entry it has not written.
-/
import EnvMgr.Runbook.Model
import EnvMgr.Runbook.Schedule

namespace EnvMgr.Runbook

structure TaskInput where
  id : ℕ
  duration_minutes : ℕ
  fixed_start_at : Option DateTime
  status : TaskStatus
  actual_started_at : Option DateTime
  actual_finished_at : Option DateTime
  deriving DecidableEq

structure TaskSchedule where
  planned_start : DateTime
  planned_finish : DateTime
  forecast_start : DateTime
  forecast_finish : DateTime
  late_start : Bool
  overrunning : Bool
  slipped_past_fixed_start : Bool
  blocked : Bool
  critical : Bool
  deriving DecidableEq

/-- `tasks` is the dictionary, by task id. -/
structure PlanSchedule where
  tasks : List (ℕ × TaskSchedule)
  planned_end : DateTime
  forecast_end : DateTime
  slip_minutes : ℤ
  state : String
  deriving DecidableEq

/-! ## Values -/

/-- Truncated to the minute. -/
def _utc (dt : DateTime) : DateTime := dt - dt % timedelta.minutes 1

/-- `max(xs, default=default)`. -/
def max_of (default : DateTime) (xs : List DateTime) : DateTime := xs.max?.getD default

/-- `min(xs, default=default)`. -/
def min_of (default : DateTime) (xs : List DateTime) : DateTime := xs.min?.getD default

def dur (t : TaskInput) : TimeDelta := timedelta.minutes t.duration_minutes

/-- `{t.id: t for t in tasks}`: of two tasks with one id the later stays. -/
def by_id (tasks : List TaskInput) (i : ℕ) : Option TaskInput :=
  tasks.reverse.find? fun t => t.id = i

/-- The edges both of whose ends are tasks. -/
def known_edges (tasks : List TaskInput) (edges : List (ℕ × ℕ)) : List (ℕ × ℕ) :=
  edges.filter fun e => (by_id tasks e.1).isSome ∧ (by_id tasks e.2).isSome

def preds (edges : List (ℕ × ℕ)) (i : ℕ) : List ℕ :=
  (edges.filter fun e => e.1 = i).map Prod.snd

def succs (edges : List (ℕ × ℕ)) (i : ℕ) : List ℕ :=
  (edges.filter fun e => e.2 = i).map Prod.fst

/-! ## The state of a plan -/

/-- First match wins. -/
def plan_state (statuses : List TaskStatus) : String :=
  if statuses ≠ [] ∧ ∀ s ∈ statuses, s ∈ SATISFIED_STATUSES then "complete"
  else if .failed ∈ statuses then "failed"
  else if ∃ s ∈ statuses, s ≠ .not_started then "in_progress"
  else "not_started"

/-! ## The passes -/

section Passes

variable (tasks : List TaskInput) (edges : List (ℕ × ℕ)) (anchor now : DateTime)

structure Planned where
  p_start : ℕ → DateTime
  p_finish : ℕ → DateTime

/-- No earlier than the fixed start, if there is one. -/
def not_before (fixed : Option DateTime) (start : DateTime) : DateTime :=
  match fixed with
  | none => start
  | some fixed => max start (_utc fixed)

def planned_step (s : Planned) (i : ℕ) : Planned :=
  match by_id tasks i with
  | none => s
  | some t =>
    let start := not_before t.fixed_start_at (max_of anchor ((preds edges i).map s.p_finish))
    { p_start := Function.update s.p_start i start
      p_finish := Function.update s.p_finish i (start + dur t) }

def planned_pass (order : List ℕ) : Planned :=
  order.foldl (planned_step tasks edges anchor) ⟨fun _ => anchor, fun _ => anchor⟩

structure Forecast where
  f_start : ℕ → DateTime
  f_finish : ℕ → DateTime
  pred_driven : ℕ → DateTime
  blocked : ℕ → Bool

/-- Forecast start and finish of one task, whose predecessors are through at
`driven`. -/
def forecast_times (now : DateTime) (t : TaskInput) (driven : DateTime) : DateTime × DateTime :=
  let started := t.actual_started_at.map _utc
  let finished := t.actual_finished_at.map _utc
  match t.status with
  | .done =>
    let f_start := (started.or finished).getD driven
    (f_start, finished.getD f_start)
  | .in_progress | .failed =>
    let f_start := started.getD now
    (f_start, max (f_start + dur t) now)
  | .skipped => (driven, driven)
  | .not_started =>
    let f_start := max (not_before t.fixed_start_at driven) now
    (f_start, f_start + dur t)

def forecast_step (s : Forecast) (i : ℕ) : Forecast :=
  match by_id tasks i with
  | none => s
  | some t =>
    let driven := max_of anchor ((preds edges i).map s.f_finish)
    let times := forecast_times now t driven
    { f_start := Function.update s.f_start i times.1
      f_finish := Function.update s.f_finish i times.2
      pred_driven := Function.update s.pred_driven i driven
      blocked := Function.update s.blocked i ((preds edges i).any fun p =>
        ((by_id tasks p).map TaskInput.status == some .failed) || s.blocked p) }

def forecast_pass (order : List ℕ) : Forecast :=
  order.foldl (forecast_step tasks edges anchor now)
    ⟨fun _ => anchor, fun _ => anchor, fun _ => anchor, fun _ => false⟩

/-- A task's latest finish is the earliest latest start of its successors, or
the plan's end. -/
def backward_step (f : Forecast) (forecast_end : DateTime) (latest_finish : ℕ → DateTime)
    (i : ℕ) : ℕ → DateTime :=
  Function.update latest_finish i (min_of forecast_end
    ((succs edges i).map fun s => latest_finish s - (f.f_finish s - f.f_start s)))

def backward_pass (f : Forecast) (forecast_end : DateTime) (order : List ℕ) : ℕ → DateTime :=
  order.reverse.foldl (backward_step edges f forecast_end) (fun _ => forecast_end)

end Passes

/-! ## The schedule -/

/-- The row of one task. -/
def task_schedule (now : DateTime) (p : Planned) (f : Forecast) (latest_finish : ℕ → DateTime)
    (i : ℕ) (t : TaskInput) : TaskSchedule where
  planned_start := p.p_start i
  planned_finish := p.p_finish i
  forecast_start := f.f_start i
  forecast_finish := f.f_finish i
  late_start := p.p_start i < f.f_start i
  overrunning := t.status = .in_progress ∧
    ∃ started ∈ t.actual_started_at.map _utc, started + dur t < now
  slipped_past_fixed_start := ∃ fixed ∈ t.fixed_start_at.map _utc, fixed < f.pred_driven i
  blocked := f.blocked i
  critical := t.status ∉ SATISFIED_STATUSES ∧ latest_finish i = f.f_finish i

/-- The schedule, or the ids of a `CycleError`. -/
def compute (anchor : DateTime) (tasks : List TaskInput) (edges : List (ℕ × ℕ))
    (now : DateTime) : Except (List ℕ) PlanSchedule := do
  let anchor := _utc anchor
  let now := _utc now
  let edges := known_edges tasks edges
  let order ← topological_order (tasks.map TaskInput.id) edges
  let p := planned_pass tasks edges anchor order
  let f := forecast_pass tasks edges anchor now order
  let planned_end := max_of anchor (order.map p.p_finish)
  let forecast_end := max_of anchor (order.map f.f_finish)
  let latest_finish := backward_pass edges f forecast_end order
  let slip := (forecast_end - planned_end) / timedelta.minutes 1
  .ok
    { tasks := order.filterMap fun i =>
        (by_id tasks i).map fun t => (i, task_schedule now p f latest_finish i t)
      planned_end := planned_end
      forecast_end := forecast_end
      slip_minutes := max slip 0
      state := plan_state (tasks.map TaskInput.status) }

end EnvMgr.Runbook
