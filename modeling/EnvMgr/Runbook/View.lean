/-
What the board shows: `runbook_view_service.read`.

The composite read offers each task the transitions its caller could make, by a
rule written apart from the guard that answers the click. Here the two are shown
to say the same thing. Names of teams, systems and environments, which the read
only renders, are left out.
-/
import EnvMgr.Runbook.Compute
import EnvMgr.Runbook.Execution

namespace EnvMgr.Runbook

variable {tenant_id : ℕ} {user : CurrentUser}

/-! ## The read -/

structure RunbookTaskRead where
  task : RunbookTask
  system_on_release : Bool
  predecessor_ids : List ℕ
  schedule : TaskSchedule
  allowed_transitions : List TaskStatus

structure RunbookRead where
  plan : RunbookPlan
  state : String
  planned_end : DateTime
  forecast_end : DateTime
  slip_minutes : ℤ
  tasks : List RunbookTaskRead

def _input (t : RunbookTask) : TaskInput where
  id := t.id
  duration_minutes := t.duration_minutes
  fixed_start_at := t.fixed_start_at
  status := t.status
  actual_started_at := t.actual_started_at
  actual_finished_at := t.actual_finished_at

/-- The edges between tasks that were read. -/
def shown_edges (db : Db) (plan_id tenant_id : ℕ) : List (ℕ × ℕ) :=
  let by_id := fun i => (live_tasks db plan_id tenant_id).find? fun t => t.id = i
  (live_edges db plan_id tenant_id).filter fun e => (by_id e.1).isSome ∧ (by_id e.2).isSome

/-- What the read offers for one task. -/
def offered (db : Db) (plan_id tenant_id : ℕ) (user : CurrentUser) (t : RunbookTask) :
    List TaskStatus :=
  let tasks := live_tasks db plan_id tenant_id
  let by_id := fun i => tasks.find? fun t => t.id = i
  let edges := shown_edges db plan_id tenant_id
  let my_teams := team_ids_for db user.id tenant_id (tasks.filterMap RunbookTask.team_group_id)
  allowed_transitions t.status
    ((preds edges t.id).filterMap fun p => (by_id p).map RunbookTask.status)
    ((succs edges t.id).filterMap fun s => (by_id s).map RunbookTask.status)
    (is_manager user) (∃ g ∈ t.team_group_id.toList, g ∈ my_teams)

/-- The board, or the ids of a `CycleError`. -/
def read (db : Db) (plan : RunbookPlan) (tenant_id : ℕ) (user : CurrentUser) (now : DateTime) :
    Except (List ℕ) RunbookRead := do
  let tasks := live_tasks db plan.id tenant_id
  let edges := shown_edges db plan.id tenant_id
  let schedule ← compute plan.anchor_start_at (tasks.map _input) edges now
  let out := tasks.filterMap fun t =>
    (schedule.tasks.find? fun row => row.1 = t.id).map fun row =>
      { task := t
        system_on_release := ∀ s ∈ t.system_id, ∃ r ∈ db.directory.release_systems,
          r.release_id = plan.release_id ∧ r.system_id = s ∧ r.tenant_id = tenant_id
        predecessor_ids := order_by id (preds edges t.id)
        schedule := row.2
        allowed_transitions := offered db plan.id tenant_id user t : RunbookTaskRead }
  .ok
    { plan := plan
      state := plan_state (tasks.map RunbookTask.status)
      planned_end := schedule.planned_end
      forecast_end := schedule.forecast_end
      slip_minutes := schedule.slip_minutes
      tasks := order_by
        (fun r => toLex (r.schedule.planned_start, toLex (r.task.sort_order, r.task.id))) out }

/-! ## The two rules -/

/-- What lets a caller move a task from `frm` to `to_status`. -/
structure MayMove (frm to_status : TaskStatus) (pred_statuses succ_statuses : List TaskStatus)
    (manager team_member : Bool) : Prop where
  edge : to_status ∈ EDGES frm
  manager_only : (frm, to_status) ∈ MANAGER_ONLY → manager = true
  by_team : (frm, to_status) ∉ MANAGER_ONLY → manager = true ∨ team_member = true
  predecessors : (frm, to_status) ∈ NEEDS_PREDECESSORS → ∀ s ∈ pred_statuses, s ∈ SATISFIED_STATUSES
  quiet : (frm, to_status) ∈ NEEDS_QUIET_SUCCESSORS → ∀ s ∈ succ_statuses, s = .not_started

/-- **The offer.** -/
theorem mem_allowed_transitions {frm to_status : TaskStatus}
    {pred_statuses succ_statuses : List TaskStatus} {manager team_member : Bool} :
    to_status ∈ allowed_transitions frm pred_statuses succ_statuses manager team_member ↔
      MayMove frm to_status pred_statuses succ_statuses manager team_member := by
  simp only [allowed_transitions, mem_order_by, List.mem_filter, Bool.and_eq_true,
    Bool.not_eq_true', decide_eq_false_iff_not, not_and, not_exists, not_not]
  constructor
  · rintro ⟨hedge, ⟨hrole, hpreds⟩, hsuccs⟩
    refine ⟨hedge, fun hpair => ?_, fun hpair => ?_, hpreds, hsuccs⟩
    · simpa [hpair] using hrole
    · simpa [hpair] using hrole
  · rintro ⟨hedge, hmanager, hteam, hpreds, hsuccs⟩
    refine ⟨hedge, ⟨?_, hpreds⟩, hsuccs⟩
    by_cases hpair : (frm, to_status) ∈ MANAGER_ONLY
    · simpa [hpair] using hmanager hpair
    · simpa [hpair] using hteam hpair

/-- A membership asked for one team or for several is the same membership. -/
theorem mem_team_ids_for {db : Db} {user_id g : ℕ} {group_ids : List ℕ} (hg : g ∈ group_ids) :
    g ∈ team_ids_for db user_id tenant_id group_ids ↔
      g ∈ team_ids_for db user_id tenant_id [g] := by
  simp only [team_ids_for, List.mem_map, List.mem_filter, decide_eq_true_eq, List.mem_singleton]
  constructor
  · rintro ⟨m, ⟨hm, huser, htenant, -⟩, rfl⟩
    exact ⟨m, ⟨hm, huser, htenant, rfl⟩, rfl⟩
  · rintro ⟨m, ⟨hm, huser, htenant, -⟩, rfl⟩
    exact ⟨m, ⟨hm, huser, htenant, hg⟩, rfl⟩

/-- The caller is in the task's team. -/
def in_team (db : Db) (task : RunbookTask) (tenant_id : ℕ) (user : CurrentUser) : Bool :=
  ∃ g ∈ task.team_group_id.toList, g ∈ team_ids_for db user.id tenant_id [g]

/-- **The guard**, given a reason and a time that is not out of order. -/
theorem transition_succeeds_iff {db : Db} {task : RunbookTask} {to_status : TaskStatus}
    {reason : String} {now : DateTime} (hreason : strip reason ≠ "")
    (hnow : ∀ s, task.actual_started_at = some s → s ≤ now) :
    (∃ db', transition db task tenant_id user ⟨to_status, some now, some reason⟩ now = .ok db') ↔
      MayMove task.status to_status ((_neighbours db task tenant_id).1.map RunbookTask.status)
        ((_neighbours db task tenant_id).2.map RunbookTask.status) (is_manager user)
        (in_team db task tenant_id user) := by
  -- the checks of the reason and of the time pass; those left are the offer's
  have hstart : assert_not_before_start task now = .ok () := by
    unfold assert_not_before_start
    split
    · rfl
    · rename_i started hstarted
      have hle := hnow started hstarted
      exact raise_if_eq_ok.2 (fun h => absurd h.2 (not_lt.2 hle))
  simp only [transition, bind_eq_ok, raise_if_eq_ok, Option.getD_some, hreason, if_false,
    hstart, lt_irrefl, not_not]
  constructor
  · rintro ⟨db', _, hedge, _, hmanager, _, hteam, _, -, _, -, _, -, _, hblocking, _, hmoving, -⟩
    refine ⟨hedge, fun hpair => ?_, fun hpair => ?_, fun hpair s hs => ?_, fun hpair s hs => ?_⟩
    · simpa [hpair] using hmanager
    · by_contra hneither
      rw [not_or] at hneither
      refine hteam ⟨hpair, by simpa using hneither.1, ?_⟩
      simpa [in_team] using hneither.2
    · obtain ⟨p, hp, rfl⟩ := List.mem_map.1 hs
      simpa using filter_empty (fun hne => hblocking ⟨hpair, hne⟩) hp
    · obtain ⟨p, hp, rfl⟩ := List.mem_map.1 hs
      simpa using filter_empty (fun hne => hmoving ⟨hpair, hne⟩) hp
  · rintro ⟨hedge, hmanager, hteam, hpreds, hquiet⟩
    refine ⟨_, (), hedge, (), ?_, (), ?_, (), by simp, (), by simp, (), trivial, (), ?_,
      (), ?_, rfl⟩
    · rintro ⟨hpair, hnot⟩
      rw [hmanager hpair] at hnot
      exact absurd hnot (by simp)
    · rintro ⟨hpair, hnot, hout⟩
      rcases hteam hpair with h | h
      · rw [h] at hnot
        exact absurd hnot (by simp)
      · exact hout (by simpa [in_team] using h)
    · rintro ⟨hpair, hne⟩
      refine hne (List.filter_eq_nil_iff.2 (fun p hp => ?_))
      simpa using hpreds hpair p.status (List.mem_map.2 ⟨p, hp, rfl⟩)
    · rintro ⟨hpair, hne⟩
      refine hne (List.filter_eq_nil_iff.2 (fun p hp => ?_))
      simpa using hquiet hpair p.status (List.mem_map.2 ⟨p, hp, rfl⟩)

/-! ## The board -/

theorem offered_eq {db : Db} {plan_id : ℕ} {t : RunbookTask}
    (ht : t ∈ live_tasks db plan_id tenant_id) :
    offered db plan_id tenant_id user t =
      allowed_transitions t.status ((_neighbours db t tenant_id).1.map RunbookTask.status)
        ((_neighbours db t tenant_id).2.map RunbookTask.status) (is_manager user)
        (in_team db t tenant_id user) := by
  have hplan : t.plan_id = plan_id := by
    rw [live_tasks, mem_order_by, Table.mem_select] at ht
    exact (of_decide_eq_true ht.2).1
  have hteam : (∃ g ∈ t.team_group_id.toList, g ∈ team_ids_for db user.id tenant_id
      ((live_tasks db plan_id tenant_id).filterMap RunbookTask.team_group_id)) ↔
      in_team db t tenant_id user = true := by
    rw [in_team, decide_eq_true_eq]
    refine exists_congr fun g => and_congr_right fun hg => mem_team_ids_for ?_
    exact List.mem_filterMap.2 ⟨t, ht, by simpa using hg⟩
  rw [offered, _neighbours, hplan]
  simp only [hteam, Bool.decide_eq_true, preds, succs, shown_edges, List.filterMap_map,
    List.map_filterMap, Function.comp_def]

/-- A row of the board is a live task of the plan with its offer. -/
theorem mem_read {db : Db} {plan : RunbookPlan} {now : DateTime} {board : RunbookRead}
    (hok : read db plan tenant_id user now = .ok board) {row : RunbookTaskRead}
    (hrow : row ∈ board.tasks) :
    row.task ∈ live_tasks db plan.id tenant_id ∧
      row.allowed_transitions = offered db plan.id tenant_id user row.task := by
  simp only [read, bind_eq_ok] at hok
  obtain ⟨schedule, -, hok⟩ := hok
  cases hok
  rw [mem_order_by, List.mem_filterMap] at hrow
  obtain ⟨t, ht, hrow⟩ := hrow
  obtain ⟨entry, -, rfl⟩ := Option.map_eq_some_iff.1 hrow
  exact ⟨ht, rfl⟩

/-- **The buttons are the guard.** For any task of any database, any caller and
any reason that is not blank, the targets offered from the statuses of its live
neighbours are those to which a transition reported for now succeeds; and the
row the board shows of a task offers the same. -/
theorem board_offers_what_succeeds (db : Db) (tenant_id : ℕ) (user : CurrentUser)
    (now : DateTime) (reason : String) (hreason : strip reason ≠ "") :
    (∀ task : RunbookTask, (∀ s, task.actual_started_at = some s → s ≤ now) → ∀ to_status,
      to_status ∈ allowed_transitions task.status
          ((_neighbours db task tenant_id).1.map RunbookTask.status)
          ((_neighbours db task tenant_id).2.map RunbookTask.status) (is_manager user)
          (in_team db task tenant_id user) ↔
        ∃ db', transition db task tenant_id user ⟨to_status, some now, some reason⟩ now
          = .ok db') ∧
      ∀ plan board, read db plan tenant_id user now = .ok board → ∀ row ∈ board.tasks,
        (∀ s, row.task.actual_started_at = some s → s ≤ now) → ∀ to_status,
          to_status ∈ row.allowed_transitions ↔
            ∃ db', transition db row.task tenant_id user ⟨to_status, some now, some reason⟩ now
              = .ok db' := by
  have hrule : ∀ task : RunbookTask, (∀ s, task.actual_started_at = some s → s ≤ now) →
      ∀ to_status, to_status ∈ allowed_transitions task.status
          ((_neighbours db task tenant_id).1.map RunbookTask.status)
          ((_neighbours db task tenant_id).2.map RunbookTask.status) (is_manager user)
          (in_team db task tenant_id user) ↔
        ∃ db', transition db task tenant_id user ⟨to_status, some now, some reason⟩ now
          = .ok db' := by
    intro task hnow to_status
    rw [mem_allowed_transitions, transition_succeeds_iff hreason hnow]
  refine ⟨hrule, fun plan board hok row hrow hnow to_status => ?_⟩
  obtain ⟨hlive, hoffered⟩ := mem_read hok hrow
  rw [hoffered, offered_eq hlive]
  exact hrule row.task hnow to_status

namespace Sample

def manager : CurrentUser := ⟨1, 1, Role.RELEASE_MANAGER, false⟩

def task (id : ℕ) (name : String) (status : TaskStatus) (started finished : Option DateTime) :
    RunbookTask :=
  ⟨id, 1, 1, name, none, none, none, .task, ⟨30, by decide⟩, none, status, started, finished, 0,
    none⟩

def back_up : RunbookTask := task 1 "back up" .done (some 10) (some 20)

def switch : RunbookTask := task 3 "switch traffic" .in_progress (some 30) none

def smoke_test : RunbookTask := task 4 "smoke test" .not_started none none

/-- The traffic is switched after the backup and a notice that was skipped, and before the smoke
test and a check that has failed. -/
def db : Db :=
  { Db.fresh ⟨[], [], [], [], []⟩ with
    tasks := ⟨[back_up, task 2 "notify" .skipped none none, switch, smoke_test,
      task 5 "check" .failed (some 40) (some 50)], 6, by decide, by decide⟩
    dependencies := ⟨[⟨1, 1, 3, 1⟩, ⟨2, 1, 3, 2⟩, ⟨3, 1, 4, 3⟩, ⟨4, 1, 5, 3⟩], 5, by decide,
      by decide⟩ }

end Sample

open Sample in
/-- The switch can be reported as done; the smoke test waits for it, and the backup stays done
while it runs. -/
theorem board_offers_what_succeeds_sample :
    (∃ db', transition db switch 1 manager ⟨.done, some 60, some "over"⟩ 60 = .ok db') ∧
      (¬ ∃ db', transition db smoke_test 1 manager ⟨.in_progress, some 60, some "over"⟩ 60 =
        .ok db') ∧
      ¬ ∃ db', transition db back_up 1 manager ⟨.not_started, some 60, some "over"⟩ 60 =
        .ok db' := by
  have hrule := (board_offers_what_succeeds db 1 manager 60 "over" (by decide)).1
  refine ⟨(hrule switch (by decide) .done).1 (by decide), fun h => ?_, fun h => ?_⟩
  · exact absurd ((hrule smoke_test (by decide) .in_progress).2 h) (by decide)
  · exact absurd ((hrule back_up (by decide) .not_started).2 h) (by decide)

end EnvMgr.Runbook
