/-
Bypasses.

What the critical path gets wrong, and when. A task that is not through, a chain of
skipped tasks after it, and something after those that has started: then some times
of the plan make the task finish last and not be shown as critical. The times that
go with the statuses are stamped by the transitions, in every run.
-/
import EnvMgr.Runbook.CriticalPath

namespace EnvMgr.Runbook

open Relation

section Bypassed

variable {tasks : List TaskInput} {edges : List (ℕ × ℕ)}

/-! ## A bypass -/

/-- The task at a time when everything ends now and what has started started a
minute ago. -/
def retime (t : TaskInput) : TaskInput :=
  { t with
    duration_minutes := 0
    fixed_start_at := none
    actual_started_at := if t.status ∈ STARTED then some (-timedelta.minutes 1) else none
    actual_finished_at :=
      if t.status ∈ [.done, .failed, .skipped] then some 0 else none }

theorem stamped_retime (t : TaskInput) : Stamped (retime t) := by
  constructor
  · intro h
    have h : t.status ∈ STARTED := h
    simp [retime, h]
  · intro h
    have h : t.status = .done := h
    simp [retime, h]

theorem forecast_times_retime (t : TaskInput) :
    forecast_times 0 (retime t) 0 =
      (if t.status ∈ STARTED then -timedelta.minutes 1 else 0, 0) := by
  have hnow : _utc 0 = 0 := by decide
  have hbefore : _utc (-timedelta.minutes 1) = -timedelta.minutes 1 := by decide
  have hmax : max (-timedelta.minutes 1) 0 = 0 := by decide
  have hdur : dur (retime t) = 0 := by simp [dur, retime, timedelta.minutes]
  simp only [forecast_times, hdur]
  cases hstatus : t.status <;>
    simp [retime, hstatus, STARTED, hnow, hbefore, hmax, not_before]

theorem retime_ids (tasks : List TaskInput) :
    (tasks.map retime).map TaskInput.id = tasks.map TaskInput.id := by
  rw [List.map_map]
  rfl

theorem known_edges_retime (tasks : List TaskInput) (edges : List (ℕ × ℕ)) :
    known_edges (tasks.map retime) edges = known_edges tasks edges := by
  refine List.filter_congr fun e _ => ?_
  simp only [by_id_isSome, retime_ids]

section Retimed

variable {order : List ℕ} {edges : List (ℕ × ℕ)}

/-- What finishes at once drives what waits for it at once. -/
theorem max_of_zero {finish : ℕ → DateTime} (xs : List ℕ) (hxs : ∀ p ∈ xs, finish p = 0) :
    max_of 0 (xs.map finish) = 0 := by
  by_cases hnone : xs = []
  · rw [hnone, List.map_nil, max_of_nil]
  · obtain ⟨⟨p, hp, heq⟩, -⟩ := max_of_map 0 hnone finish
    rw [heq, hxs p hp]

theorem Ordered.retimed_task (h : Ordered (tasks.map retime) edges order) {x : ℕ} (hx : x ∈ order) :
    ∃ t ∈ tasks, t.id = x ∧ by_id (tasks.map retime) x = some (retime t) := by
  obtain ⟨t', ht'⟩ := h.task hx
  obtain ⟨hmem, hid⟩ := (by_id_some h.ids).1 ht'
  obtain ⟨t, ht, rfl⟩ := List.mem_map.1 hmem
  exact ⟨t, ht, hid, ht'⟩

/-- At that time all finish at once. The induction is along the edges. -/
theorem Ordered.retimed_finish (h : Ordered (tasks.map retime) edges order) (x : ℕ) :
    (forecast_pass (tasks.map retime) edges 0 0 order).f_finish x = 0 := by
  induction x using h.wellFounded.induction with
  | h x ih =>
    by_cases hx : x ∈ order
    · obtain ⟨t, -, -, ht⟩ := h.retimed_task hx
      have heq := (@Ordered.forecast_eq _ _ 0 0 order h x hx _ ht).2
      rw [max_of_zero _ fun p hp => ih p (mem_preds.1 hp), forecast_times_retime] at heq
      exact heq
    · exact (@Ordered.outside _ _ 0 0 order h 0 x hx).2.1

theorem Ordered.retimed_start (h : Ordered (tasks.map retime) edges order) {t : TaskInput}
    (ht : t ∈ tasks) :
    (forecast_pass (tasks.map retime) edges 0 0 order).f_start t.id =
      if t.status ∈ STARTED then -timedelta.minutes 1 else 0 := by
  have hmem : retime t ∈ tasks.map retime := List.mem_map_of_mem ht
  have hx : (retime t).id ∈ order := (h.mem_iff (retime t).id).2 (List.mem_map_of_mem hmem)
  have hsome : by_id (tasks.map retime) (retime t).id = some (retime t) :=
    (by_id_some h.ids).2 ⟨hmem, rfl⟩
  have heq := (@Ordered.forecast_eq _ _ 0 0 order h (retime t).id hx _ hsome).1
  rw [max_of_zero _ fun p _ => h.retimed_finish p, forecast_times_retime] at heq
  exact heq

/-- A latest finish is never later than the end. The induction is against the edges. -/
theorem Ordered.retimed_latest (h : Ordered (tasks.map retime) edges order) (x : ℕ)
    (hx : x ∈ order) :
    backward_pass edges (forecast_pass (tasks.map retime) edges 0 0 order) 0 order x ≤ 0 := by
  induction x using h.wellFounded_swap.induction with
  | h x ih =>
    have hlatest := h.latest (forecast_pass (tasks.map retime) edges 0 0 order) 0 hx
    by_cases hsome : ∃ s, Edge edges x s
    · obtain ⟨s, hs⟩ := hsome
      obtain ⟨t, ht, rfl, -⟩ := h.retimed_task (h.known x s hs).2
      have hle := hlatest.le t.id hs
      have hnext := ih t.id hs (h.known x t.id hs).2
      have hearly : (forecast_pass (tasks.map retime) edges 0 0 order).f_start t.id ≤ 0 := by
        rw [h.retimed_start ht]
        split
        · decide
        · exact le_rfl
      rw [h.retimed_finish t.id, zero_sub, sub_neg_eq_add] at hle
      exact hle.trans (add_nonpos hnext hearly)
    · rw [hlatest.of_none fun s hs => hsome ⟨s, hs⟩]

end Retimed

/-- At that time a bypass hands a start of a minute ago back to where it began. -/
theorem Ordered.bypassed {order : List ℕ} {edges : List (ℕ × ℕ)}
    (h : Ordered (tasks.map retime) edges order) (hbypass : ¬ NoBypass tasks edges) :
    ∃ u ∈ tasks, u.status ∉ SATISFIED_STATUSES ∧
      backward_pass edges (forecast_pass (tasks.map retime) edges 0 0 order) 0 order u.id < 0 := by
  simp only [NoBypass, not_forall, not_not] at hbypass
  obtain ⟨u, hu, hopen, x, hpath, w, hw, hedge, hstarted⟩ := hbypass
  refine ⟨u, hu, hopen, ?_⟩
  -- along the skipped tasks the latest finish is handed back unchanged
  have hback : backward_pass edges (forecast_pass (tasks.map retime) edges 0 0 order) 0 order u.id ≤
      backward_pass edges (forecast_pass (tasks.map retime) edges 0 0 order) 0 order x := by
    clear hedge
    induction hpath with
    | refl => exact le_rfl
    | tail _ hstep ih =>
      obtain ⟨hps, t, ht, rfl, hskipped⟩ := hstep
      have hle := (h.latest (forecast_pass (tasks.map retime) edges 0 0 order) 0
        (h.known _ t.id hps).1).le t.id hps
      rw [h.retimed_finish t.id, h.retimed_start ht, hskipped, if_neg (by decide), sub_zero,
        sub_zero] at hle
      exact ih.trans hle
  have hle := (h.latest (forecast_pass (tasks.map retime) edges 0 0 order) 0
    (h.known x w.id hedge).1).le w.id hedge
  rw [h.retimed_finish w.id, h.retimed_start hw, if_pos hstarted] at hle
  have hlate := h.retimed_latest w.id (h.known x w.id hedge).2
  have hminute : 0 - -timedelta.minutes 1 > 0 := by decide
  exact hback.trans_lt (hle.trans_lt (sub_neg.2 (hlate.trans_lt hminute)))

/-- **A bypass hides the end of the plan**: at that time the task before the bypass
ends last and is not shown as critical. -/
theorem bypass_breaks_law (hids : (tasks.map TaskInput.id).Nodup)
    (hacyclic : Acyclic (Edge edges)) (hbypass : ¬ NoBypass tasks edges) :
    ¬ CriticalPathLaw 0 (tasks.map retime) edges 0 := by
  have hwaits : Acyclic (Waits ((tasks.map retime).map TaskInput.id)
      (known_edges (tasks.map retime) edges)) :=
    hacyclic.mono fun p s hps => (mem_known_edges.1 hps.1).1
  obtain ⟨order, horder, -⟩ := topological_order_ok hwaits
  have hordered : Ordered (tasks.map retime) (known_edges (tasks.map retime) edges) order :=
    ordered_of_ok (by rwa [retime_ids]) horder
  have hknown : ¬ NoBypass tasks (known_edges (tasks.map retime) edges) := by
    rw [known_edges_retime]
    exact fun h => hbypass h.of_known
  obtain ⟨u, hu, hopen, hearly⟩ := hordered.bypassed hknown
  have hfinish := hordered.retimed_finish
  have hlast := max_of_zero order fun p _ => hfinish p
  have hzero : _utc 0 = 0 := by decide
  have hmem : retime u ∈ tasks.map retime := List.mem_map_of_mem hu
  have hin : u.id ∈ order := (hordered.mem_iff (retime u).id).2 (List.mem_map_of_mem hmem)
  have hby : by_id (tasks.map retime) u.id = some (retime u) :=
    (by_id_some hordered.ids).2 ⟨hmem, rfl⟩
  intro hlaw
  simp only [CriticalPathLaw, compute, horder, hzero, bind, Except.bind, hlast] at hlaw
  -- its finish is the end of the plan, so the law would have it critical
  have hrow := (hlaw (retime u) hmem hopen _
    (List.mem_filterMap.2 ⟨u.id, hin, by rw [hby]; rfl⟩) rfl).2 (hfinish u.id)
  have hmet := (of_decide_eq_true hrow).2
  rw [hfinish] at hmet
  exact absurd hmet hearly.ne

end Bypassed

/-! ## Recorded times -/

/-- Every task has the times that go with its status. -/
def Recorded (db : Db) : Prop := ∀ t ∈ db.tasks, Stamped (_input t)

theorem Recorded.update {db db' : Db} (h : Recorded db) {c : RunbookTask → Bool}
    {f : Table.Edit RunbookTask.id} (htasks : db'.tasks = db.tasks.update c f)
    (hf : ∀ t ∈ db.tasks, c t = true → Stamped (_input t) → Stamped (_input (f.apply t))) :
    Recorded db' := by
  intro t' ht'
  rw [htasks] at ht'
  rcases Table.mem_update_cases ht' with ⟨t, ht, hc, rfl⟩ | ⟨ht, -⟩
  · exact hf t ht hc (h t ht)
  · exact h t' ht

/-- The arcs into a status that has times either stamp them or keep them. -/
theorem stamped_move {t : RunbookTask} (h : Stamped (_input t)) {to_status : TaskStatus}
    (hedge : to_status ∈ EDGES t.status) (at_ : DateTime) :
    Stamped (_input (move to_status at_ t)) := by
  have hstarted : t.status ∈ STARTED → t.actual_started_at.isSome := h.started
  constructor
  · intro hto
    have hto : to_status ∈ STARTED := hto
    cases hfrm : t.status <;> rw [hfrm] at hedge hstarted <;>
      cases to_status <;> revert hedge hto hstarted <;> simp [EDGES, STARTED, _input, move, hfrm]
  · intro hto
    have hto : to_status = .done := hto
    subst hto
    cases hfrm : t.status <;> simp [_input, move, hfrm]

theorem Recorded.create_task {db db' : Db} (h : Recorded db) {plan : RunbookPlan} {tenant_id : ℕ}
    {data : RunbookTaskCreate} (hok : create_task db plan tenant_id data = .ok db') :
    Recorded db' := by
  simp only [Runbook.create_task, bind_eq_ok] at hok
  obtain ⟨_, -, _, -, hok⟩ := hok
  have hinsert : Recorded { db with
      tasks := db.tasks.insert ⟨data.row tenant_id plan.id, fun _ => rfl⟩ } := by
    intro t ht
    rcases Table.mem_insert.1 ht with ht | rfl
    · exact h t ht
    · exact ⟨fun hs => absurd hs (by simp [RunbookTaskCreate.row, _input, STARTED]),
        fun hs => absurd hs (by simp [RunbookTaskCreate.row, _input])⟩
  split_ifs at hok
  · cases hok
    exact hinsert
  · intro t ht
    rw [(set_predecessors_ok hok).frame] at ht
    exact hinsert t ht

/-- Only a transition writes a status or its times. -/
theorem Recorded.handle {db db' : Db} (h : Recorded db) {request : Request}
    (hok : handle db request = .ok db') : Recorded db' := by
  cases request with
  | create_runbook user release_id data =>
    simp only [Runbook.handle, create_plan, bind_eq_ok] at hok
    obtain ⟨_, -, _, -, _, -, _, -, hok⟩ := hok
    split at hok <;> cases hok <;> exact h
  | update_runbook user plan_id data =>
    simp only [Runbook.handle, update_plan, bind_eq_ok] at hok
    obtain ⟨_, -, plan, -, _, -, _, -, hok⟩ := hok
    cases hok
    exact h
  | delete_runbook user plan_id now =>
    simp only [Runbook.handle, delete_plan, bind_eq_ok] at hok
    obtain ⟨_, -, plan, -, _, -, hok⟩ := hok
    cases hok
    exact h.update rfl fun t _ _ hstamped => hstamped
  | create_task user plan_id data =>
    simp only [Runbook.handle, bind_eq_ok] at hok
    obtain ⟨_, -, plan, -, hok⟩ := hok
    exact h.create_task hok
  | update_task user task_id data =>
    simp only [Runbook.handle, Runbook.update_task, bind_eq_ok] at hok
    obtain ⟨_, -, row, -, _, -, _, -, _, -, hok⟩ := hok
    cases hok
    exact h.update rfl fun t _ _ hstamped => ⟨hstamped.started, hstamped.finished⟩
  | delete_task user task_id now =>
    simp only [Runbook.handle, Runbook.delete_task, bind_eq_ok] at hok
    obtain ⟨_, -, row, -, _, -, hok⟩ := hok
    cases hok
    exact h.update rfl fun t _ _ hstamped => hstamped
  | set_predecessors user task_id predecessor_ids =>
    simp only [Runbook.handle, bind_eq_ok] at hok
    obtain ⟨_, -, row, -, hok⟩ := hok
    intro t ht
    rw [(set_predecessors_ok hok).frame] at ht
    exact h t ht
  | transition_task user task_id data now =>
    simp only [Runbook.handle, bind_eq_ok] at hok
    obtain ⟨row, hrow, hok⟩ := hok
    obtain ⟨hedge, -, -, at_, events, rfl⟩ := transition_ok hok
    refine h.update rfl fun t ht hid hstamped => stamped_move hstamped ?_ at_
    rwa [Table.eq_of_key_eq ht (get_task_ok hrow).mem (of_decide_eq_true hid)]
  | directory rows =>
    cases hok
    exact h

theorem recorded_run (directory : Directory) (requests : List Request) :
    Recorded (Runs.run step (Db.fresh directory) requests) := by
  have hstep : ∀ db request, Recorded db → Recorded (step db request) := by
    intro db request h
    exact commit_or_rollback_keeps h fun _ hok => h.handle hok
  exact Runs.run_inv hstep (fun t ht => absurd ht (Table.not_mem_empty t)) requests

/-! ## Stored plans -/

/-- The same tasks in the same statuses, at other times. -/
structure Retimed (tasks tasks' : List TaskInput) : Prop where
  same : tasks'.map (fun t => (t.id, t.status)) = tasks.map (fun t => (t.id, t.status))
  stamped : ∀ t ∈ tasks', Stamped t

section Retiming

variable {tasks tasks' : List TaskInput} {edges : List (ℕ × ℕ)}

theorem Retimed.ids (h : Retimed tasks tasks') :
    tasks'.map TaskInput.id = tasks.map TaskInput.id := by
  have hfst := congrArg (List.map Prod.fst) h.same
  rwa [List.map_map, List.map_map] at hfst

/-- Each task of one list has its counterpart in the other. -/
theorem Retimed.counterpart (h : Retimed tasks tasks') {t : TaskInput} (ht : t ∈ tasks') :
    ∃ t₀ ∈ tasks, t₀.id = t.id ∧ t₀.status = t.status := by
  have hmem := List.mem_map_of_mem (f := fun t : TaskInput => (t.id, t.status)) ht
  rw [h.same] at hmem
  obtain ⟨t₀, ht₀, heq⟩ := List.mem_map.1 hmem
  obtain ⟨hid, hstatus⟩ := Prod.mk.inj heq
  exact ⟨t₀, ht₀, hid, hstatus⟩

theorem Retimed.noBypass (h : Retimed tasks tasks') (hb : NoBypass tasks edges) :
    NoBypass tasks' edges := by
  intro u hu hopen x hx w hw hedge
  obtain ⟨u₀, hu₀, hid, hstatus⟩ := h.counterpart hu
  obtain ⟨w₀, hw₀, hwid, hwstatus⟩ := h.counterpart hw
  have hpath : ReflTransGen (SkippedAfter tasks edges) u₀.id x := by
    rw [hid]
    refine ReflTransGen.mono ?_ _ _ hx
    rintro p s ⟨hps, t, ht, rfl, hskipped⟩
    obtain ⟨t₀, ht₀, htid, htstatus⟩ := h.counterpart ht
    exact ⟨hps, t₀, ht₀, htid, htstatus.trans hskipped⟩
  rw [← hwstatus]
  refine hb u₀ hu₀ ?_ x hpath w₀ hw₀ ?_
  · rwa [hstatus]
  · rwa [hwid]

theorem retimed_retime (tasks : List TaskInput) : Retimed tasks (tasks.map retime) where
  same := by
    rw [List.map_map]
    rfl
  stamped := by
    intro t ht
    obtain ⟨t₀, -, rfl⟩ := List.mem_map.1 ht
    exact stamped_retime t₀

/-- The law holds at all times of a plan, or the plan has a bypass. -/
theorem law_iff_noBypass (hids : (tasks.map TaskInput.id).Nodup) (hacyclic : Acyclic (Edge edges)) :
    (∀ anchor now tasks', Retimed tasks tasks' → CriticalPathLaw anchor tasks' edges now) ↔
      NoBypass tasks edges := by
  constructor
  · intro hlaw
    by_contra hbypass
    exact bypass_breaks_law hids hacyclic hbypass (hlaw 0 0 _ (retimed_retime tasks))
  · intro hb anchor now tasks' h
    refine law_of_noBypass ?_ h.stamped (h.noBypass hb) anchor now
    rwa [h.ids]

end Retiming

/-- The tasks of a plan, as `read` hands them to `compute`. -/
def plan_inputs (db : Db) (plan : RunbookPlan) : List TaskInput :=
  (live_tasks db plan.id plan.tenant_id).map _input

theorem live_ids_nodup (db : Db) (plan_id tenant_id : ℕ) :
    ((live_tasks db plan_id tenant_id).map RunbookTask.id).Nodup := by
  refine List.Nodup.map_on ?_ (nodup_order_by.2 (db.tasks.rows_nodup.filter _))
  intro t ht t' ht' hid
  exact Table.eq_of_key_eq (mem_live_tasks.1 ht).1 (mem_live_tasks.1 ht').1 hid

/-- **When `critical` can be relied on.** Whatever requests are made, the tasks of
every plan have the times that go with their statuses; and `critical` says of every
task that is neither done nor skipped whether a delay of it moves the end, for every
anchor, every now and all times those statuses can have, if and only if the plan
has no bypass. -/
theorem critical_iff_no_bypass (directory : Directory) (requests : List Request) :
    let db := Runs.run step (Db.fresh directory) requests
    ∀ plan ∈ db.plans,
      Retimed (plan_inputs db plan) (plan_inputs db plan) ∧
      ((∀ anchor now tasks', Retimed (plan_inputs db plan) tasks' →
          CriticalPathLaw anchor tasks' (shown_edges db plan.id plan.tenant_id) now) ↔
        NoBypass (plan_inputs db plan) (shown_edges db plan.id plan.tenant_id)) := by
  intro db plan _
  obtain ⟨hs, hwoven⟩ := woven_run directory requests
  have hrecorded := recorded_run directory requests
  refine ⟨⟨rfl, ?_⟩, law_iff_noBypass ?_ ?_⟩
  · intro t ht
    obtain ⟨row, hrow, rfl⟩ := List.mem_map.1 ht
    exact hrecorded row (mem_live_tasks.1 hrow).1
  · rw [plan_inputs, List.map_map]
    exact live_ids_nodup db plan.id plan.tenant_id
  · exact (hwoven.live_edges_acyclic hs plan.id plan.tenant_id).mono
      fun _ _ hps => (List.mem_filter.1 hps).1

namespace Bypass

def directory : Directory :=
  ⟨[⟨1, 1, none⟩], [], [⟨1, 1, "production", .active, none, none, none⟩], [], []⟩

def manager : CurrentUser := ⟨1, 1, Role.RELEASE_MANAGER, false⟩

def task (name : String) (minutes : DurationMinutes) (predecessor_ids : List ℕ) :
    RunbookTaskCreate :=
  ⟨name, none, none, none, .task, minutes, none, 0, predecessor_ids⟩

def minute (n : ℤ) : DateTime := timedelta.minutes n

/-- A migration of 100 minutes is at work; the rehearsal after it was skipped, and
the announcement after that started half an hour in. -/
def requests : List Request :=
  [.create_runbook manager 1 ⟨1, "cutover", 0, none, none⟩,
    .create_task manager 1 (task "migrate" ⟨100, by decide⟩ []),
    .create_task manager 1 (task "rehearse" ⟨10, by decide⟩ [1]),
    .create_task manager 1 (task "announce" ⟨10, by decide⟩ [2]),
    .transition_task manager 1 ⟨.in_progress, some 0, none⟩ 0,
    .transition_task manager 2 ⟨.skipped, some (minute 20), some "no time"⟩ (minute 20),
    .transition_task manager 3 ⟨.in_progress, some (minute 30), none⟩ (minute 30)]

def db : Db := Runs.run step (Db.fresh directory) requests

end Bypass

/-- Fifty minutes in the migration ends last, and is not shown as critical. -/
theorem end_of_plan_not_critical :
    ∃ plan ∈ Bypass.db.plans.rows,
      ¬ CriticalPathLaw plan.anchor_start_at (plan_inputs Bypass.db plan)
        (shown_edges Bypass.db plan.id plan.tenant_id) (Bypass.minute 50) := by
  decide +kernel

end EnvMgr.Runbook
