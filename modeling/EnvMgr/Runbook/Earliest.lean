/-
The planned pass is the earliest schedule.

A task starts at the anchor, at its fixed start or when the last of its predecessors is
through, whichever comes last, all of them read to the minute. No schedule that keeps to
these starts a task earlier, and in what order the tasks and edges are listed makes no
difference to anything `compute` returns.
-/
import EnvMgr.Lib.OrderBy
import EnvMgr.Runbook.CriticalPath

namespace EnvMgr.Runbook

/-! ## The planned pass -/

section Planned

variable {tasks : List TaskInput} {edges : List (ℕ × ℕ)} {anchor : DateTime} {order : List ℕ}

/-- Start and finish, as one entry. -/
def Planned.times (s : Planned) (i : ℕ) : DateTime × DateTime := (s.p_start i, s.p_finish i)

/-- The planned entry of a task, from those of its predecessors. -/
def planned_entry (tasks : List TaskInput) (edges : List (ℕ × ℕ)) (anchor : DateTime) (i : ℕ)
    (d : ℕ → DateTime × DateTime) : DateTime × DateTime :=
  match by_id tasks i with
  | none => (anchor, anchor)
  | some t =>
    let start := not_before t.fixed_start_at
      (max_of anchor ((preds edges i).map fun p => (d p).2))
    (start, start + dur t)

theorem planned_entry_reads : ReadsOnly (planned_entry tasks edges anchor) (Edge edges) := by
  intro i d d' hagree
  have hmap : ((preds edges i).map fun p => (d p).2) = (preds edges i).map fun p => (d' p).2 :=
    List.map_congr_left fun p hp => by rw [hagree p (mem_preds.1 hp)]
  simp only [planned_entry, hmap]

theorem Ordered.planned_step_times (h : Ordered tasks edges order) (s : Planned) (i : ℕ)
    (hi : i ∈ order) : (planned_step tasks edges anchor s i).times =
      Function.update s.times i (planned_entry tasks edges anchor i s.times) := by
  obtain ⟨t, ht⟩ := h.task hi
  funext j
  by_cases hj : j = i
  · subst hj
    simp [planned_step, Planned.times, planned_entry, ht]
  · simp [planned_step, Planned.times, planned_entry, ht, hj]

/-- **What the planned pass leaves** solves the equations it computed by. -/
theorem Ordered.planned_eq (h : Ordered tasks edges order) {i : ℕ} (hi : i ∈ order) :
    (planned_pass tasks edges anchor order).times i =
      planned_entry tasks edges anchor i (planned_pass tasks edges anchor order).times := by
  have hfill : (planned_pass tasks edges anchor order).times =
      fill (planned_entry tasks edges anchor) (fun _ => (anchor, anchor)) order :=
    fill_of_step h.planned_step_times ⟨fun _ => anchor, fun _ => anchor⟩
  rw [hfill]
  exact fill_eq planned_entry_reads h.nodup h.follows h.loopless _ hi

end Planned

/-! ## Monotone parts -/

theorem max_of_mono {default : DateTime} {xs : List ℕ} {f f' : ℕ → DateTime}
    (h : ∀ x ∈ xs, f x ≤ f' x) : max_of default (xs.map f) ≤ max_of default (xs.map f') := by
  by_cases hne : xs = []
  · subst hne
    exact le_refl _
  · obtain ⟨⟨x, hx, heq⟩, -⟩ := max_of_map default hne f
    rw [heq]
    exact (h x hx).trans ((max_of_map default hne f').2 x hx)

theorem not_before_mono (fixed : Option DateTime) {start start' : DateTime} (h : start ≤ start') :
    not_before fixed start ≤ not_before fixed start' := by
  cases fixed with
  | none => exact h
  | some v => exact max_le_max_right _ h

/-! ## The order of the lists -/

/-- The maximum is one of the values and is above them all, so it is the same in any order. -/
theorem max_of_perm {default : DateTime} {xs xs' : List ℕ} (h : xs'.Perm xs)
    (f : ℕ → DateTime) : max_of default (xs'.map f) = max_of default (xs.map f) := by
  by_cases hne : xs = []
  · subst hne
    rw [h.eq_nil]
  · have hne' : xs' ≠ [] := fun hnil => hne (List.Perm.eq_nil (hnil ▸ h.symm))
    obtain ⟨⟨x, hx, hmet⟩, hle⟩ := max_of_map default hne f
    obtain ⟨⟨x', hx', hmet'⟩, hle'⟩ := max_of_map default hne' f
    refine le_antisymm ?_ ?_
    · rw [hmet']
      exact hle x' (h.mem_iff.1 hx')
    · rw [hmet]
      exact hle' x (h.mem_iff.2 hx)

theorem min_of_perm {default : DateTime} {xs xs' : List ℕ} (h : xs'.Perm xs)
    (f : ℕ → DateTime) : min_of default (xs'.map f) = min_of default (xs.map f) := by
  by_cases hne : xs = []
  · subst hne
    rw [h.eq_nil]
  · have hne' : xs' ≠ [] := fun hnil => hne (List.Perm.eq_nil (hnil ▸ h.symm))
    obtain ⟨⟨x, hx, hmet⟩, hle⟩ := min_of_map default hne f
    obtain ⟨⟨x', hx', hmet'⟩, hle'⟩ := min_of_map default hne' f
    refine le_antisymm ?_ ?_
    · rw [hmet]
      exact hle' x (h.mem_iff.2 hx)
    · rw [hmet']
      exact hle x' (h.mem_iff.1 hx')

theorem sorted_perm {xs xs' : List ℕ} (h : xs'.Perm xs) : order_by id xs' = order_by id xs :=
  (OrderBy.answers_insertionSort id xs).unique (fun _ _ _ _ heq => heq)
    (OrderBy.answers_insertionSort id xs') h

/-- The tasks and the edges in another order. -/
structure Relisted (tasks tasks' : List TaskInput) (edges edges' : List (ℕ × ℕ)) : Prop where
  tasks_perm : tasks'.Perm tasks
  edges_perm : edges'.Perm edges

theorem topological_order_perm {ids ids' : List ℕ} {edges edges' : List (ℕ × ℕ)}
    (hids : ids'.Perm ids) (hedges : edges'.Perm edges) :
    topological_order ids' edges' = topological_order ids edges := by
  have hset : sorted_set ids' = sorted_set ids := sorted_perm hids.dedup
  have hindegree : ∀ known, indegree known edges' = indegree known edges := fun known =>
    funext fun i => congrArg Int.ofNat ((hedges.filter _).length_eq)
  have hsuccessors : ∀ known, successors known edges' = successors known edges := fun known =>
    funext fun i => sorted_perm ((hedges.filter _).map _)
  have hinitial : ∀ known, initial known edges' = initial known edges := fun known => by
    simp only [initial, hindegree]
  simp only [topological_order, hset, hsuccessors, hinitial]

theorem plan_state_perm {statuses statuses' : List TaskStatus} (h : statuses'.Perm statuses) :
    plan_state statuses' = plan_state statuses := by
  have hnil : statuses' = [] ↔ statuses = [] := by
    rw [← List.length_eq_zero_iff, ← List.length_eq_zero_iff, h.length_eq]
  simp only [plan_state, ne_eq, hnil, h.mem_iff]

section Relisted

variable {tasks tasks' : List TaskInput} {edges edges' : List (ℕ × ℕ)}

theorem by_id_perm (hids : (tasks.map TaskInput.id).Nodup) (h : tasks'.Perm tasks) :
    by_id tasks' = by_id tasks := by
  have hids' : (tasks'.map TaskInput.id).Nodup := (h.map TaskInput.id).nodup_iff.2 hids
  funext i
  refine Option.ext fun t => ?_
  rw [by_id_some hids', by_id_some hids, h.mem_iff]

/-- **Relisting changes nothing.** -/
theorem compute_relisted (hids : (tasks.map TaskInput.id).Nodup)
    (h : Relisted tasks tasks' edges edges') (anchor now : DateTime) :
    compute anchor tasks' edges' now = compute anchor tasks edges now := by
  have hby := by_id_perm hids h.tasks_perm
  have hknown : (known_edges tasks' edges').Perm (known_edges tasks edges) := by
    simp only [known_edges, hby]
    exact h.edges_perm.filter _
  have horder := topological_order_perm (h.tasks_perm.map TaskInput.id) hknown
  have hpreds : ∀ i, (preds (known_edges tasks' edges') i).Perm
      (preds (known_edges tasks edges) i) := fun i => (hknown.filter _).map _
  have hsuccs : ∀ i, (succs (known_edges tasks' edges') i).Perm
      (succs (known_edges tasks edges) i) := fun i => (hknown.filter _).map _
  have hplanned : ∀ anchor, planned_step tasks' (known_edges tasks' edges') anchor =
      planned_step tasks (known_edges tasks edges) anchor := fun anchor =>
    funext fun s => funext fun i => by
      simp only [planned_step, hby, max_of_perm (hpreds i)]
  have hforecast : ∀ anchor now, forecast_step tasks' (known_edges tasks' edges') anchor now =
      forecast_step tasks (known_edges tasks edges) anchor now := fun anchor now =>
    funext fun s => funext fun i => by
      simp only [forecast_step, hby, max_of_perm (hpreds i), (hpreds i).any_eq]
  have hbackward : ∀ f last, backward_step (known_edges tasks' edges') f last =
      backward_step (known_edges tasks edges) f last := fun f last =>
    funext fun d => funext fun i => by
      simp only [backward_step, min_of_perm (hsuccs i)]
  have hstate : plan_state (tasks'.map TaskInput.status) =
      plan_state (tasks.map TaskInput.status) :=
    plan_state_perm (h.tasks_perm.map TaskInput.status)
  simp only [compute, horder, hby, planned_pass, hplanned, forecast_pass, hforecast, backward_pass,
    hbackward, hstate]

end Relisted

/-! ## What is returned -/

/-- The row of a task, by the passes it was read off. -/
structure RowOf (p : Planned) (f : Forecast) (t : TaskInput) (row : ℕ × TaskSchedule) : Prop where
  id : row.1 = t.id
  planned_start : row.2.planned_start = p.p_start t.id
  planned_finish : row.2.planned_finish = p.p_finish t.id
  forecast_start : row.2.forecast_start = f.f_start t.id
  forecast_finish : row.2.forecast_finish = f.f_finish t.id

/-- The schedule was read off the two passes, run in `order`. -/
structure ReadOff (anchor : DateTime) (tasks : List TaskInput) (order : List ℕ) (p : Planned)
    (f : Forecast) (schedule : PlanSchedule) : Prop where
  has_row : ∀ t ∈ tasks, ∃ row ∈ schedule.tasks, row.1 = t.id
  row_of : ∀ row ∈ schedule.tasks, ∃ t ∈ tasks, RowOf p f t row
  planned_end : schedule.planned_end = max_of anchor (order.map p.p_finish)
  forecast_end : schedule.forecast_end = max_of anchor (order.map f.f_finish)
  slip : schedule.slip_minutes =
    max ((schedule.forecast_end - schedule.planned_end) / timedelta.minutes 1) 0

/-- **An acyclic plan is computed**, and what is returned was read off the passes. -/
theorem computed {tasks : List TaskInput} {edges : List (ℕ × ℕ)}
    (hids : (tasks.map TaskInput.id).Nodup)
    (hacyclic : Acyclic (Waits (tasks.map TaskInput.id) edges)) (anchor now : DateTime) :
    ∃ order schedule,
      topological_order (tasks.map TaskInput.id) (known_edges tasks edges) = .ok order ∧
      Ordered tasks (known_edges tasks edges) order ∧
      compute anchor tasks edges now = .ok schedule ∧
      ReadOff (_utc anchor) tasks order
        (planned_pass tasks (known_edges tasks edges) (_utc anchor) order)
        (forecast_pass tasks (known_edges tasks edges) (_utc anchor) (_utc now) order)
        schedule := by
  have hwaits : Acyclic (Waits (tasks.map TaskInput.id) (known_edges tasks edges)) :=
    hacyclic.mono fun p t hpt => ⟨(mem_known_edges.1 hpt.1).1, hpt.2⟩
  obtain ⟨order, horder, -⟩ := topological_order_ok hwaits
  have hordered := ordered_of_ok hids horder
  have hcompute : ∃ schedule, compute anchor tasks edges now = .ok schedule := by
    simp only [compute, horder]
    exact ⟨_, rfl⟩
  obtain ⟨schedule, hschedule⟩ := hcompute
  refine ⟨order, schedule, horder, hordered, hschedule, ?_⟩
  simp only [compute, horder] at hschedule
  cases hschedule
  refine ⟨fun t ht => ?_, fun row hrow => ?_, rfl, rfl, rfl⟩
  · have hmem : t.id ∈ order := (hordered.mem_iff t.id).2 (List.mem_map_of_mem ht)
    have hby : by_id tasks t.id = some t := (by_id_some hids).2 ⟨ht, rfl⟩
    exact ⟨_, List.mem_filterMap.2 ⟨t.id, hmem, by rw [hby]; rfl⟩, rfl⟩
  · obtain ⟨i, -, hi⟩ := List.mem_filterMap.1 hrow
    obtain ⟨t, hby, rfl⟩ := Option.map_eq_some_iff.1 hi
    obtain ⟨ht, rfl⟩ := (by_id_some hids).1 hby
    exact ⟨t, ht, rfl, rfl, rfl, rfl, rfl⟩

/-! ## The least schedule -/

/-- Starts that keep to the plan. Times are read to the minute. -/
structure KeepsTo (anchor : DateTime) (tasks : List TaskInput) (edges : List (ℕ × ℕ))
    (start : ℕ → DateTime) : Prop where
  not_before_anchor : ∀ t ∈ tasks, _utc anchor ≤ start t.id
  not_before_fixed : ∀ t ∈ tasks, ∀ fixed ∈ t.fixed_start_at, _utc fixed ≤ start t.id
  waits : ∀ t ∈ tasks, ∀ p ∈ tasks, (t.id, p.id) ∈ edges → start p.id + dur p ≤ start t.id

theorem not_before_le {fixed : Option DateTime} {start bound : DateTime} (hstart : start ≤ bound)
    (hfixed : ∀ v ∈ fixed, _utc v ≤ bound) : not_before fixed start ≤ bound := by
  cases fixed with
  | none => exact hstart
  | some v => exact max_le hstart (hfixed v rfl)

theorem fixed_le_not_before {fixed : Option DateTime} {v : DateTime} (hv : v ∈ fixed)
    (start : DateTime) : _utc v ≤ not_before fixed start := by
  rw [Option.mem_def.1 hv]
  exact le_max_right _ _

section Least

variable {tasks : List TaskInput} {edges : List (ℕ × ℕ)} {anchor : DateTime} {order : List ℕ}

theorem planned_entry_mono {i : ℕ} {d d' : ℕ → DateTime × DateTime}
    (hle : ∀ j, Edge edges j i → d j ≤ d' j) :
    planned_entry tasks edges anchor i d ≤ planned_entry tasks edges anchor i d' := by
  have hmax : max_of anchor ((preds edges i).map fun p => (d p).2) ≤
      max_of anchor ((preds edges i).map fun p => (d' p).2) :=
    max_of_mono fun p hp => (hle p (mem_preds.1 hp)).2
  unfold planned_entry
  cases by_id tasks i with
  | none => exact le_refl _
  | some t =>
    have hstart := not_before_mono t.fixed_start_at hmax
    exact ⟨hstart, add_le_add_left hstart (dur t)⟩

/-- The planned entry of a task of the plan. -/
theorem Ordered.planned_task (h : Ordered tasks edges order) {t : TaskInput} (ht : t ∈ tasks) :
    let p := planned_pass tasks edges anchor order
    p.p_start t.id =
        not_before t.fixed_start_at (max_of anchor ((preds edges t.id).map p.p_finish)) ∧
      p.p_finish t.id = p.p_start t.id + dur t := by
  intro p
  have hmem : t.id ∈ order := (h.mem_iff t.id).2 (List.mem_map_of_mem ht)
  have hby : by_id tasks t.id = some t := (by_id_some h.ids).2 ⟨ht, rfl⟩
  have heq := @Ordered.planned_eq tasks edges anchor order h t.id hmem
  rw [planned_entry, hby] at heq
  have hstart : p.p_start t.id =
      not_before t.fixed_start_at (max_of anchor ((preds edges t.id).map p.p_finish)) :=
    congrArg Prod.fst heq
  refine ⟨hstart, ?_⟩
  rw [hstart]
  exact congrArg Prod.snd heq

/-- Nothing is planned ahead of the anchor: the constant schedule at the anchor lies below
the planned one. -/
theorem Ordered.anchor_le (h : Ordered tasks edges order) {i : ℕ} (hi : i ∈ order) :
    anchor ≤ (planned_pass tasks edges anchor order).p_start i := by
  have hbelow : ∀ i ∈ order,
      (anchor, anchor) ≤ planned_entry tasks edges anchor i fun _ => (anchor, anchor) := by
    intro i hi
    obtain ⟨t, ht⟩ := h.task hi
    have hdriven : anchor ≤ max_of anchor ((preds edges i).map fun _ => anchor) := by
      by_cases hnone : preds edges i = []
      · rw [hnone]
        exact le_refl _
      · obtain ⟨⟨p, -, hmet⟩, -⟩ := max_of_map anchor hnone fun _ => anchor
        exact hmet.ge
    have hstart := hdriven.trans (le_not_before t.fixed_start_at _)
    simp only [planned_entry, ht]
    exact ⟨hstart, hstart.trans (le_add_of_nonneg_right (dur_nonneg t))⟩
  have hmono : Earliest.Below (· ∈ order) (Edge edges) (planned_entry tasks edges anchor)
      (planned_entry tasks edges anchor) := fun _ _ _ _ hle => planned_entry_mono hle
  exact (Earliest.solution_le h.wellFounded (fun j i hji => (h.known j i hji).1)
    hmono hbelow (fun i hi => (h.planned_eq hi).ge) hi).1

/-- **The planned starts keep to the plan.** -/
theorem Ordered.planned_keeps (h : Ordered tasks (known_edges tasks edges) order) :
    KeepsTo anchor tasks edges
      (planned_pass tasks (known_edges tasks edges) (_utc anchor) order).p_start where
  not_before_anchor := fun t ht => h.anchor_le ((h.mem_iff t.id).2 (List.mem_map_of_mem ht))
  not_before_fixed := by
    intro t ht fixed hfixed
    rw [(h.planned_task ht).1]
    exact fixed_le_not_before hfixed _
  waits := by
    intro t ht p hp hedge
    have hknown : Edge (known_edges tasks edges) p.id t.id :=
      mem_known_edges.2 ⟨hedge, List.mem_map_of_mem ht, List.mem_map_of_mem hp⟩
    rw [← (h.planned_task hp).2, (h.planned_task ht).1]
    exact ((driven_greatest _ t.id).2 (Or.inr ⟨p.id, hknown, rfl⟩)).trans (le_not_before _ _)

/-- **And no others start a task earlier.** -/
theorem Ordered.planned_le (h : Ordered tasks (known_edges tasks edges) order)
    {other : ℕ → DateTime} (hother : KeepsTo anchor tasks edges other) {t : TaskInput}
    (ht : t ∈ tasks) :
    (planned_pass tasks (known_edges tasks edges) (_utc anchor) order).p_start t.id ≤
      other t.id := by
  let d : ℕ → DateTime × DateTime := fun i =>
    (other i, other i + ((by_id tasks i).map dur).getD 0)
  have habove : ∀ i ∈ order, planned_entry tasks (known_edges tasks edges) (_utc anchor) i d ≤
      d i := by
    intro i hi
    obtain ⟨t, hby⟩ := h.task hi
    obtain ⟨ht, rfl⟩ := (by_id_some h.ids).1 hby
    -- the other schedule has the predecessors through in time
    have hdriven : max_of (_utc anchor) ((preds (known_edges tasks edges) t.id).map fun p =>
        (d p).2) ≤ other t.id := by
      rcases (@driven_greatest (known_edges tasks edges) (_utc anchor) (fun p => (d p).2)
        t.id).1 with ⟨-, heq⟩ | ⟨p, hp, heq⟩
      · rw [heq]
        exact hother.not_before_anchor t ht
      · obtain ⟨p', hp'⟩ := h.task (h.known p t.id hp).1
        obtain ⟨hmem, rfl⟩ := (by_id_some h.ids).1 hp'
        rw [← heq]
        simp only [d, hp', Option.map_some, Option.getD_some]
        exact hother.waits t ht p' hmem (mem_known_edges.1 hp).1
    have hstart := not_before_le hdriven (hother.not_before_fixed t ht)
    simp only [planned_entry, hby]
    refine ⟨hstart, ?_⟩
    simp only [d, hby, Option.map_some, Option.getD_some]
    exact add_le_add_left hstart (dur t)
  have hmono : Earliest.Below (· ∈ order) (Edge (known_edges tasks edges))
      (planned_entry tasks (known_edges tasks edges) (_utc anchor))
      (planned_entry tasks (known_edges tasks edges) (_utc anchor)) :=
    fun _ _ _ _ hle => planned_entry_mono hle
  exact (Earliest.solution_le h.wellFounded (fun j i hji => (h.known j i hji).1)
    hmono (fun i hi => (h.planned_eq hi).le) habove
    ((h.mem_iff t.id).2 (List.mem_map_of_mem ht))).1

end Least

/-- **The planned pass is the least schedule.** -/
theorem planned_pass_least {tasks : List TaskInput} {edges : List (ℕ × ℕ)}
    (hids : (tasks.map TaskInput.id).Nodup)
    (hacyclic : Acyclic (Waits (tasks.map TaskInput.id) edges)) (anchor now : DateTime) :
    ∃ schedule, compute anchor tasks edges now = .ok schedule ∧
      ∃ start : ℕ → DateTime,
        (∀ t ∈ tasks, ∃ row ∈ schedule.tasks, row.1 = t.id) ∧
        (∀ row ∈ schedule.tasks, ∃ t ∈ tasks, row.1 = t.id ∧
          row.2.planned_start = start t.id ∧ row.2.planned_finish = start t.id + dur t) ∧
        KeepsTo anchor tasks edges start ∧
        (∀ other, KeepsTo anchor tasks edges other → ∀ t ∈ tasks, start t.id ≤ other t.id) ∧
        ∀ tasks' edges', Relisted tasks tasks' edges edges' →
          compute anchor tasks' edges' now = .ok schedule := by
  obtain ⟨order, schedule, -, hordered, hschedule, hread⟩ := computed hids hacyclic anchor now
  refine ⟨schedule, hschedule,
    (planned_pass tasks (known_edges tasks edges) (_utc anchor) order).p_start, hread.has_row, ?_,
    hordered.planned_keeps, fun other hother t ht => hordered.planned_le hother ht,
    fun tasks' edges' h => (compute_relisted hids h anchor now).trans hschedule⟩
  intro row hrow
  obtain ⟨t, ht, hof⟩ := hread.row_of row hrow
  exact ⟨t, ht, hof.id, hof.planned_start, hof.planned_finish.trans (hordered.planned_task ht).2⟩

/-- A rehearsal, and the cutover that waits for it and is fixed for the hour. -/
theorem planned_pass_least_two :
    ∃ schedule, compute 0
        [⟨1, 90, none, .not_started, none, none⟩,
          ⟨2, 30, some (timedelta.minutes 60), .not_started, none, none⟩] [(2, 1)] 0 =
        .ok schedule ∧
      schedule.tasks.map (fun row => row.2.planned_start) = [0, timedelta.minutes 90] := by
  have hacyclic : Acyclic (Waits ([⟨1, 90, none, .not_started, none, none⟩,
      ⟨2, 30, some (timedelta.minutes 60), .not_started, none, none⟩].map TaskInput.id)
      [(2, 1)]) := by
    refine acyclic_of_rank id ?_
    rintro p t ⟨hpt, -⟩
    obtain ⟨rfl, rfl⟩ := Prod.mk.inj (List.mem_singleton.1 hpt)
    decide
  obtain ⟨schedule, hschedule, -⟩ := planned_pass_least (by decide) hacyclic 0 0
  refine ⟨schedule, hschedule, ?_⟩
  obtain rfl := Except.ok.inj hschedule
  decide +kernel

/-- A plan that begins half a minute past is planned from the minute before. -/
theorem planned_ahead_of_anchor :
    ∃ schedule ∈ (compute 30000000 [⟨1, 10, none, .not_started, none, none⟩] [] 0).toOption,
      ∃ row ∈ schedule.tasks, row.2.planned_start < 30000000 := by
  decide +kernel

end EnvMgr.Runbook
