/-
The equations of `compute`'s passes.

Each pass fills its dictionaries in an order in which it has written whatever it
reads, so what it leaves satisfies the equations it computed by. The forecast is
taken together with its rerun, in which the finish of one task is moved one
minute later.
-/
import EnvMgr.Lib.Fill
import EnvMgr.Lib.Slack
import EnvMgr.Runbook.Compute

namespace EnvMgr.Runbook

/-! ## The rerun -/

section Rerun

variable (tasks : List TaskInput) (edges : List (ℕ × ℕ)) (anchor now : DateTime) (k : ℕ)

/-- A turn of the forecast pass, after which the finish of `k` is moved. -/
def slipped_step (s : Forecast) (i : ℕ) : Forecast :=
  let s := forecast_step tasks edges anchor now s i
  if i = k then
    { s with
      f_finish := Function.update s.f_finish k (s.f_finish k + timedelta.minutes 1) }
  else s

def slipped_pass (order : List ℕ) : Forecast :=
  order.foldl (slipped_step tasks edges anchor now k)
    ⟨fun _ => anchor, fun _ => anchor, fun _ => anchor, fun _ => false⟩

end Rerun

/-- The end of the plan, with the finish of `k` one minute later than forecast. -/
def slipped_forecast_end (anchor : DateTime) (tasks : List TaskInput) (edges : List (ℕ × ℕ))
    (now : DateTime) (k : ℕ) : Except (List ℕ) DateTime := do
  let anchor := _utc anchor
  let now := _utc now
  let edges := known_edges tasks edges
  let order ← topological_order (tasks.map TaskInput.id) edges
  .ok (max_of anchor (order.map (slipped_pass tasks edges anchor now k order).f_finish))

/-! ## Minima and maxima -/

theorem max_of_nil (default : DateTime) : max_of default [] = default := rfl

theorem max_of_map {α : Type*} (default : DateTime) {xs : List α} (hne : xs ≠ [])
    (f : α → DateTime) :
    (∃ x ∈ xs, max_of default (xs.map f) = f x) ∧ ∀ x ∈ xs, f x ≤ max_of default (xs.map f) := by
  have hmap : xs.map f ≠ [] := fun h => hne (List.map_eq_nil_iff.1 h)
  obtain ⟨m, hm⟩ := Option.isSome_iff_exists.1 (List.isSome_max?_iff.2 hmap)
  obtain ⟨hmem, hle⟩ := List.max?_eq_some_iff.1 hm
  obtain ⟨x, hx, rfl⟩ := List.mem_map.1 hmem
  rw [max_of, hm]
  exact ⟨⟨x, hx, rfl⟩, fun y hy => hle _ (List.mem_map_of_mem hy)⟩

theorem min_of_nil (default : DateTime) : min_of default [] = default := rfl

theorem min_of_map {α : Type*} (default : DateTime) {xs : List α} (hne : xs ≠ [])
    (f : α → DateTime) :
    (∃ x ∈ xs, min_of default (xs.map f) = f x) ∧ ∀ x ∈ xs, min_of default (xs.map f) ≤ f x := by
  have hmap : xs.map f ≠ [] := fun h => hne (List.map_eq_nil_iff.1 h)
  obtain ⟨m, hm⟩ := Option.isSome_iff_exists.1 (List.isSome_min?_iff.2 hmap)
  obtain ⟨hmem, hle⟩ := List.min?_eq_some_iff.1 hm
  obtain ⟨x, hx, rfl⟩ := List.mem_map.1 hmem
  rw [min_of, hm]
  exact ⟨⟨x, hx, rfl⟩, fun y hy => hle _ (List.mem_map_of_mem hy)⟩

/-! ## Tasks by id -/

theorem by_id_some {tasks : List TaskInput} (hids : (tasks.map TaskInput.id).Nodup) {i : ℕ}
    {t : TaskInput} : by_id tasks i = some t ↔ t ∈ tasks ∧ t.id = i := by
  constructor
  · intro h
    have hmem := List.mem_of_find?_eq_some h
    exact ⟨List.mem_reverse.1 hmem, by simpa using List.find?_some h⟩
  · rintro ⟨ht, rfl⟩
    cases hfind : by_id tasks t.id with
    | none =>
      have hmiss := List.find?_eq_none.1 hfind t (List.mem_reverse.2 ht)
      simp at hmiss
    | some t' =>
      have hmem : t' ∈ tasks := List.mem_reverse.1 (List.mem_of_find?_eq_some hfind)
      have hid : t'.id = t.id := by simpa using List.find?_some hfind
      rw [List.inj_on_of_nodup_map hids hmem ht hid]

theorem by_id_isSome {tasks : List TaskInput} {i : ℕ} :
    (by_id tasks i).isSome ↔ i ∈ tasks.map TaskInput.id := by
  simp [by_id]

theorem mem_known_edges {tasks : List TaskInput} {edges : List (ℕ × ℕ)} {e : ℕ × ℕ} :
    e ∈ known_edges tasks edges ↔
      e ∈ edges ∧ e.1 ∈ tasks.map TaskInput.id ∧ e.2 ∈ tasks.map TaskInput.id := by
  simp only [known_edges, List.mem_filter, decide_eq_true_eq, by_id_isSome]

theorem mem_preds {edges : List (ℕ × ℕ)} {i p : ℕ} : p ∈ preds edges i ↔ (i, p) ∈ edges := by
  simp only [preds, List.mem_map, List.mem_filter, decide_eq_true_eq]
  constructor
  · rintro ⟨⟨i', p'⟩, ⟨he, rfl⟩, rfl⟩
    exact he
  · intro he
    exact ⟨(i, p), ⟨he, rfl⟩, rfl⟩

theorem mem_succs {edges : List (ℕ × ℕ)} {i s : ℕ} : s ∈ succs edges i ↔ (s, i) ∈ edges := by
  simp only [succs, List.mem_map, List.mem_filter, decide_eq_true_eq]
  constructor
  · rintro ⟨⟨s', i'⟩, ⟨he, rfl⟩, rfl⟩
    exact he
  · intro he
    exact ⟨(s, i), ⟨he, rfl⟩, rfl⟩

/-! ## The passes -/

/-- `s` waits for `p`. -/
def Edge (edges : List (ℕ × ℕ)) (p s : ℕ) : Prop := (s, p) ∈ edges

/-- What the passes are given: tasks with ids of their own, edges between them
without a cycle, and an order that follows the edges. -/
structure Ordered (tasks : List TaskInput) (edges : List (ℕ × ℕ)) (order : List ℕ) : Prop where
  ids : (tasks.map TaskInput.id).Nodup
  known : ∀ p s, Edge edges p s → p ∈ order ∧ s ∈ order
  acyclic : Acyclic (Edge edges)
  nodup : order.Nodup
  mem_iff : ∀ i, i ∈ order ↔ i ∈ tasks.map TaskInput.id
  follows : order.Pairwise fun a b => ¬ Edge edges b a

section Equations

variable {tasks : List TaskInput} {edges : List (ℕ × ℕ)} {anchor now : DateTime}
  {order : List ℕ}

theorem Ordered.loopless (h : Ordered tasks edges order) (i : ℕ) : ¬ Edge edges i i :=
  fun hi => h.acyclic i (Relation.TransGen.single hi)

theorem Ordered.wellFounded (h : Ordered tasks edges order) : WellFounded (Edge edges) :=
  h.acyclic.wellFounded fun p s hps => (h.known p s hps).1

theorem Ordered.wellFounded_swap (h : Ordered tasks edges order) :
    WellFounded fun s p => Edge edges p s :=
  h.acyclic.swap.wellFounded fun s p hps => (h.known p s hps).2

theorem Ordered.task (h : Ordered tasks edges order) {i : ℕ} (hi : i ∈ order) :
    ∃ t, by_id tasks i = some t :=
  Option.isSome_iff_exists.1 (by_id_isSome.2 ((h.mem_iff i).1 hi))

/-- Start and finish, as one entry. -/
def Forecast.times (s : Forecast) (i : ℕ) : DateTime × DateTime := (s.f_start i, s.f_finish i)

/-- The entry of a task, from those of its predecessors; `extra` is added to its
finish. -/
def entry (tasks : List TaskInput) (edges : List (ℕ × ℕ)) (anchor now : DateTime)
    (extra : ℕ → TimeDelta) (i : ℕ) (d : ℕ → DateTime × DateTime) : DateTime × DateTime :=
  match by_id tasks i with
  | none => (anchor, anchor)
  | some t =>
    let times := forecast_times now t (max_of anchor ((preds edges i).map fun p => (d p).2))
    (times.1, times.2 + extra i)

theorem entry_reads (extra : ℕ → TimeDelta) :
    ReadsOnly (entry tasks edges anchor now extra) (Edge edges) := by
  intro i d d' hagree
  have hmap : ((preds edges i).map fun p => (d p).2) = (preds edges i).map fun p => (d' p).2 :=
    List.map_congr_left fun p hp => by rw [hagree p (mem_preds.1 hp)]
  simp only [entry, hmap]

/-- **What a pass leaves.** A loop whose turns write these entries solves their
equations. -/
theorem Ordered.times_eq (h : Ordered tasks edges order) {extra : ℕ → TimeDelta}
    {step : Forecast → ℕ → Forecast} {s : Forecast}
    (hstep : ∀ s, ∀ i ∈ order, (step s i).times =
      Function.update s.times i (entry tasks edges anchor now extra i s.times))
    {i : ℕ} (hi : i ∈ order) {t : TaskInput} (ht : by_id tasks i = some t) :
    let f := order.foldl step s
    let times := forecast_times now t (max_of anchor ((preds edges i).map f.f_finish))
    f.f_start i = times.1 ∧ f.f_finish i = times.2 + extra i := by
  have hfill : (order.foldl step s).times =
      fill (entry tasks edges anchor now extra) s.times order := fill_of_step hstep s
  have heq := fill_eq (@entry_reads tasks edges anchor now extra) h.nodup h.follows h.loopless
    s.times hi
  rw [← hfill, entry, ht] at heq
  exact ⟨congrArg Prod.fst heq, congrArg Prod.snd heq⟩

theorem forecast_step_times {i : ℕ} {t : TaskInput} (ht : by_id tasks i = some t) (s : Forecast) :
    (forecast_step tasks edges anchor now s i).times =
      Function.update s.times i (entry tasks edges anchor now (fun _ => 0) i s.times) := by
  funext j
  by_cases hj : j = i
  · subst hj
    simp [forecast_step, Forecast.times, entry, ht]
  · simp [forecast_step, Forecast.times, entry, ht, hj]

/-- What the rerun adds to the finish of a task. -/
def delay_of (k i : ℕ) : TimeDelta := if i = k then timedelta.minutes 1 else 0

theorem slipped_step_times {k i : ℕ} {t : TaskInput} (ht : by_id tasks i = some t) (s : Forecast) :
    (slipped_step tasks edges anchor now k s i).times =
      Function.update s.times i (entry tasks edges anchor now (delay_of k) i s.times) := by
  funext j
  by_cases hik : i = k
  · subst hik
    by_cases hj : j = i
    · subst hj
      simp [slipped_step, forecast_step, Forecast.times, entry, ht, delay_of]
    · simp [slipped_step, forecast_step, Forecast.times, ht, hj]
  · by_cases hj : j = i
    · subst hj
      simp [slipped_step, forecast_step, Forecast.times, entry, ht, delay_of, hik]
    · simp [slipped_step, forecast_step, Forecast.times, ht, hj, hik]

theorem Ordered.forecast_step_times (h : Ordered tasks edges order) (s : Forecast) (i : ℕ)
    (hi : i ∈ order) : (forecast_step tasks edges anchor now s i).times =
      Function.update s.times i (entry tasks edges anchor now (fun _ => 0) i s.times) := by
  obtain ⟨t, ht⟩ := h.task hi
  exact Runbook.forecast_step_times ht s

theorem Ordered.slipped_step_times (h : Ordered tasks edges order) (k : ℕ) (s : Forecast) (i : ℕ)
    (hi : i ∈ order) : (slipped_step tasks edges anchor now k s i).times =
      Function.update s.times i (entry tasks edges anchor now (delay_of k) i s.times) := by
  obtain ⟨t, ht⟩ := h.task hi
  exact Runbook.slipped_step_times ht s

/-- **The forecast.** -/
theorem Ordered.forecast_eq (h : Ordered tasks edges order) {i : ℕ} (hi : i ∈ order)
    {t : TaskInput} (ht : by_id tasks i = some t) :
    let f := forecast_pass tasks edges anchor now order
    let times := forecast_times now t (max_of anchor ((preds edges i).map f.f_finish))
    f.f_start i = times.1 ∧ f.f_finish i = times.2 := by
  obtain ⟨hstart, hfinish⟩ := h.times_eq h.forecast_step_times hi ht
  exact ⟨hstart, hfinish.trans (add_zero _)⟩

/-- **The forecast with `k` a minute late.** -/
theorem Ordered.slipped_eq (h : Ordered tasks edges order) (k : ℕ) {i : ℕ} (hi : i ∈ order)
    {t : TaskInput} (ht : by_id tasks i = some t) :
    let f := slipped_pass tasks edges anchor now k order
    let times := forecast_times now t (max_of anchor ((preds edges i).map f.f_finish))
    f.f_start i = times.1 ∧ f.f_finish i = times.2 + delay_of k i :=
  h.times_eq (h.slipped_step_times k) hi ht

/-- Outside the plan the dictionaries keep what they began with. -/
theorem Ordered.outside (h : Ordered tasks edges order) (k : ℕ) {i : ℕ} (hi : i ∉ order) :
    (forecast_pass tasks edges anchor now order).f_start i = anchor ∧
      (forecast_pass tasks edges anchor now order).f_finish i = anchor ∧
      (slipped_pass tasks edges anchor now k order).f_finish i = anchor := by
  have hplain : (forecast_pass tasks edges anchor now order).times i = (anchor, anchor) := by
    rw [forecast_pass, fill_of_step h.forecast_step_times, fill_of_not_mem hi]
    rfl
  have hslipped : (slipped_pass tasks edges anchor now k order).times i = (anchor, anchor) := by
    rw [slipped_pass, fill_of_step (h.slipped_step_times k), fill_of_not_mem hi]
    rfl
  exact ⟨congrArg Prod.fst hplain, congrArg Prod.snd hplain, congrArg Prod.snd hslipped⟩

/-- **The backward pass** leaves the earliest latest start of what waits. -/
theorem Ordered.latest (h : Ordered tasks edges order) (f : Forecast) (last : DateTime) {i : ℕ}
    (hi : i ∈ order) :
    Slack.Latest (Edge edges) f.f_start f.f_finish last (backward_pass edges f last order) i := by
  -- the pass is a fill in reverse order: an entry reads those of what waits for it
  let g : ℕ → (ℕ → DateTime) → DateTime := fun i d =>
    min_of last ((succs edges i).map fun s => d s - (f.f_finish s - f.f_start s))
  have hreads : ReadsOnly g fun s i => Edge edges i s := by
    intro i d d' hagree
    have hmap : ((succs edges i).map fun s => d s - (f.f_finish s - f.f_start s)) =
        (succs edges i).map fun s => d' s - (f.f_finish s - f.f_start s) :=
      List.map_congr_left fun s hs => by rw [hagree s (mem_succs.1 hs)]
    simp only [g, hmap]
  have heq : backward_pass edges f last order i =
      min_of last ((succs edges i).map fun s =>
        backward_pass edges f last order s - (f.f_finish s - f.f_start s)) :=
    fill_eq hreads (List.nodup_reverse.2 h.nodup) (List.pairwise_reverse.2 h.follows) h.loopless
      (fun _ => last) (List.mem_reverse.2 hi)
  by_cases hnone : succs edges i = []
  · have hno : ∀ s, ¬ Edge edges i s := by
      intro s hs
      have hmem := mem_succs.2 hs
      rw [hnone] at hmem
      cases hmem
    refine ⟨fun _ => ?_, fun s hs => absurd hs (hno s), fun ⟨s, hs⟩ => absurd hs (hno s)⟩
    rw [heq, hnone, List.map_nil, min_of_nil]
  · obtain ⟨⟨s, hs, hmet⟩, hle⟩ := min_of_map last hnone fun s =>
      backward_pass edges f last order s - (f.f_finish s - f.f_start s)
    rw [← heq] at hmet hle
    refine ⟨fun hno => absurd (mem_succs.1 hs) (hno s), fun s hs => hle s (mem_succs.2 hs), ?_⟩
    exact fun _ => ⟨s, mem_succs.1 hs, hmet⟩

end Equations

end EnvMgr.Runbook
