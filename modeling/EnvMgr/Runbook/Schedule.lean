/-
`topological_order` of `runbook_schedule_service.py`: Kahn's algorithm over the
ids of a plan's tasks, ties broken by id. An edge is `(task_id, predecessor_id)`
and counts only when both ends are among the ids.
-/
import EnvMgr.Lib.Kahn
import EnvMgr.Lib.Table
import Mathlib.Data.List.Dedup
import Mathlib.Tactic.Tauto

namespace EnvMgr.Runbook

variable {ids : List ℕ} {edges : List (ℕ × ℕ)}

/-- `sorted(set(task_ids))`. -/
def sorted_set (xs : List ℕ) : List ℕ := order_by id xs.dedup

/-- `indegree` once every edge has been read. -/
def indegree (ids : List ℕ) (edges : List (ℕ × ℕ)) (i : ℕ) : ℤ :=
  (edges.filter fun e => e.1 = i ∧ e.1 ∈ ids ∧ e.2 ∈ ids).length

/-- `sorted(successors[current])`. -/
def successors (ids : List ℕ) (edges : List (ℕ × ℕ)) (current : ℕ) : List ℕ :=
  order_by id ((edges.filter fun e => e.2 = current ∧ e.1 ∈ ids ∧ e.2 ∈ ids).map Prod.fst)

/-- The loop's variables before its first turn. -/
def initial (ids : List ℕ) (edges : List (ℕ × ℕ)) : Kahn.State ℕ where
  indegree := indegree ids edges
  ready := ids.filter fun i => indegree ids edges i = 0
  order := []

/-- The tasks in an order in which each follows its predecessors, or, as the
error of a `CycleError`, the ids left over. -/
def topological_order (task_ids : List ℕ) (edges : List (ℕ × ℕ)) :
    Except (List ℕ) (List ℕ) :=
  let ids := sorted_set task_ids
  let order := (Kahn.loop (successors ids edges) ids.length (initial ids edges)).order
  if order.length = ids.length then .ok order
  else .error (ids.filter fun i => i ∉ order)

example : topological_order [3, 1, 2, 4] [(1, 3), (2, 3), (4, 1), (4, 2)] = .ok [3, 1, 2, 4] := by
  decide

theorem mem_successors {p t : ℕ} :
    t ∈ successors ids edges p ↔ (t, p) ∈ edges ∧ t ∈ ids ∧ p ∈ ids := by
  simp only [successors, mem_order_by, List.mem_map, List.mem_filter, decide_eq_true_eq]
  constructor
  · rintro ⟨⟨t', p'⟩, ⟨he, rfl, ht, hp⟩, rfl⟩
    exact ⟨he, ht, hp⟩
  · rintro ⟨he, ht, hp⟩
    exact ⟨(t, p), ⟨he, rfl, ht, hp⟩, rfl⟩

theorem mem_of_mem_successors {i j : ℕ} (h : j ∈ successors ids edges i) : j ∈ ids :=
  (mem_successors.1 h).2.1

theorem initial_listed (edges : List (ℕ × ℕ)) (hids : ids.Nodup) :
    Kahn.Listed ids (initial ids edges) where
  nodup := hids.filter _
  known := by
    intro i hi
    exact (List.mem_filter.1 hi).1
  drained := by
    intro i hi
    have h0 : indegree ids edges i = 0 := by simpa using (List.mem_filter.1 hi).2
    exact h0.le

theorem sorted_set_nodup (xs : List ℕ) : (sorted_set xs).Nodup :=
  ((List.perm_insertionSort _ _).nodup_iff).2 (List.nodup_dedup xs)

@[simp] theorem mem_sorted_set {xs : List ℕ} {x : ℕ} : x ∈ sorted_set xs ↔ x ∈ xs := by
  simp [sorted_set]

/-- The `while` loop of `topological_order` has ended by the time `Kahn.loop`
stops: no task is left in the queue. -/
theorem topological_order_exhausts (task_ids : List ℕ) (edges : List (ℕ × ℕ)) :
    (Kahn.loop (successors (sorted_set task_ids) edges) (sorted_set task_ids).length
      (initial (sorted_set task_ids) edges)).ready = [] :=
  Kahn.loop_ready_eq_nil (fun _ _ h => mem_of_mem_successors h)
    (initial_listed edges (sorted_set_nodup task_ids)) (Nat.le_add_left _ _)

/-! ## What it returns -/

theorem count_successors (ids : List ℕ) (edges : List (ℕ × ℕ)) (p i : ℕ) :
    (successors ids edges p).count i =
      edges.countP fun e => e.2 = p ∧ e.1 = i ∧ e.1 ∈ ids ∧ e.2 ∈ ids := by
  rw [successors, order_by, (List.perm_insertionSort _ _).count_eq, List.count, List.countP_map,
    List.countP_filter]
  refine List.countP_congr fun e _ => ?_
  simp only [Function.comp_apply, beq_iff_eq, decide_eq_true_eq, Bool.and_eq_true]
  tauto

/-- Counting the edges by where they come from. -/
theorem sum_countP {ps : List ℕ} (hps : ps.Nodup) (edges : List (ℕ × ℕ)) (q : ℕ × ℕ → Prop)
    [DecidablePred q] :
    (ps.map fun p => edges.countP fun e => e.2 = p ∧ q e).sum =
      edges.countP fun e => e.2 ∈ ps ∧ q e := by
  induction ps with
  | nil => simp
  | cons p ps ih =>
    obtain ⟨hp, hps⟩ := List.nodup_cons.1 hps
    rw [List.map_cons, List.sum_cons, ih hps]
    clear ih
    -- an edge from `p` is none from the others
    induction edges with
    | nil => rfl
    | cons e edges ihe =>
      have hnot : e.2 = p → e.2 ∉ ps := fun heq hmem => hp (heq ▸ hmem)
      simp only [List.countP_cons, List.mem_cons] at ihe ⊢
      rw [← ihe]
      by_cases hep : e.2 = p
      · have hout := hnot hep
        by_cases hq : q e <;> simp [hep, hq, hp]
        omega
      · by_cases hmem : e.2 ∈ ps <;> by_cases hq : q e <;> simp [hep, hmem, hq]
        omega

theorem indegree_eq (hids : ids.Nodup) (edges : List (ℕ × ℕ)) (i : ℕ) :
    indegree ids edges i = Kahn.into (successors ids edges) ids i := by
  have hsum := sum_countP hids edges (fun e => e.1 = i ∧ e.1 ∈ ids ∧ e.2 ∈ ids)
  rw [Kahn.into, List.map_congr_left (fun p _ => count_successors ids edges p i), hsum, indegree,
    List.countP_eq_length_filter]
  congr 2
  refine List.filter_congr fun e _ => ?_
  by_cases hmem : e.2 ∈ ids <;> simp [hmem]

theorem initial_sorting (edges : List (ℕ × ℕ)) (hids : ids.Nodup) :
    Kahn.Sorting ids (successors ids edges) (initial ids edges) where
  listed := initial_listed edges hids
  queued := by
    intro i hi hle
    have h0 : indegree ids edges i = 0 := le_antisymm hle (Int.natCast_nonneg _)
    simp [initial, hi, h0]
  count := by
    intro i
    simpa [initial] using indegree_eq hids edges i
  ordered := List.Pairwise.nil
  loopless := by simp [initial]

/-- `t` waits for `p`: an edge joins them and both are among the tasks. -/
def Waits (task_ids : List ℕ) (edges : List (ℕ × ℕ)) (p t : ℕ) : Prop :=
  (t, p) ∈ edges ∧ t ∈ task_ids ∧ p ∈ task_ids

/-- Each task once, and each after the tasks it waits for. -/
structure Topological (task_ids : List ℕ) (edges : List (ℕ × ℕ)) (order : List ℕ) : Prop where
  nodup : order.Nodup
  mem_iff : ∀ i, i ∈ order ↔ i ∈ task_ids
  ordered : order.Pairwise fun a b => ¬ Waits task_ids edges b a

/-- **`topological_order`** orders the tasks if their edges have no cycle. -/
theorem topological_order_ok {task_ids : List ℕ} (h : Acyclic (Waits task_ids edges)) :
    ∃ order, topological_order task_ids edges = .ok order ∧ Topological task_ids edges order := by
  have hids := sorted_set_nodup task_ids
  have hsuccs : ∀ x, ∀ y ∈ successors (sorted_set task_ids) edges x, y ∈ sorted_set task_ids :=
    fun _ _ hy => mem_of_mem_successors hy
  have hsorting := (initial_sorting edges hids).loop hids hsuccs (sorted_set task_ids).length
  have hready := topological_order_exhausts task_ids edges
  have hacyclic : Acyclic fun p t => p ∈ sorted_set task_ids ∧ t ∈ sorted_set task_ids ∧
      t ∈ successors (sorted_set task_ids) edges p := by
    refine h.mono (fun p t hpt => ?_)
    simpa [Waits, mem_successors] using hpt.2.2
  have hlen := (hsorting.complete_iff hids hready).2 hacyclic
  refine ⟨_, by rw [topological_order]; exact if_pos hlen, ?_, fun i => ?_, ?_⟩
  · exact (List.nodup_append.1 hsorting.listed.nodup).1
  · have hnodup := (List.nodup_append.1 hsorting.listed.nodup).1
    have hknown : ∀ x ∈ (Kahn.loop (successors (sorted_set task_ids) edges)
        (sorted_set task_ids).length (initial (sorted_set task_ids) edges)).order,
        x ∈ sorted_set task_ids := fun x hx =>
      hsorting.listed.known x (List.mem_append.2 (Or.inl hx))
    have hperm := (hnodup.subperm hknown).perm_of_length_le hlen.ge
    rw [hperm.mem_iff, mem_sorted_set]
  · refine hsorting.ordered.imp (fun {a b} hab hwaits => hab ?_)
    simpa [Waits, mem_successors] using hwaits

/-- **`CycleError`** is raised for a cycle and for nothing else. -/
theorem topological_order_ok_iff {task_ids : List ℕ} :
    (∃ order, topological_order task_ids edges = .ok order) ↔ Acyclic (Waits task_ids edges) := by
  refine ⟨?_, fun h => ?_⟩
  · rintro ⟨order, hok⟩
    have hids := sorted_set_nodup task_ids
    have hsorting := (initial_sorting edges hids).loop hids
      (fun _ _ hy => mem_of_mem_successors hy) (sorted_set task_ids).length
    have hlen : (Kahn.loop (successors (sorted_set task_ids) edges) (sorted_set task_ids).length
        (initial (sorted_set task_ids) edges)).order.length = (sorted_set task_ids).length := by
      by_contra hne
      rw [topological_order] at hok
      simp [hne] at hok
    have hacyclic := (hsorting.complete_iff hids (topological_order_exhausts task_ids edges)).1 hlen
    refine hacyclic.mono (fun p t hpt => ?_)
    obtain ⟨hedge, ht, hp⟩ := hpt
    simp [mem_successors, hedge, ht, hp]
  · obtain ⟨order, hok, -⟩ := topological_order_ok h
    exact ⟨order, hok⟩

end EnvMgr.Runbook
