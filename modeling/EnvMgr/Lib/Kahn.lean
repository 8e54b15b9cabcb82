/-
Kahn's algorithm, as a loop over its three variables.

The queue `ready` and the list `order` are the algorithm's own; `indegree`
counts, for each node, the predecessors not yet ordered. A `while` loop becomes
a loop with fuel, and the point of this file is that the number of nodes is
enough fuel: every visit moves one new node into `order`, and no node enters
twice, because it is queued at the moment its count *becomes* zero and the
count only falls. What it computes is correct too: each node follows its
predecessors, and the nodes that never enter are there because of a cycle.
-/
import EnvMgr.Lib.Acyclic
import Mathlib.Data.List.Nodup
import Mathlib.Data.List.Perm.Subperm
import Mathlib.Data.List.Lattice
import Mathlib.Logic.Function.Basic
import Mathlib.Algebra.GroupWithZero.Nat

namespace EnvMgr.Kahn

variable {α : Type*} [DecidableEq α]

structure State (α : Type*) where
  indegree : α → ℤ
  ready : List α
  order : List α

/-! ## The loop -/

/-- One predecessor of `x` has been ordered. -/
def release (s : State α) (x : α) : State α :=
  let indegree := Function.update s.indegree x (s.indegree x - 1)
  { s with
    indegree := indegree
    ready := if indegree x = 0 then s.ready ++ [x] else s.ready }

/-- One turn of the loop: the node at the front of the queue is ordered and its
successors released. -/
def visit (succs : α → List α) (s : State α) : State α :=
  match s.ready with
  | [] => s
  | current :: ready =>
    (succs current).foldl release { s with ready := ready, order := s.order ++ [current] }

def loop (succs : α → List α) : ℕ → State α → State α
  | 0, s => s
  | n + 1, s => loop succs n (visit succs s)

/-! ## What the loop keeps -/

/-- Nothing is queued or ordered twice, nothing foreign is, and whatever is has
no predecessor left to wait for. -/
structure Listed (ids : List α) (s : State α) : Prop where
  nodup : (s.order ++ s.ready).Nodup
  known : ∀ x ∈ s.order ++ s.ready, x ∈ ids
  drained : ∀ x ∈ s.order ++ s.ready, s.indegree x ≤ 0

/-- A vertex is queued when its last predecessor is taken. -/
theorem Listed.release {ids : List α} {s : State α} (h : Listed ids s) {x : α}
    (hx : x ∈ ids) : Listed ids (release s x) := by
  have hdrained : ∀ y ∈ s.order ++ s.ready,
      Function.update s.indegree x (s.indegree x - 1) y ≤ 0 := by
    intro y hy
    have hy0 := h.drained y hy
    by_cases hyx : y = x
    · subst hyx
      simp only [Function.update_self]
      omega
    · rwa [Function.update_of_ne hyx]
  by_cases h1 : s.indegree x = 1
  · -- the count reaches zero only now, so `x` is not listed yet
    have hnew : x ∉ s.order ++ s.ready := by
      intro hmem
      have := h.drained x hmem
      omega
    have hready : (Kahn.release s x).ready = s.ready ++ [x] := by
      simp [Kahn.release, h1]
    refine ⟨?_, ?_, ?_⟩
    · rw [hready, ← List.append_assoc]
      exact h.nodup.append (List.nodup_singleton x) (by simpa using hnew)
    · rw [hready, ← List.append_assoc]
      intro y hy
      rcases List.mem_append.1 hy with hy | hy
      · exact h.known y hy
      · rwa [List.mem_singleton.1 hy]
    · rw [hready, ← List.append_assoc]
      intro y hy
      rcases List.mem_append.1 hy with hy | hy
      · exact hdrained y hy
      · rw [List.mem_singleton.1 hy]
        simp [Kahn.release, h1]
  · have hready : (Kahn.release s x).ready = s.ready := by
      have h0 : ¬ s.indegree x - 1 = 0 := by omega
      simp [Kahn.release, h0]
    refine ⟨?_, ?_, ?_⟩
    · rw [hready]
      exact h.nodup
    · rw [hready]
      exact h.known
    · rw [hready]
      exact hdrained

@[simp] theorem release_order (s : State α) (x : α) : (release s x).order = s.order := rfl

theorem Listed.release_all {ids : List α} {xs : List α} (hxs : ∀ x ∈ xs, x ∈ ids)
    {s : State α} (h : Listed ids s) : Listed ids (xs.foldl Kahn.release s) := by
  induction xs generalizing s with
  | nil => exact h
  | cons x xs ih =>
    exact ih (fun y hy => hxs y (List.mem_cons_of_mem x hy))
      (h.release (hxs x List.mem_cons_self))

theorem release_all_order (xs : List α) (s : State α) :
    (xs.foldl release s).order = s.order := by
  induction xs generalizing s with
  | nil => rfl
  | cons x xs ih => rw [List.foldl_cons, ih, release_order]

theorem Listed.visit {ids : List α} {succs : α → List α}
    (hsuccs : ∀ x, ∀ y ∈ succs x, y ∈ ids) {s : State α} (h : Listed ids s) :
    Listed ids (visit succs s) := by
  unfold Kahn.visit
  split
  · exact h
  · rename_i current ready hready
    have hlist : (s.order ++ [current]) ++ ready = s.order ++ s.ready := by
      rw [hready, List.append_assoc, List.singleton_append]
    refine Listed.release_all (hsuccs current) ⟨?_, ?_, ?_⟩
    · rw [hlist]
      exact h.nodup
    · rw [hlist]
      exact h.known
    · rw [hlist]
      exact h.drained

/-! ## Enough fuel -/

theorem visit_order_length (succs : α → List α) {s : State α} (h : s.ready ≠ []) :
    (visit succs s).order.length = s.order.length + 1 := by
  unfold visit
  split
  · contradiction
  · rw [release_all_order]
    simp

theorem visit_idle (succs : α → List α) {s : State α} (h : s.ready = []) :
    visit succs s = s := by
  unfold visit
  split
  · rfl
  · rename_i hready
    rw [h] at hready
    contradiction

theorem loop_idle (succs : α → List α) (n : ℕ) {s : State α} (h : s.ready = []) :
    loop succs n s = s := by
  induction n with
  | zero => rfl
  | succ n ih => rw [loop, visit_idle succs h, ih]

/-- **The queue is empty after as many turns as there are nodes**: what the
`while` loop computes is what `loop` computes on that much fuel. -/
theorem loop_ready_eq_nil {ids : List α} {succs : α → List α}
    (hsuccs : ∀ x, ∀ y ∈ succs x, y ∈ ids) {n : ℕ} {s : State α} (h : Listed ids s)
    (hn : ids.length ≤ s.order.length + n) : (loop succs n s).ready = [] := by
  induction n generalizing s with
  | zero =>
    have hle : (s.order ++ s.ready).length ≤ ids.length :=
      (h.nodup.subperm h.known).length_le
    rw [List.length_append] at hle
    have hready : s.ready = [] := List.eq_nil_of_length_eq_zero (by omega)
    exact hready
  | succ n ih =>
    by_cases hready : s.ready = []
    · rw [loop_idle succs _ hready]
      exact hready
    · have hlen := visit_order_length succs hready
      exact ih (h.visit hsuccs) (by omega)

/-! ## What the counts mean -/

/-- How many edges lead from nodes of `xs` into `x`. -/
def into (succs : α → List α) (xs : List α) (x : α) : ℕ := (xs.map fun p => (succs p).count x).sum

theorem into_eq_zero {succs : α → List α} {xs : List α} {x : α} :
    into succs xs x = 0 ↔ ∀ p ∈ xs, x ∉ succs p := by
  simp [into, List.sum_eq_zero_iff_forall_eq_nat, List.count_eq_zero]

/-- Releasing a list takes from each node as often as it is on it. -/
theorem release_all_indegree (xs : List α) (s : State α) (y : α) :
    (xs.foldl release s).indegree y = s.indegree y - xs.count y := by
  induction xs generalizing s with
  | nil => simp
  | cons x xs ih =>
    rw [List.foldl_cons, ih]
    by_cases hxy : x = y
    · subst hxy
      simp only [release, Function.update_self, List.count_cons_self]
      omega
    · have hne : y ≠ x := fun h => hxy h.symm
      simp [release, Function.update_of_ne hne, List.count_cons_of_ne hxy]

/-- Whatever waits for nothing is listed. -/
def Queued (ids : List α) (s : State α) : Prop :=
  ∀ x ∈ ids, s.indegree x ≤ 0 → x ∈ s.order ++ s.ready

theorem Queued.release {ids : List α} {s : State α} (h : Queued ids s) (x : α) :
    Queued ids (release s x) := by
  intro y hy hle
  have hmono : ∀ z, z ∈ s.order ++ s.ready →
      z ∈ (Kahn.release s x).order ++ (Kahn.release s x).ready := by
    intro z hz
    rcases List.mem_append.1 hz with hz | hz
    · exact List.mem_append.2 (Or.inl hz)
    · refine List.mem_append.2 (Or.inr ?_)
      by_cases h1 : s.indegree x = 1
      · simp [Kahn.release, h1, hz]
      · have h0 : ¬ s.indegree x - 1 = 0 := by omega
        simpa [Kahn.release, h0] using hz
  by_cases hyx : y = x
  · subst hyx
    have hle' : s.indegree y - 1 ≤ 0 := by simpa [Kahn.release] using hle
    by_cases h1 : s.indegree y = 1
    · -- its count reaches zero now, and it is queued now
      simp [Kahn.release, h1]
    · exact hmono y (h y hy (by omega))
  · have hsame : (Kahn.release s x).indegree y = s.indegree y := by
      simp [Kahn.release, Function.update_of_ne hyx]
    rw [hsame] at hle
    exact hmono y (h y hy hle)

theorem Queued.release_all {ids : List α} (xs : List α) {s : State α} (h : Queued ids s) :
    Queued ids (xs.foldl Kahn.release s) := by
  induction xs generalizing s with
  | nil => exact h
  | cons x xs ih => exact ih (h.release x)

/-! ## The order is topological -/

/-- The loop's invariant: the counts are those of the nodes still out of the
order, and no node of the order has a successor before it. -/
structure Sorting (ids : List α) (succs : α → List α) (s : State α) : Prop where
  listed : Listed ids s
  queued : Queued ids s
  count : ∀ x, s.indegree x = into succs (ids.filter fun p => p ∉ s.order) x
  ordered : s.order.Pairwise fun a b => a ∉ succs b
  loopless : ∀ x ∈ s.order, x ∉ succs x

/-- A node that waits for nothing has its predecessors in the order. -/
theorem Sorting.pred_mem {ids : List α} {succs : α → List α} {s : State α} (h : Sorting ids succs s)
    {x p : α} (hx : s.indegree x ≤ 0) (hp : p ∈ ids) (hedge : x ∈ succs p) : p ∈ s.order := by
  by_contra hout
  have hzero : into succs (ids.filter fun p => p ∉ s.order) x = 0 := by
    have := h.count x
    omega
  have hrest : p ∈ ids.filter fun p => p ∉ s.order := by simp [hp, hout]
  exact into_eq_zero.1 hzero p hrest hedge

/-- Moving one node into the order takes its edges out of the count. -/
theorem into_filter_cons {succs : α → List α} {ids order : List α} (hids : ids.Nodup)
    {current : α} (hmem : current ∈ ids) (hout : current ∉ order) (x : α) :
    into succs (ids.filter fun p => p ∉ order) x =
      (succs current).count x + into succs (ids.filter fun p => p ∉ order ++ [current]) x := by
  have herase : (ids.filter fun p => p ∉ order ++ [current]) =
      (ids.filter fun p => p ∉ order).erase current := by
    rw [(hids.filter _).erase_eq_filter, List.filter_filter]
    refine List.filter_congr fun p _ => ?_
    by_cases hpc : p = current <;> simp [hpc]
  have hcurrent : current ∈ ids.filter fun p => p ∉ order := by simp [hmem, hout]
  rw [herase, into, into, ← List.sum_cons]
  exact ((List.perm_cons_erase hcurrent).map _).sum_eq

theorem Sorting.visit {ids : List α} {succs : α → List α} (hids : ids.Nodup)
    (hsuccs : ∀ x, ∀ y ∈ succs x, y ∈ ids) {s : State α} (h : Sorting ids succs s) :
    Sorting ids succs (visit succs s) := by
  cases hready : s.ready with
  | nil =>
    rw [visit_idle succs hready]
    exact h
  | cons current ready =>
    have hlist : current ∈ s.order ++ s.ready := by simp [hready]
    have hnodup := h.listed.nodup
    rw [hready, List.nodup_append] at hnodup
    have hout : current ∉ s.order := fun hmem =>
      hnodup.2.2 current hmem current List.mem_cons_self rfl
    have hvisit : Kahn.visit succs s = (succs current).foldl release
        { s with ready := ready, order := s.order ++ [current] } := by
      rw [Kahn.visit, hready]
    -- an edge into a listed node from `current` would have `current` in the order already
    have hnew : ∀ a ∈ s.order ++ s.ready, a ∉ succs current := by
      intro a ha hedge
      exact hout (h.pred_mem (h.listed.drained a ha) (h.listed.known current hlist) hedge)
    refine ⟨h.listed.visit hsuccs, ?_, ?_, ?_, ?_⟩
    · rw [hvisit]
      refine Queued.release_all _ (fun x hx hle => ?_)
      have := h.queued x hx hle
      rw [hready] at this
      simpa using this
    · intro x
      have hcount := h.count x
      rw [into_filter_cons hids (h.listed.known current hlist) hout x] at hcount
      rw [hvisit, release_all_indegree, release_all_order]
      push_cast at hcount ⊢
      omega
    · rw [hvisit, release_all_order]
      refine List.pairwise_append.2 ⟨h.ordered, List.pairwise_singleton _ _, fun a ha b hb => ?_⟩
      rw [List.mem_singleton.1 hb]
      exact hnew a (List.mem_append.2 (Or.inl ha))
    · rw [hvisit, release_all_order]
      intro a ha
      rcases List.mem_append.1 ha with ha | ha
      · exact h.loopless a ha
      · rw [List.mem_singleton.1 ha]
        exact hnew current hlist

theorem Sorting.loop {ids : List α} {succs : α → List α} (hids : ids.Nodup)
    (hsuccs : ∀ x, ∀ y ∈ succs x, y ∈ ids) (n : ℕ) {s : State α} (h : Sorting ids succs s) :
    Sorting ids succs (loop succs n s) := by
  induction n generalizing s with
  | zero => exact h
  | succ n ih => exact ih (h.visit hids hsuccs)

/-- **Complete or cyclic.** Once the queue is empty, every node is in the order
exactly when no cycle runs through them. -/
theorem Sorting.complete_iff {ids : List α} {succs : α → List α} (hids : ids.Nodup)
    {s : State α} (h : Sorting ids succs s) (hready : s.ready = []) :
    s.order.length = ids.length ↔ Acyclic fun p x => p ∈ ids ∧ x ∈ ids ∧ x ∈ succs p := by
  have hknown : ∀ x ∈ s.order, x ∈ ids := fun x hx =>
    h.listed.known x (List.mem_append.2 (Or.inl hx))
  have hnodup : s.order.Nodup := (List.nodup_append.1 h.listed.nodup).1
  constructor
  · intro hlen
    have hperm : s.order.Perm ids :=
      (hnodup.subperm hknown).perm_of_length_le hlen.ge
    -- along an edge the place in the order grows
    refine acyclic_of_rank (fun x => s.order.idxOf x) ?_
    rintro p x ⟨hp, hx, hedge⟩
    have hp' : p ∈ s.order := hperm.mem_iff.2 hp
    have hx' : x ∈ s.order := hperm.mem_iff.2 hx
    by_contra hle
    rw [not_lt] at hle
    have hxlt := List.idxOf_lt_length_of_mem hx'
    have hplt := List.idxOf_lt_length_of_mem hp'
    rcases Nat.lt_or_eq_of_le hle with hlt | heq
    · have hback := List.pairwise_iff_getElem.1 h.ordered _ _ hxlt hplt hlt
      rw [List.getElem_idxOf, List.getElem_idxOf] at hback
      exact hback hedge
    · have hpx : x = p := (List.idxOf_inj hx').1 heq
      subst hpx
      exact h.loopless x hx' hedge
  · intro hacyclic
    have hall : ∀ x ∈ ids, x ∈ s.order := by
      by_contra hmissing
      have hne : (ids.filter fun p => p ∉ s.order) ≠ [] := by
        intro hnil
        rw [List.filter_eq_nil_iff] at hnil
        refine hmissing (fun x hx => ?_)
        simpa using hnil x hx
      -- the first of those left over waits for none of them
      obtain ⟨x, hx, hfirst⟩ := hacyclic.exists_first hne
      have hxids : x ∈ ids := (List.mem_filter.1 hx).1
      have hzero : into succs (ids.filter fun p => p ∉ s.order) x = 0 := by
        refine into_eq_zero.2 (fun p hp hedge => ?_)
        exact hfirst p hp ⟨(List.mem_filter.1 hp).1, hxids, hedge⟩
      have hle : s.indegree x ≤ 0 := by
        have := h.count x
        omega
      have hlisted := h.queued x hxids hle
      rw [hready, List.append_nil] at hlisted
      simpa [hlisted] using (List.mem_filter.1 hx).2
    exact le_antisymm (hnodup.subperm hknown).length_le (hids.subperm hall).length_le

end EnvMgr.Kahn
