/-
What equal counts say.

Two rules that count the same members of a list need not pick the same ones. They do
where one of them picks only what the other does, and that is how a count that was
foretold is compared with one that was taken.

A double loop over the places of a list meets every two of them once. What it counts is a
number of unordered pairs, whatever the order of the list.
-/
import Mathlib.Data.Set.Card
import Mathlib.Data.Sym.Sym2
import Mathlib.Tactic.Common

namespace EnvMgr.Counting

variable {α : Type*} {p q : α → Bool} {l : List α}

/-- The rule that picks less counts the same exactly if it picks the same. -/
theorem countP_eq_iff (h : ∀ x ∈ l, p x = true → q x = true) :
    l.countP p = l.countP q ↔ ∀ x ∈ l, q x = true → p x = true := by
  induction l with
  | nil => simp
  | cons a l ih =>
    obtain ⟨ha, hl⟩ := List.forall_mem_cons.1 h
    have hle : l.countP p ≤ l.countP q := List.countP_mono_left hl
    rw [List.forall_mem_cons, ← ih hl]
    by_cases hp : p a = true
    · rw [List.countP_cons_of_pos hp, List.countP_cons_of_pos (ha hp)]
      simp [hp]
    · rw [List.countP_cons_of_neg hp]
      by_cases hq : q a = true
      · rw [List.countP_cons_of_pos hq]
        constructor
        · omega
        · rintro ⟨hqp, -⟩
          exact absurd (hqp hq) hp
      · rw [List.countP_cons_of_neg hq]
        simp [hq]

/-- What is left without repetition repeats nothing. -/
theorem eraseDups_nodup [BEq α] [LawfulBEq α] (ids : List α) : ids.eraseDups.Nodup := by
  induction hlen : ids.length using Nat.strongRecOn generalizing ids with
  | ind len ih =>
    cases ids with
    | nil => exact List.nodup_nil
    | cons id ids =>
      rw [List.eraseDups_cons, List.nodup_cons]
      constructor
      · intro hmem
        have hne := (List.mem_filter.1 (List.mem_eraseDups.1 hmem)).2
        rw [beq_self_eq_true] at hne
        cases hne
      · refine ih _ ?_ _ rfl
        rw [← hlen]
        exact Nat.lt_succ_of_le (List.length_filter_le _ _)

/-- Two rules that pick nothing in common count together what either picks. -/
theorem countP_add_of_disjoint {r : α → Bool} {xs : List α} (hor : ∀ x, r x = (p x || q x))
    (hdisjoint : ∀ x, p x = true → q x = false) :
    xs.countP p + xs.countP q = xs.countP r := by
  induction xs with
  | nil => rfl
  | cons x xs ih =>
    rw [List.countP_cons, List.countP_cons, List.countP_cons, ← ih, hor x]
    cases hp : p x with
    | true =>
      rw [hdisjoint x hp, Bool.true_or, if_pos rfl, if_neg Bool.false_ne_true]
      omega
    | false =>
      rw [Bool.false_or, if_neg Bool.false_ne_true]
      omega

/-- What is counted under each of some keys is counted among what has one of them. -/
theorem sum_countP_key {κ : Type*} [DecidableEq κ] (key : α → κ) (p : α → Bool) (xs : List α)
    {ks : List κ} (h : ks.Nodup) :
    (ks.map fun k => (xs.filter fun x => key x = k).countP p).sum =
      (xs.filter fun x => key x ∈ ks).countP p := by
  induction ks with
  | nil => simp
  | cons k ks ih =>
    obtain ⟨hk, hnodup⟩ := List.nodup_cons.1 h
    rw [List.map_cons, List.sum_cons, ih hnodup, List.countP_filter, List.countP_filter,
      List.countP_filter]
    refine countP_add_of_disjoint (fun x => ?_) fun x hx => ?_
    · rw [← Bool.and_or_distrib_left, ← Bool.decide_or]
      simp only [List.mem_cons]
    · rw [Bool.and_eq_true, decide_eq_true_eq] at hx
      rw [hx.2, decide_eq_false hk, Bool.and_false]

/-! ## Pairs -/

/-- `for i in range(n): for j in range(i + 1, n)`: what is at the two places. -/
def pairs {α : Type*} : List α → List (α × α)
  | [] => []
  | x :: xs => xs.map (fun y => (x, y)) ++ pairs xs

theorem pairs_map {β : Type*} (f : α → β) (xs : List α) :
    pairs (xs.map f) = (pairs xs).map (Prod.map f f) := by
  induction xs with
  | nil => rfl
  | cons x xs ih =>
    rw [List.map_cons, pairs, pairs, ih, List.map_append, List.map_map, List.map_map]
    rfl

section Related

variable (R : α → α → Prop) [DecidableRel R] (hsymm : ∀ a b, R a b → R b a)

theorem countP_pairs_cons (x : α) (xs : List α) :
    (pairs (x :: xs)).countP (fun p => R p.1 p.2) =
      xs.countP (fun y => R x y) + (pairs xs).countP fun p => R p.1 p.2 := by
  rw [pairs, List.countP_append, List.countP_map]
  rfl

include hsymm

/-- **The count does not depend on the order.** -/
theorem countP_pairs_perm {xs ys : List α} (h : xs.Perm ys) :
    (pairs xs).countP (fun p => R p.1 p.2) = (pairs ys).countP fun p => R p.1 p.2 := by
  induction h with
  | nil => rfl
  | cons x h ih => rw [countP_pairs_cons, countP_pairs_cons, ih, h.countP_eq]
  | swap x y xs =>
    -- The two that change places are met once, the one way or the other.
    have hxy : decide (R x y) = decide (R y x) := decide_eq_decide.2 ⟨hsymm x y, hsymm y x⟩
    simp only [countP_pairs_cons, List.countP_cons, hxy]
    omega
  | trans _ _ ih ih' => rw [ih, ih']

/-- The unordered pairs of different members that are related. -/
def related (s : Set α) : Set (Sym2 α) := {z | ∃ a ∈ s, ∃ b ∈ s, a ≠ b ∧ R a b ∧ z = s(a, b)}

omit [DecidableRel R] in
/-- The pairs with a new member are those it makes with an old one. -/
theorem related_insert {x : α} {s : Set α} (hx : x ∉ s) :
    related R (insert x s) = (fun y => s(x, y)) '' {y | y ∈ s ∧ R x y} ∪ related R s := by
  ext z
  constructor
  · rintro ⟨a, ha, b, hb, hne, hR, rfl⟩
    rcases ha with rfl | ha
    · rcases hb with rfl | hb
      · exact absurd rfl hne
      · exact Or.inl ⟨b, ⟨hb, hR⟩, rfl⟩
    · rcases hb with rfl | hb
      · exact Or.inl ⟨a, ⟨ha, hsymm a b hR⟩, Sym2.eq_swap⟩
      · exact Or.inr ⟨a, ha, b, hb, hne, hR, rfl⟩
  · rintro (⟨y, ⟨hy, hR⟩, rfl⟩ | ⟨a, ha, b, hb, hne, hR, rfl⟩)
    · refine ⟨x, Set.mem_insert x s, y, Set.mem_insert_of_mem x hy, ?_, hR, rfl⟩
      rintro rfl
      exact hx hy
    · exact ⟨a, Set.mem_insert_of_mem x ha, b, Set.mem_insert_of_mem x hb, hne, hR, rfl⟩

omit hsymm in
theorem countP_eq_ncard {xs : List α} (h : xs.Nodup) (x : α) :
    xs.countP (fun y => R x y) = {y | y ∈ xs ∧ R x y}.ncard := by
  classical
  have hset : {y | y ∈ xs ∧ R x y} = ((xs.filter fun y => R x y).toFinset : Set α) := by
    ext y
    simp
  rw [hset, Set.ncard_coe_finset, List.toFinset_card_of_nodup (h.filter _),
    List.countP_eq_length_filter]

omit [DecidableRel R] hsymm in
theorem related_finite (xs : List α) : (related R {a | a ∈ xs}).Finite := by
  have hfinite := (xs.finite_toSet.prod xs.finite_toSet).image fun p : α × α => s(p.1, p.2)
  refine hfinite.subset ?_
  rintro z ⟨a, ha, b, hb, -, -, rfl⟩
  exact ⟨(a, b), ⟨ha, hb⟩, rfl⟩

/-- **The double loop counts the unordered pairs**, each once. -/
theorem countP_pairs {xs : List α} (h : xs.Nodup) :
    (pairs xs).countP (fun p => R p.1 p.2) = (related R {a | a ∈ xs}).ncard := by
  induction xs with
  | nil =>
    have hempty : related R {a | a ∈ ([] : List α)} = ∅ :=
      Set.eq_empty_of_forall_notMem fun z ⟨a, ha, _⟩ => by cases ha
    rw [hempty, Set.ncard_empty]
    rfl
  | cons x xs ih =>
    obtain ⟨hx, hnodup⟩ := List.nodup_cons.1 h
    have hset : related R {a | a ∈ x :: xs} =
        (fun y => s(x, y)) '' {y | y ∈ xs ∧ R x y} ∪ related R {a | a ∈ xs} := by
      have hcons : {a | a ∈ x :: xs} = insert x {a | a ∈ xs} := by
        ext a
        exact List.mem_cons
      rw [hcons]
      exact related_insert R hsymm hx
    have hdisjoint : Disjoint ((fun y => s(x, y)) '' {y | y ∈ xs ∧ R x y})
        (related R {a | a ∈ xs}) := by
      rw [Set.disjoint_left]
      rintro z ⟨y, -, rfl⟩ ⟨a, ha, b, hb, -, -, hz⟩
      rcases Sym2.eq_iff.1 hz with ⟨hxa, -⟩ | ⟨hxb, -⟩
      · exact hx (hxa ▸ ha)
      · exact hx (hxb ▸ hb)
    have hfinite : {y | y ∈ xs ∧ R x y}.Finite := xs.finite_toSet.subset fun y hy => hy.1
    have hinj : Function.Injective fun y => s(x, y) := fun y y' hy => Sym2.congr_right.1 hy
    rw [countP_pairs_cons, ih hnodup, hset,
      Set.ncard_union_eq hdisjoint (hfinite.image _) (related_finite R xs),
      Set.ncard_image_of_injective _ hinj, countP_eq_ncard R hnodup x]

end Related

end EnvMgr.Counting
