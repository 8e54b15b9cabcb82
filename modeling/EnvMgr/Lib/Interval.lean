/-
Half-open intervals over a linear order: when two of them overlap, and what a list of them
covers.

A database asks whether two rows overlap by comparing their bounds crosswise, and asks whether
their common part meets a third interval without computing it, by four comparisons. For
intervals with their bounds in order both questions are about nonempty intersections; for an
arbitrary pair of bounds the comparisons are still a symmetric relation, which is what a program
that does not check its bounds works with.

Intervals may overlap, touch, nest, be empty or have their bounds the wrong way round; what a
list of them covers is a set. One pass over a list that is sorted by its starts, extending the
last interval kept or keeping another one, covers the same set with intervals that are apart
from each other, and the length of such a list is the size of the set.

Intervals may also be laid end to end, from one instant to another. A list can be laid so in one
way only, so that a second order, by a rank, gives the same row of intervals or none. Items that
each take a length come to lie end to end if no length is negative.
-/
import EnvMgr.Lib.OrderBy
import Mathlib.Algebra.BigOperators.Group.List.Basic
import Mathlib.Algebra.Order.BigOperators.Group.List
import Mathlib.Algebra.Order.Group.Defs
import Mathlib.Data.Int.Interval
import Mathlib.Data.List.Induction
import Mathlib.Data.Prod.Lex
import Mathlib.Data.Set.Card
import Mathlib.Order.CompletePartialOrder
import Mathlib.Order.Interval.Finset.Basic
import Mathlib.Order.Interval.Set.LinearOrder
import Mathlib.Order.MinMax

namespace EnvMgr

/-- A pair of bounds, in order or not. -/
@[ext]
structure Interval (τ : Type*) where
  start : τ
  stop : τ
  deriving DecidableEq

namespace Interval

variable {τ : Type*} [LinearOrder τ] {i j w : Interval τ}

/-- `start <= t < stop`. -/
def toSet (i : Interval τ) : Set τ := Set.Ico i.start i.stop

/-- The bounds are in order, so that the interval is not empty. -/
def Proper (i : Interval τ) : Prop := i.start < i.stop

instance (i : Interval τ) : Decidable i.Proper := inferInstanceAs (Decidable (_ < _))

/-- `i.start < j.stop AND i.stop > j.start`. -/
def Overlaps (i j : Interval τ) : Prop := i.start < j.stop ∧ j.start < i.stop
  deriving Decidable

theorem Overlaps.symm (h : i.Overlaps j) : j.Overlaps i := ⟨h.2, h.1⟩

/-- The common part. -/
def inter (i j : Interval τ) : Interval τ := ⟨max i.start j.start, min i.stop j.stop⟩

theorem toSet_inter (i j : Interval τ) : (i.inter j).toSet = i.toSet ∩ j.toSet :=
  Set.Ico_inter_Ico.symm

theorem toSet_nonempty : i.toSet.Nonempty ↔ i.Proper := Set.nonempty_Ico

/-- The crosswise comparison is about sets as long as both bounds are in order. -/
theorem overlaps_iff_nonempty (hi : i.Proper) (hj : j.Proper) :
    i.Overlaps j ↔ (i.toSet ∩ j.toSet).Nonempty := by
  rw [← toSet_inter, toSet_nonempty]
  constructor
  · rintro ⟨hij, hji⟩
    exact max_lt (lt_min hi hij) (lt_min hji hj)
  · intro h
    have hmax : max i.start j.start < min i.stop j.stop := h
    exact ⟨(le_max_left _ _).trans_lt (hmax.trans_le (min_le_right _ _)),
      (le_max_right _ _).trans_lt (hmax.trans_le (min_le_left _ _))⟩

/-- The common part of overlapping intervals is not empty. -/
theorem Overlaps.inter_proper (hi : i.Proper) (hj : j.Proper) (h : i.Overlaps j) :
    (i.inter j).Proper := by
  rw [← toSet_nonempty, toSet_inter]
  exact (overlaps_iff_nonempty hi hj).1 h

/-- **Max and min of the bounds, without computing either.** -/
theorem inter_overlaps_iff :
    (i.inter j).Overlaps w ↔
      (i.start < w.stop ∧ j.start < w.stop) ∧ (w.start < i.stop ∧ w.start < j.stop) :=
  and_congr max_lt_iff lt_min_iff

/-! ## The set -/

/-- The instants that some interval of the list contains. -/
def covered (is : List (Interval τ)) : Set τ := {t | ∃ i ∈ is, t ∈ i.toSet}

@[simp] theorem covered_nil : covered ([] : List (Interval τ)) = ∅ := by
  ext t
  simp [covered]

theorem covered_cons (i : Interval τ) (is : List (Interval τ)) :
    covered (i :: is) = i.toSet ∪ covered is := by
  ext t
  simp [covered]

theorem covered_append (is js : List (Interval τ)) :
    covered (is ++ js) = covered is ∪ covered js := by
  ext t
  simp [covered, or_and_right, exists_or]

theorem covered_congr {is js : List (Interval τ)} (h : ∀ i, i ∈ is ↔ i ∈ js) :
    covered is = covered js := by
  ext t
  simp only [covered, h]

/-! ## Merging -/

/-- The next interval extends the last one kept if it starts no later than that one stops. -/
def extend (out : List (Interval τ)) (i : Interval τ) : List (Interval τ) :=
  match out.getLast? with
  | none => [i]
  | some last =>
    if i.start ≤ last.stop then out.dropLast ++ [⟨last.start, max last.stop i.stop⟩]
    else out ++ [i]

/-- One pass over a list that is sorted by starts. -/
def merge (is : List (Interval τ)) : List (Interval τ) := is.foldl extend []

/-- Sorted by starts, each interval stopping before the later ones start. -/
def Apart (is : List (Interval τ)) : Prop :=
  is.Pairwise fun i j => i.start ≤ j.start ∧ i.stop < j.start

theorem extend_append_of_le {out : List (Interval τ)} {last i : Interval τ}
    (h : i.start ≤ last.stop) :
    extend (out ++ [last]) i = out ++ [⟨last.start, max last.stop i.stop⟩] := by
  simp [extend, h]

theorem extend_append_of_lt {out : List (Interval τ)} {last i : Interval τ}
    (h : last.stop < i.start) : extend (out ++ [last]) i = out ++ [last] ++ [i] := by
  simp [extend, not_le.2 h]

theorem apart_append_singleton {is : List (Interval τ)} {i : Interval τ} :
    Apart (is ++ [i]) ↔ Apart is ∧ ∀ j ∈ is, j.start ≤ i.start ∧ j.stop < i.start := by
  simp only [Apart, List.pairwise_append, List.pairwise_singleton, List.mem_singleton, forall_eq,
    true_and]

/-- An interval that starts in or at the end of another makes one with it. -/
theorem toSet_extended {last i : Interval τ} (hstart : last.start ≤ i.start)
    (hle : i.start ≤ last.stop) :
    (⟨last.start, max last.stop i.stop⟩ : Interval τ).toSet = last.toSet ∪ i.toSet := by
  ext t
  simp only [toSet, Set.mem_union, Set.mem_Ico, lt_max_iff]
  constructor
  · rintro ⟨hstart', hlast | hi⟩
    · exact Or.inl ⟨hstart', hlast⟩
    -- from where the last one stops on, the next one has started
    · by_cases hlast : t < last.stop
      · exact Or.inl ⟨hstart', hlast⟩
      · exact Or.inr ⟨hle.trans (not_lt.1 hlast), hi⟩
  · rintro (⟨hstart', hlast⟩ | ⟨hstart', hi⟩)
    · exact ⟨hstart', Or.inl hlast⟩
    · exact ⟨hstart.trans hstart', Or.inr hi⟩

/-- What one more interval does, coming no earlier than those before it. -/
structure Extended (out : List (Interval τ)) (i : Interval τ) (out' : List (Interval τ)) :
    Prop where
  apart : Apart out'
  covers : covered out' = covered out ∪ i.toSet
  before : ∀ j ∈ out', j.start ≤ i.start

theorem extended {out : List (Interval τ)} {i : Interval τ} (h : Apart out)
    (hbefore : ∀ j ∈ out, j.start ≤ i.start) : Extended out i (extend out i) := by
  induction out using List.reverseRecOn with
  | nil =>
    refine ⟨List.pairwise_singleton _ _, ?_, by simp [extend]⟩
    simp [extend, covered_cons]
  | append_singleton out last =>
    obtain ⟨hout, hlast⟩ := apart_append_singleton.1 h
    have hstart : last.start ≤ i.start := hbefore last (by simp)
    -- only the last one can reach into the next: the others stop before it starts
    by_cases hle : i.start ≤ last.stop
    · rw [extend_append_of_le hle]
      refine ⟨apart_append_singleton.2 ⟨hout, hlast⟩, ?_, ?_⟩
      · rw [covered_append, covered_append, covered_cons, covered_cons, covered_nil,
          toSet_extended hstart hle]
        simp only [Set.union_empty, Set.union_assoc]
      · intro j hj
        rcases List.mem_append.1 hj with hj | hj
        · exact hbefore j (List.mem_append_left _ hj)
        · rw [List.mem_singleton.1 hj]
          exact hstart
    · have hlt := not_le.1 hle
      rw [extend_append_of_lt hlt]
      refine ⟨apart_append_singleton.2 ⟨h, fun j hj => ⟨hbefore j hj, ?_⟩⟩, ?_, ?_⟩
      · rcases List.mem_append.1 hj with hj | hj
        · exact (hlast j hj).2.trans_le hstart
        · rw [List.mem_singleton.1 hj]
          exact hlt
      · rw [covered_append _ [i], covered_cons, covered_nil, Set.union_empty]
      · intro j hj
        rcases List.mem_append.1 hj with hj | hj
        · exact hbefore j hj
        · rw [List.mem_singleton.1 hj]

/-- **The pass**: what it keeps is apart and covers what the list covers. -/
theorem merge_spec {is : List (Interval τ)} (hsorted : is.Pairwise fun i j => i.start ≤ j.start) :
    Apart (merge is) ∧ covered (merge is) = covered is := by
  -- with a bound on the starts, for the next interval
  have hall : Apart (merge is) ∧ covered (merge is) = covered is ∧
      ∀ t, (∀ i ∈ is, i.start ≤ t) → ∀ j ∈ merge is, j.start ≤ t := by
    induction is using List.reverseRecOn with
    | nil => exact ⟨List.Pairwise.nil, rfl, fun t _ j hj => absurd hj (List.not_mem_nil)⟩
    | append_singleton is i ih =>
      obtain ⟨hsorted, -, hlast⟩ := List.pairwise_append.1 hsorted
      obtain ⟨hapart, hcovers, hbefore⟩ := ih hsorted
      have hstep : merge (is ++ [i]) = extend (merge is) i := List.foldl_append
      have hi := extended hapart (hbefore i.start fun j hj => hlast j hj i (by simp))
      rw [hstep]
      refine ⟨hi.apart, ?_, fun t ht j hj => ?_⟩
      · rw [hi.covers, hcovers, covered_append, covered_cons, covered_nil, Set.union_empty]
      · exact (hi.before j hj).trans (ht i (by simp))
  exact ⟨hall.1, hall.2.1⟩

/-- What holds of every bound of the list holds of every bound of what the pass keeps. -/
theorem merge_bounds {P : τ → Prop} {is : List (Interval τ)}
    (h : ∀ i ∈ is, P i.start ∧ P i.stop) : ∀ i ∈ merge is, P i.start ∧ P i.stop := by
  induction is using List.reverseRecOn with
  | nil => exact fun i hi => absurd hi List.not_mem_nil
  | append_singleton is i ih =>
    have hout := ih fun j hj => h j (List.mem_append_left _ hj)
    have hi : P i.start ∧ P i.stop := h i (by simp)
    have hstep : merge (is ++ [i]) = extend (merge is) i := List.foldl_append
    rw [hstep]
    rcases List.eq_nil_or_concat (merge is) with hnil | ⟨out, last, hlast⟩
    · rw [hnil]
      simpa [extend] using hi
    · rw [hlast, List.concat_eq_append] at hout ⊢
      obtain ⟨hout, hlast⟩ := List.forall_mem_append.1 hout
      have hlast := List.forall_mem_singleton.1 hlast
      have hmax : P (max last.stop i.stop) := by
        rcases max_choice last.stop i.stop with heq | heq
        · rw [heq]
          exact hlast.2
        · rw [heq]
          exact hi.2
      by_cases hle : i.start ≤ last.stop
      · rw [extend_append_of_le hle]
        exact List.forall_mem_append.2 ⟨hout, List.forall_mem_singleton.2 ⟨hlast.1, hmax⟩⟩
      · rw [extend_append_of_lt (not_le.1 hle), List.append_assoc]
        refine List.forall_mem_append.2 ⟨hout, ?_⟩
        exact List.forall_mem_cons.2 ⟨hlast, List.forall_mem_singleton.2 hi⟩

/-- Intervals that are apart have no instant in common. -/
theorem Apart.disjoint {is : List (Interval τ)} (h : Apart is) :
    is.Pairwise fun i j => Disjoint i.toSet j.toSet := by
  refine List.Pairwise.imp (fun hij => ?_) h
  refine Set.disjoint_left.2 fun t hi hj => ?_
  exact absurd (hj.1.trans_lt hi.2) hij.2.not_gt

/-! ## Length -/

section

variable [LocallyFiniteOrder τ]

theorem finite_toSet (i : Interval τ) : i.toSet.Finite := Set.finite_Ico _ _

theorem finite_covered (is : List (Interval τ)) : (covered is).Finite := by
  induction is with
  | nil => simp
  | cons i is ih =>
    rw [covered_cons]
    exact i.finite_toSet.union ih

/-- **Where no two intervals meet, the sizes add up**, inside any set. -/
theorem ncard_inter_covered {is : List (Interval τ)}
    (h : is.Pairwise fun i j => Disjoint i.toSet j.toSet) (s : Set τ) :
    (s ∩ covered is).ncard = (is.map fun i => (s ∩ i.toSet).ncard).sum := by
  induction is with
  | nil => simp
  | cons i is ih =>
    obtain ⟨hi, his⟩ := List.pairwise_cons.1 h
    rw [covered_cons, Set.inter_union_distrib_left, List.map_cons, List.sum_cons, ← ih his]
    -- the first one has no instant in common with what the others cover
    refine Set.ncard_union_eq ?_ (i.finite_toSet.inter_of_right s)
      ((finite_covered is).inter_of_right s)
    refine Set.disjoint_left.2 ?_
    rintro t ⟨-, hti⟩ ⟨-, j, hj, htj⟩
    exact Set.disjoint_left.1 (hi j hj) hti htj

end

/-- The size of an interval of integers. -/
theorem ncard_toSet (i : Interval ℤ) : i.toSet.ncard = (i.stop - i.start).toNat := by
  rw [toSet, ← Finset.coe_Ico, Set.ncard_coe_finset, Int.card_Ico]

/-! ## End to end -/

open OrderBy (Answers exists_answers)

section Tiles

variable {τ : Type*} [LinearOrder τ] {a b : τ} {i j : Interval τ} {is js : List (Interval τ)}

/-- The first interval starts at `a`, each next one where the one before it stops, the last
stops at `b`, and none is backwards. -/
def Tiles (a : τ) : List (Interval τ) → τ → Prop
  | [], b => a = b
  | i :: is, b => i.start = a ∧ i.start ≤ i.stop ∧ Tiles i.stop is b

/-- What is laid end to end lies between the two ends. -/
theorem Tiles.between (h : Tiles a is b) :
    a ≤ b ∧ ∀ i ∈ is, a ≤ i.start ∧ i.start ≤ i.stop ∧ i.stop ≤ b := by
  induction is generalizing a with
  | nil => exact ⟨le_of_eq h, fun i hi => absurd hi List.not_mem_nil⟩
  | cons i is ih =>
    obtain ⟨hstart, hle, his⟩ := h
    obtain ⟨hstop, hall⟩ := ih his
    rw [← hstart]
    refine ⟨hle.trans hstop, ?_⟩
    intro j hj
    rcases List.mem_cons.1 hj with rfl | hj
    · exact ⟨le_rfl, hle, hstop⟩
    · obtain ⟨hj₁, hj₂, hj₃⟩ := hall j hj
      exact ⟨hle.trans hj₁, hj₂, hj₃⟩

theorem Tiles.pairwise (h : Tiles a is b) : is.Pairwise fun i j => i.stop ≤ j.start := by
  induction is generalizing a with
  | nil => exact List.Pairwise.nil
  | cons i is ih =>
    obtain ⟨-, -, his⟩ := h
    exact List.pairwise_cons.2 ⟨fun j hj => (his.between.2 j hj).1, ih his⟩

/-- `i` starts and stops no later than `j`. -/
def Before (i j : Interval τ) : Prop := i.start ≤ j.start ∧ i.stop ≤ j.stop

theorem Tiles.before (h : Tiles a is b) : is.Pairwise Before := by
  refine h.pairwise.imp_of_mem ?_
  intro i j hi hj hij
  exact ⟨(h.between.2 i hi).2.1.trans hij, hij.trans (h.between.2 j hj).2.1⟩

/-- One list can be laid end to end in one way only. -/
theorem Tiles.eq_of_perm (h : Tiles a js b) (his : is.Pairwise Before) (hperm : is.Perm js) :
    is = js := by
  refine hperm.eq_of_pairwise ?_ his h.before
  intro i j _ _ hij hji
  exact Interval.ext (le_antisymm hij.1 hji.1) (le_antisymm hij.2 hji.2)

/-- Of two elements of a list one comes first. -/
theorem pairwise_or {α : Type*} {R : α → α → Prop} {l : List α} (h : l.Pairwise R) {x y : α}
    (hx : x ∈ l) (hy : y ∈ l) : x = y ∨ R x y ∨ R y x := by
  induction l with
  | nil => exact absurd hx List.not_mem_nil
  | cons z l ih =>
    obtain ⟨hz, hl⟩ := List.pairwise_cons.1 h
    rcases List.mem_cons.1 hx with rfl | hx
    · rcases List.mem_cons.1 hy with rfl | hy
      · exact Or.inl rfl
      · exact Or.inr (Or.inl (hz y hy))
    · rcases List.mem_cons.1 hy with heq | hy
      · rw [heq]
        exact Or.inr (Or.inr (hz x hx))
      · exact ih hl hx hy

section Ranked

variable {α : Type*} {f : α → Interval τ} {rank : α → ℤ} {l l' : List α}

/-- In any order, what is laid end to end and has a rank before another's is before it. -/
theorem Tiles.eq_of_rank (h : Tiles a (l.map f) b) (hranked : Answers rank l l') {a' : τ}
    (h' : Tiles a' (l'.map f) b) : l.Pairwise fun x y => rank x ≤ rank y ∨ f x = f y := by
  have hpairwise' := hranked.sorted.and (List.pairwise_map.1 h'.pairwise)
  have hproper : ∀ x ∈ l, (f x).start ≤ (f x).stop :=
    fun x hx => (h.between.2 _ (List.mem_map_of_mem hx)).2.1
  refine (List.pairwise_map.1 h.pairwise).imp_of_mem ?_
  intro x y hx hy hxy
  rcases le_or_gt (rank x) (rank y) with hle | hlt
  · exact Or.inl hle
  -- then `y` is before `x` in the other list, so that both are one instant
  rcases pairwise_or hpairwise' (hranked.mem_iff.2 hx) (hranked.mem_iff.2 hy) with
    rfl | hfirst | hfirst
  · exact Or.inr rfl
  · exact absurd hfirst.1 (not_le.2 hlt)
  · have hxs := hproper x hx
    have hys := hproper y hy
    have hyx : (f y).stop ≤ (f x).start := hfirst.2
    refine Or.inr (Interval.ext ?_ ?_)
    · exact le_antisymm (hxs.trans hxy) (hys.trans hyx)
    · exact le_antisymm (hxy.trans hys) (hyx.trans hxs)

/-- By the rank, and among equal ranks by where the interval is. -/
def by_rank (rank : α → ℤ) (f : α → Interval τ) (x : α) : ℤ ×ₗ τ ×ₗ τ :=
  toLex (rank x, toLex ((f x).start, (f x).stop))

theorem by_rank_le {x y : α} : by_rank rank f x ≤ by_rank rank f y ↔
    rank x < rank y ∨ rank x = rank y ∧
      ((f x).start < (f y).start ∨ (f x).start = (f y).start ∧ (f x).stop ≤ (f y).stop) := by
  rw [by_rank, by_rank, Prod.Lex.toLex_le_toLex, Prod.Lex.toLex_le_toLex]

theorem rank_le_of_by_rank {x y : α} (h : by_rank rank f x ≤ by_rank rank f y) :
    rank x ≤ rank y := by
  rcases by_rank_le.1 h with hlt | ⟨heq, -⟩
  · exact hlt.le
  · exact heq.le

/-- Ordered so, intervals laid end to end keep their places. -/
theorem Tiles.before_of_by_rank (h : Tiles a (l.map f) b)
    (hrank : l.Pairwise fun x y => rank x ≤ rank y ∨ f x = f y)
    (hsorted : Answers (by_rank rank f) l l') : (l'.map f).Pairwise Before := by
  have hall := (List.pairwise_map.1 h.before).and hrank
  refine List.pairwise_map.2 (hsorted.sorted.imp_of_mem ?_)
  intro x y hx hy hle
  rcases pairwise_or hall (hsorted.mem_iff.1 hx) (hsorted.mem_iff.1 hy) with rfl | hxy | hyx
  · exact ⟨le_rfl, le_rfl⟩
  · exact hxy.1
  · rcases hyx.2 with hyx' | hsame
    · rcases by_rank_le.1 hle with hlt | ⟨-, hlt | ⟨hstart, hstop⟩⟩
      · exact absurd hyx' (not_le.2 hlt)
      · exact absurd hyx.1.1 (not_le.2 hlt)
      · exact ⟨hstart.le, hstop⟩
    · rw [hsame]
      exact ⟨le_rfl, le_rfl⟩

/-- **In the order of a rank**, too, the intervals lie end to end exactly if no rank is out of
order, but for intervals that are the same instant. -/
theorem tiles_by_rank_iff (h : Tiles a (l.map f) b) :
    (∃ l', Answers rank l l' ∧ ∃ a', Tiles a' (l'.map f) b) ↔
      l.Pairwise fun x y => rank x ≤ rank y ∨ f x = f y := by
  constructor
  · rintro ⟨l', hranked, a', h'⟩
    exact h.eq_of_rank hranked h'
  · intro hrank
    obtain ⟨l', hsorted⟩ := exists_answers (by_rank rank f) l
    have hbefore := h.before_of_by_rank hrank hsorted
    have hsame : l'.map f = l.map f := h.eq_of_perm hbefore (hsorted.perm.map f)
    exact ⟨l', ⟨hsorted.perm, hsorted.sorted.imp rank_le_of_by_rank⟩, a, by rwa [hsame]⟩

end Ranked

end Tiles

/-! ## Laid out by length -/

section Place

variable {τ α : Type*} [AddCommGroup τ] [LinearOrder τ] [IsOrderedAddMonoid τ]
variable {length : α → τ} {a b : τ} {xs ys : List α}

/-- Each item takes its length, from where the one before it stops. -/
def place (length : α → τ) (a : τ) : List α → List (α × Interval τ)
  | [] => []
  | x :: xs => (x, ⟨a, a + length x⟩) :: place length (a + length x) xs

omit [LinearOrder τ] [IsOrderedAddMonoid τ] in
theorem place_append : place length a (xs ++ ys) =
    place length a xs ++ place length (a + (xs.map length).sum) ys := by
  induction xs generalizing a with
  | nil => simp only [List.nil_append, List.map_nil, List.sum_nil, add_zero, place]
  | cons x xs ih =>
    rw [List.cons_append, place, ih, place, List.map_cons, List.sum_cons, add_assoc,
      List.cons_append]

omit [LinearOrder τ] [IsOrderedAddMonoid τ] in
theorem place_map_fst : (place length a xs).map Prod.fst = xs := by
  induction xs generalizing a with
  | nil => rfl
  | cons x xs ih => rw [place, List.map_cons, ih]

omit [LinearOrder τ] [IsOrderedAddMonoid τ] in
/-- An item starts where the lengths of those before it are over. -/
theorem mem_place {p : α × Interval τ} : p ∈ place length a xs ↔
    ∃ before x after, xs = before ++ x :: after ∧
      p = (x, ⟨a + (before.map length).sum, a + (before.map length).sum + length x⟩) := by
  constructor
  · intro hp
    induction xs generalizing a with
    | nil => exact absurd hp List.not_mem_nil
    | cons x xs ih =>
      rcases List.mem_cons.1 hp with rfl | hp
      · exact ⟨[], x, xs, rfl, by rw [List.map_nil, List.sum_nil, add_zero]⟩
      · obtain ⟨before, y, after, hxs, hp⟩ := ih hp
        refine ⟨x :: before, y, after, by rw [hxs, List.cons_append], ?_⟩
        rw [hp, List.map_cons, List.sum_cons, add_assoc]
  · rintro ⟨before, x, after, rfl, rfl⟩
    rw [place_append, place]
    exact List.mem_append_right _ List.mem_cons_self

/-- **Items lie end to end** if none has a negative length. -/
theorem tiles_place_iff : Tiles a ((place length a xs).map Prod.snd) b ↔
    (∀ x ∈ xs, 0 ≤ length x) ∧ b = a + (xs.map length).sum := by
  induction xs generalizing a with
  | nil =>
    rw [List.map_nil, List.sum_nil, add_zero]
    exact ⟨fun h => ⟨fun x hx => absurd hx List.not_mem_nil, h.symm⟩, fun h => h.2.symm⟩
  | cons x xs ih =>
    rw [place, List.map_cons, List.map_cons, List.sum_cons, List.forall_mem_cons, ← add_assoc]
    show a = a ∧ a ≤ a + length x ∧ Tiles (a + length x) _ b ↔ _
    rw [ih, le_add_iff_nonneg_right, and_assoc]
    exact ⟨fun h => h.2, fun h => ⟨rfl, h⟩⟩

/-- Lengths that are not negative add up to none if each is none. -/
theorem sum_length_eq_zero_iff (h : ∀ x ∈ xs, 0 ≤ length x) :
    (xs.map length).sum = 0 ↔ ∀ x ∈ xs, length x = 0 := by
  induction xs with
  | nil => simp
  | cons x xs ih =>
    obtain ⟨hx, hxs⟩ := List.forall_mem_cons.1 h
    have hsum : 0 ≤ (xs.map length).sum := List.sum_nonneg (by simpa using hxs)
    rw [List.map_cons, List.sum_cons, add_eq_zero_iff_of_nonneg hx hsum, ih hxs,
      List.forall_mem_cons]

/-- Of no pair of items, with what lies between them, does `R` fail. -/
def Spread (R : α → List α → α → Prop) (xs : List α) : Prop :=
  ∀ before x between y after, xs = before ++ x :: (between ++ y :: after) → R x between y

theorem spread_cons {R : α → List α → α → Prop} {x : α} : Spread R (x :: xs) ↔
    (∀ between y after, xs = between ++ y :: after → R x between y) ∧ Spread R xs := by
  constructor
  · intro h
    refine ⟨fun between y after hxs => h [] x between y after (by rw [hxs, List.nil_append]), ?_⟩
    intro before z between y after hxs
    exact h (x :: before) z between y after (by rw [hxs, List.cons_append])
  · rintro ⟨hx, hxs⟩ before z between y after heq
    rcases before with - | ⟨w, before⟩
    · obtain ⟨rfl, htail⟩ := List.cons.inj heq
      exact hx between y after htail
    · obtain ⟨-, htail⟩ := List.cons.inj heq
      exact hxs before z between y after htail

theorem spread_of_pairwise {P : α → α → Prop} {R : α → List α → α → Prop}
    (hR : ∀ x between y, P x y → R x between y) (h : xs.Pairwise P) : Spread R xs := by
  rintro before x between y after rfl
  have htail := (List.pairwise_append.1 h).2.1
  exact hR x between y ((List.pairwise_cons.1 htail).1 y (by simp))

/-- Only what the list has is asked about. -/
theorem spread_congr {Q R : α → List α → α → Prop}
    (h : ∀ x between y, (∀ z ∈ x :: (between ++ [y]), z ∈ xs) → (Q x between y ↔ R x between y)) :
    Spread Q xs ↔ Spread R xs := by
  have hmem : ∀ before x between y after, xs = before ++ x :: (between ++ y :: after) →
      ∀ z ∈ x :: (between ++ [y]), z ∈ xs := by
    rintro before x between y after rfl z hz
    simp only [List.mem_cons, List.mem_append, List.not_mem_nil, or_false] at hz ⊢
    tauto
  constructor
  · intro hQ before x between y after hxs
    exact (h x between y (hmem before x between y after hxs)).1 (hQ before x between y after hxs)
  · intro hR before x between y after hxs
    exact (h x between y (hmem before x between y after hxs)).2 (hR before x between y after hxs)

omit [LinearOrder τ] [IsOrderedAddMonoid τ] in
/-- **What holds of every two of the intervals** holds of every two items where they are. -/
theorem pairwise_place_iff {R : α × Interval τ → α × Interval τ → Prop} {Q : α → List α → α → Prop}
    (hR : ∀ (c : τ) x between y, R (x, ⟨c, c + length x⟩)
      (y, ⟨c + length x + (between.map length).sum,
        c + length x + (between.map length).sum + length y⟩) ↔ Q x between y) :
    (place length a xs).Pairwise R ↔ Spread Q xs := by
  induction xs generalizing a with
  | nil =>
    refine ⟨fun _ before x between y after h => ?_, fun _ => List.Pairwise.nil⟩
    exact absurd h.symm (List.append_ne_nil_of_right_ne_nil _ (List.cons_ne_nil _ _))
  | cons x xs ih =>
    rw [place, List.pairwise_cons, ih, spread_cons]
    refine and_congr_left' ?_
    constructor
    · intro h between y after hxs
      exact (hR a x between y).1 (h _ (mem_place.2 ⟨between, y, after, hxs, rfl⟩))
    · intro h q hq
      obtain ⟨between, y, after, hxs, rfl⟩ := mem_place.1 hq
      exact (hR a x between y).2 (h between y after hxs)

end Place

end Interval

end EnvMgr
