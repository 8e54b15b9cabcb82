/-
Relations without a cycle.

A dependency graph and a preference are sound for the same reason: no path leads
from a thing back to itself. A rank that falls along every step rules cycles out;
in a finite set without one, something has no predecessor left in the set; and
edges added into one point close a cycle exactly when that point already leads to
the start of one of them.
-/
import Mathlib.Data.Fintype.Card
import Mathlib.Data.Set.Finite.List
import Mathlib.Logic.Relation
import Mathlib.Order.WellFounded

namespace EnvMgr

open Relation

variable {α : Type*} {r s : α → α → Prop}

/-- No path of one or more steps leads back to where it began. -/
def Acyclic (r : α → α → Prop) : Prop := ∀ a, ¬ TransGen r a a

theorem Acyclic.mono (h : Acyclic s) (hrs : ∀ a b, r a b → s a b) : Acyclic r := by
  intro a hpath
  exact h a (TransGen.mono hrs _ _ hpath)

/-- A rank that every step raises. -/
theorem acyclic_of_rank {β : Type*} [Preorder β] (rank : α → β)
    (h : ∀ a b, r a b → rank a < rank b) : Acyclic r := by
  have hpath : ∀ a b, TransGen r a b → rank a < rank b := by
    intro a b hab
    induction hab with
    | single hstep => exact h a _ hstep
    | tail _ hstep ih => exact ih.trans (h _ _ hstep)
  intro a haa
  exact lt_irrefl _ (hpath a a haa)

/-- **A finite set has a first element.** If every element of a non-empty list had
a predecessor in it, following predecessors would close a cycle. -/
theorem Acyclic.exists_first (h : Acyclic r) {xs : List α} (hne : xs ≠ []) :
    ∃ x ∈ xs, ∀ p ∈ xs, ¬ r p x := by
  -- a transitive relation without cycles is well-founded on the finite type of elements
  let below : {x // x ∈ xs} → {x // x ∈ xs} → Prop := fun a b => TransGen r a.1 b.1
  have htrans : IsTrans {x // x ∈ xs} below := ⟨fun _ _ _ hab hbc => TransGen.trans hab hbc⟩
  have hirrefl : Std.Irrefl below := ⟨fun a => h a.1⟩
  have hfinite : Finite {x // x ∈ xs} := (List.finite_toSet xs).to_subtype
  have hwf : WellFounded below := Finite.wellFounded_of_trans_of_irrefl below
  obtain ⟨x, hx⟩ := List.exists_mem_of_ne_nil xs hne
  obtain ⟨m, -, hm⟩ := hwf.has_min Set.univ ⟨⟨x, hx⟩, trivial⟩
  refine ⟨m.1, m.2, fun p hp hpm => ?_⟩
  exact hm ⟨p, hp⟩ trivial (TransGen.single hpm)

/-- An acyclic relation all of whose starts are in a finite set is well-founded. -/
theorem Acyclic.wellFounded (h : Acyclic r) {xs : List α} (hxs : ∀ a b, r a b → a ∈ xs) :
    WellFounded r := by
  classical
  refine WellFounded.wellFounded_iff_has_min.2 fun s ⟨x, hx⟩ => ?_
  by_cases hmeet : xs.filter (· ∈ s) = []
  · -- nothing in `s` has a successor at all
    refine ⟨x, hx, fun a ha hax => ?_⟩
    have hmem : a ∈ xs.filter (· ∈ s) := List.mem_filter.2 ⟨hxs a x hax, by simpa using ha⟩
    rw [hmeet] at hmem
    cases hmem
  · obtain ⟨m, hm, hfirst⟩ := h.exists_first hmeet
    have hms : m ∈ s := by simpa using (List.mem_filter.1 hm).2
    refine ⟨m, hms, fun a ha ham => hfirst a ?_ ham⟩
    exact List.mem_filter.2 ⟨hxs a m ham, by simpa using ha⟩

theorem Acyclic.swap (h : Acyclic r) : Acyclic fun a b => r b a := by
  intro a hpath
  exact h a (transGen_swap.1 hpath)

/-! ## Edges added into one point -/

/-- A path over old and added edges either uses none of the added ones or ends
with old ones from `t` on. -/
theorem path_into {t : α} {starts : α → Prop}
    {a b : α} (hpath : TransGen (fun x y => r x y ∨ y = t ∧ starts x) a b) :
    TransGen r a b ∨ ReflTransGen r t b := by
  induction hpath with
  | single hstep =>
    rcases hstep with hold | ⟨rfl, -⟩
    · exact Or.inl (TransGen.single hold)
    · exact Or.inr ReflTransGen.refl
  | tail _ hstep ih =>
    rcases hstep with hold | ⟨rfl, -⟩
    · rcases ih with hac | htc
      · exact Or.inl (hac.tail hold)
      · exact Or.inr (htc.tail hold)
    · exact Or.inr ReflTransGen.refl

/-- **New predecessors.** Edges from `starts` to `t` leave a relation without a
cycle acyclic exactly when none of them starts from where `t` already leads. -/
theorem acyclic_into_iff (h : Acyclic r) {t : α} {starts : α → Prop} :
    Acyclic (fun x y => r x y ∨ y = t ∧ starts x) ↔ ∀ x, starts x → ¬ ReflTransGen r t x := by
  constructor
  · intro hnew x hx hpath
    -- from `t` along the old path to `x`, and back by the new edge
    refine hnew t (TransGen.tail' (b := x) ?_ (Or.inr ⟨rfl, hx⟩))
    exact ReflTransGen.mono (fun _ _ hold => Or.inl hold) _ _ hpath
  · intro hstarts a hcycle
    -- some new edge lies on the cycle, so the cycle may be followed from `t` to its start
    have hreach : ∀ b c, TransGen (fun x y => r x y ∨ y = t ∧ starts x) b c →
        TransGen r b c ∨ ∃ x, starts x ∧ ReflTransGen r b x := by
      intro b c hbc
      induction hbc with
      | single hstep =>
        rcases hstep with hold | ⟨-, hx⟩
        · exact Or.inl (TransGen.single hold)
        · exact Or.inr ⟨b, hx, ReflTransGen.refl⟩
      | tail _ hstep ih =>
        rcases ih with hold | hfound
        · rcases hstep with hlast | ⟨-, hx⟩
          · exact Or.inl (hold.tail hlast)
          · exact Or.inr ⟨_, hx, hold.to_reflTransGen⟩
        · exact Or.inr hfound
    rcases path_into hcycle with hold | hta
    · exact h a hold
    · rcases hreach a a hcycle with hold | ⟨x, hx, hax⟩
      · exact h a hold
      · exact hstarts x hx (hta.trans hax)

/-- Without cycles, what a point leads to does not depend on the edges into it. -/
theorem reach_avoiding (h : Acyclic r) {t : α} (hsub : ∀ a b, s a b → r a b)
    (hkeep : ∀ a b, r a b → b ≠ t → s a b) (x : α) :
    ReflTransGen s t x ↔ ReflTransGen r t x := by
  constructor
  · intro hpath
    exact ReflTransGen.mono hsub _ _ hpath
  · intro hpath
    induction hpath with
    | refl => exact ReflTransGen.refl
    | tail hprefix hstep ih =>
      refine ih.tail (hkeep _ _ hstep ?_)
      rintro rfl
      have hcycle := TransGen.tail' hprefix hstep
      exact h _ hcycle

/-- **Rewired predecessors.** Where only edges into `t` are taken away, edges from
`starts` to `t` leave no cycle exactly when `t` did not lead to any of them. -/
theorem acyclic_rewire_iff (h : Acyclic r) {t : α} {starts : α → Prop}
    (hsub : ∀ a b, s a b → r a b) (hkeep : ∀ a b, r a b → b ≠ t → s a b) :
    Acyclic (fun x y => s x y ∨ y = t ∧ starts x) ↔ ∀ x, starts x → ¬ ReflTransGen r t x := by
  rw [acyclic_into_iff (h.mono hsub)]
  refine forall₂_congr fun x _ => ?_
  rw [reach_avoiding h hsub hkeep]

end EnvMgr
