/-
Equations solved along an order.

A pass visits the keys of an order and writes, under each, a value computed from the entries
written so far. If the order puts every key after those its value is computed from, the pass
reads nothing it has not written, and what it leaves is the solution of the equations it
computed by.

Along a well-founded relation, an entry is computed from the entries it needs. What solves the
equations lies below whatever they do not raise, so it is the least such thing; it grows with the
equations; and it is the only solution.
-/
import Mathlib.Data.List.Nodup
import Mathlib.Logic.Function.Basic
import Mathlib.Order.Basic
import Mathlib.Order.WellFounded

namespace EnvMgr

variable {ι β σ : Type*} [DecidableEq ι]

/-- `for i in order: d[i] = g(i, d)`. -/
def fill (g : ι → (ι → β) → β) (init : ι → β) (order : List ι) : ι → β :=
  order.foldl (fun d i => Function.update d i (g i d)) init

variable {g : ι → (ι → β) → β}

theorem fill_append (init : ι → β) (as bs : List ι) :
    fill g init (as ++ bs) = fill g (fill g init as) bs :=
  List.foldl_append

theorem fill_cons (init : ι → β) (i : ι) (order : List ι) :
    fill g init (i :: order) = fill g (Function.update init i (g i init)) order := rfl

/-- A pass leaves the keys it does not visit. -/
theorem fill_of_not_mem {init : ι → β} {order : List ι} {i : ι} (hi : i ∉ order) :
    fill g init order i = init i := by
  induction order generalizing init with
  | nil => rfl
  | cons j order ih =>
    rw [List.mem_cons, not_or] at hi
    obtain ⟨hij, hrest⟩ := hi
    rw [fill_cons, ih hrest, Function.update_of_ne hij]

/-- The value under `i` is computed from the entries under the keys that `i` needs. -/
def ReadsOnly (g : ι → (ι → β) → β) (needs : ι → ι → Prop) : Prop :=
  ∀ i d d', (∀ j, needs j i → d j = d' j) → g i d = g i d'

/-- **The equations of a pass.** -/
theorem fill_eq {needs : ι → ι → Prop} (hreads : ReadsOnly g needs) {order : List ι}
    (hnodup : order.Nodup) (hordered : order.Pairwise fun a b => ¬ needs b a)
    (hloopless : ∀ i, ¬ needs i i) (init : ι → β) {i : ι} (hi : i ∈ order) :
    fill g init order i = g i (fill g init order) := by
  obtain ⟨as, bs, rfl⟩ := List.append_of_mem hi
  have hafter : ∀ b ∈ bs, ¬ needs b i := by
    have hpair := (List.pairwise_append.1 hordered).2.1
    exact (List.pairwise_cons.1 hpair).1
  have hib : i ∉ bs := by
    have hdisjoint := (List.nodup_append.1 hnodup).2.1
    exact (List.nodup_cons.1 hdisjoint).1
  rw [fill_append, fill_cons, fill_of_not_mem hib, Function.update_self]
  -- what `i` needs was written before `i` and is not written again
  refine hreads i _ _ (fun j hj => ?_)
  have hji : j ≠ i := by
    rintro rfl
    exact hloopless j hj
  have hjb : j ∉ bs := fun hmem => hafter j hmem hj
  rw [fill_of_not_mem hjb, Function.update_of_ne hji]

/-- A loop whose every turn writes one entry fills a dictionary. -/
theorem fill_of_step {get : σ → ι → β} {step : σ → ι → σ} {order : List ι}
    (hstep : ∀ s, ∀ i ∈ order, get (step s i) = Function.update (get s) i (g i (get s))) (s : σ) :
    get (order.foldl step s) = fill g (get s) order := by
  induction order generalizing s with
  | nil => rfl
  | cons i order ih =>
    have hrest := ih fun s j hj => hstep s j (List.mem_cons_of_mem i hj)
    rw [List.foldl_cons, hrest, hstep s i List.mem_cons_self, fill_cons]

end EnvMgr

/-! ## Along a well-founded relation -/

namespace EnvMgr.Earliest

variable {ι β : Type*} {needs : ι → ι → Prop} {on : ι → Prop} {g g' : ι → (ι → β) → β}
  {s d : ι → β}

section Preorder

variable [Preorder β]

/-- On larger entries the second equations give larger values. -/
def Below (on : ι → Prop) (needs : ι → ι → Prop) (g g' : ι → (ι → β) → β) : Prop :=
  ∀ i d d', on i → (∀ j, needs j i → d j ≤ d' j) → g i d ≤ g' i d'

/-- **Two sides compared.** What the first equations do not lower is at most what the second
do not raise. -/
theorem solution_le (hwf : WellFounded needs) (hclosed : ∀ j i, needs j i → on j)
    (hbelow : Below on needs g g') (hs : ∀ i, on i → s i ≤ g i s) (hd : ∀ i, on i → g' i d ≤ d i)
    {i : ι} (hi : on i) : s i ≤ d i := by
  induction i using hwf.induction with
  | h i ih =>
    have hneeds : ∀ j, needs j i → s j ≤ d j := fun j hj => ih j hj (hclosed j i hj)
    calc s i ≤ g i s := hs i hi
      _ ≤ g' i d := hbelow i s d hi hneeds
      _ ≤ d i := hd i hi

end Preorder

/-- **There is one solution.** -/
theorem solution_unique [PartialOrder β] (hwf : WellFounded needs)
    (hclosed : ∀ j i, needs j i → on j) (hbelow : Below on needs g g)
    (hs : ∀ i, on i → s i = g i s) (hd : ∀ i, on i → d i = g i d) {i : ι} (hi : on i) :
    s i = d i :=
  le_antisymm
    (solution_le hwf hclosed hbelow (fun i hi => (hs i hi).le) (fun i hi => (hd i hi).ge) hi)
    (solution_le hwf hclosed hbelow (fun i hi => (hd i hi).le) (fun i hi => (hs i hi).ge) hi)

end EnvMgr.Earliest
