/-
What `ORDER BY key LIMIT n` may answer.

Rows with equal keys come back in whatever order the database happens to read them, so
the statement has not one answer but a set of them. What every answer has in common is
that the rows it leaves out come, by their key, no sooner than those it returns; what
some answer can do is put either of two rows with equal keys first.
-/
import Mathlib.Data.List.Sort

namespace EnvMgr.OrderBy

variable {α κ : Type*} [LinearOrder κ] {key : α → κ} {rows answer : List α}

/-- `answer` has the rows in an order in which the keys do not fall. -/
structure Answers (key : α → κ) (rows answer : List α) : Prop where
  perm : answer.Perm rows
  sorted : answer.Pairwise fun a b => key a ≤ key b

instance [DecidableEq α] : Decidable (Answers key rows answer) :=
  decidable_of_iff (answer.Perm rows ∧ answer.Pairwise fun a b => key a ≤ key b)
    ⟨fun h => ⟨h.1, h.2⟩, fun h => ⟨h.perm, h.sorted⟩⟩

theorem Answers.mem_iff (h : Answers key rows answer) {a : α} : a ∈ answer ↔ a ∈ rows :=
  h.perm.mem_iff

/-! ## What every answer has in common -/

/-- What is cut off comes no sooner than what is kept. -/
theorem Answers.le_of_mem_drop (h : Answers key rows answer) {n : ℕ} {a b : α}
    (ha : a ∈ answer.take n) (hb : b ∈ answer.drop n) : key a ≤ key b := by
  have hsorted := h.sorted
  rw [← List.take_append_drop n answer, List.pairwise_append] at hsorted
  exact hsorted.2.2 a ha b hb

theorem Answers.mem_take_or_drop (h : Answers key rows answer) (n : ℕ) {a : α} (ha : a ∈ rows) :
    a ∈ answer.take n ∨ a ∈ answer.drop n := by
  rw [← List.mem_append, List.take_append_drop]
  exact h.mem_iff.2 ha

/-- A row with a smaller key than one that is kept is kept. -/
theorem Answers.mem_take_of_lt (h : Answers key rows answer) {n : ℕ} {a b : α} (ha : a ∈ rows)
    (hb : b ∈ answer.take n) (hlt : key a < key b) : a ∈ answer.take n := by
  rcases h.mem_take_or_drop n ha with ha | ha
  · exact ha
  · exact absurd hlt (not_lt.2 (h.le_of_mem_drop hb ha))

/-- A row is left out only for `n` rows that come no later. -/
theorem Answers.full_of_not_mem (h : Answers key rows answer) {n : ℕ} {a : α} (ha : a ∈ rows)
    (hnot : a ∉ answer.take n) :
    (answer.take n).length = n ∧ ∀ b ∈ answer.take n, key b ≤ key a := by
  have hdrop := (h.mem_take_or_drop n ha).resolve_left hnot
  constructor
  · have hpos := List.length_pos_of_mem hdrop
    rw [List.length_drop] at hpos
    rw [List.length_take]
    omega
  · intro b hb
    exact h.le_of_mem_drop hb hdrop

theorem Answers.sorted_drop (h : Answers key rows answer) (n : ℕ) :
    (answer.drop n).Pairwise fun a b => key a ≤ key b :=
  h.sorted.sublist (List.drop_sublist n answer)

theorem Answers.sorted_take (h : Answers key rows answer) (n : ℕ) :
    (answer.take n).Pairwise fun a b => key a ≤ key b :=
  h.sorted.sublist (List.take_sublist n answer)

/-- Where no two rows have equal keys there is one answer, in whatever order they are read. -/
theorem Answers.unique {rows' answer' : List α}
    (hkey : ∀ a ∈ rows, ∀ b ∈ rows, key a = key b → a = b) (h : Answers key rows answer)
    (h' : Answers key rows' answer') (hrows : rows'.Perm rows) : answer' = answer := by
  refine List.Perm.eq_of_pairwise (fun a b ha hb hab hba => ?_) h'.sorted h.sorted
    ((h'.perm.trans hrows).trans h.perm.symm)
  exact hkey a (hrows.mem_iff.1 (h'.mem_iff.1 ha)) b (h.mem_iff.1 hb) (le_antisymm hab hba)

/-- The rows of an answer that a further condition keeps answer that condition. -/
theorem Answers.filter (h : Answers key rows answer) (p : α → Bool) :
    Answers key (rows.filter p) (answer.filter p) :=
  ⟨h.perm.filter p, h.sorted.filter p⟩

/-! ## What some answer does -/

section Sorting

variable (key)

theorem answers_insertionSort (rows : List α) :
    Answers key rows (rows.insertionSort fun a b => key a ≤ key b) := by
  have htotal : Std.Total fun a b : α => key a ≤ key b := ⟨fun a b => le_total (key a) (key b)⟩
  have htrans : IsTrans α fun a b => key a ≤ key b := ⟨fun _ _ _ => le_trans⟩
  exact ⟨List.perm_insertionSort _ rows, List.pairwise_insertionSort _ rows⟩

theorem exists_answers (rows : List α) : ∃ answer, Answers key rows answer :=
  ⟨_, answers_insertionSort key rows⟩

end Sorting

/-- Of two rows either may come first, unless its key is greater: the sort is stable,
and the rows may be read in any order. -/
theorem exists_answers_pair {a b : α} (ha : a ∈ rows) (hb : b ∈ rows) (hne : a ≠ b)
    (hle : key a ≤ key b) : ∃ answer, Answers key rows answer ∧ [a, b].Sublist answer := by
  classical
  have hb' : b ∈ rows.erase a := (List.mem_erase_of_ne hne.symm).2 hb
  have hperm : (a :: b :: (rows.erase a).erase b).Perm rows :=
    ((List.perm_cons_erase hb').symm.cons a).trans (List.perm_cons_erase ha).symm
  have hfirst : [a, b].Sublist (a :: b :: (rows.erase a).erase b) :=
    ((List.nil_sublist _).cons_cons b).cons_cons a
  have hanswers := answers_insertionSort key (a :: b :: (rows.erase a).erase b)
  exact ⟨_, ⟨hanswers.perm.trans hperm, hanswers.sorted⟩,
    List.pair_sublist_insertionSort hle hfirst⟩

end EnvMgr.OrderBy
