/-
Walking a sorted list page by page.

`ORDER BY` takes several keys, each of which says of two rows only that one may come before the
other. Where all of them leave two rows open, the database may put either first, and differently
from one query to the next. So the pages of a list, each of which is cut out of an answer of its
own, are those of one list only where the keys together leave nothing open.
-/
import Mathlib.Data.List.Sort

namespace EnvMgr.Paging

variable {α κ : Type*}

/-! ## Sort keys -/

/-- One key of an `ORDER BY`. -/
structure Term (α : Type*) where
  le : α → α → Prop
  total : ∀ a b, le a b ∨ le b a
  trans : ∀ {a b c}, le a b → le b c → le a c

/-- By a value in an order. -/
def Term.by_key [LinearOrder κ] (key : α → κ) : Term α where
  le a b := key a ≤ key b
  total a b := le_total (key a) (key b)
  trans := le_trans

def Term.reverse (t : Term α) : Term α where
  le a b := t.le b a
  total a b := t.total b a
  trans hab hbc := t.trans hbc hab

/-- The keys one after the other: a later one decides what the earlier ones leave open. -/
def lex : List (Term α) → α → α → Prop
  | [], _, _ => True
  | t :: ts, a, b => t.le a b ∧ (t.le b a → lex ts a b)

variable {terms : List (Term α)} {rows : List α}

theorem lex_total (terms : List (Term α)) (a b : α) : lex terms a b ∨ lex terms b a := by
  induction terms with
  | nil => exact Or.inl trivial
  | cons t ts ih =>
    by_cases hab : t.le a b
    · by_cases hba : t.le b a
      · exact ih.imp (fun h => ⟨hab, fun _ => h⟩) fun h => ⟨hba, fun _ => h⟩
      · exact Or.inl ⟨hab, fun h => absurd h hba⟩
    · have hba := (t.total a b).resolve_left hab
      exact Or.inr ⟨hba, fun h => absurd h hab⟩

theorem lex_trans {a b c : α} (hab : lex terms a b) (hbc : lex terms b c) : lex terms a c := by
  induction terms with
  | nil => trivial
  | cons t ts ih =>
    refine ⟨t.trans hab.1 hbc.1, fun hca => ?_⟩
    -- the first key puts all three together, and the others decide
    have hba : t.le b a := t.trans hbc.1 hca
    have hcb : t.le c b := t.trans hca hab.1
    exact ih (hab.2 hba) (hbc.2 hcb)

/-- A key that tells any two of the rows apart. -/
def Separates (t : Term α) (rows : List α) : Prop :=
  ∀ a ∈ rows, ∀ b ∈ rows, t.le a b → t.le b a → a = b

/-- One such key is enough, wherever it stands. -/
theorem lex_antisymm {t : Term α} (ht : t ∈ terms) (hsep : Separates t rows) {a b : α}
    (ha : a ∈ rows) (hb : b ∈ rows) (hab : lex terms a b) (hba : lex terms b a) : a = b := by
  induction terms with
  | nil => cases ht
  | cons t' ts ih =>
    rcases List.mem_cons.1 ht with rfl | ht
    · exact hsep a ha b hb hab.1 hba.1
    · exact ih ht (hab.2 hba.1) (hba.2 hab.1)

/-! ## Answers -/

/-- What the database may answer: the rows, in an order that no key forbids. -/
structure Answers (terms : List (Term α)) (rows answer : List α) : Prop where
  perm : answer.Perm rows
  sorted : answer.Pairwise (lex terms)

theorem exists_answers (terms : List (Term α)) (rows : List α) :
    ∃ answer, Answers terms rows answer := by
  classical
  have htotal : Std.Total (lex terms) := ⟨lex_total terms⟩
  have htrans : IsTrans α (lex terms) := ⟨fun _ _ _ => lex_trans⟩
  exact ⟨rows.insertionSort (lex terms), List.perm_insertionSort _ rows,
    List.pairwise_insertionSort _ rows⟩

/-- Where a key separates the rows there is one answer. -/
theorem Answers.unique {t : Term α} (ht : t ∈ terms) (hsep : Separates t rows)
    {answer answer' : List α} (h : Answers terms rows answer) (h' : Answers terms rows answer') :
    answer' = answer := by
  refine List.Perm.eq_of_pairwise (fun a b ha hb hab hba => ?_) h'.sorted h.sorted
    (h'.perm.trans h.perm.symm)
  exact lex_antisymm ht hsep (h'.perm.mem_iff.1 ha) (h.perm.mem_iff.1 hb) hab hba

/-! ## Pages -/

/-- `LIMIT limit OFFSET offset`. -/
def window (limit offset : ℕ) (rows : List α) : List α := (rows.drop offset).take limit

/-- The first `n` pages of one list are its beginning. -/
theorem windows_of_one (limit n : ℕ) (rows : List α) :
    (List.range n).flatMap (fun i => window limit (i * limit) rows) = rows.take (n * limit) := by
  induction n with
  | zero => simp
  | succ n ih =>
    rw [List.range_succ, List.flatMap_append, ih, List.flatMap_singleton, window, Nat.succ_mul,
      List.take_add]

/-- **The walk.** Where a key separates the rows, pages that are each cut out of an answer of their
own make up one answer, once they are enough for all the rows. -/
theorem walk {t : Term α} (ht : t ∈ terms) (hsep : Separates t rows) {answers : ℕ → List α}
    (h : ∀ i, Answers terms rows (answers i)) {limit n : ℕ} (hn : rows.length ≤ n * limit) :
    (List.range n).flatMap (fun i => window limit (i * limit) (answers i)) = answers 0 := by
  have hsame : ∀ i, answers i = answers 0 := fun i => (h 0).unique ht hsep (h i)
  simp only [hsame]
  rw [windows_of_one, List.take_of_length_le]
  rw [(h 0).perm.length_eq]
  exact hn

end EnvMgr.Paging
