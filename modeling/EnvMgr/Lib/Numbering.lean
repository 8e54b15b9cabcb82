/-
Numbers given out within a series.

The rows of a table fall into series, and a new row takes one more than the highest number among
those rows of its series that count. The numbers of the rows that count then stay distinct. A row
that ceases to count keeps its number all the same, and the next row takes that number again
exactly if no row that counts has a higher one: `Freed` is that condition, and a series without
gaps is what makes it exact.
-/
import EnvMgr.Lib.Table
import Mathlib.Order.MinMax

namespace EnvMgr

/-- How the rows are numbered: the series of a row, and its number in the series. -/
structure Numbering (α κ : Type*) where
  series : α → κ
  number : α → ℕ

namespace Numbering

variable {α κ : Type*} {key : α → ℕ} (N : Numbering α κ) (t : Table α key)

/-- One more than the highest number of the rows that `p` selects. -/
def next (p : α → Bool) : ℕ := ((t.select p).map N.number).foldl max 0 + 1

/-- No two of the rows that count are in one series under one number. -/
def Distinct (counts : α → Bool) : Prop :=
  ∀ a ∈ t, ∀ b ∈ t,
    (counts a = true ∧ counts b = true ∧ N.series a = N.series b ∧ N.number a = N.number b) → a = b

/-- Numbers start at 1, and below the number of a row its series has every number. -/
structure Gapless : Prop where
  pos : ∀ r ∈ t, 0 < N.number r
  below : ∀ r ∈ t, ∀ k, 0 < k → k ≤ N.number r → ∃ q ∈ t, N.series q = N.series r ∧ N.number q = k

/-- A row of the series `s` has a higher number than each row of it that counts. -/
def Freed (counts : α → Bool) (s : κ) : Prop :=
  ∃ r ∈ t, N.series r = s ∧ ∀ q ∈ t, N.series q = s → counts q = true → N.number q < N.number r

variable {N t} {counts p : α → Bool} {new : Table.New key} {f : Table.Edit key}

/-! ## The next number -/

theorem foldl_max_lt_iff {xs : List ℕ} {a k : ℕ} :
    xs.foldl max a < k ↔ a < k ∧ ∀ x ∈ xs, x < k := by
  induction xs generalizing a with
  | nil => simp
  | cons x xs ih =>
    rw [List.foldl_cons, ih, max_lt_iff, List.forall_mem_cons, and_assoc]

theorem next_le_iff {k : ℕ} (hk : 0 < k) :
    N.next t p ≤ k ↔ ∀ r ∈ t, p r = true → N.number r < k := by
  rw [next, Nat.succ_le_iff, foldl_max_lt_iff]
  simp only [List.mem_map, Table.mem_select]
  constructor
  · rintro ⟨-, hall⟩ r hr hp
    exact hall _ ⟨r, ⟨hr, hp⟩, rfl⟩
  · intro hall
    refine ⟨hk, ?_⟩
    rintro _ ⟨r, ⟨hr, hp⟩, rfl⟩
    exact hall r hr hp

theorem next_pos : 0 < N.next t p := Nat.succ_pos _

theorem lt_next {r : α} (hr : r ∈ t) (hp : p r = true) : N.number r < N.next t p :=
  (next_le_iff next_pos).1 (le_refl _) r hr hp

/-- The number below the next one is taken, where there is one. -/
theorem exists_of_next {k : ℕ} (hk : 0 < k) (hlt : k < N.next t p) :
    ∃ r ∈ t, p r = true ∧ k ≤ N.number r := by
  by_contra hnone
  have hall : ∀ r ∈ t, p r = true → N.number r < k := by
    intro r hr hp
    by_contra hle
    exact hnone ⟨r, hr, hp, not_lt.1 hle⟩
  exact absurd ((next_le_iff hk).2 hall) (not_le.2 hlt)

/-! ## Rows that count keep distinct numbers -/

theorem distinct_empty : N.Distinct (Table.empty : Table α key) counts :=
  fun a ha => absurd ha (Table.not_mem_empty a)

theorem Distinct.insert (h : N.Distinct t counts)
    (hp : ∀ r ∈ t, counts r = true → N.series r = N.series (new.row t.next) → p r = true)
    (hnumber : N.number (new.row t.next) = N.next t p) : N.Distinct (t.insert new) counts := by
  refine Table.unique_insert (fun hc => ⟨hc.2.1, hc.1, hc.2.2.1.symm, hc.2.2.2.symm⟩) h ?_
  rintro a ha ⟨hcounts, -, hseries, heq⟩
  have hlt := lt_next (N := N) ha (hp a ha hcounts hseries)
  rw [heq, hnumber] at hlt
  exact lt_irrefl _ hlt

/-- What an update may do to a row: it stays in its series under its number, and does not come to
count again. -/
structure Keeps (N : Numbering α κ) (counts : α → Bool) (a b : α) : Prop where
  series : N.series b = N.series a
  number : N.number b = N.number a
  counts : counts b = true → counts a = true

theorem Keeps.refl (a : α) : Keeps N counts a a := ⟨rfl, rfl, id⟩

theorem Distinct.update (h : N.Distinct t counts) (hf : ∀ r, Keeps N counts r (f.apply r)) :
    N.Distinct (t.update p f) counts := by
  have hkeeps : ∀ a, Keeps N counts a (if p a then f.apply a else a) := by
    intro a
    split_ifs
    · exact hf a
    · exact Keeps.refl a
  refine Table.unique_update ?_ h
  rintro a b ⟨ha, hb, hseries, hnumber⟩
  refine ⟨(hkeeps a).counts ha, (hkeeps b).counts hb, ?_, ?_⟩
  · rw [← (hkeeps a).series, ← (hkeeps b).series, hseries]
  · rw [← (hkeeps a).number, ← (hkeeps b).number, hnumber]

/-! ## A series without gaps -/

theorem gapless_empty : N.Gapless (Table.empty : Table α key) :=
  ⟨fun r hr => absurd hr (Table.not_mem_empty r), fun r hr => absurd hr (Table.not_mem_empty r)⟩

theorem Gapless.insert (h : N.Gapless t)
    (hp : ∀ r ∈ t, p r = true → N.series r = N.series (new.row t.next))
    (hnumber : N.number (new.row t.next) = N.next t p) : N.Gapless (t.insert new) := by
  refine ⟨fun r hr => ?_, fun r hr k hk hle => ?_⟩
  · rcases Table.mem_insert.1 hr with hr | rfl
    · exact h.pos r hr
    · rw [hnumber]
      exact next_pos
  have hold : ∀ q ∈ t, k ≤ N.number q →
      ∃ q' ∈ t.insert new, N.series q' = N.series q ∧ N.number q' = k := by
    intro q hq hkq
    obtain ⟨q', hq', hsame⟩ := h.below q hq k hk hkq
    exact ⟨q', Table.mem_insert.2 (Or.inl hq'), hsame⟩
  rcases Table.mem_insert.1 hr with hr | rfl
  · exact hold r hr hle
  · rw [hnumber] at hle
    rcases hle.lt_or_eq with hlt | rfl
    · obtain ⟨q, hq, hpq, hkq⟩ := exists_of_next hk hlt
      rw [← hp q hq hpq]
      exact hold q hq hkq
    · exact ⟨_, Table.mem_insert.2 (Or.inr rfl), rfl, hnumber⟩

theorem Gapless.update (h : N.Gapless t) (hf : ∀ r, Keeps N counts r (f.apply r)) :
    N.Gapless (t.update p f) := by
  have hstays : ∀ q ∈ t, ∃ q' ∈ t.update p f, N.series q' = N.series q ∧
      N.number q' = N.number q := by
    intro q hq
    obtain ⟨q', hq', hkeeps⟩ := Table.retains_update Keeps.refl t p hf q hq
    exact ⟨q', hq', hkeeps.series, hkeeps.number⟩
  have hsame : ∀ r ∈ t, ∀ k, 0 < k → k ≤ N.number r →
      ∃ q ∈ t.update p f, N.series q = N.series r ∧ N.number q = k := by
    intro r hr k hk hle
    obtain ⟨q, hq, hseries, rfl⟩ := h.below r hr k hk hle
    obtain ⟨q', hq', hseries', hnumber'⟩ := hstays q hq
    exact ⟨q', hq', hseries'.trans hseries, hnumber'⟩
  refine ⟨fun r hr => ?_, fun r hr k hk hle => ?_⟩
  · rcases Table.mem_update_cases hr with ⟨q, hq, -, rfl⟩ | ⟨hr, -⟩
    · rw [(hf q).number]
      exact h.pos q hq
    · exact h.pos r hr
  · rcases Table.mem_update_cases hr with ⟨q, hq, -, rfl⟩ | ⟨hr, -⟩
    · rw [(hf q).number] at hle
      rw [(hf q).series]
      exact hsame q hq k hk hle
    · exact hsame r hr k hk hle

/-! ## When a number is given out again -/

/-- **A number is taken twice exactly if it was freed**: where no gap is below it, the next number
of the series `s` is that of a row already there exactly if a row that no longer counts has the
highest number of the series. -/
theorem taken_iff_freed (h : N.Gapless t) {s : κ}
    (hp : ∀ r ∈ t, p r = true ↔ N.series r = s ∧ counts r = true) :
    (∃ r ∈ t, N.series r = s ∧ N.number r = N.next t p) ↔ N.Freed t counts s := by
  constructor
  · rintro ⟨r, hr, hseries, hnumber⟩
    refine ⟨r, hr, hseries, fun q hq hs hcounts => ?_⟩
    rw [hnumber]
    exact lt_next hq ((hp q hq).2 ⟨hs, hcounts⟩)
  · rintro ⟨r, hr, hseries, htop⟩
    have hle : N.next t p ≤ N.number r := by
      refine (next_le_iff (h.pos r hr)).2 fun q hq hpq => ?_
      obtain ⟨hs, hcounts⟩ := (hp q hq).1 hpq
      exact htop q hq hs hcounts
    obtain ⟨q, hq, hs, hnumber⟩ := h.below r hr _ next_pos hle
    exact ⟨q, hq, hs.trans hseries, hnumber⟩

/-- So a new row leaves all the numbers distinct exactly if its series has none freed. -/
theorem distinct_all_insert_iff (h : N.Gapless t) (hall : N.Distinct t fun _ => true)
    (hp : ∀ r ∈ t, p r = true ↔ N.series r = N.series (new.row t.next) ∧ counts r = true)
    (hnumber : N.number (new.row t.next) = N.next t p) :
    N.Distinct (t.insert new) (fun _ => true) ↔
      ¬ N.Freed t counts (N.series (new.row t.next)) := by
  rw [← taken_iff_freed h hp, Distinct,
    Table.unique_insert_iff (fun hc => ⟨hc.2.1, hc.1, hc.2.2.1.symm, hc.2.2.2.symm⟩) hall, hnumber]
  simp only [true_and, not_exists, not_and]

end Numbering

end EnvMgr
