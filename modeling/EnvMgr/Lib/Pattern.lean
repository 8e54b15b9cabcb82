/-
A pattern without branches: letters to be found as they are, and runs of letters of a
class, some of them captured.

A run takes as many letters as it can and gives one back at a time until the rest of the
pattern fits; the search takes the first place of the text at which the pattern fits. What
is read is told from how it is found: `Reads` says which captures a text allows, `attempt`
and `search` pick one of them, and they pick one whenever there is one.
-/
import Mathlib.Data.List.Infix
import Mathlib.Data.List.TakeWhile
import Mathlib.Order.Lattice

namespace EnvMgr.Pattern

variable {α : Type*}

/-- One piece of a pattern. -/
inductive Item (α : Type*)
  | letter (c : α)
  /-- One letter of the class or more. -/
  | run (letters : α → Bool) (captured : Bool)

/-- A word to be found as it is. -/
def literal (word : List α) : List (Item α) := word.map Item.letter

def keep (captured : Bool) (taken : List α) (captures : List (List α)) : List (List α) :=
  if captured then taken :: captures else captures

/-- The lengths a run tries, the longest first. -/
def longest_first (n : ℕ) : List ℕ := ((List.range n).map (· + 1)).reverse

/-- The captures of the first fit at the start of the text. -/
def attempt [DecidableEq α] : List (Item α) → List α → Option (List (List α))
  | [], _ => some []
  | .letter _ :: _, [] => none
  | .letter c :: items, d :: text => if d = c then attempt items text else none
  | .run letters captured :: items, text =>
    (longest_first (text.takeWhile letters).length).findSome? fun n =>
      (attempt items (text.drop n)).map (keep captured (text.take n))

/-- The captures at the first place where the pattern fits. -/
def search [DecidableEq α] (items : List (Item α)) (text : List α) : Option (List (List α)) :=
  text.tails.findSome? (attempt items)

/-- The pattern fits the start of the text, with these captures. -/
inductive Reads : List (Item α) → List α → List (List α) → Prop
  | done {text : List α} : Reads [] text []
  | letter {c : α} {items : List (Item α)} {text : List α} {captures : List (List α)}
      (hrest : Reads items text captures) : Reads (.letter c :: items) (c :: text) captures
  | run {letters : α → Bool} {captured : Bool} {items : List (Item α)} {taken text : List α}
      {captures : List (List α)} (hsome : taken ≠ []) (htaken : ∀ c ∈ taken, letters c = true)
      (hrest : Reads items text captures) :
      Reads (.run letters captured :: items) (taken ++ text) (keep captured taken captures)

/-! ## What a pattern reads -/

theorem reads_literal_iff {word : List α} {items : List (Item α)} {text : List α}
    {captures : List (List α)} :
    Reads (literal word ++ items) text captures ↔
      ∃ rest, text = word ++ rest ∧ Reads items rest captures := by
  induction word generalizing text with
  | nil => simp [literal]
  | cons c word ih =>
    constructor
    · intro h
      cases h with
      | letter hrest =>
        obtain ⟨rest, rfl, hreads⟩ := ih.1 hrest
        exact ⟨rest, rfl, hreads⟩
    · rintro ⟨rest, rfl, hreads⟩
      exact .letter (ih.2 ⟨rest, rfl, hreads⟩)

theorem reads_letter_iff {c : α} {items : List (Item α)} {text : List α}
    {captures : List (List α)} :
    Reads (.letter c :: items) text captures ↔
      ∃ rest, text = c :: rest ∧ Reads items rest captures :=
  @reads_literal_iff α [c] items text captures

theorem reads_run_iff {letters : α → Bool} {captured : Bool} {items : List (Item α)}
    {text : List α} {captures : List (List α)} :
    Reads (.run letters captured :: items) text captures ↔
      ∃ taken rest others, text = taken ++ rest ∧ taken ≠ [] ∧
        (∀ c ∈ taken, letters c = true) ∧ Reads items rest others ∧
        captures = keep captured taken others := by
  constructor
  · intro h
    cases h with
    | run hsome htaken hrest => exact ⟨_, _, _, rfl, hsome, htaken, hrest, rfl⟩
  · rintro ⟨taken, rest, others, rfl, hsome, htaken, hrest, rfl⟩
    exact .run hsome htaken hrest

theorem reads_nil_iff {text : List α} {captures : List (List α)} :
    Reads [] text captures ↔ captures = [] := by
  constructor
  · intro h
    cases h
    rfl
  · rintro rfl
    exact .done

/-! ## What is found is read, and what can be read is found -/

section

variable [DecidableEq α]

theorem mem_longest_first {n k : ℕ} : k ∈ longest_first n ↔ 1 ≤ k ∧ k ≤ n := by
  simp only [longest_first, List.mem_reverse, List.mem_map, List.mem_range]
  constructor
  · rintro ⟨i, hi, rfl⟩
    omega
  · rintro ⟨hpos, hle⟩
    exact ⟨k - 1, by omega, by omega⟩

theorem longest_first_succ (n : ℕ) :
    longest_first (n + 1) = (n + 1) :: longest_first n := by
  simp [longest_first, List.range_succ]

omit [DecidableEq α] in
/-- A prefix of the letters of a class is within its run. -/
theorem length_le_takeWhile {letters : α → Bool} {taken rest : List α}
    (htaken : ∀ c ∈ taken, letters c = true) :
    taken.length ≤ ((taken ++ rest).takeWhile letters).length := by
  rw [List.takeWhile_append_of_pos htaken, List.length_append]
  exact Nat.le_add_right _ _

omit [DecidableEq α] in
/-- What a run takes is letters of its class, and at least one. -/
theorem take_longest_first {letters : α → Bool} {text : List α} {n : ℕ}
    (hn : n ∈ longest_first (text.takeWhile letters).length) :
    text.take n ≠ [] ∧ ∀ c ∈ text.take n, letters c = true := by
  obtain ⟨hpos, hle⟩ := mem_longest_first.1 hn
  have hlen : n ≤ text.length := le_trans hle (List.takeWhile_prefix letters).length_le
  have hwithin : text.take n <+: text.takeWhile letters := by
    refine List.prefix_of_prefix_length_le (List.take_prefix n text)
      (List.takeWhile_prefix letters) ?_
    rw [List.length_take]
    omega
  refine ⟨?_, fun c hc => List.mem_takeWhile_imp (hwithin.subset hc)⟩
  rw [← List.length_pos_iff, List.length_take]
  omega

theorem attempt_reads {items : List (Item α)} {text : List α} {captures : List (List α)}
    (h : attempt items text = some captures) : Reads items text captures := by
  induction items generalizing text captures with
  | nil =>
    cases h
    exact .done
  | cons item items ih =>
    cases item with
    | letter c =>
      cases text with
      | nil => cases h
      | cons d text =>
        rw [attempt] at h
        by_cases hd : d = c
        · rw [if_pos hd] at h
          subst hd
          exact .letter (ih h)
        · rw [if_neg hd] at h
          cases h
    | run letters captured =>
      rw [attempt] at h
      obtain ⟨n, hn, hfit⟩ := List.exists_of_findSome?_eq_some h
      obtain ⟨others, hothers, rfl⟩ := Option.map_eq_some_iff.1 hfit
      obtain ⟨hsome, hletters⟩ := take_longest_first hn
      have hreads : Reads (.run letters captured :: items) (text.take n ++ text.drop n)
          (keep captured (text.take n) others) :=
        .run hsome hletters (ih hothers)
      rwa [List.take_append_drop] at hreads

theorem attempt_complete {items : List (Item α)} {text : List α} {captures : List (List α)}
    (h : Reads items text captures) : ∃ found, attempt items text = some found := by
  induction h with
  | done => exact ⟨[], rfl⟩
  | @letter c items text captures hrest ih =>
    obtain ⟨found, hfound⟩ := ih
    exact ⟨found, by rw [attempt, if_pos rfl, hfound]⟩
  | @run letters captured items taken text captures hsome htaken hrest ih =>
    obtain ⟨found, hfound⟩ := ih
    rw [attempt, ← Option.isSome_iff_exists, List.findSome?_isSome_iff]
    -- the length that was taken is among the lengths that are tried
    refine ⟨taken.length, mem_longest_first.2 ⟨?_, length_le_takeWhile htaken⟩, ?_⟩
    · exact List.length_pos_iff.2 hsome
    · rw [List.drop_left, hfound]
      rfl

/-- What the search returns is read somewhere in the text. -/
theorem search_reads {items : List (Item α)} {text : List α} {captures : List (List α)}
    (h : search items text = some captures) :
    ∃ before rest, text = before ++ rest ∧ Reads items rest captures := by
  obtain ⟨rest, hrest, hfit⟩ := List.exists_of_findSome?_eq_some h
  obtain ⟨before, rfl⟩ := (List.mem_tails _ _).1 hrest
  exact ⟨before, rest, rfl, attempt_reads hfit⟩

/-- **The search fails** exactly where nothing can be read. -/
theorem search_eq_none_iff {items : List (Item α)} {text : List α} :
    search items text = none ↔
      ∀ before rest captures, text = before ++ rest → ¬ Reads items rest captures := by
  rw [search, List.findSome?_eq_none_iff]
  constructor
  · rintro hnone before rest captures rfl hreads
    obtain ⟨found, hfound⟩ := attempt_complete hreads
    rw [hnone rest ((List.mem_tails _ _).2 (List.suffix_append before rest))] at hfound
    cases hfound
  · intro hnone rest hrest
    obtain ⟨before, rfl⟩ := (List.mem_tails _ _).1 hrest
    cases hfit : attempt items rest with
    | none => rfl
    | some captures => exact absurd (attempt_reads hfit) (hnone before rest captures rfl)

/-! ## Where the first fit is known -/

/-- The search does not stop where the pattern does not fit. -/
theorem search_cons {items : List (Item α)} {c : α} {text : List α}
    (h : attempt items (c :: text) = none) : search items (c :: text) = search items text := by
  simp only [search, List.tails_cons, List.findSome?_cons, h]

/-- Nor where the first letter of a word is missing. -/
theorem search_append {c : α} {word : List α} {items : List (Item α)} {before text : List α}
    (h : c ∉ before) :
    search (literal (c :: word) ++ items) (before ++ text) =
      search (literal (c :: word) ++ items) text := by
  induction before with
  | nil => rfl
  | cons d before ih =>
    have hd : d ≠ c := fun hd => h (hd ▸ List.mem_cons_self)
    have hnone : attempt (literal (c :: word) ++ items) (d :: (before ++ text)) = none := if_neg hd
    rw [List.cons_append, search_cons hnone, ih fun hc => h (List.mem_cons_of_mem d hc)]

theorem search_eq_of_attempt {items : List (Item α)} {text : List α} {captures : List (List α)}
    (h : attempt items text = some captures) : search items text = some captures := by
  cases text with
  | nil => simp only [search, List.tails, List.findSome?_cons, h]
  | cons c text => simp only [search, List.tails_cons, List.findSome?_cons, h]

theorem attempt_literal (word : List α) (items : List (Item α)) (text : List α) :
    attempt (literal word ++ items) (word ++ text) = attempt items text := by
  induction word with
  | nil => rfl
  | cons c word ih =>
    rw [← ih]
    exact if_pos rfl

/-- A run that ends where its class does takes all of it, if the rest fits then. -/
theorem attempt_run {letters : α → Bool} (captured : Bool) {items : List (Item α)}
    {taken text : List α} {captures : List (List α)} (hsome : taken ≠ [])
    (htaken : ∀ c ∈ taken, letters c = true) (hend : ∀ c ∈ text.head?, letters c = false)
    (h : attempt items text = some captures) :
    attempt (.run letters captured :: items) (taken ++ text) =
      some (keep captured taken captures) := by
  have hstop : text.takeWhile letters = [] := by
    cases text with
    | nil => rfl
    | cons c text => rw [List.takeWhile_cons, hend c rfl]; rfl
  have hall : (taken ++ text).takeWhile letters = taken := by
    rw [List.takeWhile_append_of_pos htaken, hstop, List.append_nil]
  obtain ⟨n, hn⟩ := Nat.exists_eq_succ_of_ne_zero
    (Nat.pos_iff_ne_zero.1 (List.length_pos_iff.2 hsome))
  rw [attempt, hall, hn, Nat.succ_eq_add_one, longest_first_succ, List.findSome?_cons,
    ← Nat.succ_eq_add_one, ← hn, List.drop_left, List.take_left, h]
  rfl

end

end EnvMgr.Pattern
