/-
How far a pattern expands: `_repeat_weight` of `services/environment_compliance_service.py`.

A scan from left to right keeps the weight of each open group, of the level it is at, and of the
last item, which a count may still multiply. The text that is left stands for the position in
the pattern. Nothing is asked of the text, so the scan goes on to its end whatever it meets;
what it may stumble over is a count that `isdigit` takes for one and `int` cannot read.

So a pattern may be neither accepted nor refused. A count is told from a literal brace by
`isdigit`, which a superscript passes and a separator does not stop, and is then read by `int`,
which refuses both. The check of the weight stands outside the `try` around the compiler, so its
exception is nobody's.
-/
import EnvMgr.Compliance.Policy
import EnvMgr.Lib.Digits
import Mathlib.Data.List.TakeWhile
import Mathlib.Tactic.Ring

namespace EnvMgr.Patterns

open Compliance (MAX_PATTERN_LENGTH MAX_NAME_LENGTH Matcher truthy)

/-! ## The scan -/

structure Scan where
  /-- The weight of each open group, the innermost first. -/
  stack : List ℕ
  total : ℕ
  last : ℕ
  deriving DecidableEq

def Scan.flush (s : Scan) : Scan := { s with total := s.total + s.last, last := 0 }

/-- An item of its own. -/
def Scan.item (s : Scan) : Scan := { s.flush with last := 1 }

def Scan.open_group (s : Scan) : Scan :=
  { stack := s.flush.total :: s.flush.stack, total := 0, last := 0 }

def Scan.close_group (s : Scan) : Scan :=
  { stack := s.stack.tail, total := s.stack.headD 0, last := max s.flush.total 1 }

def Scan.count (s : Scan) (n : ℕ) : Scan := { s with last := s.last * n }

/-- `if i < n and pattern[i] == c: i += 1`. -/
def skip (c : Char) : List Char → List Char
  | [] => []
  | d :: text => if d = c then text else d :: text

/-- The members of a class, and the bracket that ends it. -/
def skip_members : List Char → List Char
  | [] => []
  | ']' :: text => text
  | ['\\'] => []
  | '\\' :: _ :: text => skip_members text
  | _ :: text => skip_members text

/-- What comes after the class. -/
def after_class (text : List Char) : List Char := skip_members (skip ']' (skip '^' text))

/-- `pattern[i + 1 : close]`. -/
def body (text : List Char) : List Char := text.takeWhile fun c => c ≠ '}'

/-- `pattern[close + 1 :]`. -/
def after_brace (text : List Char) : List Char := (text.dropWhile fun c => c ≠ '}').drop 1

/-- `[int(p) for p in parts if p.strip().isdigit()]`. -/
def counts : List (List Char) → Except Raised (List ℕ)
  | [] => .ok []
  | part :: parts =>
    if Digits.isdigit (Digits.strip part) then do
      let n ← get_or_raise (Digits.int_of part) .ValueError
      let rest ← counts parts
      .ok (n :: rest)
    else counts parts

/-- What the text after an opening brace multiplies the last item by, or `none` for a brace that
is a literal. -/
def quantifier (text : List Char) : Except Raised (Option ℕ) :=
  if '}' ∈ text then do
    let parts := (body text).splitOn ','
    let found ← counts parts
    if parts.length ≤ 2 ∧ (found ≠ [] ∨ Digits.strip (body text) = []) then
      .ok (some (found.max?.getD 1))
    else .ok none
  else .ok none

theorem length_skip (c : Char) (text : List Char) : (skip c text).length ≤ text.length := by
  cases text with
  | nil => exact le_rfl
  | cons d text =>
    rw [skip]
    split
    · exact Nat.le_succ _
    · exact le_rfl

theorem length_skip_members (text : List Char) : (skip_members text).length ≤ text.length := by
  fun_induction skip_members text <;> simp_all <;> omega

theorem length_after_class (text : List Char) : (after_class text).length ≤ text.length :=
  (length_skip_members _).trans ((length_skip _ _).trans (length_skip _ _))

theorem length_after_brace (text : List Char) : (after_brace text).length ≤ text.length := by
  rw [after_brace, List.length_drop]
  exact (Nat.sub_le _ _).trans (List.dropWhile_sublist _).length_le

/-- The loop. -/
def scan (s : Scan) : List Char → Except Raised Scan
  | [] => .ok s
  | '\\' :: text => scan s.item (text.drop 1)
  | '[' :: text => scan s.item (after_class text)
  | '(' :: text => scan s.open_group text
  | ')' :: text => scan s.close_group text
  | '{' :: text => do
    match ← quantifier text with
    | some n => scan (s.count n) (after_brace text)
    -- a literal brace
    | none => scan s.item text
  | _ :: text => scan s.item text
termination_by text => text.length
decreasing_by
  · exact Nat.lt_succ_of_le (List.drop_sublist 1 text).length_le
  · exact Nat.lt_succ_of_le (length_after_class text)
  · exact Nat.lt_succ_self _
  · exact Nat.lt_succ_self _
  · exact Nat.lt_succ_of_le (length_after_brace text)
  · exact Nat.lt_succ_self _
  · exact Nat.lt_succ_self _

def Scan.start : Scan := ⟨[], 0, 0⟩

/-- Anything left unclosed is counted too. -/
def Scan.weight (s : Scan) : ℕ := s.flush.total + s.stack.sum

def _repeat_weight (pattern : List Char) : Except Raised ℕ :=
  (scan Scan.start pattern).map Scan.weight

/-! ## Compiling -/

def MAX_REPEAT_WEIGHT : ℕ := 1000

/-- `_PatternUnusable`, or any other exception. -/
inductive Failure
  | _PatternUnusable (detail : String)
  | raised (e : Raised)

/-- `regex.compile`: the matcher, or the text of the exception. -/
abbrev Engine := String → Except String Matcher

def too_long : String := s!"A naming pattern may be at most {MAX_PATTERN_LENGTH} characters."

def too_heavy (weight : String) : String :=
  ("That pattern repeats itself too many times to compile safely — "
    ++ s!"it expands to roughly {weight} elements and the ceiling is {MAX_REPEAT_WEIGHT}. "
    ++ "Nested counted repeats multiply, so '(a\x7b100\x7d)\x7b100\x7d' is a hundred times "
    ++ s!"bigger than it looks. An environment name is at most {MAX_NAME_LENGTH} characters, "
    ++ "so no useful convention needs to be this large.")

def _compiled (engine : Engine) (pattern : String) : Except Failure Matcher :=
  if pattern.length > MAX_PATTERN_LENGTH then .error (._PatternUnusable too_long)
  else do
    let weight ← (_repeat_weight pattern.toList).mapError .raised
    if weight > MAX_REPEAT_WEIGHT then do
      let text ← get_or_raise (Digits.str_of weight) (.raised .ValueError)
      .error (._PatternUnusable (too_heavy text))
    else (engine pattern).mapError fun e =>
      ._PatternUnusable s!"That is not a valid regular expression: {e}"

/-- `_compiled` as the other services know it. -/
def external (engine : Engine) (lower : String → String) : Compliance.External where
  compile pattern :=
    match _compiled engine pattern with
    | .ok matcher => .ok matcher
    | .error (._PatternUnusable detail) => .error detail
    | .error (.raised _) => .error ""
  lower := lower

def Failure.http : Failure → Raised
  | ._PatternUnusable detail => EnvMgr.http 422 detail
  | .raised e => e

/-- Once the pattern is compiled, the example is matched against it. -/
def validate_pattern (engine : Engine) (lower : String → String)
    (pattern name_example : Option String) : Except Raised Unit :=
  match truthy pattern with
  | none => .ok ()
  | some pattern => do
    let _ ← (_compiled engine pattern).mapError Failure.http
    for_each (truthy name_example).toList fun text =>
      Compliance.validate_example (external engine lower) pattern text

/-! ## The property and its condition -/

/-- The weight is told, and the pattern is accepted or refused with a sentence, whether it is
compiled or validated. -/
structure Settles (engine : Engine) (pattern : String) : Prop where
  weight : ∃ weight, _repeat_weight pattern.toList = .ok weight
  compiled : (∃ matcher, _compiled engine pattern = .ok matcher) ∨
    ∃ detail, _compiled engine pattern = .error (._PatternUnusable detail)
  validated : ∀ lower name_example,
    validate_pattern engine lower (some pattern) name_example = .ok () ∨
      ∃ detail, validate_pattern engine lower (some pattern) name_example =
        .error (http 422 detail)

/-- What is between the braces is taken for a count. -/
def is_count (text : List Char) : Bool :=
  (text.splitOn ',').length ≤ 2 &&
    ((text.splitOn ',').any (fun part => Digits.isdigit (Digits.strip part)) || (Digits.strip text).isEmpty)

/-- What is between the braces that stand outside escapes, classes and counts. -/
def braces : List Char → List (List Char)
  | [] => []
  | '\\' :: text => braces (text.drop 1)
  | '[' :: text => braces (after_class text)
  | '{' :: text =>
    if '}' ∈ text then
      body text :: if is_count (body text) then braces (after_brace text) else braces text
    else braces text
  | _ :: text => braces text
termination_by text => text.length
decreasing_by
  · exact Nat.lt_succ_of_le (List.drop_sublist 1 text).length_le
  · exact Nat.lt_succ_of_le (length_after_class text)
  · exact Nat.lt_succ_of_le (length_after_brace text)
  · exact Nat.lt_succ_self _
  · exact Nat.lt_succ_self _
  · exact Nat.lt_succ_self _

/-- Every part that looks like a number is one that can be read. -/
def LegibleBody (text : List Char) : Prop :=
  ∀ part ∈ text.splitOn ',', Digits.isdigit (Digits.strip part) = true → Digits.Readable part

def Legible (pattern : List Char) : Prop := ∀ text ∈ braces pattern, LegibleBody text

/-! ## What the scan stumbles over -/

theorem counts_ok_iff {parts : List (List Char)} :
    (∃ found, counts parts = .ok found) ↔
      ∀ part ∈ parts, Digits.isdigit (Digits.strip part) = true → Digits.Readable part := by
  induction parts with
  | nil => exact iff_of_true ⟨[], rfl⟩ fun part hpart => absurd hpart List.not_mem_nil
  | cons part parts ih =>
    rw [List.forall_mem_cons, counts, ← ih, ← Digits.int_of_iff]
    by_cases hdigit : Digits.isdigit (Digits.strip part) = true
    · rw [if_pos hdigit]
      simp only [bind_eq_ok, get_or_raise_eq_ok, hdigit, true_implies]
      constructor
      · rintro ⟨_, n, hn, rest, hrest, -⟩
        exact ⟨⟨n, hn⟩, rest, hrest⟩
      · rintro ⟨⟨n, hn⟩, rest, hrest⟩
        exact ⟨n :: rest, n, hn, rest, hrest, rfl⟩
    · rw [if_neg hdigit]
      exact (and_iff_right fun h => absurd h hdigit).symm

theorem counts_eq_nil_iff {parts : List (List Char)} {found : List ℕ}
    (h : counts parts = .ok found) :
    found = [] ↔ ∀ part ∈ parts, Digits.isdigit (Digits.strip part) = false := by
  induction parts generalizing found with
  | nil =>
    obtain rfl := Except.ok.inj h
    exact iff_of_true rfl fun part hpart => absurd hpart List.not_mem_nil
  | cons part parts ih =>
    rw [counts] at h
    rw [List.forall_mem_cons]
    by_cases hdigit : Digits.isdigit (Digits.strip part) = true
    · rw [if_pos hdigit] at h
      simp only [bind_eq_ok] at h
      obtain ⟨n, -, rest, -, h⟩ := h
      obtain rfl := Except.ok.inj h
      exact iff_of_false (List.cons_ne_nil n rest) fun hall =>
        Bool.eq_false_iff.1 hall.1 hdigit
    · rw [if_neg hdigit] at h
      rw [ih h]
      exact (and_iff_right (Bool.eq_false_iff.2 hdigit)).symm

theorem quantifier_eq {text : List Char} (hclose : '}' ∈ text) :
    quantifier text = (counts ((body text).splitOn ',')).map fun found =>
      if ((body text).splitOn ',').length ≤ 2 ∧ (found ≠ [] ∨ Digits.strip (body text) = []) then
        some (found.max?.getD 1)
      else none := by
  rw [quantifier, if_pos hclose]
  dsimp only
  cases counts ((body text).splitOn ',') with
  | error e => rfl
  | ok found => exact (apply_ite Except.ok _ _ _).symm

/-- **A brace is read**, as a count or as a literal, if what looks like a number is one. -/
theorem quantifier_ok_iff {text : List Char} :
    (∃ found, quantifier text = .ok found) ↔ ('}' ∈ text → LegibleBody (body text)) := by
  by_cases hclose : '}' ∈ text
  · rw [quantifier_eq hclose, LegibleBody, ← counts_ok_iff]
    simp only [map_eq_ok, hclose, true_implies]
    constructor
    · rintro ⟨_, found, hfound, -⟩
      exact ⟨found, hfound⟩
    · rintro ⟨found, hfound⟩
      exact ⟨_, found, hfound, rfl⟩
  · rw [quantifier, if_neg hclose]
    exact iff_of_true ⟨none, rfl⟩ fun h => absurd h hclose

/-- Which of the two it is read as. -/
theorem quantifier_isSome {text : List Char} {found : Option ℕ} (h : quantifier text = .ok found) :
    found.isSome = true ↔ '}' ∈ text ∧ is_count (body text) = true := by
  by_cases hclose : '}' ∈ text
  · rw [quantifier_eq hclose, map_eq_ok] at h
    obtain ⟨numbers, hnumbers, rfl⟩ := h
    have hsome : numbers ≠ [] ↔ ∃ part ∈ (body text).splitOn ',',
        Digits.isdigit (Digits.strip part) = true := by
      rw [ne_eq, counts_eq_nil_iff hnumbers]
      simp
    simp only [is_count, hsome, hclose, true_and]
    split
    · rename_i hcount
      simpa using hcount
    · rename_i hliteral
      simpa using hliteral
  · rw [quantifier, if_neg hclose] at h
    obtain rfl := Except.ok.inj h
    exact iff_of_false (by simp) fun h => hclose h.1

/-- A character that the scan takes as an item of its own. -/
def plain (c : Char) : Prop := c ≠ '\\' ∧ c ≠ '[' ∧ c ≠ '(' ∧ c ≠ ')' ∧ c ≠ '{'

theorem scan_plain (s : Scan) {c : Char} (hc : plain c) (text : List Char) :
    scan s (c :: text) = scan s.item text := by
  obtain ⟨h₁, h₂, h₃, h₄, h₅⟩ := hc
  rw [scan] <;> assumption

theorem braces_other {c : Char} (h₁ : c ≠ '\\') (h₂ : c ≠ '[') (h₃ : c ≠ '{')
    (text : List Char) : braces (c :: text) = braces text := by
  rw [braces] <;> assumption

theorem legible_other {c : Char} (h₁ : c ≠ '\\') (h₂ : c ≠ '[') (h₃ : c ≠ '{')
    (text : List Char) : Legible (c :: text) ↔ Legible text := by
  rw [Legible, braces_other h₁ h₂ h₃, Legible]

/-- A brace is left behind as what it is read as. -/
theorem scan_brace {s out : Scan} {text : List Char} :
    scan s ('{' :: text) = .ok out ↔
      (∃ n, quantifier text = .ok (some n) ∧ scan (s.count n) (after_brace text) = .ok out) ∨
        (quantifier text = .ok none ∧ scan s.item text = .ok out) := by
  rw [scan, bind_eq_ok]
  constructor
  · rintro ⟨found, hfound, hout⟩
    cases found with
    | none => exact Or.inr ⟨hfound, hout⟩
    | some n => exact Or.inl ⟨n, hfound, hout⟩
  · rintro (⟨n, hfound, hout⟩ | ⟨hfound, hout⟩)
    · exact ⟨some n, hfound, hout⟩
    · exact ⟨none, hfound, hout⟩

/-- What is legible after a brace: what it holds, and the text after it as it is read. -/
theorem legible_brace {text : List Char} {found : Option ℕ} (h : quantifier text = .ok found) :
    Legible ('{' :: text) ↔ if found.isSome = true then Legible (after_brace text)
      else Legible text := by
  have hread := quantifier_ok_iff.1 ⟨found, h⟩
  rw [Legible, braces]
  by_cases hclose : '}' ∈ text
  · rw [if_pos hclose, List.forall_mem_cons, and_iff_right (hread hclose)]
    by_cases hcount : is_count (body text) = true
    · rw [if_pos hcount, if_pos ((quantifier_isSome h).2 ⟨hclose, hcount⟩), Legible]
    · rw [if_neg hcount, if_neg fun hsome => hcount ((quantifier_isSome h).1 hsome).2, Legible]
  · rw [if_neg hclose, if_neg fun hsome => hclose ((quantifier_isSome h).1 hsome).1, Legible]

/-- **The scan goes through** exactly if every brace on its way can be read. -/
theorem scan_ok_iff (s : Scan) (text : List Char) :
    (∃ out, scan s text = .ok out) ↔ Legible text := by
  induction s, text using scan.induct with
  | case1 s =>
    rw [Legible, scan, braces]
    exact iff_of_true ⟨s, rfl⟩ fun text htext => absurd htext List.not_mem_nil
  | case2 s text ih => rwa [Legible, scan, braces]
  | case3 s text ih => rwa [Legible, scan, braces]
  | case4 s text ih =>
    rwa [scan, legible_other (by decide) (by decide) (by decide)]
  | case5 s text ih =>
    rwa [scan, legible_other (by decide) (by decide) (by decide)]
  | case6 s text ih_count ih_literal =>
    by_cases hread : ∃ found, quantifier text = .ok found
    · obtain ⟨found, hfound⟩ := hread
      rw [legible_brace hfound]
      simp only [scan_brace, hfound, Except.ok.injEq]
      cases found with
      | none => simpa using ih_literal
      | some n => simpa using ih_count n
    -- the body of the brace is among those that have to be read
    · refine iff_of_false ?_ fun hlegible => ?_
      · rintro ⟨out, hout⟩
        rcases scan_brace.1 hout with ⟨n, hfound, -⟩ | ⟨hfound, -⟩
        · exact hread ⟨some n, hfound⟩
        · exact hread ⟨none, hfound⟩
      · rw [quantifier_ok_iff] at hread
        obtain ⟨hclose, hillegible⟩ := Classical.not_imp.1 hread
        refine hillegible (hlegible _ ?_)
        rw [braces, if_pos hclose]
        exact List.mem_cons_self
  | case7 s c text h₁ h₂ h₃ h₄ h₅ ih =>
    rwa [scan_plain s ⟨h₁, h₂, h₃, h₄, h₅⟩, legible_other h₁ h₂ h₅]

theorem weight_ok_iff {pattern : List Char} :
    (∃ weight, _repeat_weight pattern = .ok weight) ↔ Legible pattern := by
  rw [← scan_ok_iff Scan.start, _repeat_weight]
  simp only [map_eq_ok]
  constructor
  · rintro ⟨_, out, hout, -⟩
    exact ⟨out, hout⟩
  · rintro ⟨out, hout⟩
    exact ⟨_, out, hout, rfl⟩

/-! ## How large a weight can be -/

theorem counts_lt {parts : List (List Char)} {found : List ℕ} {k : ℕ}
    (h : counts parts = .ok found) (hparts : ∀ part ∈ parts, part.length ≤ k) :
    ∀ n ∈ found, n < 10 ^ k := by
  induction parts generalizing found with
  | nil =>
    obtain rfl := Except.ok.inj h
    exact fun n hn => absurd hn List.not_mem_nil
  | cons part parts ih =>
    obtain ⟨hpart, hparts⟩ := List.forall_mem_cons.1 hparts
    rw [counts] at h
    split at h
    · simp only [bind_eq_ok, get_or_raise_eq_ok] at h
      obtain ⟨n, hn, rest, hrest, h⟩ := h
      obtain rfl := Except.ok.inj h
      refine List.forall_mem_cons.2 ⟨?_, ih hrest hparts⟩
      exact (Digits.int_of_lt hn).trans_le (Nat.pow_le_pow_right (by norm_num) hpart)
    · exact ih h hparts

theorem quantifier_le {text : List Char} {n : ℕ} (h : quantifier text = .ok (some n)) :
    n ≤ 10 ^ (body text).length ∧ (body text).length + 1 + (after_brace text).length =
      text.length := by
  obtain ⟨hclose, -⟩ := (quantifier_isSome h).1 rfl
  constructor
  · rw [quantifier_eq hclose, map_eq_ok] at h
    obtain ⟨found, hfound, hn⟩ := h
    split at hn
    · obtain rfl := Option.some.inj hn
      cases hmax : found.max? with
      | none => exact Nat.one_le_pow _ _ (by norm_num)
      | some m =>
        have hm := List.max?_mem hmax
        exact (counts_lt hfound (fun part hpart => Digits.length_of_mem_splitOn hpart) m hm).le
    · cases hn
  · have hsplit := congrArg List.length (List.takeWhile_append_dropWhile
      (p := fun c => decide (c ≠ '}')) (l := text))
    have hsome : 0 < (text.dropWhile fun c => decide (c ≠ '}')).length := by
      rw [List.length_pos_iff]
      intro hnil
      have hall := List.dropWhile_eq_nil_iff.1 hnil '}' hclose
      simp at hall
    rw [List.length_append] at hsplit
    rw [body, after_brace, List.length_drop]
    omega

theorem weight_item (s : Scan) : s.item.weight = s.weight + 1 := by
  simp only [Scan.weight, Scan.item, Scan.flush]
  omega

theorem weight_open_group (s : Scan) : s.open_group.weight = s.weight := by
  simp only [Scan.weight, Scan.open_group, Scan.flush, List.sum_cons]
  omega

theorem weight_close_group (s : Scan) : s.close_group.weight ≤ s.weight + 1 := by
  have hstack : s.stack.headD 0 + s.stack.tail.sum = s.stack.sum := by
    cases s.stack with
    | nil => rfl
    | cons top stack => rw [List.headD_cons, List.tail_cons, List.sum_cons]
  simp only [Scan.weight, Scan.close_group, Scan.flush]
  omega

theorem weight_count (s : Scan) (n : ℕ) : (s.count n).weight ≤ s.weight * max n 1 := by
  have hlast : s.last * n ≤ s.last * max n 1 := Nat.mul_le_mul_left _ (le_max_left n 1)
  have hrest : s.total + s.stack.sum ≤ (s.total + s.stack.sum) * max n 1 :=
    Nat.le_mul_of_pos_right _ (lt_max_of_lt_right Nat.one_pos)
  have hsplit : s.weight * max n 1 = s.last * max n 1 + (s.total + s.stack.sum) * max n 1 := by
    simp only [Scan.weight, Scan.flush]
    ring
  rw [hsplit]
  simp only [Scan.weight, Scan.count, Scan.flush]
  omega

/-- **One more character, one more digit at most.** -/
theorem scan_weight_le (s : Scan) (text : List Char) {out : Scan} (h : scan s text = .ok out) :
    ∀ k, s.weight ≤ 10 ^ k → out.weight ≤ 10 ^ (k + text.length) := by
  have hsucc : ∀ {w k : ℕ}, w ≤ 10 ^ k → w + 1 ≤ 10 ^ (k + 1) := by
    intro w k hw
    have hpos : 1 ≤ 10 ^ k := Nat.one_le_pow _ _ (by norm_num)
    rw [pow_succ]
    omega
  -- the text that is left may be shorter than what follows the character
  have hshorter : ∀ {w k m n : ℕ}, w ≤ 10 ^ (k + 1 + m) → m ≤ n → w ≤ 10 ^ (k + (n + 1)) := by
    intro w k m n hw hle
    exact hw.trans (Nat.pow_le_pow_right (by norm_num) (by omega))
  induction s, text using scan.induct with
  | case1 s =>
    intro k hk
    rw [scan] at h
    obtain rfl := Except.ok.inj h
    exact hk
  | case2 s text ih =>
    intro k hk
    rw [scan] at h
    have hout := ih h (k + 1) ((weight_item s).le.trans (hsucc hk))
    exact hshorter hout (by simp)
  | case3 s text ih =>
    intro k hk
    rw [scan] at h
    have hout := ih h (k + 1) ((weight_item s).le.trans (hsucc hk))
    exact hshorter hout (length_after_class text)
  | case4 s text ih =>
    intro k hk
    rw [scan] at h
    have hout := ih h (k + 1) ((weight_open_group s).le.trans ((Nat.le_succ _).trans (hsucc hk)))
    exact hshorter hout le_rfl
  | case5 s text ih =>
    intro k hk
    rw [scan] at h
    have hout := ih h (k + 1) ((weight_close_group s).trans (hsucc hk))
    exact hshorter hout le_rfl
  | case6 s text ih_count ih_literal =>
    intro k hk
    rcases scan_brace.1 h with ⟨n, hfound, hout⟩ | ⟨-, hout⟩
    · obtain ⟨hn, hlength⟩ := quantifier_le hfound
      have hcount : (s.count n).weight ≤ 10 ^ (k + (body text).length) := by
        refine (weight_count s n).trans ?_
        rw [pow_add]
        exact Nat.mul_le_mul hk (max_le hn (Nat.one_le_pow _ _ (by norm_num)))
      refine (ih_count n hout _ hcount).trans (Nat.pow_le_pow_right (by norm_num) ?_)
      rw [List.length_cons]
      omega
    · have hout := ih_literal hout (k + 1) ((weight_item s).le.trans (hsucc hk))
      exact hshorter hout le_rfl
  | case7 s c text h₁ h₂ h₃ h₄ h₅ ih =>
    intro k hk
    rw [scan_plain s ⟨h₁, h₂, h₃, h₄, h₅⟩] at h
    have hout := ih h (k + 1) ((weight_item s).le.trans (hsucc hk))
    exact hshorter hout le_rfl

theorem weight_le {pattern : List Char} {weight : ℕ} (h : _repeat_weight pattern = .ok weight) :
    weight ≤ 10 ^ pattern.length := by
  rw [_repeat_weight, map_eq_ok] at h
  obtain ⟨out, hout, rfl⟩ := h
  have hle := scan_weight_le Scan.start pattern hout 0 (by decide)
  rwa [Nat.zero_add] at hle

/-! ## When a pattern is settled -/

section

variable {engine : Engine} {pattern : String}

/-- Once the weight is told, its text can be told too. -/
theorem compiled_of_weight (engine : Engine) {weight : ℕ} (h : _repeat_weight pattern.toList = .ok weight) :
    (∃ matcher, _compiled engine pattern = .ok matcher) ∨
      ∃ detail, _compiled engine pattern = .error (._PatternUnusable detail) := by
  unfold _compiled
  by_cases hlong : pattern.length > MAX_PATTERN_LENGTH
  · rw [if_pos hlong]
    exact Or.inr ⟨_, rfl⟩
  · rw [if_neg hlong, h]
    have hlength : pattern.toList.length ≤ 500 := by
      rw [String.length_toList]
      exact not_lt.1 hlong
    have htext : Digits.str_of weight = some (toString weight) := by
      refine Digits.str_of_eq_some ((weight_le h).trans_lt ?_)
      exact Nat.pow_lt_pow_right (by norm_num) (hlength.trans_lt (by decide))
    by_cases hheavy : weight > MAX_REPEAT_WEIGHT
    · refine Or.inr ⟨too_heavy (toString weight), ?_⟩
      change (if weight > MAX_REPEAT_WEIGHT then _ else _) = _
      rw [if_pos hheavy, htext]
      rfl
    · change (∃ matcher, (if weight > MAX_REPEAT_WEIGHT then _ else _) = _) ∨
        ∃ detail, (if weight > MAX_REPEAT_WEIGHT then _ else _) = _
      rw [if_neg hheavy]
      cases engine pattern with
      | ok matcher => exact Or.inl ⟨matcher, rfl⟩
      | error e => exact Or.inr ⟨_, rfl⟩

theorem validate_example_settles (ext : Compliance.External) (pattern text : String) :
    Compliance.validate_example ext pattern text = .ok () ∨
      ∃ detail, Compliance.validate_example ext pattern text = .error (http 422 detail) := by
  unfold Compliance.validate_example
  by_cases hlong : text.length > MAX_NAME_LENGTH
  · rw [raise_if, if_pos hlong]
    exact Or.inr ⟨_, rfl⟩
  · rw [raise_if, if_neg hlong]
    cases hmatches : Compliance.name_matches ext pattern text with
    | none => exact Or.inr ⟨_, rfl⟩
    | some verdict =>
      cases verdict with
      | true => exact Or.inl rfl
      | false => exact Or.inr ⟨_, rfl⟩

theorem truthy_eq {own : String} (h : truthy (some pattern) = some own) : own = pattern := by
  rw [truthy, Option.filter_eq_some_iff] at h
  exact (Option.some.inj h.1).symm

theorem validated_of_compiled (lower : String → String) (name_example : Option String)
    (h : (∃ matcher, _compiled engine pattern = .ok matcher) ∨
      ∃ detail, _compiled engine pattern = .error (._PatternUnusable detail)) :
    validate_pattern engine lower (some pattern) name_example = .ok () ∨
      ∃ detail, validate_pattern engine lower (some pattern) name_example =
        .error (http 422 detail) := by
  unfold validate_pattern
  cases htruthy : truthy (some pattern) with
  | none => exact Or.inl rfl
  | some own =>
    rw [truthy_eq htruthy]
    rcases h with ⟨matcher, hok⟩ | ⟨detail, hunusable⟩
    · simp only [hok]
      cases truthy name_example with
      | none => exact Or.inl rfl
      | some text =>
        rcases validate_example_settles (external engine lower) pattern text with
          hgood | ⟨detail, hbad⟩
        · refine Or.inl ?_
          change for_each [text] _ = _
          rw [for_each_eq_ok]
          intro x hx
          rw [List.mem_singleton.1 hx, hgood]
        · refine Or.inr ⟨detail, ?_⟩
          change (Compliance.validate_example (external engine lower) pattern text >>= _) = _
          rw [hbad]
          rfl
    · simp only [hunusable]
      exact Or.inr ⟨detail, rfl⟩

/-- **When a pattern ends in a verdict.** For every pattern and every engine: exactly if all
that looks like a number between its braces is one that `int` reads. -/
theorem settles_iff_legible (engine : Engine) (pattern : String) :
    Settles engine pattern ↔ Legible pattern.toList := by
  rw [← weight_ok_iff]
  constructor
  · intro h
    exact h.weight
  · rintro ⟨weight, hweight⟩
    have hcompiled := compiled_of_weight engine hweight
    exact ⟨⟨weight, hweight⟩, hcompiled, fun lower name_example =>
      validated_of_compiled lower name_example hcompiled⟩

/-- A superscript is a digit and no number. -/
theorem superscript_count_raises : ¬ ∀ (engine : Engine) (pattern : String),
    Settles engine pattern := by
  intro h
  obtain ⟨weight, hweight⟩ := (h (fun _ => .error "") "a\x7b²\x7d").weight
  have hraised : _repeat_weight "a\x7b²\x7d".toList = .error .ValueError := by
    decide +kernel
  rw [hraised] at hweight
  cases hweight

/-- Where the check does not raise, the other services know the compiler as it is. -/
theorem validate_pattern_external (lower : String → String) (name_example : Option String)
    (h : Legible pattern.toList) :
    Compliance.validate_pattern (external engine lower) (some pattern) name_example =
      validate_pattern engine lower (some pattern) name_example := by
  obtain ⟨weight, hweight⟩ := weight_ok_iff.2 h
  unfold Compliance.validate_pattern validate_pattern
  cases htruthy : truthy (some pattern) with
  | none => rfl
  | some own =>
    rw [truthy_eq htruthy]
    have hsame : (Compliance._compiled (external engine lower) pattern).mapError (http 422) =
        (_compiled engine pattern).mapError Failure.http := by
      unfold Compliance._compiled
      by_cases hlong : pattern.length > MAX_PATTERN_LENGTH
      · rw [if_pos hlong, _compiled, if_pos hlong]
        rfl
      · rw [if_neg hlong]
        rcases compiled_of_weight engine hweight with ⟨matcher, hok⟩ | ⟨detail, hbad⟩
        · simp only [external, hok]
          rfl
        · simp only [external, hbad]
          rfl
    simp only [hsame]

end

end EnvMgr.Patterns
