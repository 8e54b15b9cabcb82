/-
Numbers as texts: `str.isdigit`, `str.strip` and `int` of Python, and the number an `int` prints.

Two notions of a digit are about. `isdigit` goes by any digit that Unicode has, a superscript
among them; `int` reads the decimal ones. Two notions of white space are about too: `strip`
takes off the four separators of ASCII, and `int` does not. And neither direction goes beyond
a number of digits.
-/
import Mathlib.Data.Nat.Notation
import Mathlib.Tactic.NormNum

namespace EnvMgr.Digits

variable {c : Char} {s digits : List Char} {n : ℕ}

/-! ## Characters -/

/-- The zeros of Unicode's decimal digits, each followed by the other nine. -/
def DECIMAL_ZEROS : List ℕ :=
  [0x30, 0x660, 0x6F0, 0x7C0, 0x966, 0x9E6, 0xA66, 0xAE6, 0xB66, 0xBE6, 0xC66, 0xCE6, 0xD66,
   0xDE6, 0xE50, 0xED0, 0xF20, 0x1040, 0x1090, 0x17E0, 0x1810, 0x1946, 0x19D0, 0x1A80, 0x1A90,
   0x1B50, 0x1BB0, 0x1C40, 0x1C50, 0xA620, 0xA8D0, 0xA900, 0xA9D0, 0xA9F0, 0xAA50, 0xABF0, 0xFF10,
   0x104A0, 0x10D30, 0x11066, 0x110F0, 0x11136, 0x111D0, 0x112F0, 0x11450, 0x114D0, 0x11650,
   0x116C0, 0x11730, 0x118E0, 0x11950, 0x11C50, 0x11D50, 0x11DA0, 0x11F50, 0x16A60, 0x16AC0,
   0x16B50, 0x1D7CE, 0x1D7D8, 0x1D7E2, 0x1D7EC, 0x1D7F6, 0x1E140, 0x1E2F0, 0x1E4F0, 0x1E950,
   0x1FBF0]

/-- The digits that are not decimal, from the first of a row to its last. -/
def OTHER_DIGITS : List (ℕ × ℕ) :=
  [(0xB2, 0xB3), (0xB9, 0xB9), (0x1369, 0x1371), (0x19DA, 0x19DA), (0x2070, 0x2070),
   (0x2074, 0x2079), (0x2080, 0x2089), (0x2460, 0x2468), (0x2474, 0x247C), (0x2488, 0x2490),
   (0x24EA, 0x24EA), (0x24F5, 0x24FD), (0x24FF, 0x24FF), (0x2776, 0x277E), (0x2780, 0x2788),
   (0x278A, 0x2792), (0x10A40, 0x10A43), (0x10E60, 0x10E68), (0x11052, 0x1105A),
   (0x1F100, 0x1F10A)]

def SPACES : List (ℕ × ℕ) :=
  [(0x9, 0xD), (0x1C, 0x20), (0x85, 0x85), (0xA0, 0xA0), (0x1680, 0x1680), (0x2000, 0x200A),
   (0x2028, 0x2029), (0x202F, 0x202F), (0x205F, 0x205F), (0x3000, 0x3000)]

/-- The file, group, record and unit separators. -/
def SEPARATORS : ℕ × ℕ := (0x1C, 0x1F)

def within (c : Char) (row : ℕ × ℕ) : Bool := row.1 ≤ c.toNat && c.toNat ≤ row.2

/-- The value of a decimal digit. -/
def decimal (c : Char) : Option ℕ :=
  (DECIMAL_ZEROS.find? fun z => within c (z, z + 9)).map fun z => c.toNat - z

def is_digit (c : Char) : Bool := (decimal c).isSome || OTHER_DIGITS.any (within c)

def is_space (c : Char) : Bool := SPACES.any (within c)

/-- White space that `int` passes over. -/
def is_int_space (c : Char) : Bool := is_space c && !within c SEPARATORS

/-! ## Texts -/

def strip_of (space : Char → Bool) (s : List Char) : List Char :=
  ((s.dropWhile space).reverse.dropWhile space).reverse

/-- `s.strip()`. -/
def strip (s : List Char) : List Char := strip_of is_space s

/-- `s.isdigit()`. -/
def isdigit (s : List Char) : Bool := !s.isEmpty && s.all is_digit

/-- `sys.get_int_max_str_digits()`. -/
def INT_MAX_STR_DIGITS : ℕ := 4300

def add_digit (n : ℕ) (c : Char) : Option ℕ := (decimal c).map fun d => 10 * n + d

/-- `int(s)`, for an `s` without sign and underscore, or `none` where it raises. -/
def int_of (s : List Char) : Option ℕ :=
  let digits := strip_of is_int_space s
  if digits = [] ∨ INT_MAX_STR_DIGITS < digits.length then none
  else digits.foldlM add_digit 0

/-- The digits of a text in which underscores stand between digits only. -/
def ungrouped (s : List Char) : Option (List Char) :=
  let parts := s.splitOn '_'
  if parts.any List.isEmpty then none else some parts.flatten

/-- The sign of a text, and what comes after it. -/
def signed : List Char → ℤ × List Char
  | '-' :: s => (-1, s)
  | '+' :: s => (1, s)
  | s => (1, s)

/-- `int(s)`, or `none` where it raises. -/
def int_of_signed (s : List Char) : Option ℤ :=
  let (sign, body) := signed (strip_of is_int_space s)
  (ungrouped body).bind fun digits =>
    if INT_MAX_STR_DIGITS < digits.length then none
    else (digits.foldlM add_digit 0).map fun n : ℕ => sign * n

example : int_of_signed " -1_000 ".toList = some (-1000) := by decide

/-- `str(n)`, or `none` where it raises. -/
def str_of (n : ℕ) : Option String :=
  if 10 ^ INT_MAX_STR_DIGITS ≤ n then none else some (toString n)

/-! ## The digits of ASCII -/

theorem decimal_ascii (h : '0' ≤ c ∧ c ≤ '9') : decimal c = some (c.toNat - 48) := by
  have hlow : 48 ≤ c.toNat := h.1
  have hhigh : c.toNat ≤ 57 := h.2
  have hrow : within c (48, 48 + 9) = true := by
    simp only [within, Bool.and_eq_true, decide_eq_true_eq]
    omega
  have hfirst : DECIMAL_ZEROS = 48 :: DECIMAL_ZEROS.tail := rfl
  have hfind : DECIMAL_ZEROS.find? (fun z => within c (z, z + 9)) = some 48 := by
    rw [hfirst]
    exact List.find?_cons_of_pos hrow
  rw [decimal, hfind, Option.map_some]

theorem is_space_ascii (h : '0' ≤ c ∧ c ≤ '9') : is_space c = false := by
  have hlow : 48 ≤ c.toNat := h.1
  have hhigh : c.toNat ≤ 57 := h.2
  simp only [is_space, SPACES, within, List.any_cons, List.any_nil, Bool.or_false,
    Bool.or_eq_false_iff, Bool.and_eq_false_iff, decide_eq_false_iff_not]
  omega

theorem strip_of_eq {space : Char → Bool} (h : ∀ c ∈ s, space c = false) :
    strip_of space s = s := by
  have hkeep : ∀ l : List Char, (∀ c ∈ l, space c = false) → l.dropWhile space = l := by
    intro l hl
    cases l with
    | nil => rfl
    | cons c l => rw [List.dropWhile_cons_of_neg (by simp [hl c List.mem_cons_self])]
  rw [strip_of, hkeep s h, hkeep s.reverse fun c hc => h c (List.mem_reverse.1 hc),
    List.reverse_reverse]

/-! ## What can be read -/

/-- The text, without white space at its ends, is of decimal digits, and of few enough. -/
def Readable (s : List Char) : Prop :=
  strip_of is_int_space s ≠ [] ∧ (strip_of is_int_space s).length ≤ INT_MAX_STR_DIGITS ∧
    ∀ c ∈ strip_of is_int_space s, (decimal c).isSome = true

theorem foldlM_add_digit_isSome : ∀ n : ℕ,
    (∃ m, digits.foldlM add_digit n = some m) ↔ ∀ c ∈ digits, (decimal c).isSome = true := by
  induction digits with
  | nil => exact fun n => iff_of_true ⟨n, rfl⟩ fun c hc => absurd hc List.not_mem_nil
  | cons c digits ih =>
    intro n
    rw [List.foldlM_cons, List.forall_mem_cons, add_digit]
    cases decimal c with
    | none => simp
    | some d => simpa using ih (10 * n + d)

/-- **What `int` reads.** -/
theorem int_of_iff : (∃ n, int_of s = some n) ↔ Readable s := by
  unfold int_of Readable
  simp only
  split
  · rename_i hrefused
    constructor
    · rintro ⟨n, hn⟩
      cases hn
    · intro hread
      rcases hrefused with hempty | hlong
      · exact absurd hempty hread.1
      · exact absurd hread.2.1 (not_le.2 hlong)
  · rename_i hmay
    obtain ⟨hsome, hshort⟩ := not_or.1 hmay
    rw [foldlM_add_digit_isSome]
    exact ⟨fun hall => ⟨hsome, not_lt.1 hshort, hall⟩, fun hread => hread.2.2⟩

/-! ## The size of what is read -/

theorem decimal_lt {d : ℕ} (h : decimal c = some d) : d < 10 := by
  rw [decimal, Option.map_eq_some_iff] at h
  obtain ⟨z, hz, rfl⟩ := h
  have hrow := List.find?_some hz
  simp only [within, Bool.and_eq_true, decide_eq_true_eq] at hrow
  omega

theorem length_strip_of (space : Char → Bool) (s : List Char) :
    (strip_of space s).length ≤ s.length := by
  unfold strip_of
  rw [List.length_reverse]
  refine (List.dropWhile_sublist space).length_le.trans ?_
  rw [List.length_reverse]
  exact (List.dropWhile_sublist space).length_le

theorem foldlM_add_digit_lt : ∀ {n m k : ℕ}, n < 10 ^ k →
    digits.foldlM add_digit n = some m → m < 10 ^ (k + digits.length) := by
  induction digits with
  | nil =>
    intro n m k hn h
    obtain rfl := Option.some.inj h
    exact hn
  | cons c digits ih =>
    intro n m k hn h
    rw [List.foldlM_cons, Option.bind_eq_bind, Option.bind_eq_some_iff] at h
    obtain ⟨n', hn', h⟩ := h
    obtain ⟨d, hd, rfl⟩ := Option.map_eq_some_iff.1 hn'
    have hlt := decimal_lt hd
    have hnext : 10 * n + d < 10 ^ (k + 1) := by
      rw [pow_succ]
      omega
    have hm := ih hnext h
    rwa [List.length_cons, Nat.add_comm digits.length, ← Nat.add_assoc]

/-- **What is read has no more digits than the text has characters.** -/
theorem int_of_lt (h : int_of s = some n) : n < 10 ^ s.length := by
  unfold int_of at h
  simp only at h
  split at h
  · cases h
  · have hlt := foldlM_add_digit_lt (k := 0) (by norm_num) h
    rw [Nat.zero_add] at hlt
    exact hlt.trans_le (Nat.pow_le_pow_right (by norm_num) (length_strip_of _ s))

/-- A part of a text is no longer than the text. -/
theorem length_of_mem_splitOn {sep : Char} {part : List Char} (h : part ∈ s.splitOn sep) :
    part.length ≤ s.length := by
  -- the parts, with the separators put back between them, are the text
  have hlength : ∀ parts : List (List Char), part ∈ parts →
      part.length ≤ ([sep].intercalate parts).length := by
    intro parts
    induction parts with
    | nil =>
      intro hpart
      cases hpart
    | cons first parts ih =>
      intro hpart
      cases parts with
      | nil =>
        rw [List.mem_singleton.1 hpart]
        simp [List.intercalate]
      | cons second parts =>
        have hcons : ([sep].intercalate (first :: second :: parts)).length =
            first.length + 1 + ([sep].intercalate (second :: parts)).length := by
          simp [List.intercalate, List.intersperse]
          omega
        rcases List.mem_cons.1 hpart with rfl | hpart
        · omega
        · have hrest := ih hpart
          omega
  have hparts := hlength _ h
  rwa [List.intercalate_splitOn] at hparts

theorem str_of_eq_some (h : n < 10 ^ INT_MAX_STR_DIGITS) : str_of n = some (toString n) :=
  if_neg (not_le.2 h)

end EnvMgr.Digits
