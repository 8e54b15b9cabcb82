/-
Whether the weight of a pattern is an upper bound of what it expands to.

A regular expression is built here from literals, escapes, classes, groups, comments and
counts, with the text it is written as and the number of elements it has once every count is
expanded. The scan tells it by its text alone. It takes a comment for a group and reads what is
in it; it multiplies a comment by the count that stands after it; it takes for a count what the
engine reads as a literal brace; it multiplies by zero where `{0,}` repeats without end; and it
ends a class at the bracket of a `[:name:]`, and reads what is left of the class as pattern.
-/
import EnvMgr.Patterns.Compile

namespace EnvMgr.Patterns

/-! ## Regular expressions -/

/-- What is no literal outside a class. A brace is one where it begins no count. -/
def SPECIAL : List Char := ['\\', '.', '^', '$', '*', '+', '?', '(', ')', '[', '|']

structure Literal where
  char : Char
  plain : char ∉ SPECIAL

/-- What is between the braces of `\p{..}` or `\N{..}`. -/
structure Name where
  text : List Char
  inside : ∀ c ∈ text, plain c ∧ c ≠ '}'
  word : is_count text = false
  legible : LegibleBody text

/-- A backslash, what it escapes, and what that takes after it: `\.`, `\x2d`, `\p{Lu}`. -/
structure Escape where
  char : Char
  argument : List Char
  plain : ∀ c ∈ argument, plain c
  name : Option Name

/-- What is between `[:` and `:]`: letters and digits, and what the engine reads over. -/
structure PosixName where
  text : List Char
  word : ∀ c ∈ text, c.isAlphanum = true ∨ c ∈ ['^', ' ', '&', '_', '-', '.', '/', ':', '=']
  deriving DecidableEq

/-- A character of a class or of a comment, as it is or after a backslash; or a class that a
class has by its name. -/
inductive Member
  | char (c : Char)
  | escaped (c : Char)
  | posix (name : PosixName)
  deriving DecidableEq

def Member.written : Member → List Char
  | .char c => [c]
  | .escaped c => ['\\', c]
  | .posix name => '[' :: ':' :: (name.text ++ [':', ']'])

/-- A bracket that closes is a literal in first position, and a caret in any other. One that
comes after `[:name:` closes no class. -/
structure CharClass where
  negated : Bool
  first : Member
  rest : List Member
  first_plain : ∀ c, first = .char c → c ≠ '\\' ∧ (c = '^' → negated = true)
  rest_plain : ∀ c, .char c ∈ rest → c ≠ '\\' ∧ c ≠ ']'
  closed : ∀ (before : List Char) (name : PosixName),
    (first :: rest).flatMap Member.written ≠ before ++ '[' :: ':' :: (name.text ++ [':'])

structure Comment where
  members : List Member
  plain : ∀ c, .char c ∈ members → c ≠ '\\' ∧ c ≠ ')'

/-- A number, as it is written. -/
structure Numeral where
  text : List Char
  some_digit : text ≠ []
  ascii : ∀ c ∈ text, '0' ≤ c ∧ c ≤ '9'

inductive Count
  | exactly (n : Numeral)
  | range (lower upper : Option Numeral)

inductive Opening
  | capturing
  | non_capturing

mutual

/-- What a count may repeat. -/
inductive Atom
  | literal (c : Literal)
  | escape (e : Escape)
  | char_class (k : CharClass)
  | group (opening : Opening) (inside : Regex)

/-- One atom after another. A comment between an atom and its count is passed over. -/
inductive Regex
  | empty
  | item (a : Atom) (rest : Regex)
  | counted (a : Atom) (between : List Comment) (count : Count) (rest : Regex)
  | comment (c : Comment) (rest : Regex)

end

/-! ## How they are written -/

def Name.written (n : Name) : List Char := '{' :: (n.text ++ ['}'])

def Escape.written (e : Escape) : List Char :=
  '\\' :: e.char :: (e.argument ++ e.name.elim [] Name.written)

def CharClass.written (k : CharClass) : List Char :=
  '[' :: ((if k.negated then ['^'] else []) ++ (k.first.written ++
    (k.rest.flatMap Member.written ++ [']'])))

def Comment.written (c : Comment) : List Char :=
  '(' :: '?' :: '#' :: (c.members.flatMap Member.written ++ [')'])

def Count.written : Count → List Char
  | .exactly n => n.text
  | .range lower upper =>
    lower.elim [] Numeral.text ++ ',' :: upper.elim [] Numeral.text

def Opening.written : Opening → List Char
  | .capturing => []
  | .non_capturing => ['?', ':']

mutual

def Atom.written : Atom → List Char
  | .literal c => [c.char]
  | .escape e => e.written
  | .char_class k => k.written
  | .group opening inside => '(' :: (opening.written ++ (inside.written ++ [')']))

def Regex.written : Regex → List Char
  | .empty => []
  | .item a rest => a.written ++ rest.written
  | .counted a between count rest =>
    a.written ++ (between.flatMap Comment.written ++
      ('{' :: (count.written ++ '}' :: rest.written)))
  | .comment c rest => c.written ++ rest.written

end

/-! ## What they expand to -/

def Numeral.value (n : Numeral) : ℕ := n.text.foldl (fun m c => 10 * m + (c.toNat - 48)) 0

/-- How often the atom stands there once the count is expanded to its upper bound. What is
repeated without end stands there as often as it has to, and once to be repeated. -/
def Count.copies : Count → ℕ
  | .exactly n => n.value
  | .range _ (some upper) => upper.value
  | .range lower none => max (lower.elim 0 Numeral.value) 1

mutual

def Atom.size : Atom → ℕ
  | .literal _ => 1
  | .escape _ => 1
  | .char_class _ => 1
  | .group _ inside => inside.size

/-- The elements of the expression with every count expanded. -/
def Regex.size : Regex → ℕ
  | .empty => 0
  | .item a rest => a.size + rest.size
  | .counted a _ count rest => a.size * count.copies + rest.size
  | .comment _ rest => rest.size

end

/-! ## The property and its condition -/

mutual

/-- `P` holds of what comes after each literal brace. -/
def Atom.Braced (P : List Char → Prop) : Atom → List Char → Prop
  | .literal c, text => c.char = '{' → P text
  | .escape _, _ => True
  | .char_class _, _ => True
  | .group _ inside, text => inside.Braced P (')' :: text)

def Regex.Braced (P : List Char → Prop) : Regex → List Char → Prop
  | .empty, _ => True
  | .item a rest, text => a.Braced P (rest.written ++ text) ∧ rest.Braced P text
  | .counted a between count rest, text =>
    a.Braced P (between.flatMap Comment.written ++
      ('{' :: (count.written ++ '}' :: (rest.written ++ text)))) ∧ rest.Braced P text
  | .comment _ rest, text => rest.Braced P text

end

/-- The brace before the text begins no count of the engine. -/
def IsLiteral (text : List Char) : Prop :=
  ∀ (count : Count) (rest : List Char), text ≠ count.written ++ '}' :: rest

/-- A literal brace is one. -/
def Regex.WellFormed (r : Regex) : Prop := r.Braced IsLiteral []

/-- The weight of what is written is told, and is not below what it expands to. -/
def Bounded (r : Regex) : Prop :=
  ∃ weight, _repeat_weight r.written = .ok weight ∧ r.size ≤ weight

/-- The scan takes no count for the brace before the text. -/
def NoCount (text : List Char) : Prop := '}' ∈ text → is_count (body text) = false

/-- In the text nothing opens a class or a group, closes one, or is taken for a count. -/
def QuietText : List Member → List Char → Prop
  | [], _ => True
  | .char c :: members, text => c ≠ '[' ∧ c ≠ '(' ∧ c ≠ ')' ∧
      (c = '{' → NoCount (members.flatMap Member.written ++ text)) ∧ QuietText members text
  | .escaped _ :: members, text => QuietText members text
  | .posix _ :: members, text => QuietText members text

/-- What a class has after its first `[:name:]`. -/
def after_posix : List Member → Option (List Member)
  | [] => none
  | .posix _ :: members => some members
  | _ :: members => after_posix members

/-- What the scan takes to be after the class is quiet. -/
def CharClass.Quiet (k : CharClass) (text : List Char) : Prop :=
  ∀ members ∈ after_posix (k.first :: k.rest), QuietText members (']' :: text)

/-- It is not `{0,}`. -/
def Count.Multiplies : Count → Prop
  | .range (some lower) none => 0 < lower.value
  | _ => True

mutual

def Atom.Quiet : Atom → List Char → Prop
  | .group _ inside, text => inside.Quiet (')' :: text)
  | .char_class k, text => k.Quiet text
  | _, _ => True

/-- No comment and no part of a class is read as pattern, no comment stands before a count, and
no count is `{0,}`. -/
def Regex.Quiet : Regex → List Char → Prop
  | .empty, _ => True
  | .item a rest, text => a.Quiet (rest.written ++ text) ∧ rest.Quiet text
  | .counted a between count rest, text =>
    a.Quiet ('{' :: (count.written ++ '}' :: (rest.written ++ text))) ∧ between = [] ∧
      count.Multiplies ∧ rest.Quiet text
  | .comment c rest, text =>
    QuietText c.members (')' :: (rest.written ++ text)) ∧ rest.Quiet text

end

/-- The scan reads the pattern as the engine does. -/
structure ReadAlike (r : Regex) : Prop where
  braces : r.Braced NoCount []
  quiet : r.Quiet []
  legible : Legible r.written

/-! ## Where the scan stands after a part of the text -/

/-- What was read is one item that weighs `n` or more, and may yet be multiplied. -/
structure Standing (s : Scan) (n : ℕ) (s' : Scan) : Prop where
  stack : s'.stack = s.stack
  total : s.total + s.last ≤ s'.total
  last : n ≤ s'.last

/-- What was read weighs `n` or more. -/
structure Passed (s : Scan) (n : ℕ) (s' : Scan) : Prop where
  stack : s'.stack = s.stack
  weighs : s.total + s.last + n ≤ s'.total + s'.last

theorem Standing.passed {s s' : Scan} {n : ℕ} (h : Standing s n s') : Passed s n s' :=
  ⟨h.stack, Nat.add_le_add h.total h.last⟩

theorem Passed.refl (s : Scan) : Passed s 0 s := ⟨rfl, le_rfl⟩

theorem Passed.trans {s₁ s₂ s₃ : Scan} {m n : ℕ} (h : Passed s₁ m s₂) (h' : Passed s₂ n s₃) :
    Passed s₁ (m + n) s₃ := by
  refine ⟨h'.stack.trans h.stack, ?_⟩
  have hfirst := h.weighs
  have hsecond := h'.weighs
  omega

theorem standing_item (s : Scan) : Standing s 1 s.item := ⟨rfl, le_rfl, le_rfl⟩

/-- One more item leaves the one before it in the total. -/
theorem Standing.item {s s' : Scan} {n : ℕ} (h : Standing s n s') : Standing s 1 s'.item :=
  ⟨h.stack, h.total.trans (Nat.le_add_right _ _), le_rfl⟩

/-- A group weighs what is in it, and one at the least. -/
theorem standing_group {s s' : Scan} {n : ℕ} (h : Passed s.open_group n s') :
    Standing s n s'.close_group := by
  have hweighs := h.weighs
  simp only [Scan.open_group] at hweighs
  refine ⟨?_, ?_, ?_⟩
  · rw [Scan.close_group, h.stack]
    rfl
  · rw [Scan.close_group, h.stack]
    exact le_rfl
  · have hinner : n ≤ s'.total + s'.last := by omega
    exact le_max_of_le_left hinner

theorem Standing.count {s s' : Scan} {m n k : ℕ} (h : Standing s m s') (hk : k ≤ n) :
    Standing s (m * k) (s'.count n) :=
  ⟨h.stack, h.total, Nat.mul_le_mul h.last hk⟩

section

variable {s out : Scan} {text : List Char}

/-- A brace that is no count is an item. -/
theorem scan_literal_brace (hno : NoCount text) (h : scan s ('{' :: text) = .ok out) :
    scan s.item text = .ok out := by
  rcases scan_brace.1 h with ⟨n, hfound, -⟩ | ⟨-, hout⟩
  · obtain ⟨hclose, hcount⟩ := (quantifier_isSome hfound).1 rfl
    rw [hno hclose] at hcount
    cases hcount
  · exact hout

theorem scan_escaped (s : Scan) (c : Char) (text : List Char) :
    scan s ('\\' :: c :: text) = scan s.item text := by
  rw [scan, List.drop_one, List.tail_cons]

theorem scan_run {s₀ : Scan} : ∀ {chars : List Char} {s : Scan}, (∀ c ∈ chars, plain c) →
    Standing s₀ 1 s → scan s (chars ++ text) = .ok out →
    ∃ s', scan s' text = .ok out ∧ Standing s₀ 1 s' := by
  intro chars
  induction chars with
  | nil => exact fun _ hs h => ⟨_, h, hs⟩
  | cons c chars ih =>
    intro s hplain hs h
    obtain ⟨hc, hchars⟩ := List.forall_mem_cons.1 hplain
    rw [List.cons_append, scan_plain s hc] at h
    exact ih hchars hs.item h

/-! ### Escapes and classes -/

theorem body_append {inside rest : List Char} (h : '}' ∉ inside) :
    body (inside ++ '}' :: rest) = inside ∧ after_brace (inside ++ '}' :: rest) = rest := by
  have hall : ∀ c ∈ inside, decide (c ≠ '}') = true := by
    intro c hc
    exact decide_eq_true fun heq => h (heq ▸ hc)
  constructor
  · rw [body, List.takeWhile_append_of_pos hall]
    simp
  · rw [after_brace, List.dropWhile_append_of_pos hall]
    simp

theorem scan_escape {s₀ : Scan} (e : Escape) (h : scan s₀ (e.written ++ text) = .ok out) :
    ∃ s', scan s' text = .ok out ∧ Standing s₀ 1 s' := by
  rw [Escape.written, List.cons_append, List.cons_append, scan_escaped, List.append_assoc] at h
  obtain ⟨s', h', hs'⟩ := scan_run e.plain (standing_item s₀) h
  cases hname : e.name with
  | none =>
    rw [hname] at h'
    exact ⟨s', h', hs'⟩
  | some name =>
    rw [hname] at h'
    -- the braces around the name are two items, and the name is some more
    have hinside : '}' ∉ name.text := fun hmem => (name.inside _ hmem).2 rfl
    have hwritten : name.written ++ text = '{' :: (name.text ++ '}' :: text) := by
      simp [Name.written]
    rw [Option.elim_some, hwritten] at h'
    have hno : NoCount (name.text ++ '}' :: text) := by
      intro _
      rw [(body_append hinside).1]
      exact name.word
    have h'' := scan_literal_brace hno h'
    obtain ⟨s₃, h₃, hs₃⟩ := scan_run (fun c hc => (name.inside c hc).1) hs'.item h''
    rw [scan_plain s₃ (by unfold plain; decide)] at h₃
    exact ⟨s₃.item, h₃, hs₃.item⟩

theorem skip_of_ne {c d : Char} (h : d ≠ c) (text : List Char) :
    skip c (d :: text) = d :: text := if_neg h

theorem skip_members_plain : ∀ {chars : List Char}, (∀ c ∈ chars, c ≠ '\\' ∧ c ≠ ']') →
    skip_members (chars ++ ']' :: text) = text := by
  intro chars
  induction chars with
  | nil => exact fun _ => rfl
  | cons c chars ih =>
    intro hplain
    obtain ⟨⟨hslash, hclose⟩, hchars⟩ := List.forall_mem_cons.1 hplain
    rw [List.cons_append, skip_members]
    · exact ih hchars
    · exact fun h => hclose h
    · exact fun h => absurd h hslash
    · exact fun _ _ h => absurd h hslash

theorem PosixName.plain (name : PosixName) :
    ∀ c ∈ '[' :: ':' :: (name.text ++ [':']), c ≠ '\\' ∧ c ≠ ']' := by
  have hword : ∀ c ∈ name.text, c ≠ '\\' ∧ c ≠ ']' := by
    intro c hc
    constructor <;> rintro rfl <;> exact absurd (name.word _ hc) (by decide)
  simp only [List.mem_cons, List.mem_append, List.not_mem_nil, or_false]
  rintro c (rfl | rfl | hc | rfl)
  · decide
  · decide
  · exact hword c hc
  · decide

/-- The bracket of a `[:name:]` is the first that is neither escaped nor in first position. -/
theorem skip_members_posix (name : PosixName) (text : List Char) :
    skip_members ((Member.posix name).written ++ text) = text := by
  have hsplit : (Member.posix name).written ++ text =
      '[' :: ':' :: (name.text ++ [':']) ++ ']' :: text := by
    simp [Member.written]
  rw [hsplit]
  exact skip_members_plain name.plain

/-- What the scan goes on with after the members of a class. -/
def left_over (members : List Member) (text : List Char) : List Char :=
  match after_posix members with
  | none => text
  | some rest => rest.flatMap Member.written ++ ']' :: text

theorem skip_members_append : ∀ {members : List Member},
    (∀ c, .char c ∈ members → c ≠ '\\' ∧ c ≠ ']') →
    skip_members (members.flatMap Member.written ++ ']' :: text) = left_over members text := by
  intro members
  induction members with
  | nil => exact fun _ => rfl
  | cons m members ih =>
    intro hplain
    have hrest := ih fun c hc => hplain c (List.mem_cons_of_mem m hc)
    cases m with
    | escaped c => exact hrest
    | posix name =>
      rw [List.flatMap_cons, List.append_assoc, skip_members_posix]
      rfl
    | char c =>
      obtain ⟨hslash, hclose⟩ := hplain c List.mem_cons_self
      rw [List.flatMap_cons, Member.written, List.append_assoc, List.singleton_append,
        skip_members]
      · exact hrest
      · exact fun h => hclose h
      · exact fun h => absurd h hslash
      · exact fun _ _ h => absurd h hslash

/-- **A class ends for the scan where it ends**, or at its first `[:name:]`. -/
theorem after_class_written (k : CharClass) :
    after_class ((if k.negated then ['^'] else []) ++ (k.first.written ++
      (k.rest.flatMap Member.written ++ ']' :: text))) = left_over (k.first :: k.rest) text := by
  have hrest : skip_members (k.rest.flatMap Member.written ++ ']' :: text) =
      left_over k.rest text := skip_members_append k.rest_plain
  have hcaret : skip '^' ((if k.negated then ['^'] else []) ++ (k.first.written ++
      (k.rest.flatMap Member.written ++ ']' :: text))) =
        k.first.written ++ (k.rest.flatMap Member.written ++ ']' :: text) := by
    by_cases hnegated : k.negated = true
    · rw [if_pos hnegated, List.singleton_append, skip, if_pos rfl]
    · rw [if_neg hnegated, List.nil_append]
      cases hfirst : k.first with
      | escaped c => exact skip_of_ne (by decide) _
      | posix name => exact skip_of_ne (by decide) _
      | char c =>
        refine skip_of_ne (fun hc => hnegated ?_) _
        exact (k.first_plain c hfirst).2 hc
  rw [after_class, hcaret]
  cases hfirst : k.first with
  | escaped c =>
    have hslash : skip ']' ((Member.escaped c).written ++
        (k.rest.flatMap Member.written ++ ']' :: text)) =
          (Member.escaped c).written ++ (k.rest.flatMap Member.written ++ ']' :: text) :=
      skip_of_ne (by decide) _
    rw [hslash]
    exact hrest
  | posix name =>
    have hbracket : skip ']' ((Member.posix name).written ++
        (k.rest.flatMap Member.written ++ ']' :: text)) =
          (Member.posix name).written ++ (k.rest.flatMap Member.written ++ ']' :: text) :=
      skip_of_ne (by decide) _
    rw [hbracket, skip_members_posix]
    rfl
  | char c =>
    by_cases hc : c = ']'
    · rw [Member.written, List.singleton_append, skip, if_pos hc]
      exact hrest
    -- the first member is one like the others
    · rw [Member.written, List.singleton_append, skip_of_ne hc]
      have hfirst_plain : ∀ d, .char d ∈ Member.char c :: k.rest → d ≠ '\\' ∧ d ≠ ']' := by
        intro d hd
        rcases List.mem_cons.1 hd with hd | hd
        · rw [Member.char.inj hd]
          exact ⟨(k.first_plain c hfirst).1, hc⟩
        · exact k.rest_plain d hd
      exact skip_members_append hfirst_plain

/-! ### Quiet text -/

theorem scan_quiet_text {s₀ : Scan} : ∀ {members : List Member} {s : Scan},
    (∀ c, .char c ∈ members → c ≠ '\\') → QuietText members text →
    Standing s₀ 1 s → scan s (members.flatMap Member.written ++ text) = .ok out →
    ∃ s', scan s' text = .ok out ∧ Standing s₀ 1 s' := by
  intro members
  induction members with
  | nil => exact fun _ _ hs h => ⟨_, h, hs⟩
  | cons m members ih =>
    intro s hplain hquiet hs h
    have hrest : ∀ c, .char c ∈ members → c ≠ '\\' :=
      fun c hc => hplain c (List.mem_cons_of_mem m hc)
    rw [List.flatMap_cons, List.append_assoc] at h
    cases m with
    | escaped c =>
      rw [Member.written, List.cons_append, List.singleton_append, scan_escaped] at h
      exact ih hrest hquiet hs.item h
    | posix name =>
      -- to the scan it is a class of its own
      have hclass : after_class (':' :: (name.text ++ [':', ']']) ++
          (members.flatMap Member.written ++ text)) = members.flatMap Member.written ++ text := by
        rw [after_class, List.cons_append, skip_of_ne (by decide), skip_of_ne (by decide)]
        exact skip_members_posix name _
      rw [Member.written, List.cons_append, scan, hclass] at h
      exact ih hrest hquiet hs.item h
    | char c =>
      have hslash := hplain c List.mem_cons_self
      obtain ⟨hclass, hopen, hclose, hbrace, hquiet⟩ := hquiet
      rw [Member.written, List.singleton_append] at h
      by_cases hc : c = '{'
      · rw [hc] at h
        exact ih hrest hquiet hs.item (scan_literal_brace (hbrace hc) h)
      · rw [scan_plain s ⟨hslash, hclass, hopen, hclose, hc⟩] at h
        exact ih hrest hquiet hs.item h

theorem mem_of_after_posix {m : Member} : ∀ {members rest : List Member},
    after_posix members = some rest → m ∈ rest → m ∈ members := by
  intro members
  induction members with
  | nil => exact fun h => nomatch h
  | cons m' members ih =>
    intro rest h hm
    cases m' with
    | posix name =>
      cases h
      exact List.mem_cons_of_mem _ hm
    | char c => exact List.mem_cons_of_mem _ (ih h hm)
    | escaped c => exact List.mem_cons_of_mem _ (ih h hm)

/-- A class is one item, and what it has after a `[:name:]` some more. -/
theorem scan_class {s₀ : Scan} (k : CharClass) (hquiet : k.Quiet text)
    (h : scan s₀ (k.written ++ text) = .ok out) :
    ∃ s', scan s' text = .ok out ∧ Standing s₀ 1 s' := by
  rw [CharClass.written, List.cons_append, scan] at h
  simp only [List.append_assoc, List.singleton_append] at h
  rw [after_class_written, left_over] at h
  cases hposix : after_posix (k.first :: k.rest) with
  | none =>
    rw [hposix] at h
    exact ⟨s₀.item, h, standing_item s₀⟩
  | some rest =>
    rw [hposix] at h
    have hplain : ∀ c, .char c ∈ rest → c ≠ '\\' := by
      intro c hc
      rcases List.mem_cons.1 (mem_of_after_posix hposix hc) with hfirst | hrest
      · exact (k.first_plain c hfirst.symm).1
      · exact (k.rest_plain c hrest).1
    obtain ⟨s', h', hs'⟩ := scan_quiet_text hplain (hquiet rest hposix) (standing_item s₀) h
    rw [scan_plain s' (by unfold plain; decide)] at h'
    exact ⟨s'.item, h', hs'.item⟩

/-! ### Comments -/

/-- A comment that nothing in it disturbs is scanned as a group of its own. -/
theorem scan_comment {s : Scan} (c : Comment) (hquiet : QuietText c.members (')' :: text))
    (h : scan s (c.written ++ text) = .ok out) :
    ∃ s', scan s' text = .ok out ∧ Passed s 0 s' := by
  simp only [Comment.written, List.cons_append, List.append_assoc, List.nil_append] at h
  rw [scan, scan_plain _ (by unfold plain; decide), scan_plain _ (by unfold plain; decide)] at h
  obtain ⟨s', h', hs'⟩ := scan_quiet_text (fun d hd => (c.plain d hd).1) hquiet
    (standing_item s.open_group).item h
  rw [scan] at h'
  have hgroup := standing_group hs'.passed
  refine ⟨s'.close_group, h', hgroup.stack, ?_⟩
  exact hgroup.total.trans (Nat.le_add_right _ _)

/-! ### Counts -/

theorem Numeral.isdigit (n : Numeral) : Digits.isdigit (Digits.strip n.text) = true := by
  have hspace : ∀ c ∈ n.text, Digits.is_space c = false :=
    fun c hc => Digits.is_space_ascii (n.ascii c hc)
  rw [Digits.strip, Digits.strip_of_eq hspace, Digits.isdigit, Bool.and_eq_true]
  constructor
  · simpa using n.some_digit
  · rw [List.all_eq_true]
    intro c hc
    rw [Digits.is_digit, Digits.decimal_ascii (n.ascii c hc)]
    rfl

/-- A numeral that is read is read as what it says. -/
theorem Numeral.int_of {n : Numeral} {m : ℕ} (h : Digits.int_of n.text = some m) :
    m = n.value := by
  have hspace : ∀ c ∈ n.text, Digits.is_int_space c = false := by
    intro c hc
    rw [Digits.is_int_space, Digits.is_space_ascii (n.ascii c hc), Bool.false_and]
  have hfold : ∀ (chars : List Char) (k : ℕ), (∀ c ∈ chars, '0' ≤ c ∧ c ≤ '9') →
      chars.foldlM Digits.add_digit k =
        some (chars.foldl (fun m c => 10 * m + (c.toNat - 48)) k) := by
    intro chars
    induction chars with
    | nil => exact fun k _ => rfl
    | cons c chars ih =>
      intro k hall
      obtain ⟨hc, hchars⟩ := List.forall_mem_cons.1 hall
      rw [List.foldlM_cons, Digits.add_digit, Digits.decimal_ascii hc]
      exact ih _ hchars
  rw [Digits.int_of] at h
  simp only [Digits.strip_of_eq hspace] at h
  split at h
  · cases h
  · rw [hfold _ _ n.ascii] at h
    exact (Option.some.inj h).symm

theorem Numeral.not_mem {n : Numeral} {c : Char} (h : ¬ ('0' ≤ c ∧ c ≤ '9')) : c ∉ n.text :=
  fun hc => h (n.ascii c hc)

theorem counts_numeral {n : Numeral} {parts : List (List Char)} {found : List ℕ}
    (h : counts (n.text :: parts) = .ok found) :
    ∃ rest, counts parts = .ok rest ∧ found = n.value :: rest := by
  rw [counts, if_pos n.isdigit] at h
  simp only [bind_eq_ok, get_or_raise_eq_ok] at h
  obtain ⟨m, hm, rest, hrest, h⟩ := h
  rw [Numeral.int_of hm] at h
  exact ⟨rest, hrest, (Except.ok.inj h).symm⟩

theorem counts_bound {bound : Option Numeral} {parts : List (List Char)} {found : List ℕ}
    (h : counts (bound.elim [] Numeral.text :: parts) = .ok found) :
    ∃ rest, counts parts = .ok rest ∧ found = (bound.map Numeral.value).toList ++ rest := by
  cases bound with
  | none => exact ⟨found, h, rfl⟩
  | some n => exact counts_numeral h

theorem Count.no_brace (count : Count) : '}' ∉ count.written := by
  have hbound : ∀ bound : Option Numeral, '}' ∉ bound.elim [] Numeral.text := by
    intro bound
    cases bound with
    | none => exact List.not_mem_nil
    | some n => exact Numeral.not_mem (by decide)
  cases count with
  | exactly n => exact Numeral.not_mem (by decide)
  | range lower upper =>
    rw [Count.written, List.mem_append, List.mem_cons]
    rintro (hlower | hcomma | hupper)
    · exact hbound lower hlower
    · exact absurd hcomma (by decide)
    · exact hbound upper hupper

theorem split_range (lower upper : Option Numeral) :
    (Count.range lower upper).written.splitOn ',' =
      [lower.elim [] Numeral.text, upper.elim [] Numeral.text] := by
  have hcomma : ∀ bound : Option Numeral, ',' ∉ bound.elim [] Numeral.text := by
    intro bound
    cases bound with
    | none => exact List.not_mem_nil
    | some n => exact Numeral.not_mem (by decide)
  rw [Count.written, List.splitOn_append_cons_self_of_not_mem (hcomma lower),
    List.splitOn_eq_singleton (hcomma upper)]

/-- **A count is read as its bound or more**, unless it is `{,}`, which is read as it is
written. -/
theorem quantifier_count {count : Count} {rest : List Char} {found : Option ℕ}
    (hmultiplies : count.Multiplies) (h : quantifier (count.written ++ '}' :: rest) = .ok found) :
    (∃ n, found = some n ∧ count.copies ≤ n) ∨
      (found = none ∧ count.written = [','] ∧ count.copies = 1) := by
  have hclose : '}' ∈ count.written ++ '}' :: rest :=
    List.mem_append.2 (Or.inr List.mem_cons_self)
  rw [quantifier_eq hclose, map_eq_ok, (body_append count.no_brace).1] at h
  obtain ⟨numbers, hnumbers, rfl⟩ := h
  cases count with
  | exactly n =>
    have hsplit : (Count.exactly n).written.splitOn ',' = [n.text] :=
      List.splitOn_eq_singleton (Numeral.not_mem (by decide))
    rw [hsplit] at hnumbers ⊢
    obtain ⟨none_left, hnone, rfl⟩ := counts_numeral hnumbers
    obtain rfl := Except.ok.inj hnone
    refine Or.inl ⟨n.value, if_pos ⟨by simp, Or.inl (List.cons_ne_nil _ _)⟩, le_rfl⟩
  | range lower upper =>
    rw [split_range] at hnumbers ⊢
    obtain ⟨_, hupper, rfl⟩ := counts_bound hnumbers
    obtain ⟨_, hnone, rfl⟩ := counts_bound hupper
    obtain rfl := Except.ok.inj hnone
    cases upper with
    | some u =>
      cases lower with
      | none =>
        exact Or.inl ⟨u.value, if_pos ⟨by simp, Or.inl (by simp)⟩, le_rfl⟩
      | some l =>
        refine Or.inl ⟨max l.value u.value, if_pos ⟨by simp, Or.inl (by simp)⟩, ?_⟩
        exact le_max_right _ _
    | none =>
      cases lower with
      | none => exact Or.inr ⟨if_neg (by decide), rfl, rfl⟩
      | some l =>
        refine Or.inl ⟨l.value, if_pos ⟨by simp, Or.inl (by simp)⟩, ?_⟩
        exact max_le le_rfl hmultiplies

theorem Passed.mono {s' : Scan} {m n : ℕ} (h : Passed s n s') (hle : m ≤ n) : Passed s m s' :=
  ⟨h.stack, (Nat.add_le_add_left hle _).trans h.weighs⟩

theorem scan_count {s' : Scan} {m : ℕ} {count : Count} (hmultiplies : count.Multiplies)
    (hs : Standing s m s')
    (h : scan s' ('{' :: (count.written ++ '}' :: text)) = .ok out) :
    ∃ s₂, scan s₂ text = .ok out ∧ Passed s (m * count.copies) s₂ := by
  rcases scan_brace.1 h with ⟨n, hfound, hout⟩ | ⟨hfound, hout⟩
  · obtain ⟨n', hn', hle⟩ | ⟨hnone, -⟩ := quantifier_count hmultiplies hfound
    · obtain rfl := Option.some.inj hn'
      rw [(body_append count.no_brace).2] at hout
      exact ⟨s'.count n, hout, (hs.count hle).passed⟩
    · cases hnone
  · obtain ⟨n', hn', -⟩ | ⟨-, hwritten, hcopies⟩ := quantifier_count hmultiplies hfound
    · cases hn'
    -- three items more
    · rw [hwritten, List.singleton_append, scan_plain _ (by unfold plain; decide),
        scan_plain _ (by unfold plain; decide)] at hout
      have hpassed := ((hs.passed.trans (standing_item s').passed).trans
        (standing_item s'.item).passed).trans (standing_item s'.item.item).passed
      refine ⟨s'.item.item.item, hout, hpassed.mono ?_⟩
      rw [hcopies]
      omega

end

/-! ## Whole expressions -/

mutual

theorem Atom.scan_written (a : Atom) {s out : Scan} {text : List Char}
    (hbraces : a.Braced NoCount text) (hquiet : a.Quiet text)
    (h : scan s (a.written ++ text) = .ok out) :
    ∃ s', scan s' text = .ok out ∧ Standing s a.size s' := by
  cases a with
  | literal c =>
    rw [Atom.written, List.singleton_append] at h
    refine ⟨s.item, ?_, standing_item s⟩
    by_cases hbrace : c.char = '{'
    · rw [hbrace] at h
      exact scan_literal_brace (hbraces hbrace) h
    · have hplain : plain c.char := by
        refine ⟨?_, ?_, ?_, ?_, hbrace⟩ <;> intro hc <;> exact c.plain (by simp [SPECIAL, hc])
      rwa [scan_plain s hplain] at h
  | escape e => exact scan_escape e h
  | char_class k => exact scan_class k hquiet h
  | group opening inside =>
    -- the scan counts `?:` as two items of the group, which only adds weight
    have hopening : ∃ s₁, scan s₁ (inside.written ++ ')' :: text) = .ok out ∧
        Passed s.open_group 0 s₁ := by
      rw [Atom.written] at h
      cases opening with
      | capturing =>
        simp only [Opening.written, List.nil_append, List.cons_append, List.append_assoc] at h
        rw [scan] at h
        exact ⟨s.open_group, h, Passed.refl _⟩
      | non_capturing =>
        simp only [Opening.written, List.nil_append, List.cons_append, List.append_assoc] at h
        rw [scan, scan_plain _ (by unfold plain; decide),
          scan_plain _ (by unfold plain; decide)] at h
        exact ⟨_, h, (standing_item s.open_group).item.passed.mono (Nat.zero_le 1)⟩
    obtain ⟨s₁, h₁, hs₁⟩ := hopening
    obtain ⟨s₂, h₂, hs₂⟩ := Regex.scan_written inside hbraces hquiet h₁
    rw [scan] at h₂
    have hpassed := hs₁.trans hs₂
    rw [Nat.zero_add] at hpassed
    exact ⟨s₂.close_group, h₂, standing_group hpassed⟩

/-- **What is written weighs what it expands to, or more**, wherever it stands. -/
theorem Regex.scan_written (r : Regex) {s out : Scan} {text : List Char}
    (hbraces : r.Braced NoCount text) (hquiet : r.Quiet text)
    (h : scan s (r.written ++ text) = .ok out) :
    ∃ s', scan s' text = .ok out ∧ Passed s r.size s' := by
  cases r with
  | empty => exact ⟨s, h, Passed.refl s⟩
  | item a rest =>
    rw [Regex.written, List.append_assoc] at h
    obtain ⟨s₁, h₁, hs₁⟩ := Atom.scan_written a hbraces.1 hquiet.1 h
    obtain ⟨s₂, h₂, hs₂⟩ := Regex.scan_written rest hbraces.2 hquiet.2 h₁
    exact ⟨s₂, h₂, hs₁.passed.trans hs₂⟩
  | counted a between count rest =>
    -- with no comment between them, the count meets the atom as the last item
    obtain ⟨hatom, rfl, hmultiplies, hrest⟩ := hquiet
    simp only [Regex.written, List.flatMap_nil, List.nil_append, List.append_assoc,
      List.cons_append] at h
    obtain ⟨s₁, h₁, hs₁⟩ := Atom.scan_written a hbraces.1 hatom h
    obtain ⟨s₂, h₂, hs₂⟩ := scan_count hmultiplies hs₁ h₁
    obtain ⟨s₃, h₃, hs₃⟩ := Regex.scan_written rest hbraces.2 hrest h₂
    exact ⟨s₃, h₃, hs₂.trans hs₃⟩
  | comment c rest =>
    rw [Regex.written, List.append_assoc] at h
    obtain ⟨s₁, h₁, hs₁⟩ := scan_comment c hquiet.1 h
    obtain ⟨s₂, h₂, hs₂⟩ := Regex.scan_written rest hbraces hquiet.2 h₁
    have hpassed := hs₁.trans hs₂
    rw [Nat.zero_add] at hpassed
    exact ⟨s₂, h₂, hpassed⟩

end

/-- **When the weight is an upper bound.** For every regular expression that the scan reads as
the engine does: nothing in a comment, and nothing in a class after a `[:name:]`, opens a class
or a group, closes one or is taken for a count, no comment stands before a count, no literal
brace is taken for a count, and nothing is repeated by `{0,}`. -/
theorem bounded_of_readAlike (r : Regex) (h : ReadAlike r) : Bounded r := by
  obtain ⟨weight, hweight⟩ := weight_ok_iff.2 h.legible
  refine ⟨weight, hweight, ?_⟩
  rw [_repeat_weight, map_eq_ok] at hweight
  obtain ⟨out, hout, rfl⟩ := hweight
  -- a whole pattern is one with nothing after it
  rw [← List.append_nil r.written] at hout
  obtain ⟨s', hend, hpassed⟩ := Regex.scan_written r h.braces h.quiet hout
  rw [scan] at hend
  obtain rfl := Except.ok.inj hend
  have hweighs := hpassed.weighs
  simp only [Scan.start, Nat.zero_add] at hweighs
  exact hweighs.trans (Nat.le_add_right _ _)

namespace Sample

def letter (c : Char) (plain : c ∉ SPECIAL) : Atom := .literal ⟨c, plain⟩

def a : Atom := letter 'a' (by decide)

def hundred : Count := .exactly ⟨['1', '0', '0'], by simp, by simp⟩

def remark (members : List Member)
    (plain : ∀ c, .char c ∈ members → c ≠ '\\' ∧ c ≠ ')') : Comment := ⟨members, plain⟩

theorem bracket_plain (c : Char) (hc : Member.char c ∈ [.char '[']) : c ≠ '\\' ∧ c ≠ ')' := by
  obtain rfl := Member.char.inj (List.mem_singleton.1 hc)
  decide

theorem close_plain (c : Char) (hc : Member.char c ∈ [.char ']']) : c ≠ '\\' ∧ c ≠ ')' := by
  obtain rfl := Member.char.inj (List.mem_singleton.1 hc)
  decide

/-- `(a{100})`. -/
def run : Atom := .group .capturing (.counted a [] hundred .empty)

/-- `(?#[)(a{100}){100}(?#])`: to the scan, one class in a group. -/
def class_in_comment : Regex :=
  .comment (remark [.char '['] bracket_plain)
    (.counted run [] hundred (.comment (remark [.char ']'] close_plain) .empty))

/-- `(a{100})(?#]){100}`: to the scan, a hundred comments. -/
def comment_before_count : Regex :=
  .counted run [remark [.char ']'] close_plain] hundred .empty

/-- `{}{100}`: to the scan, no times a hundred. -/
def empty_braces : Regex :=
  .item (letter '{' (by decide)) (.counted (letter '}' (by decide)) [] hundred .empty)

/-- `((a{100}){100}){0,}`: to the scan, no times. -/
def no_times_or_more : Regex :=
  .counted (.group .capturing (.counted run [] hundred .empty)) []
    (.range (some ⟨['0'], by simp, by simp⟩) none) .empty

/-- `(?#[)a(?#])`: to the scan, one class in a group. -/
def letter_in_comment : Regex :=
  .comment (remark [.char '['] bracket_plain)
    (.item a (.comment (remark [.char ']'] close_plain) .empty))

/-- Text that ends otherwise does not end with `[:name:`. -/
theorem closed_of_last {members : List Member}
    (hlast : (members.flatMap Member.written).getLast? ≠ some ':') (before : List Char)
    (name : PosixName) :
    members.flatMap Member.written ≠ before ++ '[' :: ':' :: (name.text ++ [':']) := by
  intro heq
  rw [heq, ← List.cons_append, ← List.cons_append, ← List.append_assoc,
    List.getLast?_concat] at hlast
  exact hlast rfl

/-- `[[:lower:]]`. -/
def lower_case : CharClass where
  negated := false
  first := .posix ⟨['l', 'o', 'w', 'e', 'r'], by simp⟩
  rest := []
  first_plain := nofun
  rest_plain := nofun
  closed := closed_of_last (by decide)

/-- `[[:alpha:](]`. -/
def letter_or_paren : CharClass where
  negated := false
  first := .posix ⟨['a', 'l', 'p', 'h', 'a'], by simp⟩
  rest := [.char '(']
  first_plain := nofun
  rest_plain c hc := by
    obtain rfl := Member.char.inj (List.mem_singleton.1 hc)
    decide
  closed := closed_of_last (by decide)

/-- `(a{800}[[:alpha:](]){100}`: to the scan, the class opens a group, which has the count. -/
def group_in_class : Regex :=
  .counted (.group .capturing (.counted a [] (.exactly ⟨['8', '0', '0'], by simp, by simp⟩)
    (.item (.char_class letter_or_paren) .empty))) [] hundred .empty

/-- `(?:[[:lower:]]{1,20}-){1,10}(?#])\d{2}`. -/
def convention : Regex :=
  .counted
    (.group .non_capturing
      (.counted (.char_class lower_case) []
        (.range (some ⟨['1'], by simp, by simp⟩)
          (some ⟨['2', '0'], by simp, by simp⟩))
        (.item (letter '-' (by decide)) .empty)))
    []
    (.range (some ⟨['1'], by simp, by simp⟩)
      (some ⟨['1', '0'], by simp, by simp⟩))
    (.comment (remark [.char ']'] close_plain)
      (.counted (.escape ⟨'d', [], fun c hc => absurd hc List.not_mem_nil, none⟩) []
        (.exactly ⟨['2'], by simp, by simp⟩) .empty))

end Sample

/-- A naming convention as tenants write them: 212 elements, and more to the scan. -/
theorem convention_bounded : ReadAlike Sample.convention ∧ Bounded Sample.convention := by
  have hweight : _repeat_weight Sample.convention.written = .ok 245 := by
    decide +kernel
  have hread : ReadAlike Sample.convention := by
    refine ⟨?_, ?_, weight_ok_iff.1 ⟨245, hweight⟩⟩
    · simp [Sample.convention, Sample.letter, Regex.Braced, Atom.Braced]
    · simp [Sample.convention, Sample.letter, Sample.remark, Regex.Quiet, Atom.Quiet, QuietText,
        Count.Multiplies, CharClass.Quiet, Sample.lower_case, after_posix]
  exact ⟨hread, bounded_of_readAlike _ hread⟩

/-- Ten thousand elements are hidden from the scan between two comments. -/
theorem comment_hides_repeat : ¬ ∀ r : Regex, r.WellFormed → Bounded r := by
  intro h
  have hformed : Sample.class_in_comment.WellFormed := by
    simp [Regex.WellFormed, Sample.class_in_comment, Sample.run, Sample.a, Sample.letter,
      Regex.Braced, Atom.Braced]
  obtain ⟨weight, hweight, hle⟩ := h Sample.class_in_comment hformed
  have htold : _repeat_weight Sample.class_in_comment.written = .ok 3 := by
    decide +kernel
  rw [htold] at hweight
  obtain rfl := Except.ok.inj hweight
  exact absurd hle (by decide +kernel)

/-- A brace that closes begins no count. -/
theorem isLiteral_close (text : List Char) : IsLiteral ('}' :: text) := by
  intro count rest heq
  have hempty : count.written ≠ [] := by
    cases count with
    | exactly n => exact n.some_digit
    | range lower upper => exact List.append_ne_nil_of_right_ne_nil _ (List.cons_ne_nil _ _)
  obtain ⟨c, written, hwritten⟩ := List.exists_cons_of_ne_nil hempty
  rw [hwritten, List.cons_append] at heq
  have hmem : '}' ∈ count.written := by
    rw [hwritten, (List.cons.inj heq).1]
    exact List.mem_cons_self
  exact count.no_brace hmem

/-- What is read otherwise may still be bounded: the condition is enough, and not exact. -/
theorem misread_yet_bounded :
    ¬ Sample.letter_in_comment.Quiet [] ∧ Bounded Sample.letter_in_comment := by
  have hweight : _repeat_weight Sample.letter_in_comment.written = .ok 3 := by
    decide +kernel
  refine ⟨fun hquiet => ?_, 3, hweight, by decide +kernel⟩
  exact hquiet.1.1 rfl

theorem not_bounded {r : Regex} {weight : ℕ} (hweight : _repeat_weight r.written = .ok weight)
    (hlt : weight < r.size) : ¬ Bounded r := by
  rintro ⟨weight', hweight', hle⟩
  rw [hweight] at hweight'
  obtain rfl := Except.ok.inj hweight'
  exact absurd hle (not_le.2 hlt)

/-- None of the other conditions can be left out: the scan makes 400 of ten thousand, none of
101 and of a million, and 901 of 80100. -/
theorem each_condition_needed :
    ∀ r ∈ [Sample.comment_before_count, Sample.empty_braces, Sample.no_times_or_more,
      Sample.group_in_class], r.WellFormed ∧ ¬ Bounded r := by
  have hcomment : _repeat_weight Sample.comment_before_count.written = .ok 400 := by
    decide +kernel
  have hbraces : _repeat_weight Sample.empty_braces.written = .ok 0 := by
    decide +kernel
  have hzero : _repeat_weight Sample.no_times_or_more.written = .ok 0 := by
    decide +kernel
  have hclass : _repeat_weight Sample.group_in_class.written = .ok 901 := by
    decide +kernel
  simp only [List.forall_mem_cons]
  refine ⟨⟨?_, not_bounded hcomment (by decide +kernel)⟩,
    ⟨?_, not_bounded hbraces (by decide +kernel)⟩,
    ⟨?_, not_bounded hzero (by decide +kernel)⟩, ⟨?_, not_bounded hclass (by decide +kernel)⟩,
    fun _ hr => absurd hr List.not_mem_nil⟩
  · simp [Regex.WellFormed, Sample.comment_before_count, Sample.run, Sample.a, Sample.letter,
      Regex.Braced, Atom.Braced]
  · simp only [Regex.WellFormed, Sample.empty_braces, Sample.letter, Regex.Braced, Atom.Braced]
    exact ⟨fun _ => isLiteral_close _, fun hc => absurd hc (by decide), trivial⟩
  · simp [Regex.WellFormed, Sample.no_times_or_more, Sample.run, Sample.a, Sample.letter,
      Regex.Braced, Atom.Braced]
  · simp [Regex.WellFormed, Sample.group_in_class, Sample.a, Sample.letter, Regex.Braced,
      Atom.Braced]

end EnvMgr.Patterns
