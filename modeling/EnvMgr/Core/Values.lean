/-
The Python values the services compute with.

An aware `datetime` is its instant, in microseconds since the epoch, and a
`timedelta` is a number of microseconds; a naive one is read as UTC everywhere
in the backend (`_utc`), so it is the same instant here. What remains of a
datetime's rendering is `isoformat`, which one refusal prints.
-/
import Mathlib.Algebra.Order.Ring.Int
import Mathlib.Data.List.Nodup
import Mathlib.Data.Rat.Defs

namespace EnvMgr

/-! ## Datetimes -/

/-- An instant, in microseconds since 1970-01-01T00:00:00Z. -/
abbrev DateTime := ℤ

/-- A `timedelta`, in microseconds. -/
abbrev TimeDelta := ℤ

def timedelta.minutes (n : ℤ) : TimeDelta := n * 60000000

def timedelta.days (n : ℤ) : TimeDelta := n * 86400000000

/-- `datetime.min`; what a `DateTime` stands for lies between it and `datetime.max`. -/
def datetime.min : DateTime := timedelta.days (-719162)

def datetime.max : DateTime := timedelta.days 2932897 - 1

/-- `n` in decimal, padded with zeros to `width` digits. -/
def zero_pad (width : ℕ) (n : ℤ) : String :=
  let digits := toString n.toNat
  String.ofList (List.replicate (width - digits.length) '0') ++ digits

/-- Leading zeros do not change what a number is read as. -/
theorem ofDigitChars_zero_pad (width n : ℕ) :
    Nat.ofDigitChars 10 (zero_pad width n).toList 0 = n := by
  rw [zero_pad, String.toList_append, String.toList_ofList, Nat.ofDigitChars_append,
    Nat.ofDigitChars_replicate_zero, Nat.mul_zero, Int.toNat_natCast, Nat.toString_eq_repr,
    Nat.toList_repr, Nat.ofDigitChars_toDigits (by decide) (by decide)]

/-- The proleptic Gregorian (year, month, day) of a day counted from the epoch,
by eras of 400 years that start on 1 March. -/
def civil_from_days (days : ℤ) : ℤ × ℤ × ℤ :=
  let z := days + 719468
  let era := z / 146097
  let doe := z % 146097
  let yoe := (doe - doe / 1460 + doe / 36524 - doe / 146096) / 365
  let doy := doe - (365 * yoe + yoe / 4 - yoe / 100)
  let mp := (5 * doy + 2) / 153
  let month := if mp < 10 then mp + 3 else mp - 9
  let year := yoe + era * 400 + (if month ≤ 2 then 1 else 0)
  (year, month, doy - (153 * mp + 2) / 5 + 1)

/-- `dt.date().isoformat()`. -/
def date_isoformat (dt : DateTime) : String :=
  let (year, month, day) := civil_from_days (dt / timedelta.days 1)
  zero_pad 4 year ++ "-" ++ zero_pad 2 month ++ "-" ++ zero_pad 2 day

/-- `dt.isoformat()` of an aware UTC datetime. -/
def isoformat (dt : DateTime) : String :=
  let us := dt % timedelta.days 1
  let seconds := us / 1000000
  let fraction := if us % 1000000 = 0 then "" else "." ++ zero_pad 6 (us % 1000000)
  date_isoformat dt ++ "T" ++ zero_pad 2 (seconds / 3600) ++ ":"
    ++ zero_pad 2 (seconds / 60 % 60) ++ ":" ++ zero_pad 2 (seconds % 60)
    ++ fraction ++ "+00:00"

example : isoformat 1788264000000001 = "2026-09-01T12:00:00.000001+00:00" := by decide

/-! ## Text -/

/-- `c.isspace()`: the characters `str.strip` removes. -/
def isspace (c : Char) : Bool :=
  let n := c.toNat
  (9 ≤ n && n ≤ 13) || (28 ≤ n && n ≤ 32) || n = 133 || n = 160 || n = 5760
    || (8192 ≤ n && n ≤ 8202) || n = 8232 || n = 8233 || n = 8239 || n = 8287 || n = 12288

/-- `s.strip()`. -/
def strip (s : String) : String :=
  String.ofList ((s.toList.dropWhile isspace).reverse.dropWhile isspace).reverse

/-- `repr(s)`. Past Latin-1 every character is taken to be printable. -/
def py_repr (s : String) : String :=
  let quote := if '\'' ∈ s.toList ∧ '"' ∉ s.toList then '"' else '\''
  let hex := fun n : ℕ => String.ofList [Nat.digitChar (n / 16), Nat.digitChar (n % 16)]
  let escape := fun c : Char =>
    if c = quote ∨ c = '\\' then "\\" ++ c.toString
    else if c = '\n' then "\\n"
    else if c = '\r' then "\\r"
    else if c = '\t' then "\\t"
    else if c.toNat < 32 ∨ (127 ≤ c.toNat ∧ c.toNat ≤ 160) ∨ c.toNat = 173 then
      "\\x" ++ hex c.toNat
    else c.toString
  quote.toString ++ s.toList.foldl (fun acc c => acc ++ escape c) "" ++ quote.toString

example : py_repr "it's\n" = "\"it's\\n\"" := by decide

/-- `repr(xs)` of a list of strings. -/
def py_repr_list (xs : List String) : String := "[" ++ ", ".intercalate (xs.map py_repr) ++ "]"

/-- `s.replace(c, by)` for a single character. -/
def replace_char (s : String) (c : Char) (by_ : String) : String :=
  String.ofList (s.toList.flatMap fun c' => if c' = c then by_.toList else [c'])

/-! ## Dictionaries -/

/-- A `dict` with string keys, in insertion order. -/
structure Dict (α : Type*) where
  items : List (String × α)
  keys_nodup : (items.map Prod.fst).Nodup
  deriving DecidableEq

namespace Dict

variable {α : Type*}

def empty : Dict α := ⟨[], List.nodup_nil⟩

def keys (d : Dict α) : List String := d.items.map Prod.fst

/-- `d.get(key)`. -/
def get (d : Dict α) (key : String) : Option α := (d.items.find? fun i => i.1 = key).map Prod.snd

/-- `{key: f(value) for key, value in d.items()}`. -/
def map {β : Type*} (d : Dict α) (f : α → β) : Dict β where
  items := d.items.map fun i => (i.1, f i.2)
  keys_nodup := by
    rw [List.map_map]
    exact d.keys_nodup

/-- `d[key] = a`. -/
def set (d : Dict α) (key : String) (a : α) : Dict α where
  items :=
    if key ∈ d.items.map Prod.fst then d.items.map fun i => if i.1 = key then (key, a) else i
    else d.items ++ [(key, a)]
  keys_nodup := by
    by_cases hkey : key ∈ d.items.map Prod.fst
    · have hkeys : (Prod.fst ∘ fun i : String × α => if i.1 = key then (key, a) else i) =
          Prod.fst := by
        funext i
        by_cases hi : i.1 = key
        · rw [Function.comp_apply, if_pos hi, hi]
        · rw [Function.comp_apply, if_neg hi]
      rw [if_pos hkey, List.map_map, hkeys]
      exact d.keys_nodup
    · rw [if_neg hkey, List.map_append, List.nodup_append]
      refine ⟨d.keys_nodup, List.nodup_singleton _, fun k hk k' hk' heq => ?_⟩
      rw [List.map_singleton, List.mem_singleton] at hk'
      rw [heq, hk'] at hk
      exact hkey hk

@[simp] theorem get_map {β : Type*} (d : Dict α) (f : α → β) (key : String) :
    (d.map f).get key = (d.get key).map f := by
  simp only [get, map, List.find?_map, Option.map_map]
  rfl

end Dict

/-! ## Fields of an update

A key left out of an update, a key sent as `null` and a key sent with a value
are three different things to every update schema here (`model_fields_set`). -/

inductive Sent (α : Type*)
  | omitted
  | null
  | value (a : α)
  deriving DecidableEq

namespace Sent

variable {α : Type*}

/-- `field in sent`. -/
def mentioned : Sent α → Bool
  | omitted => false
  | _ => true

/-- `values.get(field, current)` for a column that cannot be null; `none` is the
null that was sent. -/
def get (s : Sent α) (current : α) : Option α :=
  match s with
  | omitted => some current
  | null => none
  | value a => some a

/-- `setattr(row, field, ..)` on a nullable column, if the field was sent. -/
def set_nullable (s : Sent α) (current : Option α) : Option α :=
  match s with
  | omitted => current
  | null => none
  | value a => some a

/-- `setattr(row, field, ..)` on a column that is known not to receive a null. -/
def set_required (s : Sent α) (current : α) : α := (s.get current).getD current

end Sent

end EnvMgr
