/-
What a loader of JSON or YAML hands to Python: null, truth values, numbers, texts, lists and
dictionaries, nested in any way.

A reader of such a value calls methods on it and indexes it before it knows what it is. Here is
what Python makes of each: whether the value counts as true, what its `str` is and what `[0]`
gives, with the exception where there is one. Of a float nothing is needed but whether it is zero
and how it is printed, so its type is a parameter, and so is how a text is quoted.
-/
import EnvMgr.Lib.Digits
import EnvMgr.Lib.Raising

namespace EnvMgr.Loaded

variable {φ : Type}

/-- What reading such a value raises. -/
inductive PyError
  | ValueError (text : String)
  | AttributeError
  | KeyError
  | TypeError
  deriving DecidableEq

/-! ## What a caller can answer -/

section Settles

variable {α β : Type}

/-- It returns, or raises what is meant for whoever gave the value. -/
def Settles (r : Except PyError α) : Prop :=
  ∀ e, r = .error e → ∃ text, e = .ValueError text

/-- Whatever it raises is not meant for anybody. -/
def Blunt (r : Except PyError α) : Prop := ∀ text, r ≠ .error (.ValueError text)

theorem settles_ok {a : α} : Settles (.ok a) := by
  intro e h
  cases h

theorem settles_value_error {text : String} :
    Settles (.error (.ValueError text) : Except PyError α) := by
  intro e h
  cases h
  exact ⟨text, rfl⟩

/-- **One after the other.** -/
theorem settles_bind_iff {x : Except PyError α} {f : α → Except PyError β} :
    Settles (x >>= f) ↔ Settles x ∧ ∀ a, x = .ok a → Settles (f a) := by
  cases x with
  | error e =>
    have hbind : (Except.error e >>= f) = .error e := rfl
    rw [hbind]
    constructor
    · intro h
      refine ⟨fun e' he => ?_, fun a ha => by cases ha⟩
      cases he
      exact h e rfl
    · intro h e' he
      cases he
      exact h.1 e rfl
  | ok a =>
    have hbind : (Except.ok a >>= f) = f a := rfl
    rw [hbind]
    exact ⟨fun h => ⟨settles_ok, fun a' ha => by cases ha; exact h⟩, fun h => h.2 a rfl⟩

theorem settles_get_or_raise {o : Option α} {text : String} :
    Settles (get_or_raise o (.ValueError text)) := by
  intro e h
  rw [get_or_raise_eq_error] at h
  exact ⟨text, h.2.symm⟩

theorem Blunt.settles_iff {r : Except PyError α} (h : Blunt r) :
    Settles r ↔ ∃ a, r = .ok a := by
  cases r with
  | error e =>
    refine iff_of_false (fun hsettles => ?_) (by rintro ⟨a, ha⟩; cases ha)
    obtain ⟨text, rfl⟩ := hsettles e rfl
    exact h text rfl
  | ok a => exact iff_of_true settles_ok ⟨a, rfl⟩

theorem blunt_ok {a : α} : Blunt (.ok a) := by
  intro text h
  cases h

theorem Blunt.bind {x : Except PyError α} {f : α → Except PyError β} (hx : Blunt x)
    (hf : ∀ a, x = .ok a → Blunt (f a)) : Blunt (x >>= f) := by
  intro text h
  rw [bind_eq_error] at h
  rcases h with h | ⟨a, ha, h⟩
  · exact hx text h
  · exact hf a ha text h

theorem blunt_get_or_raise {o : Option α} {e : PyError} (he : ∀ text, e ≠ .ValueError text) :
    Blunt (get_or_raise o e) := by
  intro text h
  rw [get_or_raise_eq_error] at h
  exact he text h.2

/-- A loop whose turns are blunt settles exactly if every turn returns. -/
theorem settles_mapM_iff {xs : List α} {f : α → Except PyError β} (h : ∀ x ∈ xs, Blunt (f x)) :
    Settles (xs.mapM f) ↔ ∀ x ∈ xs, ∃ y, f x = .ok y := by
  have hblunt : Blunt (xs.mapM f) := by
    intro text hraised
    obtain ⟨x, hx, hturn⟩ := mapM_eq_error hraised
    exact h x hx text hturn
  rw [hblunt.settles_iff]
  constructor
  · rintro ⟨ys, hys⟩ x hx
    obtain ⟨y, -, hy⟩ := (mem_mapM hys).1 x hx
    exact ⟨y, hy⟩
  · intro hall
    obtain ⟨ys, hys, -⟩ := exists_mapM hall
    exact ⟨ys, hys⟩

end Settles

/-! ## Values -/

/-- What a value that is no container can be, and a key of a dictionary. -/
inductive Scalar (φ : Type)
  | null
  | bool (b : Bool)
  | int (n : ℤ)
  | float (x : φ)
  | str (s : String)
  deriving DecidableEq

inductive Value (φ : Type)
  | scalar (s : Scalar φ)
  | list (items : List (Value φ))
  | dict (items : List (Scalar φ × Value φ))

/-- The items of a dictionary, in their order. -/
abbrev Items (φ : Type) := List (Scalar φ × Value φ)

/-- What is known of floats, and `repr` of a text. -/
structure Printing (φ : Type) where
  is_zero : φ → Bool
  float_repr : φ → String
  str_repr : String → String

def Value.null : Value φ := .scalar .null

def Value.str (s : String) : Value φ := .scalar (.str s)

/-- The items whose key is a text, with that text. -/
def named (items : Items φ) : List (String × Value φ) :=
  items.filterMap fun item => match item.1 with
    | .str name => some (name, item.2)
    | _ => none

/-- `d.get(key, default)`. -/
def get (items : Items φ) (key : String) (default_ : Value φ) : Value φ :=
  (((named items).find? fun item => item.1 = key).map Prod.snd).getD default_

/-- `isinstance(v, str)`. -/
def Value.text : Value φ → Option String
  | .scalar (.str s) => some s
  | _ => none

/-- `isinstance(v, dict)`. -/
def Value.entries : Value φ → Option (Items φ)
  | .dict items => some items
  | _ => none

/-- `isinstance(v, list)`. -/
def Value.items : Value φ → Option (List (Value φ))
  | .list items => some items
  | _ => none

variable (F : Printing φ)

/-! ## Conditions -/

/-- `key == 0`, which `False` is too. -/
def Scalar.is_zero : Scalar φ → Bool
  | .int n => n = 0
  | .bool b => !b
  | .float x => F.is_zero x
  | _ => false

/-- `bool(v)`. -/
def Value.truthy : Value φ → Bool
  | .scalar .null => false
  | .scalar (.str s) => s ≠ ""
  | .scalar s => !s.is_zero F
  | .list items => !items.isEmpty
  | .dict items => !items.isEmpty

/-! ## Texts -/

/-- `repr`, or `none` where the digits of a number are too many. -/
def Scalar.repr : Scalar φ → Option String
  | .null => some "None"
  | .bool b => some (if b then "True" else "False")
  | .int n => (Digits.str_of n.natAbs).map fun digits => (if n < 0 then "-" else "") ++ digits
  | .float x => some (F.float_repr x)
  | .str s => some (F.str_repr s)

mutual

def Value.repr : Value φ → Option String
  | .scalar s => s.repr F
  | .list items => (repr_items items).map fun parts => "[" ++ ", ".intercalate parts ++ "]"
  | .dict items => (repr_entries items).map fun parts => "\x7b" ++ ", ".intercalate parts ++ "\x7d"

def repr_items : List (Value φ) → Option (List String)
  | [] => some []
  | v :: rest => do
    let head ← v.repr
    let tail ← repr_items rest
    some (head :: tail)

def repr_entries : List (Scalar φ × Value φ) → Option (List String)
  | [] => some []
  | (k, v) :: rest => do
    let key ← k.repr F
    let head ← v.repr
    let tail ← repr_entries rest
    some ((key ++ ": " ++ head) :: tail)

end

/-- `str(v)`, or `none` where it raises `ValueError`. -/
def Value.to_str (v : Value φ) : Option String :=
  match v.text with
  | some s => some s
  | none => v.repr F

/-! ## Indexing -/

/-- `v[0]`: the value, or `none` for the `IndexError` of something empty. -/
def Value.first : Value φ → Except PyError (Option (Value φ))
  | .list items => .ok items.head?
  | .scalar (.str s) => .ok (s.toList.head?.map fun c => .str c.toString)
  | .dict items => do
    let item ← get_or_raise (items.find? fun item => item.1.is_zero F) .KeyError
    .ok (some item.2)
  | .scalar _ => .error .TypeError

/-- It can be indexed by 0, if it is not empty. -/
def Value.Indexable : Value φ → Prop
  | .list _ => True
  | .scalar (.str _) => True
  | .dict items => ∃ item ∈ items, item.1.is_zero F = true
  | .scalar _ => False

variable {F}

theorem blunt_first (v : Value φ) : Blunt (v.first F) := by
  cases v with
  | list items => exact blunt_ok
  | dict items =>
    exact (blunt_get_or_raise fun text h => by cases h).bind fun item _ => blunt_ok
  | scalar s =>
    cases s with
    | str s => exact blunt_ok
    | _ =>
      intro text h
      cases h

theorem first_ok_iff {v : Value φ} : (∃ first, v.first F = .ok first) ↔ v.Indexable F := by
  cases v with
  | list items => exact iff_of_true ⟨_, rfl⟩ trivial
  | dict items =>
    simp only [Value.first, Value.Indexable, bind_eq_ok, get_or_raise_eq_ok, Except.ok.injEq,
      ← List.find?_isSome, Option.isSome_iff_exists]
    constructor
    · rintro ⟨_, item, hitem, -⟩
      exact ⟨item, hitem⟩
    · rintro ⟨item, hitem⟩
      exact ⟨_, item, hitem, rfl⟩
  | scalar s =>
    cases s with
    | str s => exact iff_of_true ⟨_, rfl⟩ trivial
    | _ => exact iff_of_false (by rintro ⟨_, h⟩; cases h) id

end EnvMgr.Loaded
