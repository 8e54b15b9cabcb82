/-
Conditions of a WHERE clause, in the logic of SQL.

A comparison with NULL is neither true nor false, and neither is its negation; a row is
kept only where the whole condition is true. `Selects` and `Refuses` say when a condition
is true and when it is false, connective by connective, so that a clause is read off
without a table of truth values. The two are each other's negation exactly where every
test on the row is known.
-/
import Mathlib.Data.Option.Basic
import Mathlib.Tactic.Common

namespace EnvMgr.Sql

/-! ## Truth values -/

/-- `none` is unknown. -/
abbrev Truth := Option Bool

def Truth.and : Truth → Truth → Truth
  | some false, _ => some false
  | _, some false => some false
  | some true, some true => some true
  | _, _ => none

def Truth.or : Truth → Truth → Truth
  | some true, _ => some true
  | _, some true => some true
  | some false, some false => some false
  | _, _ => none

def Truth.not (t : Truth) : Truth := t.map Bool.not

section

variable {t u : Truth}

theorem Truth.and_eq_true : t.and u = some true ↔ t = some true ∧ u = some true := by
  rcases t with _ | _ | _ <;> rcases u with _ | _ | _ <;> decide

theorem Truth.and_eq_false : t.and u = some false ↔ t = some false ∨ u = some false := by
  rcases t with _ | _ | _ <;> rcases u with _ | _ | _ <;> decide

theorem Truth.or_eq_true : t.or u = some true ↔ t = some true ∨ u = some true := by
  rcases t with _ | _ | _ <;> rcases u with _ | _ | _ <;> decide

theorem Truth.or_eq_false : t.or u = some false ↔ t = some false ∧ u = some false := by
  rcases t with _ | _ | _ <;> rcases u with _ | _ | _ <;> decide

theorem Truth.not_eq_true : t.not = some true ↔ t = some false := by
  rcases t with _ | _ | _ <;> decide

theorem Truth.not_eq_false : t.not = some false ↔ t = some true := by
  rcases t with _ | _ | _ <;> decide

end

/-- `x IS NULL`. -/
def is_null {α : Type*} (x : Option α) : Truth := some x.isNone

/-- `x IS NOT NULL`. -/
def is_not_null {α : Type*} (x : Option α) : Truth := some x.isSome

/-- A comparison of a column with a value that is not null. -/
def compare {α : Type*} (r : α → Bool) (x : Option α) : Truth := x.map r

/-! ## Conditions -/

/-- A condition over tests on a row. -/
inductive Condition (τ : Type*)
  /-- `false()`. -/
  | never
  | test (t : τ)
  | and_ (a b : Condition τ)
  | or_ (a b : Condition τ)
  | not_ (a : Condition τ)

namespace Condition

variable {τ : Type*}

/-- `or_(*conditions)`. -/
def any (conditions : List (Condition τ)) : Condition τ := conditions.foldr or_ never

/-- The tests that the clause is made of. -/
def tests : Condition τ → List τ
  | never => []
  | test t => [t]
  | and_ a b => a.tests ++ b.tests
  | or_ a b => a.tests ++ b.tests
  | not_ a => a.tests

variable (holds : τ → Truth)

def eval : Condition τ → Truth
  | never => some false
  | test t => holds t
  | and_ a b => (a.eval).and b.eval
  | or_ a b => (a.eval).or b.eval
  | not_ a => (a.eval).not

/-- The row is kept. -/
def Selects (c : Condition τ) : Prop := c.eval holds = some true
  deriving Decidable

/-- The condition is false, and not only unknown. -/
def Refuses (c : Condition τ) : Prop := c.eval holds = some false

variable {holds} {a b : Condition τ}

@[simp] theorem selects_never : ¬ (never : Condition τ).Selects holds := nofun

@[simp] theorem refuses_never : (never : Condition τ).Refuses holds := rfl

@[simp] theorem selects_test {t : τ} : (test t).Selects holds ↔ holds t = some true := Iff.rfl

@[simp] theorem refuses_test {t : τ} : (test t).Refuses holds ↔ holds t = some false := Iff.rfl

@[simp] theorem selects_and : (and_ a b).Selects holds ↔ a.Selects holds ∧ b.Selects holds :=
  Truth.and_eq_true

@[simp] theorem refuses_and : (and_ a b).Refuses holds ↔ a.Refuses holds ∨ b.Refuses holds :=
  Truth.and_eq_false

@[simp] theorem selects_or : (or_ a b).Selects holds ↔ a.Selects holds ∨ b.Selects holds :=
  Truth.or_eq_true

@[simp] theorem refuses_or : (or_ a b).Refuses holds ↔ a.Refuses holds ∧ b.Refuses holds :=
  Truth.or_eq_false

/-- The negation of an unknown condition keeps no row. -/
@[simp] theorem selects_not : (not_ a).Selects holds ↔ a.Refuses holds := Truth.not_eq_true

@[simp] theorem refuses_not : (not_ a).Refuses holds ↔ a.Selects holds := Truth.not_eq_false

theorem selects_any {conditions : List (Condition τ)} :
    (any conditions).Selects holds ↔ ∃ c ∈ conditions, c.Selects holds := by
  induction conditions with
  | nil => simp [any]
  | cons c conditions ih =>
    rw [any, List.foldr_cons, selects_or, ← any, ih]
    simp only [List.mem_cons, exists_eq_or_imp]

theorem tests_any {conditions : List (Condition τ)} {t : τ} :
    t ∈ (any conditions).tests ↔ ∃ c ∈ conditions, t ∈ c.tests := by
  induction conditions with
  | nil => simp [any, tests]
  | cons c conditions ih =>
    rw [any, List.foldr_cons, tests, ← any, List.mem_append, ih]
    simp only [List.mem_cons, exists_eq_or_imp]

/-- A condition made of known tests is known. -/
theorem eval_of_known {c : Condition τ} (h : ∀ t ∈ c.tests, (holds t).isSome) :
    c.Refuses holds ↔ ¬ c.Selects holds := by
  induction c with
  | never => simp
  | test t =>
    obtain ⟨b, hb⟩ := Option.isSome_iff_exists.1 (h t List.mem_cons_self)
    rw [selects_test, refuses_test, hb]
    cases b <;> simp
  | and_ a b iha ihb =>
    rw [selects_and, refuses_and, iha fun t ht => h t (List.mem_append_left _ ht),
      ihb fun t ht => h t (List.mem_append_right _ ht), not_and_or]
  | or_ a b iha ihb =>
    rw [selects_or, refuses_or, iha fun t ht => h t (List.mem_append_left _ ht),
      ihb fun t ht => h t (List.mem_append_right _ ht), not_or]
  | not_ a iha => rw [selects_not, refuses_not, iha h, not_not]

end Condition

end EnvMgr.Sql
