/-
The computed state of a decommission.

Nothing stores the state: `decommission_state` reads it off the columns of a record and
the clock, branch after branch, and `state_predicate` writes each branch once more as a
condition of SQL, with the branches before it negated.
-/
import EnvMgr.Compliance.Policy
import EnvMgr.Lib.Sql

namespace EnvMgr.Decommission

open Compliance (expiry_boundary)
open Sql (Condition Truth is_null is_not_null)

/-- `DECOMMISSION_STATES`. -/
inductive State
  | warned
  | due
  | extension_requested
  | torn_down
  | cancelled
  deriving DecidableEq

/-- The branch order is the rule. -/
def decommission_state (row : EnvironmentDecommission) (now : DateTime) : State :=
  if row.cancelled_at ≠ none then .cancelled
  else if row.torn_down_at ≠ none then .torn_down
  else if row.extension_requested_at ≠ none ∧ row.extension_decided_at = none then
    .extension_requested
  else if row.scheduled_teardown_at ≥ expiry_boundary now then .warned
  else .due

/-! ## The states as SQL -/

/-- What a clause tests on a record. -/
abbrev Test := EnvironmentDecommission → Truth

def not_terminal : Condition Test :=
  .and_ (.test fun d => is_null d.cancelled_at) (.test fun d => is_null d.torn_down_at)

def no_open_extension : Condition Test :=
  .or_ (.test fun d => is_null d.extension_requested_at)
    (.test fun d => is_not_null d.extension_decided_at)

def state_predicate (state : State) (now : DateTime) : Condition Test :=
  let boundary := expiry_boundary now
  match state with
  | .cancelled => .test fun d => is_not_null d.cancelled_at
  | .torn_down =>
    .and_ (.test fun d => is_null d.cancelled_at) (.test fun d => is_not_null d.torn_down_at)
  | .extension_requested =>
    .and_ not_terminal
      (.and_ (.test fun d => is_not_null d.extension_requested_at)
        (.test fun d => is_null d.extension_decided_at))
  | .warned =>
    .and_ not_terminal
      (.and_ no_open_extension
        (.test fun d => Sql.compare (fun at_ => boundary ≤ at_) (some d.scheduled_teardown_at)))
  | .due =>
    .and_ not_terminal
      (.and_ no_open_extension
        (.test fun d => Sql.compare (fun at_ => at_ < boundary) (some d.scheduled_teardown_at)))

/-- The clause on one record. -/
def answer (state : State) (row : EnvironmentDecommission) (now : DateTime) : Truth :=
  (state_predicate state now).eval fun test => test row

theorem is_null_eq_true {α : Type*} {x : Option α} : is_null x = some true ↔ x = none := by
  simp [is_null]

theorem is_not_null_eq_true {α : Type*} {x : Option α} : is_not_null x = some true ↔ x ≠ none := by
  simp [is_not_null, Option.isSome_iff_ne_none]

/-- What each clause asks for, in words of the columns. -/
def Asks (row : EnvironmentDecommission) (now : DateTime) : State → Prop
  | .cancelled => row.cancelled_at ≠ none
  | .torn_down => row.cancelled_at = none ∧ row.torn_down_at ≠ none
  | .extension_requested =>
    (row.cancelled_at = none ∧ row.torn_down_at = none) ∧
      row.extension_requested_at ≠ none ∧ row.extension_decided_at = none
  | .warned =>
    (row.cancelled_at = none ∧ row.torn_down_at = none) ∧
      (row.extension_requested_at = none ∨ row.extension_decided_at ≠ none) ∧
        expiry_boundary now ≤ row.scheduled_teardown_at
  | .due =>
    (row.cancelled_at = none ∧ row.torn_down_at = none) ∧
      (row.extension_requested_at = none ∨ row.extension_decided_at ≠ none) ∧
        row.scheduled_teardown_at < expiry_boundary now

theorem answer_iff_asks {state : State} {row : EnvironmentDecommission} {now : DateTime} :
    answer state row now = some true ↔ Asks row now state := by
  have hselects : answer state row now = some true ↔
      (state_predicate state now).Selects fun test => test row := Iff.rfl
  rw [hselects]
  cases state <;>
    simp only [state_predicate, not_terminal, no_open_extension, Condition.selects_and,
      Condition.selects_or, Condition.selects_test, is_null_eq_true, is_not_null_eq_true,
      Sql.compare, Option.map_some, Option.some.injEq, decide_eq_true_eq, Asks]

/-- The branches ask for the same, each where those before it were passed by. -/
theorem asks_iff_eq {state : State} {row : EnvironmentDecommission} {now : DateTime} :
    Asks row now state ↔ state = decommission_state row now := by
  rw [decommission_state]
  by_cases hcancelled : row.cancelled_at = none
  · rw [if_neg (not_not.2 hcancelled)]
    by_cases htorn : row.torn_down_at = none
    · rw [if_neg (not_not.2 htorn)]
      by_cases hopen : row.extension_requested_at ≠ none ∧ row.extension_decided_at = none
      · rw [if_pos hopen]
        cases state <;> simp [Asks, hcancelled, htorn, hopen.1, hopen.2]
      · rw [if_neg hopen]
        have hclosed : row.extension_requested_at = none ∨ row.extension_decided_at ≠ none := by
          rwa [not_and_or, not_not] at hopen
        -- the day of the teardown is still before the boundary is passed
        by_cases hday : row.scheduled_teardown_at ≥ expiry_boundary now
        · rw [if_pos hday]
          cases state <;> simp [Asks, hcancelled, htorn, hclosed, hopen, hday.le, hday.not_gt]
        · rw [if_neg hday]
          cases state <;> simp [Asks, hcancelled, htorn, hclosed, hopen, hday, lt_of_not_ge hday]
    · rw [if_pos htorn]
      cases state <;> simp [Asks, hcancelled, htorn]
  · rw [if_pos hcancelled]
    cases state <;> simp [Asks, hcancelled]

/-- A clause is never unknown: the one column it compares is not null. -/
theorem answer_known (state : State) (row : EnvironmentDecommission) (now : DateTime) :
    (answer state row now).isSome := by
  have hknown : ∀ test ∈ (state_predicate state now).tests, (test row).isSome := by
    cases state <;>
      simp [state_predicate, not_terminal, no_open_extension, Condition.tests, is_null,
        is_not_null, Sql.compare]
  by_cases hselects : answer state row now = some true
  · rw [hselects]
    rfl
  · have hrefuses : answer state row now = some false := (Condition.eval_of_known hknown).2 hselects
    rw [hrefuses]
    rfl

/-- **The two say the same.** Of the five clauses exactly one holds of a record at an
instant, the others are false, and the one that holds is that of the computed state. -/
theorem state_predicate_answers (row : EnvironmentDecommission) (now : DateTime) :
    (∃! state, answer state row now = some true) ∧
      ∀ state, answer state row now = some (decide (state = decommission_state row now)) := by
  have hiff : ∀ state, answer state row now = some true ↔ state = decommission_state row now :=
    fun state => answer_iff_asks.trans asks_iff_eq
  refine ⟨⟨_, (hiff _).2 rfl, fun state h => (hiff state).1 h⟩, fun state => ?_⟩
  by_cases hstate : state = decommission_state row now
  · rw [(hiff state).2 hstate, decide_eq_true hstate]
  · obtain ⟨b, hb⟩ := Option.isSome_iff_exists.1 (answer_known state row now)
    rw [hb, decide_eq_false hstate]
    cases b with
    | false => rfl
    | true => exact absurd ((hiff state).1 hb) hstate

end EnvMgr.Decommission
