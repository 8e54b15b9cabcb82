/-
The day by which an escalation asks to be decided: `addWorkingDays` of `utils/dates.ts`, from which
`ContentionVerdict` takes its default.

An instant is a number of milliseconds since 1970, which was a Thursday. The loop goes on day by
day until it has seen as many working days as were asked for; how many days that takes depends on
the weekends in between.
-/
import Mathlib.Data.Int.Basic
import Mathlib.Tactic.Ring

namespace EnvMgr.Contention

def MS_PER_DAY : ℤ := 86400000

/-- `getUTCDay()`: Sunday is 0. -/
def getUTCDay (t : ℤ) : ℤ := (t / MS_PER_DAY + 4) % 7

/-- `out.setUTCDate(out.getUTCDate() + 1)`. -/
def nextDay (t : ℤ) : ℤ := t + MS_PER_DAY

def isWorkingDay (t : ℤ) : Bool := getUTCDay t ≠ 0 ∧ getUTCDay t ≠ 6

/-- How many days of a weekend come next. -/
def weekendAhead (t : ℤ) : ℕ := if 5 ≤ getUTCDay t then (7 - getUTCDay t).toNat else 0

theorem getUTCDay_range (t : ℤ) : 0 ≤ getUTCDay t ∧ getUTCDay t < 7 := by
  unfold getUTCDay
  omega

theorem getUTCDay_nextDay (t : ℤ) : getUTCDay (nextDay t) = (getUTCDay t + 1) % 7 := by
  unfold getUTCDay nextDay MS_PER_DAY
  omega

/-- A day off that comes next is one of the weekend ahead. -/
theorem weekendAhead_nextDay {t : ℤ} (h : isWorkingDay (nextDay t) = false) :
    weekendAhead (nextDay t) < weekendAhead t := by
  have hrange := getUTCDay_range t
  have hnext := getUTCDay_nextDay t
  simp only [isWorkingDay, decide_eq_false_iff_not, not_and_or, not_not] at h
  unfold weekendAhead
  rw [hnext] at h ⊢
  split <;> split <;> omega

/-- The loop. It ends, as each day it goes on is a working day fewer to find, or one of a weekend
that has at most two. -/
def addWorkingDays (out : ℤ) (remaining : ℕ) : ℤ :=
  if 0 < remaining then
    if isWorkingDay (nextDay out) then addWorkingDays (nextDay out) (remaining - 1)
    else addWorkingDays (nextDay out) remaining
  else out
termination_by (remaining, weekendAhead out)
decreasing_by
  · exact Prod.Lex.left _ _ (by omega)
  · exact Prod.Lex.right _ (weekendAhead_nextDay (Bool.eq_false_iff.2 ‹_›))

/-! ## What it counts -/

/-- The working days among the `n` days after `t`. -/
def workingDays (t : ℤ) : ℕ → ℕ
  | 0 => 0
  | n + 1 => (if isWorkingDay (nextDay t) then 1 else 0) + workingDays (nextDay t) n

/-- The loop stops at the first day by which so many have gone by. -/
theorem addWorkingDays_first (t : ℤ) (n : ℕ) : ∃ k : ℕ, addWorkingDays t n = t + k * MS_PER_DAY ∧
    workingDays t k = n ∧ ∀ j < k, workingDays t j < n := by
  fun_induction addWorkingDays t n with
  | case1 out remaining hpos hworking ih =>
    obtain ⟨k, hsum, hcount, hleast⟩ := ih
    refine ⟨k + 1, ?_, ?_, fun j hj => ?_⟩
    · rw [hsum, nextDay]
      push_cast
      ring
    · rw [workingDays, if_pos hworking, hcount]
      omega
    · cases j with
      | zero => exact hpos
      | succ j =>
        have := hleast j (by omega)
        rw [workingDays, if_pos hworking]
        omega
  | case2 out remaining hpos hoff ih =>
    obtain ⟨k, hsum, hcount, hleast⟩ := ih
    refine ⟨k + 1, ?_, ?_, fun j hj => ?_⟩
    · rw [hsum, nextDay]
      push_cast
      ring
    · rw [workingDays, if_neg hoff, hcount, Nat.zero_add]
    · cases j with
      | zero => exact hpos
      | succ j =>
        rw [workingDays, if_neg hoff, Nat.zero_add]
        exact hleast j (by omega)
  | case3 out remaining hdone =>
    refine ⟨0, ?_, ?_, fun j hj => absurd hj (Nat.not_lt_zero j)⟩
    · push_cast
      ring
    · rw [workingDays]
      omega

theorem isWorkingDay_addWorkingDays {t : ℤ} {n : ℕ} (hn : 0 < n) :
    isWorkingDay (addWorkingDays t n) = true := by
  fun_induction addWorkingDays t n with
  | case1 out remaining hpos hworking ih =>
    by_cases hlast : 0 < remaining - 1
    · exact ih hlast
    · rw [addWorkingDays, if_neg hlast]
      exact hworking
  | case2 out remaining hpos hoff ih => exact ih hn
  | case3 out remaining hdone => exact absurd hn hdone

theorem addWorkingDays_add (t : ℤ) (m n : ℕ) :
    addWorkingDays (addWorkingDays t m) n = addWorkingDays t (m + n) := by
  fun_induction addWorkingDays t m with
  | case1 out remaining hpos hworking ih =>
    rw [ih, addWorkingDays.eq_def out, if_pos (by omega), if_pos hworking]
    congr 1
    omega
  | case2 out remaining hpos hoff ih =>
    rw [ih, addWorkingDays.eq_def out, if_pos (by omega), if_neg hoff]
  | case3 out remaining hdone =>
    have hzero : remaining = 0 := by omega
    rw [hzero, Nat.zero_add]

/-- **The date is that of the `n`-th working day**, at the time of day of the start: so many working
days have gone by then and no sooner, it is one itself, and to count on from it is to count on. -/
theorem addWorkingDays_spec (t : ℤ) (n : ℕ) :
    (∃ k : ℕ, addWorkingDays t n = t + k * MS_PER_DAY ∧ workingDays t k = n ∧
      ∀ j < k, workingDays t j < n) ∧
    (0 < n → isWorkingDay (addWorkingDays t n) = true) ∧
    ∀ m, addWorkingDays (addWorkingDays t n) m = addWorkingDays t (n + m) :=
  ⟨addWorkingDays_first t n, isWorkingDay_addWorkingDays, addWorkingDays_add t n⟩

/-- From a Wednesday, three working days are up on Monday. -/
example : addWorkingDays (6 * MS_PER_DAY) 3 = 11 * MS_PER_DAY := by
  simp [addWorkingDays, isWorkingDay, getUTCDay, nextDay, MS_PER_DAY]

end EnvMgr.Contention
