/-
Binary floating point, as far as it rounds.

A double has a significand of 53 bits; its exponent has no bound here, which is all there is
to say of numbers that are neither huge nor tiny. An operation gives the double nearest to the
exact result, and of two equally near ones the even. Where all numbers are multiples of one
power of two, and small beside it, no operation rounds.
-/
import Mathlib.Algebra.Order.BigOperators.Group.List
import Mathlib.Algebra.Order.Field.Power
import Mathlib.Data.Rat.Floor
import Mathlib.Tactic.FieldSimp
import Mathlib.Tactic.NormNum

namespace EnvMgr.Binary64

/-! ## Rounding -/

/-- The nearest integer, of two equally near ones the even. -/
def nearest (x : ℚ) : ℤ :=
  let up := ⌊x + 1 / 2⌋
  if x + 1 / 2 = up ∧ up % 2 = 1 then up - 1 else up

/-- The greatest power of two that is not above `|x|`, for an `x` other than zero. -/
def exponent (x : ℚ) : ℤ :=
  let k : ℤ := x.num.natAbs.log2 - x.den.log2
  -- the quotient of two numbers of so many bits has as many more, or one less
  if (2 : ℚ) ^ k ≤ |x| then k else k - 1

/-- The double nearest to `x`: a multiple of the last of its 53 bits. -/
def round (x : ℚ) : ℚ :=
  let ulp := (2 : ℚ) ^ (exponent x - 52)
  nearest (x / ulp) * ulp

theorem nearest_intCast (n : ℤ) : nearest n = n := by
  have hfloor : ⌊(n : ℚ) + 1 / 2⌋ = n := by
    rw [Int.floor_eq_iff]
    constructor <;> linarith
  rw [nearest, hfloor, if_neg]
  rintro ⟨heq, -⟩
  linarith

theorem zpow_exponent_le {x : ℚ} (hx : x ≠ 0) : (2 : ℚ) ^ exponent x ≤ |x| := by
  unfold exponent
  dsimp only
  split
  · assumption
  -- the numerator has its highest bit, and the denominator is below its next
  · have hnum : (2 : ℚ) ^ x.num.natAbs.log2 ≤ x.num.natAbs := by
      exact_mod_cast Nat.log2_self_le (Int.natAbs_ne_zero.2 (Rat.num_ne_zero.2 hx))
    have hden : (x.den : ℚ) ≤ 2 ^ (x.den.log2 + 1) := by
      exact_mod_cast (Nat.lt_log2_self (n := x.den)).le
    have hpos : (0 : ℚ) < x.den := Nat.cast_pos.2 x.pos
    have habs : |x| = x.num.natAbs / x.den := by
      conv_lhs => rw [← Rat.num_div_den x]
      rw [abs_div, Nat.abs_cast, Nat.cast_natAbs, Int.cast_abs]
    have hsplit : (2 : ℚ) ^ ((x.num.natAbs.log2 : ℤ) - x.den.log2 - 1) =
        2 ^ x.num.natAbs.log2 / 2 ^ (x.den.log2 + 1) := by
      rw [sub_sub, zpow_sub₀ two_ne_zero]
      norm_cast
    rw [habs, hsplit]
    exact div_le_div₀ (Nat.cast_nonneg _) hnum hpos hden

/-! ## Where nothing is rounded -/

/-- A multiple of `1 / 2 ^ k`. -/
def OnGrid (k : ℕ) (x : ℚ) : Prop := ∃ n : ℤ, x = n / 2 ^ k

section

variable {k : ℕ} {x y : ℚ}

theorem OnGrid.zero (k : ℕ) : OnGrid k 0 := ⟨0, by simp⟩

theorem OnGrid.add (hx : OnGrid k x) (hy : OnGrid k y) : OnGrid k (x + y) := by
  obtain ⟨m, rfl⟩ := hx
  obtain ⟨n, rfl⟩ := hy
  exact ⟨m + n, by rw [Int.cast_add, add_div]⟩

theorem OnGrid.neg (hx : OnGrid k x) : OnGrid k (-x) := by
  obtain ⟨n, rfl⟩ := hx
  exact ⟨-n, by rw [Int.cast_neg, neg_div]⟩

theorem OnGrid.sum {xs : List ℚ} (h : ∀ x ∈ xs, OnGrid k x) : OnGrid k xs.sum := by
  induction xs with
  | nil => exact OnGrid.zero k
  | cons x xs ih =>
    obtain ⟨hx, hxs⟩ := List.forall_mem_cons.1 h
    exact hx.add (ih hxs)

/-- **A multiple of `1 / 2 ^ k` that 53 bits suffice for is a double.** -/
theorem round_of_onGrid (hx : OnGrid k x) (hlt : |x| < 2 ^ 53 / 2 ^ k) : round x = x := by
  by_cases hzero : x = 0
  · rw [hzero]
    decide +kernel
  -- the last of its bits is on the grid, or above it
  have hbits : exponent x - 52 ≤ -k := by
    have hlow := (zpow_exponent_le hzero).trans_lt hlt
    have hpow : (2 : ℚ) ^ 53 / 2 ^ k = 2 ^ (53 - (k : ℤ)) := by
      rw [zpow_sub₀ two_ne_zero]
      norm_cast
    rw [hpow, zpow_lt_zpow_iff_right₀ one_lt_two] at hlow
    omega
  obtain ⟨n, hn⟩ := hx
  obtain ⟨m, hm⟩ : ∃ m : ℕ, exponent x - 52 = -(k + m : ℕ) :=
    ⟨(-k - (exponent x - 52)).toNat, by omega⟩
  have hquotient : x / 2 ^ (exponent x - 52) = (n * 2 ^ m : ℤ) := by
    rw [hm, hn, zpow_neg, zpow_natCast, pow_add]
    field_simp
    push_cast
    ring
  rw [round, hquotient, nearest_intCast, ← hquotient, div_mul_cancel₀]
  exact zpow_ne_zero _ two_ne_zero

/-- A tenth and a fifth are on no grid. -/
example : round (round (1 / 10) + round (1 / 5)) = round (3 / 10) + 1 / 2 ^ 54 := by
  decide +kernel

end

/-! ## Compensated sums -/

/-- A sum, and what its additions have lost. -/
structure Partial where
  total : ℚ
  compensation : ℚ

/-- One more summand, as Neumaier adds it. -/
def Partial.add (s : Partial) (x : ℚ) : Partial :=
  let t := round (s.total + x)
  let lost :=
    if |x| ≤ |s.total| then round (round (s.total - t) + x) else round (round (x - t) + s.total)
  ⟨t, round (s.compensation + lost)⟩

def Partial.result (s : Partial) : ℚ :=
  if s.compensation = 0 then s.total else round (s.total + s.compensation)

/-- The sum of some doubles. -/
def sum : List ℚ → ℚ
  | [] => 0
  | x :: xs => (xs.foldl Partial.add ⟨x, 0⟩).result

theorem add_of_onGrid {k : ℕ} {t x : ℚ} (ht : OnGrid k t) (hx : OnGrid k x) (ht₀ : 0 ≤ t)
    (hx₀ : 0 ≤ x) (hlt : t + x < 2 ^ 53 / 2 ^ k) :
    Partial.add ⟨t, 0⟩ x = ⟨t + x, 0⟩ := by
  have hround : ∀ {y}, OnGrid k y → |y| ≤ t + x → round y = y :=
    fun hy hle => round_of_onGrid hy (hle.trans_lt hlt)
  have hzero : round 0 = 0 := hround (OnGrid.zero k) (by rw [abs_zero]; linarith)
  have htotal : round (t + x) = t + x :=
    hround (ht.add hx) (by rw [abs_of_nonneg (add_nonneg ht₀ hx₀)])
  have hx' : round (t - (t + x)) + x = 0 := by
    rw [sub_add_cancel_left, hround hx.neg (by rw [abs_neg, abs_of_nonneg hx₀]; linarith)]
    exact neg_add_cancel x
  have ht' : round (x - (t + x)) + t = 0 := by
    rw [sub_add_cancel_right, hround ht.neg (by rw [abs_neg, abs_of_nonneg ht₀]; linarith)]
    exact neg_add_cancel t
  simp only [Partial.add, htotal, hx', ht', hzero, ite_self, add_zero]

/-- **On a grid nothing is lost.** -/
theorem sum_of_onGrid {k : ℕ} {xs : List ℚ} (h : ∀ x ∈ xs, OnGrid k x ∧ 0 ≤ x)
    (hlt : xs.sum < 2 ^ 53 / 2 ^ k) : sum xs = xs.sum := by
  have hfold : ∀ (xs : List ℚ) (t : ℚ), OnGrid k t → 0 ≤ t → (∀ x ∈ xs, OnGrid k x ∧ 0 ≤ x) →
      t + xs.sum < 2 ^ 53 / 2 ^ k → xs.foldl Partial.add ⟨t, 0⟩ = ⟨t + xs.sum, 0⟩ := by
    intro xs
    induction xs with
    | nil => exact fun t _ _ _ _ => by rw [List.foldl_nil, List.sum_nil, add_zero]
    | cons x xs ih =>
      intro t ht ht₀ hxs hlt
      obtain ⟨⟨hx, hx₀⟩, hxs⟩ := List.forall_mem_cons.1 hxs
      rw [List.sum_cons, ← add_assoc] at hlt ⊢
      have hrest : 0 ≤ xs.sum := List.sum_nonneg fun y hy => (hxs y hy).2
      rw [List.foldl_cons, add_of_onGrid ht hx ht₀ hx₀ (by linarith)]
      exact ih (t + x) (ht.add hx) (add_nonneg ht₀ hx₀) hxs hlt
  cases xs with
  | nil => rfl
  | cons x xs =>
    obtain ⟨⟨hx, hx₀⟩, hxs⟩ := List.forall_mem_cons.1 h
    rw [sum, hfold xs x hx hx₀ hxs (by rwa [List.sum_cons] at hlt), Partial.result, if_pos rfl,
      List.sum_cons]

end EnvMgr.Binary64
