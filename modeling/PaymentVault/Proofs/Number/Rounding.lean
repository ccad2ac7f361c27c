import Mathlib.Data.Rat.Cast.Order
import Mathlib.Tactic.FieldSimp
import Mathlib.Tactic.Linarith
import PaymentVault.Number.Rounding

/-!
# Nearest numbers

The natural number nearest to a fraction, the even one of two that are equally near, is unique, and
it is what rounding a quotient gives (`isNearestEven_roundHalfEven`).
-/
namespace PaymentVault

/-- No natural number is nearer, and of two equally near ones this is the even one. -/
structure IsNearestEven (x : ℚ) (n : ℕ) : Prop where
  near : |x - n| ≤ 1 / 2
  even : |x - n| = 1 / 2 → n % 2 = 0

theorem isNearestEven_natCast (n : ℕ) : IsNearestEven n n := by
  constructor
  · simp
  · intro half
    norm_num at half

theorem isNearestEven_zero {x : ℚ} (nonneg : 0 ≤ x) (small : x ≤ 1 / 2) : IsNearestEven x 0 := by
  constructor
  · rw [Nat.cast_zero, sub_zero, abs_of_nonneg nonneg]
    exact small
  · exact fun _ => rfl

namespace IsNearestEven

variable {x : ℚ} {m n : ℕ}

theorem le_add_half (nearest : IsNearestEven x n) : x ≤ n + 1 / 2 := by
  have above := (abs_le.1 nearest.near).2
  linarith

theorem sub_half_le (nearest : IsNearestEven x n) : n - 1 / 2 ≤ x := by
  have below := (abs_le.1 nearest.near).1
  linarith

theorem not_lt (one : IsNearestEven x m) (other : IsNearestEven x n) : ¬m < n := by
  intro less
  have apart : (m : ℚ) + 1 ≤ n := by exact_mod_cast less
  have above := one.le_add_half
  have below := other.sub_half_le
  -- Both are half a step away, on either side, and neighbours are not both even.
  have next : n = m + 1 := by
    have same : (n : ℚ) = m + 1 := by linarith
    exact_mod_cast same
  have middle : x = m + 1 / 2 := by linarith
  have even : m % 2 = 0 := one.even (by rw [middle]; norm_num)
  have odd : n % 2 = 0 := other.even (by rw [middle, next]; push_cast; norm_num)
  omega

theorem unique (one : IsNearestEven x m) (other : IsNearestEven x n) : m = n :=
  Nat.le_antisymm (Nat.le_of_not_lt (other.not_lt one)) (Nat.le_of_not_lt (one.not_lt other))

/-- A bound that is odd is passed as soon as the fraction is half a step beyond it. -/
theorem odd_lt_iff (nearest : IsNearestEven x n) (odd : m % 2 = 1) :
    m < n ↔ (m : ℚ) + 1 / 2 ≤ x := by
  constructor
  · intro less
    have apart : (m : ℚ) + 1 ≤ n := by exact_mod_cast less
    have below := nearest.sub_half_le
    linarith
  · intro beyond
    have above := nearest.le_add_half
    have atLeast : m ≤ n := by
      have same : (m : ℚ) ≤ n := by linarith
      exact_mod_cast same
    refine Nat.lt_of_le_of_ne atLeast ?_
    rintro rfl
    have middle : x = m + 1 / 2 := by linarith
    have even := nearest.even (by rw [middle]; norm_num)
    omega

end IsNearestEven

/-- Twice what is rounded is at most the divisor away from twice what comes out, and if it is as
much away the result is even. -/
theorem roundHalfEven_spec (num : ℕ) {den : ℕ} (positive : 0 < den) :
    2 * num ≤ 2 * (roundHalfEven num den * den) + den ∧
      2 * (roundHalfEven num den * den) ≤ 2 * num + den ∧
      (2 * num = 2 * (roundHalfEven num den * den) + den ∨
        2 * (roundHalfEven num den * den) = 2 * num + den → roundHalfEven num den % 2 = 0) := by
  have whole : num = num / den * den + num % den := by
    rw [Nat.mul_comm]
    exact (Nat.div_add_mod num den).symm
  have below := Nat.mod_lt num positive
  unfold roundHalfEven
  generalize num / den = quotient at *
  generalize num % den = rest at *
  have next : (quotient + 1) * den = quotient * den + den := Nat.succ_mul quotient den
  dsimp only
  split
  · omega
  · split
    · omega
    · split
      · omega
      · omega

theorem isNearestEven_roundHalfEven (num : ℕ) {den : ℕ} (positive : 0 < den) :
    IsNearestEven (num / den) (roundHalfEven num den) := by
  obtain ⟨below, above, tie⟩ := roundHalfEven_spec num positive
  generalize roundHalfEven num den = rounded at *
  have den_pos : (0 : ℚ) < den := by exact_mod_cast positive
  have below' : 2 * (num : ℚ) ≤ 2 * (rounded * den) + den := by exact_mod_cast below
  have above' : 2 * ((rounded : ℚ) * den) ≤ 2 * num + den := by exact_mod_cast above
  have difference : (num : ℚ) / den - rounded = (2 * num - 2 * (rounded * den)) / (2 * den) := by
    field_simp
  constructor
  · rw [difference, abs_le, le_div_iff₀ (by linarith), div_le_iff₀ (by linarith)]
    constructor
    · linarith
    · linarith
  · intro half
    apply tie
    rw [difference] at half
    rcases (abs_eq (by norm_num : (0 : ℚ) ≤ 1 / 2)).1 half with up | down
    · rw [div_eq_iff (by linarith)] at up
      left
      have same : 2 * (num : ℚ) = 2 * (rounded * den) + den := by linarith
      exact_mod_cast same
    · rw [div_eq_iff (by linarith)] at down
      right
      have same : 2 * ((rounded : ℚ) * den) = 2 * num + den := by linarith
      exact_mod_cast same

end PaymentVault
