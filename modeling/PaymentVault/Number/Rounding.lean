/-!
# Rounding quotients

The quotient of two naturals, rounded to the nearest natural with ties to the even one. A quotient
whose exact value stays within a bound is never rounded past it (`roundHalfEven_le`).
-/
namespace PaymentVault

/-- Nearest natural to `num / den`; an exact half goes to the even neighbour. -/
def roundHalfEven (num den : Nat) : Nat :=
  let quotient := num / den
  let rest := num % den
  if 2 * rest < den then quotient
  else if den < 2 * rest then quotient + 1
  else if quotient % 2 = 0 then quotient
  else quotient + 1

@[simp] theorem roundHalfEven_one (num : Nat) : roundHalfEven num 1 = num := by
  simp [roundHalfEven, Nat.mod_one]

@[simp] theorem roundHalfEven_zero (den : Nat) : roundHalfEven 0 den = 0 := by
  simp [roundHalfEven]

theorem roundHalfEven_le {num den bound : Nat} (hden : 0 < den) (h : num ≤ bound * den) :
    roundHalfEven num den ≤ bound := by
  have whole := Nat.div_add_mod num den
  have quotient_le : num / den ≤ bound := Nat.div_le_of_le_mul (by rw [Nat.mul_comm]; exact h)
  simp only [roundHalfEven]
  by_cases top : num / den = bound
  · have rest_zero : num % den = 0 := by
      rw [top, Nat.mul_comm] at whole
      omega
    simp [rest_zero, hden, top]
  · split
    · exact quotient_le
    · split
      · omega
      · split <;> omega

end PaymentVault
