import PaymentVault.Number.Power

/-!
# Sums that stop at the largest word

A running total of 64-bit amounts stays at the largest one instead of starting over.
-/
namespace PaymentVault

/-- The sum, or the largest word if the sum is beyond it. -/
def saturatingAdd (a b : UInt64) : UInt64 := UInt64.ofNat (min (2 ^ 64 - 1) (a.toNat + b.toNat))

@[simp] theorem toNat_saturatingAdd (a b : UInt64) :
    (saturatingAdd a b).toNat = min (2 ^ 64 - 1) (a.toNat + b.toNat) := by
  simp only [saturatingAdd, UInt64.toNat_ofNat']
  omega

theorem le_saturatingAdd (a b : UInt64) : a ≤ saturatingAdd a b := by
  rw [UInt64.le_iff_toNat_le, toNat_saturatingAdd]
  have := a.toNat_lt
  omega

end PaymentVault
