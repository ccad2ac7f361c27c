import PaymentVault.Number.Power
import PaymentVault.Number.Rounding

/-!
# Fixed point decimals

A decimal is a sign and a 96-bit coefficient over a power of ten with at most 28 fraction
digits. The number of fraction digits is part of the value as written: `1.5` and `1.50` are two
decimals of the same size. No calculation gives zero a sign, but a negative number that is read
with too many digits may round to a zero that keeps it; `settled` takes it away.

Products drop the fewest digits that make them fit; division by a power of ten appends digits
instead, stops at the 28th, and then takes off zeros at the end, though not always all. Both
round to nearest, ties to even.
-/
namespace PaymentVault

/-- A coefficient below `2 ^ 96` with a sign, divided by ten to the power `scale`. -/
structure Decimal where
  isNegative : Bool
  coefficient : Nat
  scale : Nat
  coefficient_lt : coefficient < 2 ^ 96
  scale_le : scale ≤ 28
  deriving DecidableEq

namespace Decimal

@[ext] theorem ext {a b : Decimal} (hn : a.isNegative = b.isNegative)
    (hc : a.coefficient = b.coefficient) (hs : a.scale = b.scale) : a = b := by
  cases a
  cases b
  simp_all

def zero : Decimal := ⟨false, 0, 0, by decide, by decide⟩

instance : Inhabited Decimal := ⟨zero⟩

def isZero (d : Decimal) : Bool := d.coefficient = 0

/-- The integer `sign * coefficient`. -/
def mantissa (d : Decimal) : Int := if d.isNegative then -(d.coefficient : Int) else d.coefficient

/-- Size of the mantissa. -/
@[simp] theorem natAbs_mantissa (d : Decimal) : d.mantissa.natAbs = d.coefficient := by
  unfold mantissa
  split <;> simp

/-- The sign that a coefficient takes; zero takes none. -/
def signOf (isNegative : Bool) (coefficient : Nat) : Bool := isNegative && coefficient != 0

/-- The same number, without a sign if it is zero. -/
def settled (d : Decimal) : Decimal := { d with isNegative := signOf d.isNegative d.coefficient }

@[simp] theorem mantissa_settled (d : Decimal) : d.settled.mantissa = d.mantissa := by
  by_cases h : d.coefficient = 0 <;> simp [settled, mantissa, signOf, h]

/-- The decimal of the given sign, coefficient and scale, if it is within the limits; zero has
no sign. -/
def ofParts? (isNegative : Bool) (coefficient scale : Nat) : Option Decimal :=
  if h : coefficient < 2 ^ 96 ∧ scale ≤ 28 then
    some ⟨signOf isNegative coefficient, coefficient, scale, h.1, h.2⟩
  else none

@[simp] theorem ofParts?_self (d : Decimal) :
    ofParts? d.isNegative d.coefficient d.scale = some d.settled := by
  have within : d.coefficient < 2 ^ 96 ∧ d.scale ≤ 28 := ⟨d.coefficient_lt, d.scale_le⟩
  unfold ofParts?
  rw [dif_pos within]
  rfl

/-- An integer whose size fits a 64-bit word, without fraction digits. -/
def ofInt (n : Int) (h : n.natAbs < 2 ^ 96) : Decimal := ⟨n < 0, n.natAbs, 0, h, by decide⟩

/-- The digits dropped from a product: as few as leave at most 28 fraction digits and a
coefficient of 96 bits after rounding. -/
def droppedDigits? (coefficient scale : Nat) : Option Nat :=
  (List.range (scale + 1)).find? fun k =>
    decide (scale - k ≤ 28) && decide (roundHalfEven coefficient (10 ^ k) < 2 ^ 96)

/-- The product, or nothing when no number of dropped fraction digits makes it fit. A zero
factor gives a zero without fraction digits. -/
def mul? (a b : Decimal) : Option Decimal :=
  if a.isZero || b.isZero then some zero
  else
    let coefficient := a.coefficient * b.coefficient
    let scale := a.scale + b.scale
    (droppedDigits? coefficient scale).bind fun k =>
      ofParts? (a.isNegative != b.isNegative) (roundHalfEven coefficient (10 ^ k)) (scale - k)

/-- Takes `count` zeros off the end of a fraction, if it has them. -/
def trimZeros (count : Nat) (parts : Nat × Nat) : Nat × Nat :=
  if count ≤ parts.2 ∧ parts.1 % 10 ^ count = 0 then (parts.1 / 10 ^ count, parts.2 - count)
  else parts

/-- Takes zeros off by eights as long as the lowest 32 bits are zero. -/
def trimEights : Nat → Nat × Nat → Nat × Nat
  | 0, parts => parts
  | rounds + 1, parts =>
    if parts.1 % 2 ^ 32 = 0 then trimEights rounds (trimZeros 8 parts) else parts

/-- Takes zeros off the end of a fraction, by eights where the lowest bits allow it and then up
to seven. -/
def trimmed (parts : Nat × Nat) : Nat × Nat :=
  trimZeros 1 (trimZeros 2 (trimZeros 4 (trimEights 3 parts)))

theorem trimZeros_le (count : Nat) (parts : Nat × Nat) :
    (trimZeros count parts).1 ≤ parts.1 ∧ (trimZeros count parts).2 ≤ parts.2 := by
  unfold trimZeros
  split
  · exact ⟨Nat.div_le_self _ _, Nat.sub_le _ _⟩
  · exact ⟨Nat.le_refl _, Nat.le_refl _⟩

theorem trimEights_le (rounds : Nat) (parts : Nat × Nat) :
    (trimEights rounds parts).1 ≤ parts.1 ∧ (trimEights rounds parts).2 ≤ parts.2 := by
  induction rounds generalizing parts with
  | zero => exact ⟨Nat.le_refl _, Nat.le_refl _⟩
  | succ rounds ih =>
    simp only [trimEights]
    split
    · have rest := ih (trimZeros 8 parts)
      have first := trimZeros_le 8 parts
      exact ⟨Nat.le_trans rest.1 first.1, Nat.le_trans rest.2 first.2⟩
    · exact ⟨Nat.le_refl _, Nat.le_refl _⟩

theorem trimmed_le (parts : Nat × Nat) :
    (trimmed parts).1 ≤ parts.1 ∧ (trimmed parts).2 ≤ parts.2 := by
  have eights := trimEights_le 3 parts
  have four := trimZeros_le 4 (trimEights 3 parts)
  have two := trimZeros_le 2 (trimZeros 4 (trimEights 3 parts))
  have one := trimZeros_le 1 (trimZeros 2 (trimZeros 4 (trimEights 3 parts)))
  simp only [trimmed]
  omega

/-- How many digits a division by `10 ^ places` appends: one more than it needs, as far as there
is room for the coefficient and for the scale. -/
def appendedDigits (coefficient scale places : Nat) : Nat :=
  min (if coefficient * 10 < 2 ^ 96 then places + 1 else places) (28 - scale)

/-- Coefficient and scale of a decimal divided by `10 ^ places`. A divisible coefficient keeps
its scale and with it any zeros at the end. Otherwise digits are appended, what does not fit is
rounded off, and zeros are taken off the end. -/
def shifted (coefficient scale places : Nat) : Nat × Nat :=
  if coefficient % 10 ^ places = 0 then (coefficient / 10 ^ places, scale)
  else
    let appended := appendedDigits coefficient scale places
    trimmed (roundHalfEven (coefficient * 10 ^ appended) (10 ^ places), scale + appended)

theorem shifted_fst_lt {coefficient : Nat} (scale places : Nat) (h : coefficient < 2 ^ 96) :
    (shifted coefficient scale places).1 < 2 ^ 96 := by
  simp only [shifted]
  split
  · exact Nat.lt_of_le_of_lt (Nat.div_le_self _ _) h
  · refine Nat.lt_of_le_of_lt (trimmed_le _).1 ?_
    have positive : 0 < 10 ^ places := Nat.pow_pos (by decide)
    by_cases room : coefficient * 10 < 2 ^ 96
    · refine Nat.lt_of_le_of_lt (roundHalfEven_le positive ?_) room
      have few : appendedDigits coefficient scale places ≤ places + 1 := by
        simp only [appendedDigits, room, if_true]
        exact Nat.min_le_left _ _
      have bound :=
        Nat.mul_le_mul_left coefficient (Nat.pow_le_pow_right (show 0 < 10 by decide) few)
      rw [Nat.pow_succ] at bound
      rw [Nat.mul_assoc, Nat.mul_comm 10]
      exact bound
    · refine Nat.lt_of_le_of_lt (roundHalfEven_le positive ?_) h
      have few : appendedDigits coefficient scale places ≤ places := by
        simp only [appendedDigits, room, if_false]
        exact Nat.min_le_left _ _
      exact Nat.mul_le_mul_left coefficient (Nat.pow_le_pow_right (show 0 < 10 by decide) few)

theorem shifted_snd_le {scale : Nat} (coefficient places : Nat) (h : scale ≤ 28) :
    (shifted coefficient scale places).2 ≤ 28 := by
  simp only [shifted]
  split
  · exact h
  · have appended : appendedDigits coefficient scale places ≤ 28 - scale := Nat.min_le_right _ _
    exact Nat.le_trans (trimmed_le _).2 (by omega)

/-- The decimal divided by `10 ^ places`. -/
def divTenPow (d : Decimal) (places : Nat) : Decimal :=
  if d.isZero then zero
  else
    let parts := shifted d.coefficient d.scale places
    ⟨signOf d.isNegative parts.1, parts.1, parts.2, shifted_fst_lt _ _ d.coefficient_lt,
      shifted_snd_le _ _ d.scale_le⟩

end Decimal
end PaymentVault
