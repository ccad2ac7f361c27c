import PaymentVault.Payment.Fiat
import PaymentVault.Proofs.Number.Arithmetic

/-!
# Converting amounts

An amount at a rate comes to what it should if that can be written down, and otherwise to a number
that is next to it; it comes to nothing only if it is too large (`localAmount?_rounds`).
-/
namespace PaymentVault

open Decimal

/-- What an amount comes to at a rate, before anything is rounded. -/
def exactAmount (amount : Int64) (rate : Decimal) : ℚ :=
  amount.toInt * rate.value / tenPow coinPlaces

section units

variable (amount : Int64)

theorem natAbs_toInt_lt : amount.toInt.natAbs < 2 ^ 96 := by
  have low := Int64.le_toInt amount
  have high := Int64.toInt_lt amount
  omega

theorem toInt_neg_of_ne (notLeast : amount ≠ Int64.minValue) : (-amount).toInt = -amount.toInt := by
  have low := Int64.le_toInt amount
  have high := Int64.toInt_lt amount
  have apart : amount.toInt ≠ -2 ^ 63 := fun least => notLeast (Int64.toInt_inj.1 least)
  rw [Int64.toInt_neg]
  apply Int.bmod_eq_of_le
  · omega
  · omega

end units

namespace Decimal

theorem value_ofInt (n : ℤ) (h : n.natAbs < 2 ^ 96) : (ofInt n h).value = n := by
  have mantissa : (ofInt n h).mantissa = n := by
    unfold mantissa ofInt
    dsimp only
    split
    · next negative =>
      have below := of_decide_eq_true negative
      omega
    · next nonneg =>
      have above : ¬n < 0 := by simpa using nonneg
      omega
  rw [value, mantissa]
  simp [ofInt, tenPow]

theorem ofInt_neg {n : ℤ} (nonzero : n ≠ 0) (h : n.natAbs < 2 ^ 96) (h' : (-n).natAbs < 2 ^ 96) :
    ofInt (-n) h' = -ofInt n h := by
  apply ext
  · change decide (-n < 0) = !decide (n < 0)
    rw [← decide_not, decide_eq_decide]
    omega
  · exact Int.natAbs_neg n
  · rfl

end Decimal

/-! ## Products with a rate -/

/-- An amount of base units as a decimal. -/
def unitsOf (amount : Int64) : Decimal := ofInt amount.toInt (natAbs_toInt_lt amount)

variable {amount : Int64} {rate d p : Decimal}

theorem value_unitsOf (amount : Int64) : (unitsOf amount).value = amount.toInt := value_ofInt _ _

theorem scale_product (amount : Int64) (rate : Decimal) :
    (unitsOf amount).scale + rate.scale = rate.scale := Nat.zero_add _

theorem scale_within (amount : Int64) (rate : Decimal) :
    (unitsOf amount).scale + rate.scale ≤ 28 := by
  rw [scale_product]
  exact rate.scale_le

theorem localAmount?_eq (amount : Int64) (rate : Decimal) :
    localAmount? amount rate = ((unitsOf amount).mul? rate).map (·.divTenPow coinPlaces) := rfl

theorem localAmount?_eq_some_iff :
    localAmount? amount rate = some d ↔
      ∃ p, (unitsOf amount).mul? rate = some p ∧ p.divTenPow coinPlaces = d :=
  Option.map_eq_some_iff

theorem exactAmount_eq (amount : Int64) (rate : Decimal) :
    exactAmount amount rate = (unitsOf amount).value * rate.value / tenPow coinPlaces := by
  rw [exactAmount, value_unitsOf]

theorem abs_product (amount : Int64) (rate : Decimal) :
    |amount.toInt * rate.value| =
      (amount.toInt.natAbs * rate.coefficient : ℕ) / (10 ^ rate.scale : ℕ) := by
  rw [← value_unitsOf, mul_value, abs_signed,
    abs_of_nonneg (div_nonneg (Nat.cast_nonneg _) (tenPow_pos _).le), scale_product]
  rfl

theorem exists_localAmount?_of_lt (small : amount.toInt.natAbs * rate.coefficient < 2 ^ 96)
    (few : rate.scale ≤ 20) :
    ∃ d, localAmount? amount rate = some d ∧ d.value = exactAmount amount rate := by
  obtain ⟨p, product, value, scale⟩ := exists_mul?_of_lt (scale_within amount rate) small
  have low : p.scale + coinPlaces ≤ 28 := by
    rw [scale_product] at scale
    unfold coinPlaces
    omega
  refine ⟨p.divTenPow coinPlaces, localAmount?_eq_some_iff.2 ⟨p, product, rfl⟩, ?_⟩
  rw [divTenPow_of_scale_le low, value, exactAmount_eq]

/-- There is no amount just if the product is too large, and then it is so as a whole number. -/
theorem localAmount?_eq_none_iff :
    localAmount? amount rate = none ↔
      2 ^ 96 ≤ roundHalfEven (amount.toInt.natAbs * rate.coefficient) (10 ^ rate.scale) := by
  have product := mul?_eq_none_iff (scale_within amount rate)
  rw [scale_product] at product
  rw [localAmount?_eq, Option.map_eq_none_iff]
  exact product

/-! ## Rounding -/

/-- A product is off by little for its size, whether or not digits are dropped from it. -/
theorem near_product (product : (unitsOf amount).mul? rate = some p) :
    |p.value / tenPow coinPlaces - exactAmount amount rate| ≤
      |exactAmount amount rate| / tenPow 28 := by
  have positive := tenPow_pos coinPlaces
  rw [exactAmount_eq, ← sub_div, abs_div, abs_div, abs_of_pos positive, div_right_comm,
    div_le_div_iff_of_pos_right positive]
  rcases near_of_mul? (scale_within amount rate) product with exact | ⟨-, near⟩
  · rw [exact, sub_self, abs_zero]
    exact div_nonneg (abs_nonneg _) (tenPow_pos 28).le
  · exact near

/-- The two roundings together. -/
theorem near_exactAmount (converted : localAmount? amount rate = some d) :
    |d.value - exactAmount amount rate| ≤
      max (1 / tenPow 28) (|exactAmount amount rate| / tenPow 27) := by
  obtain ⟨p, product, rfl⟩ := localAmount?_eq_some_iff.1 converted
  have quotient := near_divTenPow p coinPlaces
  have rest := near_product product
  have sum := abs_sub_le (p.divTenPow coinPlaces).value (p.value / tenPow coinPlaces)
    (exactAmount amount rate)
  have positive := tenPow_pos 28
  have tenfold : |exactAmount amount rate| / tenPow 27 =
      10 * |exactAmount amount rate| / tenPow 28 := by
    norm_num [tenPow]
    linarith
  have total : |(p.divTenPow coinPlaces).value - exactAmount amount rate| ≤
      (1 / 2 + |exactAmount amount rate|) / tenPow 28 := by
    rw [add_div]
    linarith
  rw [tenfold]
  refine total.trans ?_
  rcases le_total |exactAmount amount rate| (1 / 2) with small | large
  · refine le_max_of_le_left ?_
    rw [div_le_div_iff_of_pos_right positive]
    linarith
  · refine le_max_of_le_right ?_
    rw [div_le_div_iff_of_pos_right positive]
    linarith

/-- What vanishes comes to at most half a unit of the last place. -/
theorem value_eq_zero_iff (converted : localAmount? amount rate = some d) :
    d.value = 0 ↔ |exactAmount amount rate| ≤ 1 / 2 / tenPow 28 := by
  obtain ⟨p, product, rfl⟩ := localAmount?_eq_some_iff.1 converted
  rw [value_divTenPow_eq_zero_iff]
  rcases near_of_mul? (scale_within amount rate) product with exact | ⟨much, -⟩
  · rw [exactAmount_eq, exact, abs_div, abs_of_pos (tenPow_pos coinPlaces)]
  · -- With so many digits neither number is anywhere near half a unit.
    have near := near_product product
    have size : tenPow 27 / tenPow 28 / tenPow coinPlaces ≤ |p.value / tenPow coinPlaces| := by
      have coefficient : tenPow 27 ≤ p.coefficient := Nat.cast_le.2 much
      rw [abs_div, abs_of_pos (tenPow_pos coinPlaces), abs_value,
        div_le_div_iff_of_pos_right (tenPow_pos coinPlaces)]
      exact div_le_div₀ (Nat.cast_nonneg _) coefficient (tenPow_pos _) (tenPow_le p.scale_le)
    have triangle := abs_sub_abs_le_abs_sub (p.value / tenPow coinPlaces) (exactAmount amount rate)
    rw [← abs_of_pos (tenPow_pos coinPlaces), ← abs_div]
    norm_num [tenPow, coinPlaces] at size near triangle ⊢
    constructor
    · intro small
      linarith
    · intro small
      linarith

theorem localAmount?_neg (amount : Int64) (rate : Decimal) :
    (localAmount? amount (-rate)).map value = (localAmount? amount rate).map fun d => -d.value := by
  rw [localAmount?_eq, localAmount?_eq, mul?_neg]
  simp only [Option.map_map, Function.comp_def, value_divTenPow_neg]

theorem neg_localAmount? (notLeast : amount ≠ Int64.minValue) (rate : Decimal) :
    (localAmount? (-amount) rate).map value = (localAmount? amount rate).map fun d => -d.value := by
  by_cases zero : amount = 0
  · subst zero
    have none : localAmount? 0 rate = some Decimal.zero := rfl
    rw [show -(0 : Int64) = 0 by decide, none]
    simp
  · have nonzero : amount.toInt ≠ 0 := fun same => zero (Int64.toInt_inj.1 same)
    have units : unitsOf (-amount) = -unitsOf amount := by
      have opposite := toInt_neg_of_ne amount notLeast
      rw [unitsOf, unitsOf, ← ofInt_neg nonzero (natAbs_toInt_lt amount)
        (opposite ▸ natAbs_toInt_lt (-amount))]
      congr 1
    rw [localAmount?_eq, localAmount?_eq, units, neg_mul?]
    simp only [Option.map_map, Function.comp_def, value_divTenPow_neg]

/-! ## Fiat values -/

/-- An amount that vanishes is left out. -/
theorem amount_ofAmount_eq_some_iff {quote : ExchangeRate} :
    (FiatValue.ofAmount amount (some quote)).amount = some d ↔
      localAmount? amount quote.rate = some d ∧ d.value ≠ 0 := by
  simp [FiatValue.ofAmount, Option.filter_eq_some_iff, ← isZero_iff_value]

theorem amount_ofAmount_eq_none_iff {quote : ExchangeRate} :
    (FiatValue.ofAmount amount (some quote)).amount = none ↔
      localAmount? amount quote.rate = none ∨
        |exactAmount amount quote.rate| ≤ 1 / 2 / tenPow 28 := by
  cases converted : localAmount? amount quote.rate with
  | none => simp [FiatValue.ofAmount, converted]
  | some d =>
    rw [← value_eq_zero_iff converted, ← isZero_iff_value]
    simp [FiatValue.ofAmount, converted]

/-- Of a conversion: it is exact if the product fits and there are places enough for the quotient;
it fails only if the product, rounded to a whole number, is too large; what comes out is next to
what it should be; it takes its sign from the amount and the rate. So a fiat value has an amount
unless the conversion fails or comes to no more than half a unit of the last place. -/
theorem localAmount?_rounds (amount : Int64) (rate : Decimal) :
    (amount.toInt.natAbs * rate.coefficient < 2 ^ 96 → rate.scale ≤ 20 →
      ∃ d, localAmount? amount rate = some d ∧ d.value = exactAmount amount rate) ∧
    (∃ whole, IsNearestEven |amount.toInt * rate.value| whole ∧
      (localAmount? amount rate = none ↔ 2 ^ 96 - 1 < whole)) ∧
    (∀ d, localAmount? amount rate = some d →
      |d.value - exactAmount amount rate| ≤
          max (1 / tenPow 28) (|exactAmount amount rate| / tenPow 27) ∧
        d.scale ≤ 28 ∧ d.mantissa.natAbs < 2 ^ 96) ∧
    (amount ≠ Int64.minValue →
      (localAmount? (-amount) rate).map value =
          (localAmount? amount rate).map (fun d => -d.value) ∧
        (-rate).value = -rate.value ∧
        (localAmount? amount (-rate)).map value =
          (localAmount? amount rate).map fun d => -d.value) ∧
    (FiatValue.ofAmount amount none).amount = none ∧
    ∀ exchangeName currency,
      let fiat := FiatValue.ofAmount amount (some ⟨exchangeName, rate, currency⟩)
      (∀ d, fiat.amount = some d ↔ localAmount? amount rate = some d ∧ d.value ≠ 0) ∧
        (fiat.amount = none ↔ localAmount? amount rate = none ∨
          |exactAmount amount rate| ≤ 1 / 2 / tenPow 28) := by
  refine ⟨exists_localAmount?_of_lt, ?_, ?_, ?_, rfl, ?_⟩
  · refine ⟨roundHalfEven (amount.toInt.natAbs * rate.coefficient) (10 ^ rate.scale), ?_, ?_⟩
    · rw [abs_product]
      exact isNearestEven_roundHalfEven _ (Nat.pow_pos (by decide))
    · rw [localAmount?_eq_none_iff]
      omega
  · intro d converted
    rw [natAbs_mantissa]
    exact ⟨near_exactAmount converted, d.scale_le, d.coefficient_lt⟩
  · intro notLeast
    exact ⟨neg_localAmount? notLeast rate, value_neg rate, localAmount?_neg amount rate⟩
  · intro exchangeName currency
    exact ⟨fun d => amount_ofAmount_eq_some_iff, amount_ofAmount_eq_none_iff⟩

/-- An exact half of the last place goes to the even neighbour. -/
example :
    (localAmount? 1 ⟨false, 15, 21, by decide, by decide⟩).map (fun d => (d.coefficient, d.scale)) =
        some (2, 28) ∧
      (localAmount? 1 ⟨false, 5, 21, by decide, by decide⟩).map Decimal.isZero = some true := by
  decide

end PaymentVault
