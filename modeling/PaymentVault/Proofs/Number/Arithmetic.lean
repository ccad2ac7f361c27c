import Mathlib.Algebra.Order.Field.Basic
import PaymentVault.Number.Decimal.Basic
import PaymentVault.Proofs.Number.Rounding

/-!
# Products and quotients of decimals

There is no product just if it is too large when it is rounded to a whole number. Otherwise it is
exact, or it has so many digits that the last one hardly counts (`near_of_mul?`). A quotient by a
power of ten is the exact one rounded to the 28th place (`divTenPow_rounds`), whichever zeros at the
end it is written with.
-/
namespace PaymentVault

/-- A power of ten among the fractions. -/
def tenPow (k : ℕ) : ℚ := (10 ^ k : ℕ)

theorem tenPow_pos (k : ℕ) : 0 < tenPow k := Nat.cast_pos.2 (Nat.pow_pos (by decide))

theorem tenPow_add (j k : ℕ) : tenPow (j + k) = tenPow j * tenPow k := by
  rw [tenPow, Nat.pow_add, Nat.cast_mul]
  rfl

theorem tenPow_le {j k : ℕ} (le : j ≤ k) : tenPow j ≤ tenPow k :=
  Nat.cast_le.2 (Nat.pow_le_pow_right (by decide) le)

namespace Decimal

/-- The number that a decimal stands for. -/
def value (d : Decimal) : ℚ := d.mantissa / tenPow d.scale

/-- The decimal with the other sign. -/
instance : Neg Decimal := ⟨fun d => { d with isNegative := !d.isNegative }⟩

/-- A number of some size with a sign. -/
def signed (isNegative : Bool) (size : ℚ) : ℚ := if isNegative then -size else size

section signs

variable (n : Bool) (x y : ℚ)

theorem signed_not : signed (!n) x = -signed n x := by cases n <;> simp [signed]

theorem signed_mul (m : Bool) : signed m x * signed n y = signed (m != n) (x * y) := by
  cases m <;> cases n <;> simp [signed]

theorem signed_div : signed n x / y = signed n (x / y) := by cases n <;> simp [signed, neg_div]

theorem abs_signed : |signed n x| = |x| := by cases n <;> simp [signed]

theorem abs_signed_sub : |signed n x - signed n y| = |x - y| := by
  cases n with
  | false => rfl
  | true => rw [signed, signed, if_pos rfl, if_pos rfl, neg_sub_neg, abs_sub_comm]

/-- Zero needs no sign. -/
theorem signed_signOf (c : ℕ) : signed (signOf n c) (c / y) = signed n (c / y) := by
  by_cases zero : c = 0
  · simp [zero, signed]
  · rw [signOf, bne_iff_ne.2 zero, Bool.and_true]

end signs

variable (d : Decimal)

theorem value_eq : d.value = signed d.isNegative (d.coefficient / tenPow d.scale) := by
  cases sign : d.isNegative <;> simp [value, mantissa, signed, sign, neg_div]

theorem abs_value : |d.value| = d.coefficient / tenPow d.scale := by
  rw [value_eq, abs_signed, abs_of_nonneg (div_nonneg (Nat.cast_nonneg _) (tenPow_pos _).le)]

@[simp] theorem value_zero : zero.value = 0 := by simp [value, mantissa, zero]

theorem isZero_iff_value {d : Decimal} : d.isZero = true ↔ d.value = 0 := by
  rw [← abs_eq_zero, abs_value, div_eq_zero_iff, Nat.cast_eq_zero]
  simp [Decimal.isZero, (tenPow_pos d.scale).ne']

@[simp] theorem value_neg : (-d).value = -d.value := by
  rw [value_eq, value_eq d, ← signed_not]
  rfl

/-! ## Products -/

/-- Rounded at a place, a number is too large for a coefficient. -/
theorem le_roundHalfEven_iff (c k : ℕ) :
    2 ^ 96 ≤ roundHalfEven c (10 ^ k) ↔ (2 ^ 96 - 1 : ℕ) + 1 / 2 ≤ c / tenPow k := by
  have nearest := isNearestEven_roundHalfEven c (Nat.pow_pos (n := k) (show 0 < 10 by decide))
  rw [tenPow, ← nearest.odd_lt_iff (by decide)]
  omega

variable {c s k : ℕ}

theorem of_droppedDigits? (within : s ≤ 28) (found : droppedDigits? c s = some k) :
    k ≤ s ∧ roundHalfEven c (10 ^ k) < 2 ^ 96 ∧ ∀ j < k, 2 ^ 96 ≤ roundHalfEven c (10 ^ j) := by
  obtain ⟨fits, member, fewest⟩ := List.find?_range_eq_some.1 found
  have top := List.mem_range.1 member
  refine ⟨by omega, ?_, ?_⟩
  · simpa using (Bool.and_eq_true_iff.1 fits).2
  · intro j less
    have fails := fewest j less
    have low : s - j ≤ 28 := by omega
    simpa [low] using fails

/-- No number of dropped digits helps if dropping all that follow the point does not. -/
theorem droppedDigits?_eq_none_iff (within : s ≤ 28) :
    droppedDigits? c s = none ↔ 2 ^ 96 ≤ roundHalfEven c (10 ^ s) := by
  rw [droppedDigits?, List.find?_range_eq_none]
  constructor
  · intro fails
    have last := fails s (Nat.lt_succ_self s)
    simpa using last
  · intro large k less
    have low : s - k ≤ 28 := by omega
    have larger : 2 ^ 96 ≤ roundHalfEven c (10 ^ k) := by
      rw [le_roundHalfEven_iff] at large ⊢
      have below : (c : ℚ) / tenPow s ≤ c / tenPow k :=
        div_le_div_of_nonneg_left (Nat.cast_nonneg c) (tenPow_pos k) (tenPow_le (by omega))
      exact large.trans below
    simpa [low] using larger

theorem value_of_ofParts? {n : Bool} {d : Decimal} (made : ofParts? n c s = some d) :
    d.coefficient = c ∧ d.scale = s ∧ d.value = signed n (c / tenPow s) := by
  unfold ofParts? at made
  split at made
  · cases made
    exact ⟨rfl, rfl, by rw [value_eq, signed_signOf]⟩
  · cases made

variable {a b p : Decimal}

theorem mul_value (a b : Decimal) : a.value * b.value = signed (a.isNegative != b.isNegative)
    ((a.coefficient * b.coefficient : ℕ) / tenPow (a.scale + b.scale)) := by
  rw [value_eq, value_eq, signed_mul, div_mul_div_comm, tenPow_add, Nat.cast_mul]

theorem mul?_of_isZero (zero : (a.isZero || b.isZero) = true) :
    a.mul? b = some Decimal.zero ∧ a.value * b.value = 0 := by
  refine ⟨if_pos zero, ?_⟩
  rcases Bool.or_eq_true_iff.1 zero with left | right
  · rw [isZero_iff_value.1 left, zero_mul]
  · rw [isZero_iff_value.1 right, mul_zero]

/-- The product of numbers that are not zero, by the digits that are dropped from it. -/
theorem mul?_eq_bind (nonzero : (a.isZero || b.isZero) = false) :
    a.mul? b = (droppedDigits? (a.coefficient * b.coefficient) (a.scale + b.scale)).bind fun k =>
      ofParts? (a.isNegative != b.isNegative)
        (roundHalfEven (a.coefficient * b.coefficient) (10 ^ k)) (a.scale + b.scale - k) := by
  unfold mul?
  rw [nonzero]
  rfl

/-- A product that fits as it is loses nothing. -/
theorem exists_mul?_of_lt (within : a.scale + b.scale ≤ 28)
    (small : a.coefficient * b.coefficient < 2 ^ 96) :
    ∃ p, a.mul? b = some p ∧ p.value = a.value * b.value ∧ p.scale ≤ a.scale + b.scale := by
  cases zero : a.isZero || b.isZero with
  | true =>
    obtain ⟨product, value⟩ := mul?_of_isZero zero
    exact ⟨Decimal.zero, product, by rw [value, value_zero], Nat.zero_le _⟩
  | false =>
    have none : droppedDigits? (a.coefficient * b.coefficient) (a.scale + b.scale) = some 0 := by
      rw [droppedDigits?, List.find?_range_eq_some]
      refine ⟨?_, by simp, by simp⟩
      rw [Bool.and_eq_true_iff, decide_eq_true_iff, decide_eq_true_iff, Nat.pow_zero,
        roundHalfEven_one]
      exact ⟨within, small⟩
    have made : ofParts? (a.isNegative != b.isNegative) (a.coefficient * b.coefficient)
        (a.scale + b.scale) = some ⟨_, _, _, small, within⟩ := dif_pos ⟨small, within⟩
    obtain ⟨-, -, value⟩ := value_of_ofParts? made
    refine ⟨_, ?_, value.trans (mul_value a b).symm, Nat.le_refl _⟩
    rw [mul?_eq_bind zero, none, Option.bind_some, Nat.pow_zero, roundHalfEven_one, Nat.sub_zero,
      made]

theorem mul?_eq_none_iff (within : a.scale + b.scale ≤ 28) :
    a.mul? b = none ↔
      2 ^ 96 ≤ roundHalfEven (a.coefficient * b.coefficient) (10 ^ (a.scale + b.scale)) := by
  cases zero : a.isZero || b.isZero with
  | true =>
    have nothing : a.coefficient * b.coefficient = 0 := by
      simpa [isZero] using zero
    rw [(mul?_of_isZero zero).1, nothing, roundHalfEven_zero]
    simp
  | false =>
    rw [mul?_eq_bind zero, ← droppedDigits?_eq_none_iff within]
    cases found : droppedDigits? (a.coefficient * b.coefficient) (a.scale + b.scale) with
    | none => simp
    | some k =>
      obtain ⟨-, fits, -⟩ := of_droppedDigits? within found
      have low : a.scale + b.scale - k ≤ 28 := by omega
      rw [Option.bind_some, ofParts?, dif_pos ⟨fits, low⟩]
      simp

/-- A number of which one more digit would be too much rounds to one of at least 28 digits, and so
loses little for its size. -/
theorem near_of_le_mul_ten {y : ℚ} {n : ℕ} (nearest : IsNearestEven y n)
    (large : (2 ^ 96 - 1 : ℕ) + 1 / 2 ≤ y * 10) : 10 ^ 27 ≤ n ∧ |n - y| ≤ y / tenPow 28 := by
  have below := nearest.sub_half_le
  have above := nearest.le_add_half
  have twentyEight : tenPow 28 = 10000000000000000000000000000 := by norm_num [tenPow]
  norm_num at large
  constructor
  · have power : ((10 ^ 27 : ℕ) : ℚ) = 1000000000000000000000000000 := by norm_num
    have much : ((10 ^ 27 : ℕ) : ℚ) ≤ n := by
      rw [power]
      linarith
    exact_mod_cast much
  · rw [abs_sub_comm, twentyEight]
    refine nearest.near.trans ?_
    linarith

/-- What is left when digits are dropped. -/
theorem near_of_droppedDigits? (within : s ≤ 28) (found : droppedDigits? c s = some (k + 1)) :
    10 ^ 27 ≤ roundHalfEven c (10 ^ (k + 1)) ∧
      |roundHalfEven c (10 ^ (k + 1)) / tenPow (s - (k + 1)) - c / tenPow s| ≤
        c / tenPow s / tenPow 28 := by
  obtain ⟨top, -, fewest⟩ := of_droppedDigits? within found
  have large := (le_roundHalfEven_iff c k).1 (fewest k (Nat.lt_succ_self k))
  have nearest : IsNearestEven (c / tenPow (k + 1)) (roundHalfEven c (10 ^ (k + 1))) :=
    isNearestEven_roundHalfEven c (Nat.pow_pos (by decide))
  have shorter : (c : ℚ) / tenPow k = c / tenPow (k + 1) * 10 := by
    rw [tenPow_add, ← div_div]
    norm_num [tenPow]
  have rest : (c : ℚ) / tenPow s = c / tenPow (k + 1) / tenPow (s - (k + 1)) := by
    rw [div_div, ← tenPow_add, Nat.add_sub_cancel' top]
  rw [shorter] at large
  obtain ⟨much, near⟩ := near_of_le_mul_ten nearest large
  refine ⟨much, ?_⟩
  rw [rest, ← sub_div, abs_div, abs_of_pos (tenPow_pos _), div_right_comm,
    div_le_div_iff_of_pos_right (tenPow_pos _)]
  exact near

/-- A product from which digits are dropped has nearly all the digits that a decimal can have. -/
theorem near_of_mul? (within : a.scale + b.scale ≤ 28) (product : a.mul? b = some p) :
    p.value = a.value * b.value ∨
      10 ^ 27 ≤ p.coefficient ∧
        |p.value - a.value * b.value| ≤ |a.value * b.value| / tenPow 28 := by
  cases zero : a.isZero || b.isZero with
  | true =>
    obtain ⟨same, value⟩ := mul?_of_isZero zero
    obtain rfl := Option.some.inj (same.symm.trans product)
    exact .inl (by rw [value, value_zero])
  | false =>
    rw [mul?_eq_bind zero, Option.bind_eq_some_iff] at product
    obtain ⟨k, found, made⟩ := product
    obtain ⟨coefficient, -, value⟩ := value_of_ofParts? made
    have size : (0 : ℚ) ≤ (a.coefficient * b.coefficient : ℕ) / tenPow (a.scale + b.scale) :=
      div_nonneg (Nat.cast_nonneg _) (tenPow_pos _).le
    rw [mul_value, coefficient, value, abs_signed_sub, abs_signed, abs_of_nonneg size]
    cases k with
    | zero =>
      left
      rw [Nat.pow_zero, roundHalfEven_one, Nat.sub_zero]
    | succ k => exact .inr (near_of_droppedDigits? within found)

/-! ## Quotients -/

theorem div_tenPow_add (c s k : ℕ) : ((c * 10 ^ k : ℕ) : ℚ) / tenPow (s + k) = c / tenPow s := by
  rw [Nat.cast_mul, tenPow_add]
  exact mul_div_mul_right _ _ (tenPow_pos k).ne'

theorem trimZeros_ratio (count : ℕ) (parts : ℕ × ℕ) :
    ((trimZeros count parts).1 : ℚ) / tenPow (trimZeros count parts).2 =
      parts.1 / tenPow parts.2 := by
  unfold trimZeros
  split
  · next trims =>
    obtain ⟨few, zeros⟩ := trims
    have whole := Nat.div_mul_cancel (Nat.dvd_of_mod_eq_zero zeros)
    have again := div_tenPow_add (parts.1 / 10 ^ count) (parts.2 - count) count
    rw [whole, Nat.sub_add_cancel few] at again
    exact again.symm
  · rfl

theorem trimEights_ratio (rounds : ℕ) (parts : ℕ × ℕ) :
    ((trimEights rounds parts).1 : ℚ) / tenPow (trimEights rounds parts).2 =
      parts.1 / tenPow parts.2 := by
  induction rounds generalizing parts with
  | zero => rfl
  | succ rounds ih =>
    rw [trimEights]
    split
    · rw [ih, trimZeros_ratio]
    · rfl

/-- Taking zeros off the end does not change the number. -/
theorem trimmed_ratio (parts : ℕ × ℕ) :
    ((trimmed parts).1 : ℚ) / tenPow (trimmed parts).2 = parts.1 / tenPow parts.2 := by
  rw [trimmed, trimZeros_ratio, trimZeros_ratio, trimZeros_ratio, trimEights_ratio]

/-- The number `y` is `x` rounded to the 28th place. -/
def RoundsTo (x y : ℚ) : Prop := ∃ m : ℕ, IsNearestEven (x * tenPow 28) m ∧ y = m / tenPow 28

namespace RoundsTo

variable {x y z : ℚ}

/-- A number with no more places is left as it is. -/
theorem of_scale_le (n : ℕ) {t : ℕ} (low : t ≤ 28) : RoundsTo (n / tenPow t) (n / tenPow t) := by
  have longer := div_tenPow_add n t (28 - t)
  rw [Nat.add_sub_cancel' low] at longer
  refine ⟨n * 10 ^ (28 - t), ?_, longer.symm⟩
  rw [← longer, div_mul_cancel₀ _ (tenPow_pos 28).ne']
  exact isNearestEven_natCast _

theorem unique (one : RoundsTo x y) (other : RoundsTo x z) : y = z := by
  obtain ⟨m, nearest, rfl⟩ := one
  obtain ⟨n, nearest', rfl⟩ := other
  rw [nearest.unique nearest']

theorem near (rounds : RoundsTo x y) : |y - x| ≤ 1 / 2 / tenPow 28 := by
  obtain ⟨m, nearest, rfl⟩ := rounds
  have size : x = x * tenPow 28 / tenPow 28 := (mul_div_cancel_right₀ _ (tenPow_pos 28).ne').symm
  rw [size, ← sub_div, abs_div, abs_of_pos (tenPow_pos 28),
    div_le_div_iff_of_pos_right (tenPow_pos 28), abs_sub_comm]
  exact nearest.near

/-- What vanishes is at most half a unit of the 28th place. -/
theorem eq_zero_iff (rounds : RoundsTo x y) (nonneg : 0 ≤ x) :
    y = 0 ↔ x ≤ 1 / 2 / tenPow 28 := by
  constructor
  · rintro rfl
    have near := rounds.near
    rwa [zero_sub, abs_neg, abs_of_nonneg nonneg] at near
  · intro small
    rw [le_div_iff₀ (tenPow_pos 28)] at small
    have zero := isNearestEven_zero (mul_nonneg nonneg (tenPow_pos 28).le) small
    exact rounds.unique ⟨0, zero, by simp⟩

end RoundsTo

theorem roundHalfEven_mul_self (n : ℕ) {den : ℕ} (positive : 0 < den) :
    roundHalfEven (n * den) den = n := by
  have nearest := isNearestEven_roundHalfEven (n * den) positive
  have whole : ((n * den : ℕ) : ℚ) / den = n := by
    rw [Nat.cast_mul, mul_div_cancel_right₀ _ (Nat.cast_ne_zero.2 positive.ne')]
  rw [whole] at nearest
  exact nearest.unique (isNearestEven_natCast n)

/-- With digits appended up to the 28th place, or as many as are taken away again. -/
theorem roundsTo_of_appended (c places : ℕ) {s appended : ℕ} (within : s ≤ 28)
    (low : appended ≤ 28 - s) (many : appended = 28 - s ∨ places ≤ appended) :
    RoundsTo (c / tenPow s / tenPow places)
      (roundHalfEven (c * 10 ^ appended) (10 ^ places) / tenPow (s + appended)) := by
  have positive : 0 < 10 ^ places := Nat.pow_pos (by decide)
  have longer := div_tenPow_add c s appended
  rcases many with filled | enough
  · have nearest := isNearestEven_roundHalfEven (c * 10 ^ appended) positive
    have top : s + appended = 28 := by omega
    rw [top] at longer ⊢
    refine ⟨_, ?_, rfl⟩
    rw [← longer, div_right_comm, div_mul_cancel₀ _ (tenPow_pos 28).ne']
    exact nearest
  · have split : c * 10 ^ appended = c * 10 ^ (appended - places) * 10 ^ places := by
      rw [Nat.mul_assoc, ← Nat.pow_add, Nat.sub_add_cancel enough]
    have quotient : (c : ℚ) / tenPow s / tenPow places =
        (c * 10 ^ (appended - places) : ℕ) / tenPow (s + appended) := by
      rw [← longer, split, Nat.cast_mul, div_right_comm]
      congr 1
      exact mul_div_cancel_right₀ _ (tenPow_pos places).ne'
    rw [quotient, split, roundHalfEven_mul_self _ positive]
    exact .of_scale_le _ (by omega)

/-- However many digits are appended, what comes out is the quotient rounded to the 28th place. -/
theorem roundsTo_shifted (c places : ℕ) {s : ℕ} (within : s ≤ 28) :
    RoundsTo (c / tenPow s / tenPow places)
      ((shifted c s places).1 / tenPow (shifted c s places).2) := by
  unfold shifted
  split
  · next divides =>
    have whole := Nat.div_mul_cancel (Nat.dvd_of_mod_eq_zero divides)
    have quotient : (c : ℚ) / tenPow s / tenPow places = (c / 10 ^ places : ℕ) / tenPow s := by
      rw [div_div, ← div_tenPow_add (c / 10 ^ places) s places, whole, tenPow_add]
    rw [quotient]
    exact .of_scale_le _ within
  · dsimp only
    rw [trimmed_ratio]
    refine roundsTo_of_appended c places within (Nat.min_le_right _ _) ?_
    unfold appendedDigits
    split <;> omega

/-- The size of a quotient is rounded to the 28th place. -/
theorem divTenPow_rounds (d : Decimal) (places : ℕ) :
    ∃ size, RoundsTo (|d.value| / tenPow places) size ∧
      (d.divTenPow places).value = signed d.isNegative size := by
  by_cases isZero : d.isZero = true
  · refine ⟨0, ?_, ?_⟩
    · rw [isZero_iff_value.1 isZero, abs_zero, zero_div]
      simpa using RoundsTo.of_scale_le 0 (Nat.zero_le 28)
    · rw [divTenPow, if_pos isZero, value_zero]
      simp [signed]
  · have rounds := roundsTo_shifted d.coefficient places d.scale_le
    rw [← abs_value] at rounds
    refine ⟨_, rounds, ?_⟩
    rw [divTenPow, if_neg isZero, value_eq, signed_signOf]

theorem value_div_tenPow (d : Decimal) (places : ℕ) :
    d.value / tenPow places = signed d.isNegative (|d.value| / tenPow places) := by
  rw [← signed_div, abs_value, ← value_eq]

/-- A quotient that needs no more than 28 places is exact. -/
theorem divTenPow_of_scale_le {d : Decimal} {places : ℕ} (low : d.scale + places ≤ 28) :
    (d.divTenPow places).value = d.value / tenPow places := by
  obtain ⟨size, rounds, value⟩ := divTenPow_rounds d places
  have exact := RoundsTo.of_scale_le d.coefficient low
  rw [tenPow_add, ← div_div, ← abs_value] at exact
  rw [value, value_div_tenPow, rounds.unique exact]

theorem near_divTenPow (d : Decimal) (places : ℕ) :
    |(d.divTenPow places).value - d.value / tenPow places| ≤ 1 / 2 / tenPow 28 := by
  obtain ⟨size, rounds, value⟩ := divTenPow_rounds d places
  rw [value, value_div_tenPow, abs_signed_sub]
  exact rounds.near

/-- A quotient vanishes if it is at most half a unit of the 28th place. -/
theorem value_divTenPow_eq_zero_iff (d : Decimal) (places : ℕ) :
    (d.divTenPow places).value = 0 ↔ |d.value| / tenPow places ≤ 1 / 2 / tenPow 28 := by
  obtain ⟨size, rounds, value⟩ := divTenPow_rounds d places
  have nonneg : 0 ≤ |d.value| / tenPow places := div_nonneg (abs_nonneg _) (tenPow_pos places).le
  rw [← rounds.eq_zero_iff nonneg, value, ← abs_eq_zero, abs_signed, abs_eq_zero]

/-! ## Signs -/

theorem mul?_comm (a b : Decimal) : a.mul? b = b.mul? a := by
  have signs : (a.isNegative != b.isNegative) = (b.isNegative != a.isNegative) := by
    rw [bne_comm]
  unfold mul?
  rw [Bool.or_comm, Nat.mul_comm, Nat.add_comm, signs]

/-- The sign of a zero is no obstacle to changing signs. -/
theorem signOf_not_signOf (n : Bool) (c : ℕ) : signOf (!signOf n c) c = signOf (!n) c := by
  by_cases zero : c = 0
  · simp [signOf, zero]
  · rw [signOf, signOf, signOf, bne_iff_ne.2 zero, Bool.and_true, Bool.and_true, Bool.and_true]

theorem settled_neg (d : Decimal) :
    (-d).settled = { d with isNegative := signOf (!d.isNegative) d.coefficient } := rfl

theorem ofParts?_not (n : Bool) (c s : ℕ) :
    ofParts? (!n) c s = (ofParts? n c s).map fun d => (-d).settled := by
  unfold ofParts?
  split
  · rw [Option.map_some, settled_neg, signOf_not_signOf]
  · rfl

/-- A product changes its sign with a factor. -/
theorem mul?_neg (a b : Decimal) : a.mul? (-b) = (a.mul? b).map fun p => (-p).settled := by
  cases zero : a.isZero || b.isZero with
  | true =>
    rw [(mul?_of_isZero zero).1, (mul?_of_isZero (a := a) (b := -b) zero).1]
    rfl
  | false =>
    have signs : (a.isNegative != (-b).isNegative) = !(a.isNegative != b.isNegative) :=
      Bool.bne_not _ _
    rw [mul?_eq_bind zero, mul?_eq_bind (a := a) (b := -b) zero, Option.map_bind, signs]
    congr 1
    funext k
    exact ofParts?_not _ _ _

theorem neg_mul? (a b : Decimal) : (-a).mul? b = (a.mul? b).map fun p => (-p).settled := by
  rw [mul?_comm, mul?_neg, mul?_comm]

/-- A quotient changes its sign with what is divided. -/
theorem value_divTenPow_neg (d : Decimal) (places : ℕ) :
    ((-d).settled.divTenPow places).value = -(d.divTenPow places).value := by
  by_cases isZero : d.isZero = true
  · have isZero' : (-d).settled.isZero = true := isZero
    rw [divTenPow, divTenPow, if_pos isZero, if_pos isZero', value_zero, neg_zero]
  · have isZero' : ¬(-d).settled.isZero = true := isZero
    have nonzero : d.coefficient ≠ 0 := by simpa [Decimal.isZero] using isZero
    have sign : (-d).settled.isNegative = !d.isNegative := by
      rw [settled_neg, signOf, bne_iff_ne.2 nonzero, Bool.and_true]
    rw [divTenPow, divTenPow, if_neg isZero, if_neg isZero', value_eq, value_eq, signed_signOf,
      signed_signOf, sign, signed_not]
    rfl

end Decimal
end PaymentVault
