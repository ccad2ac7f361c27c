import PaymentVault.Time.Instant

/-!
# Days and dates

The date of a day is a date of the calendar, and it is the date of that day only
(`isValid_ofDayNumber`, `toDayNumber_ofDayNumber`). A day is first placed in its year of an era,
then in its month.
-/
namespace PaymentVault.Date

/-- Days in the first years of an era. -/
def daysBeforeYear (ofEra : Nat) : Nat := 365 * ofEra + ofEra / 4 - ofEra / 100

/-- The date of a day of a year, the day and the year counted from March. -/
def ofMarch (year : Int) (ofYear : Nat) : Date :=
  let index := (5 * ofYear + 2) / 153
  let month := if index < 10 then index + 3 else index - 9
  ⟨if month ≤ 2 then year + 1 else year, month, ofYear - daysBeforeMonth index + 1⟩

/-- The place of a day: an era, a year of the era and a day of the year. Only a year that ends in
February of a leap year has room for the last day. -/
structure IsPlacedAt (number era : Int) (ofEra ofYear : Nat) : Prop where
  ofEra_lt : ofEra < 400
  ofYear_le : ofYear ≤ 365
  leap : ofYear = 365 → (ofEra + 1) % 4 = 0 ∧ ((ofEra + 1) % 100 = 0 → ofEra = 399)
  number_eq : number + 719468 = era * 146097 + (daysBeforeYear ofEra + ofYear : Nat)

/-- Every day has a place, and its date is the date of that place. -/
theorem exists_isPlacedAt (number : Int) :
    ∃ era ofEra ofYear, IsPlacedAt number era ofEra ofYear ∧
      ofDayNumber number = ofMarch (era * 400 + ofEra) ofYear := by
  have below : (number + 719468) % 146097 < 146097 := Int.emod_lt_of_pos _ (by decide)
  have above : 0 ≤ (number + 719468) % 146097 := Int.emod_nonneg _ (by decide)
  have whole := Int.mul_ediv_add_emod (number + 719468) 146097
  obtain ⟨day, same⟩ : ∃ day, ((number + 719468) % 146097).toNat = day := ⟨_, rfl⟩
  have short : day < 146097 := by omega
  obtain ⟨century, isCentury⟩ : ∃ century, min 3 (day / 36524) = century := ⟨_, rfl⟩
  have within : day - century * 36524 ≤ 36524 ∧ century * 36524 ≤ day ∧ century ≤ 3 ∧
      (day - century * 36524 = 36524 → century = 3) := by omega
  obtain ⟨ofCentury, isOfCentury⟩ : ∃ ofCentury, day - century * 36524 = ofCentury := ⟨_, rfl⟩
  obtain ⟨quad, isQuad⟩ : ∃ quad, ofCentury / 1461 = quad := ⟨_, rfl⟩
  obtain ⟨ofQuad, isOfQuad⟩ : ∃ ofQuad, ofCentury - quad * 1461 = ofQuad := ⟨_, rfl⟩
  have inQuad : quad ≤ 24 ∧ ofQuad ≤ 1460 ∧ ofCentury = quad * 1461 + ofQuad := by omega
  obtain ⟨year, isYear⟩ : ∃ year, min 3 (ofQuad / 365) = year := ⟨_, rfl⟩
  have inYear : year ≤ 3 ∧ ofQuad - year * 365 ≤ 365 ∧ year * 365 ≤ ofQuad ∧
      (ofQuad - year * 365 = 365 → year = 3) := by omega
  refine ⟨(number + 719468) / 146097, 100 * century + 4 * quad + year, ofQuad - year * 365,
    ⟨by omega, by omega, by omega, ?_⟩, ?_⟩
  · have days : daysBeforeYear (100 * century + 4 * quad + year) =
        36524 * century + 1461 * quad + 365 * year := by
      have fourths : (100 * century + 4 * quad + year) / 4 = 25 * century + quad := by omega
      have hundredths : (100 * century + 4 * quad + year) / 100 = century := by omega
      rw [daysBeforeYear, fourths, hundredths]
      omega
    rw [days]
    omega
  · simp only [ofDayNumber, ofMarch, same, isCentury, isOfCentury, isQuad, isOfQuad, isYear]

variable {number era : Int} {ofEra ofYear : Nat}

/-- The months from March on, up to the one that a day is in. -/
theorem daysBeforeMonth_index (within : ofYear ≤ 365) :
    (5 * ofYear + 2) / 153 ≤ 11 ∧ daysBeforeMonth ((5 * ofYear + 2) / 153) ≤ ofYear ∧
      ofYear < daysBeforeMonth ((5 * ofYear + 2) / 153 + 1) := by
  unfold daysBeforeMonth
  omega

/-- A day of a year is the day of its date. -/
theorem toDayNumber_ofMarch (placed : IsPlacedAt number era ofEra ofYear) :
    toDayNumber (ofMarch (era * 400 + ofEra) ofYear) = number := by
  obtain ⟨short, within, -, same⟩ := placed
  obtain ⟨last, before, -⟩ := daysBeforeMonth_index within
  have days : daysBeforeYear ofEra = 365 * ofEra + ofEra / 4 - ofEra / 100 := rfl
  have rest : ((era * 400 + (ofEra : Int)) % 400).toNat = ofEra := by omega
  have quotient : (era * 400 + (ofEra : Int)) / 400 = era := by omega
  unfold ofMarch
  generalize (5 * ofYear + 2) / 153 = index at last before
  by_cases early : index < 10
  · have late : ¬index + 3 ≤ 2 := by omega
    have month : (index + 3 + 9) % 12 = index := by omega
    simp only [toDayNumber, if_pos early, if_neg late, month, rest, quotient]
    omega
  · have late : index - 9 ≤ 2 := by omega
    have month : (index - 9 + 9) % 12 = index := by omega
    simp only [toDayNumber, if_neg early, if_pos late, month, Int.add_sub_cancel, rest, quotient]
    omega

/-- Only February depends on the year. -/
theorem daysInMonth_of_ne (year : Int) {month : Nat} (other : month ≠ 2) :
    daysInMonth year month = daysInMonth 0 month := by
  unfold daysInMonth
  split
  · exact absurd rfl other
  all_goals rfl

/-- From March to January, a month ends where the next begins. -/
theorem daysBeforeMonth_succ : ∀ index : Fin 11,
    daysBeforeMonth (index + 1) = daysBeforeMonth index +
      daysInMonth 0 (if index.val < 10 then index.val + 3 else index.val - 9) := by
  decide

/-- The day of a month is one that the month has. -/
theorem isValid_ofMarch (placed : IsPlacedAt number era ofEra ofYear) :
    (ofMarch (era * 400 + ofEra) ofYear).isValid := by
  obtain ⟨short, within, leap, -⟩ := placed
  obtain ⟨last, before, after⟩ := daysBeforeMonth_index within
  simp only [isValid, Bool.and_eq_true, decide_eq_true_eq]
  unfold ofMarch
  generalize (5 * ofYear + 2) / 153 = index at last before after
  by_cases february : index = 11
  · subst february
    have start : daysBeforeMonth 11 = 337 := rfl
    refine ⟨⟨⟨Nat.le_succ 1, Nat.le_add_left 2 10⟩, Nat.le_add_left 1 _⟩, ?_⟩
    show ofYear - daysBeforeMonth 11 + 1 ≤
      if isLeapYear (era * 400 + ofEra + 1) then 29 else 28
    split
    · omega
    · next common =>
      have fourth : ¬(ofYear = 365) := by
        intro full
        obtain ⟨fourth, hundredth⟩ := leap full
        simp only [isLeapYear, Bool.and_eq_true, Bool.or_eq_true, decide_eq_true_eq] at common
        omega
      omega
  · have ends := daysBeforeMonth_succ ⟨index, by omega⟩
    dsimp only at ends
    have other : (if index < 10 then index + 3 else index - 9) ≠ 2 := by split <;> omega
    dsimp only
    rw [daysInMonth_of_ne _ other]
    refine ⟨⟨⟨?_, ?_⟩, ?_⟩, ?_⟩
    · split <;> omega
    · split <;> omega
    · omega
    · omega

/-! ## Dates of days -/

theorem toDayNumber_ofDayNumber (number : Int) : toDayNumber (ofDayNumber number) = number := by
  obtain ⟨era, ofEra, ofYear, placed, same⟩ := exists_isPlacedAt number
  rw [same, toDayNumber_ofMarch placed]

theorem isValid_ofDayNumber (number : Int) : (ofDayNumber number).isValid := by
  obtain ⟨era, ofEra, ofYear, placed, same⟩ := exists_isPlacedAt number
  rw [same]
  exact isValid_ofMarch placed

/-- Days from the first of one year to the last of another are in these years or between. -/
theorem year_ofDayNumber {number : Int} (first : toDayNumber ⟨-262143, 1, 1⟩ ≤ number)
    (last : number < toDayNumber ⟨262143, 1, 1⟩) :
    -262143 ≤ (ofDayNumber number).year ∧ (ofDayNumber number).year ≤ 262142 := by
  obtain ⟨era, ofEra, ofYear, ⟨short, within, -, place⟩, same⟩ := exists_isPlacedAt number
  have start : toDayNumber ⟨-262143, 1, 1⟩ = -96465292 := by decide
  have stop : toDayNumber ⟨262143, 1, 1⟩ = 95026237 := by decide
  rw [daysBeforeYear] at place
  rw [same]
  simp only [ofMarch]
  by_cases early : (5 * ofYear + 2) / 153 < 10
  · have late : ¬(5 * ofYear + 2) / 153 + 3 ≤ 2 := by omega
    simp only [if_pos early, if_neg late]
    omega
  · have late : (5 * ofYear + 2) / 153 - 9 ≤ 2 := by omega
    have winter : 306 ≤ ofYear := by omega
    have era_le : era ≤ 655 := by omega
    have year_le : era = 655 → ofEra ≤ 141 := by omega
    simp only [if_neg early, if_pos late]
    omega

end PaymentVault.Date
