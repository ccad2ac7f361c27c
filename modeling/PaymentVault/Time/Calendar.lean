/-!
# The proleptic Gregorian calendar

Days are counted from 1970-01-01. Years are taken from March to February, so that the leap day
ends a year, and four centuries make one era of 146097 days.
-/
namespace PaymentVault

/-- A year, month and day of the month. -/
structure Date where
  year : Int
  month : Nat
  day : Nat
  deriving DecidableEq, Repr

namespace Date

def isLeapYear (year : Int) : Bool := year % 4 = 0 && (year % 100 ≠ 0 || year % 400 = 0)

def daysInMonth (year : Int) (month : Nat) : Nat :=
  match month with
  | 2 => if isLeapYear year then 29 else 28
  | 4 | 6 | 9 | 11 => 30
  | _ => 31

/-- Whether the calendar has this date. -/
def isValid (date : Date) : Bool :=
  1 ≤ date.month && date.month ≤ 12 && 1 ≤ date.day && date.day ≤ daysInMonth date.year date.month

/-- Days from the start of March to the start of the month that comes `index` months later. -/
def daysBeforeMonth (index : Nat) : Nat := (153 * index + 2) / 5

/-- The number of the day, 1970-01-01 being day zero. -/
def toDayNumber (date : Date) : Int :=
  let year := if date.month ≤ 2 then date.year - 1 else date.year
  let ofEra := (year % 400).toNat
  let ofYear := daysBeforeMonth ((date.month + 9) % 12) + date.day - 1
  year / 400 * 146097 + (365 * ofEra + ofEra / 4 - ofEra / 100 + ofYear : Nat) - 719468

/-- The date of a day number. -/
def ofDayNumber (number : Int) : Date :=
  let shifted := number + 719468
  let ofEra := (shifted % 146097).toNat
  let century := min 3 (ofEra / 36524)
  let ofCentury := ofEra - century * 36524
  let quad := ofCentury / 1461
  let ofQuad := ofCentury - quad * 1461
  let yearOfQuad := min 3 (ofQuad / 365)
  let ofYear := ofQuad - yearOfQuad * 365
  let index := (5 * ofYear + 2) / 153
  let month := if index < 10 then index + 3 else index - 9
  let year := shifted / 146097 * 400 + (100 * century + 4 * quad + yearOfQuad : Nat)
  ⟨if month ≤ 2 then year + 1 else year, month, ofYear - daysBeforeMonth index + 1⟩

example : toDayNumber ⟨1970, 1, 1⟩ = 0 ∧ toDayNumber ⟨2000, 2, 29⟩ = 11016 := by decide
example : ofDayNumber 11016 = ⟨2000, 2, 29⟩ ∧ ofDayNumber (-1) = ⟨1969, 12, 31⟩ := by decide

end Date
end PaymentVault
