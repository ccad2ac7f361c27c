import PaymentVault.Proofs.Number.DecimalText
import PaymentVault.Proofs.Time.Calendar
import PaymentVault.Time.Rfc3339

/-!
# Reading written instants

The instant that was written is the instant that is read (`ofText?_toText`). Each number is read
from its digits, whatever follows that is no digit.
-/
namespace PaymentVault

theorem isBlank_of_isDigit {c : Char} (digit : c.isDigit) : isBlank c = false := by
  have bounds : 48 ≤ c.toNat ∧ c.toNat ≤ 57 := by
    simpa [Char.isDigit, UInt32.le_iff_toNat_le] using digit
  simp only [isBlank, Bool.or_eq_false_iff, Bool.and_eq_false_iff, decide_eq_false_iff_not,
    beq_eq_false_iff_ne]
  omega

theorem dropBlanks_cons {c : Char} (text : List Char) (filled : isBlank c = false) :
    dropBlanks (c :: text) = c :: text := by
  rw [dropBlanks, List.dropWhile_cons_of_neg (by simp [filled])]

namespace Instant

/-! ## Digits -/

/-- A text that does not go on with a digit. -/
def Stops (text : List Char) : Prop := ∀ c ∈ text.head?, c.isDigit = false

theorem stops_cons {c : Char} (other : c.isDigit = false) (text : List Char) : Stops (c :: text) := by
  intro first same
  obtain rfl : c = first := by simpa using same
  exact other

/-- Digits are taken up to the limit or to where they stop. -/
theorem takeDigits_append {digits : List Char} (each : ∀ c ∈ digits, c.isDigit) {limit : Nat}
    (fits : digits.length ≤ limit) (value : Nat) {rest : List Char}
    (ends : digits.length = limit ∨ Stops rest) :
    takeDigits limit value (digits ++ rest) = (Nat.ofDigitChars 10 digits value, rest) := by
  induction digits generalizing limit value with
  | nil =>
    cases limit with
    | zero => rfl
    | succ limit =>
      have stops : Stops rest := ends.resolve_left (Nat.succ_ne_zero limit).symm
      cases rest with
      | nil => rfl
      | cons c rest => simp [takeDigits, digitValue?_of_not_isDigit (stops c rfl)]
  | cons c digits ih =>
    obtain ⟨digit, others⟩ := List.forall_mem_cons.1 each
    cases limit with
    | zero => exact absurd fits (Nat.not_succ_le_zero _)
    | succ limit =>
      rw [List.length_cons] at fits ends
      have further := ih others (Nat.le_of_succ_le_succ fits)
        (value * 10 + (c.toNat - '0'.toNat)) (ends.imp_left Nat.succ.inj)
      simp only [List.cons_append, takeDigits, digitValue?_of_isDigit digit, further,
        Nat.ofDigitChars_cons, Nat.mul_comm 10]

section digits

variable {limit n : Nat} {rest : List Char}

theorem isSome_digit_padded (positive : 0 < limit) (n : Nat) (rest : List Char) :
    ((Decimal.padded limit n ++ rest).head?.bind digitValue?).isSome := by
  obtain ⟨c, others, same, digit⟩ := Decimal.exists_padded positive n
  simp [same, digitValue?_of_isDigit digit]

theorem dropBlanks_padded (positive : 0 < limit) (n : Nat) (rest : List Char) :
    dropBlanks (Decimal.padded limit n ++ rest) = Decimal.padded limit n ++ rest := by
  obtain ⟨c, others, same, digit⟩ := Decimal.exists_padded positive n
  rw [same, List.cons_append, dropBlanks_cons _ (isBlank_of_isDigit digit)]

/-- A number is read from as many digits as it may have. -/
theorem number?_padded (positive : 0 < limit) (fits : n < 10 ^ limit) (rest : List Char) :
    number? limit (Decimal.padded limit n ++ rest) = some (n, rest) := by
  have each : ∀ c ∈ Decimal.padded limit n, c.isDigit := fun c => Decimal.isDigit_of_mem_padded
  have size := Decimal.length_padded_of_lt positive fits
  have read : takeDigits limit 0 (Decimal.padded limit n ++ rest) = (n, rest) := by
    rw [takeDigits_append each (Nat.le_of_eq size) 0 (.inl size), Decimal.ofDigitChars_padded]
  simp only [number?, dropBlanks_padded positive, isSome_digit_padded positive, if_true, read]

end digits

theorem mark?_cons {mark : Char} (filled : isBlank mark = false) (rest : List Char) :
    mark? mark (mark :: rest) = some rest := by
  simp only [mark?, dropBlanks_cons rest filled, if_true]

/-! ## Years and fractions -/

/-- A year is read with its sign, if it has one. -/
theorem year?_yearDigits (year : Int) {rest : List Char} (stops : Stops rest) :
    year? (yearDigits year ++ rest) = some (year, rest) := by
  have positive : 0 < 4 := by decide
  have each : ∀ c ∈ Decimal.padded 4 year.natAbs, c.isDigit :=
    fun c => Decimal.isDigit_of_mem_padded
  have filled := isSome_digit_padded positive year.natAbs rest
  unfold yearDigits
  split
  · next plain =>
    have read := number?_padded positive (show year.natAbs < 10 ^ 4 by omega) rest
    have same : (year.natAbs : Int) = year := by omega
    obtain ⟨c, others, digits, digit⟩ := Decimal.exists_padded positive year.natAbs
    unfold year?
    rw [dropBlanks_padded positive]
    split
    · next minus =>
      rw [digits, List.cons_append] at minus
      cases minus
      exact absurd digit (by decide)
    · next plus =>
      rw [digits, List.cons_append] at plus
      cases plus
      exact absurd digit (by decide)
    · simp only [read, Option.map_some, same]
  · next beyond =>
    have read : takeDigits (Decimal.padded 4 year.natAbs ++ rest).length 0
        (Decimal.padded 4 year.natAbs ++ rest) = (year.natAbs, rest) := by
      rw [takeDigits_append each (by simp) 0 (.inr stops), Decimal.ofDigitChars_padded]
    by_cases negative : year < 0
    · have same : -1 * (year.natAbs : Int) = year := by omega
      rw [if_pos negative, List.cons_append, year?, dropBlanks_cons _ (by decide)]
      simp only [filled, if_true, read, same]
    · have same : 1 * (year.natAbs : Int) = year := by omega
      rw [if_neg negative, List.cons_append, year?, dropBlanks_cons _ (by decide)]
      simp only [filled, if_true, read, same]

/-- Some digits of a fraction stand for the number that they are the first of nine digits of. -/
theorem fraction?_padded {places n : Nat} (positive : 0 < places) (few : places ≤ 9)
    (fits : n < 10 ^ places) {rest : List Char} (stops : Stops rest) :
    fraction? ('.' :: (Decimal.padded places n ++ rest)) = some (n * 10 ^ (9 - places), rest) := by
  have each : ∀ c ∈ Decimal.padded places n, c.isDigit := fun c => Decimal.isDigit_of_mem_padded
  have size := Decimal.length_padded_of_lt positive fits
  have filled := isSome_digit_padded positive n rest
  have read : takeDigits 9 0 (Decimal.padded places n ++ rest) = (n, rest) := by
    rw [takeDigits_append each (size.symm ▸ few) 0 (.inr stops), Decimal.ofDigitChars_padded]
  have passed : rest.dropWhile (fun c => (digitValue? c).isSome) = rest := by
    cases rest with
    | nil => rfl
    | cons c rest =>
      rw [List.dropWhile_cons_of_neg]
      simp [digitValue?_of_not_isDigit (stops c rfl)]
  have taken : (Decimal.padded places n ++ rest).length - rest.length = places := by
    rw [List.length_append, size]
    omega
  simp only [fraction?, filled, if_true, read, taken, passed]

theorem fraction?_fractionDigits {nanos : Nat} (short : nanos < 1000000000) {rest : List Char}
    (stops : Stops rest) (noPoint : rest.head? ≠ some '.') :
    fraction? (fractionDigits nanos ++ rest) = some (nanos, rest) := by
  unfold fractionDigits
  split
  · next whole =>
    rw [List.nil_append, whole]
    unfold fraction?
    split
    · exact absurd rfl noPoint
    · rfl
  split
  · next millis =>
    have same : nanos / 1000000 * 10 ^ (9 - 3) = nanos := by omega
    rw [List.cons_append, fraction?_padded (by decide) (by decide) (by omega) stops, same]
  split
  · next micros =>
    have same : nanos / 1000 * 10 ^ (9 - 6) = nanos := by omega
    rw [List.cons_append, fraction?_padded (by decide) (by decide) (by omega) stops, same]
  · have same : nanos * 10 ^ (9 - 9) = nanos := by omega
    rw [List.cons_append, fraction?_padded (by decide) (by decide) (by omega) stops, same]

/-! ## Instants -/

/-- The second of a day in hours, minutes and seconds, of which a leap second has one more. -/
theorem ofCivil?_dayNumber (t : Instant) :
    ofCivil? (Date.ofDayNumber t.dayNumber) ((t.seconds % 86400).toNat / 3600)
      ((t.seconds % 86400).toNat / 60 % 60)
      ((t.seconds % 86400).toNat % 60 + t.nanos / 1000000000) (t.nanos % 1000000000) 0 =
        some t := by
  have short := t.nanos_lt
  have leap := t.leap
  have first := t.first_le
  have last := t.le_last
  have start : Date.toDayNumber ⟨-262143, 1, 1⟩ = -96465292 := by decide
  have stop : Date.toDayNumber ⟨262143, 1, 1⟩ = 95026237 := by decide
  have valid := Date.isValid_ofDayNumber t.dayNumber
  have year := Date.year_ofDayNumber (show _ ≤ t.dayNumber by unfold dayNumber; omega)
    (show t.dayNumber < _ by unfold dayNumber; omega)
  have carry : ((t.seconds % 86400).toNat % 60 + t.nanos / 1000000000) / 60 =
      t.nanos / 1000000000 := by omega
  have clock : (t.seconds % 86400).toNat / 3600 < 24 ∧ (t.seconds % 86400).toNat / 60 % 60 < 60 ∧
      (t.seconds % 86400).toNat % 60 + t.nanos / 1000000000 ≤ 60 := by omega
  have nanos : t.nanos % 1000000000 + t.nanos / 1000000000 * 1000000000 = t.nanos := by omega
  have seconds : t.dayNumber * 86400 + (((t.seconds % 86400).toNat / 3600 * 3600 +
      (t.seconds % 86400).toNat / 60 % 60 * 60 +
      ((t.seconds % 86400).toNat % 60 + t.nanos / 1000000000 - t.nanos / 1000000000) : Nat) : Int) -
      0 * 60 = t.seconds := by
    unfold dayNumber
    omega
  rw [ofCivil?, if_pos ⟨valid, year.1, year.2, clock⟩, Date.toDayNumber_ofDayNumber]
  simp only [carry, nanos, seconds, of?_self]

/-- A date of the calendar has a month and a day of two digits. -/
theorem two_digits_of_isValid {date : Date} (valid : date.isValid) :
    date.month < 10 ^ 2 ∧ date.day < 10 ^ 2 := by
  simp only [Date.isValid, Bool.and_eq_true, decide_eq_true_eq] at valid
  have few : Date.daysInMonth date.year date.month ≤ 31 := by
    unfold Date.daysInMonth
    split
    · split <;> decide
    all_goals decide
  omega

theorem ofDigits?_digits (t : Instant) : ofDigits? t.digits = some t := by
  have short := t.nanos_lt
  have two : 0 < 2 := by decide
  have dash (rest : List Char) : mark? '-' ('-' :: rest) = some rest := mark?_cons (by decide) rest
  have colon (rest : List Char) : mark? ':' (':' :: rest) = some rest := mark?_cons (by decide) rest
  have year (rest : List Char) := year?_yearDigits (Date.ofDayNumber t.dayNumber).year
    (stops_cons (show '-'.isDigit = false by decide) rest)
  have date := two_digits_of_isValid (Date.isValid_ofDayNumber t.dayNumber)
  have month := number?_padded two date.1
  have day := number?_padded two date.2
  have hour := number?_padded two (show (t.seconds % 86400).toNat / 3600 < 10 ^ 2 by omega)
  have minute := number?_padded two (show (t.seconds % 86400).toNat / 60 % 60 < 10 ^ 2 by omega)
  have second := number?_padded two
    (show (t.seconds % 86400).toNat % 60 + t.nanos / 1000000000 < 10 ^ 2 by omega)
  have fraction := fraction?_fractionDigits (show t.nanos % 1000000000 < 1000000000 by omega)
    (stops_cons (show 'Z'.isDigit = false by decide) []) (by simp)
  have offset : offset? (dropBlanks ['Z']) = some (0, []) := rfl
  have ends : dropBlanks [] = [] := rfl
  simp only [ofDigits?, digits, List.append_assoc, List.cons_append, year, dash, month, day, hour,
    colon, minute, second, fraction, offset, ends, bind, Option.bind, if_true]
  exact ofCivil?_dayNumber t

/-- The instant that was written is read. -/
theorem ofText?_toText (t : Instant) : ofText? t.toText = some t := by
  rw [ofText?, toText, String.toList_ofList, ofDigits?_digits]

end Instant
end PaymentVault
