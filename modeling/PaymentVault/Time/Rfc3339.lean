import PaymentVault.Number.Decimal.Text
import PaymentVault.Text.Blank
import PaymentVault.Time.Instant

/-!
# Dates and times as text

Instants are written as RFC 3339 texts in UTC, with as many of three, six or nine fraction
digits as are needed. Years beyond four digits, and years before zero, carry a sign. The second
60 stands for a leap second.

Reading allows more: fewer digits, white space around the numbers, a space for the letter `T`, the
letters `UTC` for `Z`, and offsets from UTC.
-/
namespace PaymentVault.Instant

/-- A year, signed unless it is from 0 to 9999. -/
def yearDigits (year : Int) : List Char :=
  if 0 ≤ year ∧ year ≤ 9999 then Decimal.padded 4 year.natAbs
  else (if year < 0 then '-' else '+') :: Decimal.padded 4 year.natAbs

/-- A fraction of a second in the fewest groups of three digits. -/
def fractionDigits (nanos : Nat) : List Char :=
  if nanos = 0 then []
  else if nanos % 1000000 = 0 then '.' :: Decimal.padded 3 (nanos / 1000000)
  else if nanos % 1000 = 0 then '.' :: Decimal.padded 6 (nanos / 1000)
  else '.' :: Decimal.padded 9 nanos

/-- The written form of an instant. -/
def digits (t : Instant) : List Char :=
  let date := Date.ofDayNumber t.dayNumber
  let ofDay := (t.seconds % 86400).toNat
  let carry := t.nanos / 1000000000
  yearDigits date.year ++ '-' :: Decimal.padded 2 date.month ++ '-' :: Decimal.padded 2 date.day ++
    'T' :: Decimal.padded 2 (ofDay / 3600) ++ ':' :: Decimal.padded 2 (ofDay / 60 % 60) ++
    ':' :: Decimal.padded 2 (ofDay % 60 + carry) ++ fractionDigits (t.nanos % 1000000000) ++ ['Z']

def toText (t : Instant) : String := String.ofList t.digits

/-- Reads up to `limit` digits onto a value. -/
def takeDigits : Nat → Nat → List Char → Nat × List Char
  | 0, value, text => (value, text)
  | limit + 1, value, text =>
    match text with
    | [] => (value, [])
    | c :: rest =>
      match digitValue? c with
      | some digit => takeDigits limit (value * 10 + digit) rest
      | none => (value, text)

/-- Reads one to `limit` digits, white space in front allowed. -/
def number? (limit : Nat) (text : List Char) : Option (Nat × List Char) :=
  let text := dropBlanks text
  if (text.head?.bind digitValue?).isSome then some (takeDigits limit 0 text) else none

/-- Reads a year: up to four digits, or any number of them after a sign. -/
def year? (text : List Char) : Option (Int × List Char) :=
  let signed := fun (sign : Int) (rest : List Char) =>
    if (rest.head?.bind digitValue?).isSome then
      let (value, rest) := takeDigits rest.length 0 rest
      some (sign * value, rest)
    else none
  match dropBlanks text with
  | '-' :: rest => signed (-1) rest
  | '+' :: rest => signed 1 rest
  | text => (number? 4 text).map fun (value, rest) => ((value : Int), rest)

/-- Passes one expected character, white space in front allowed. -/
def mark? (mark : Char) (text : List Char) : Option (List Char) :=
  match dropBlanks text with
  | c :: rest => if c = mark then some rest else none
  | [] => none

/-- Reads the fraction of a second in nanoseconds, if there is one; digits beyond the ninth are
passed over. -/
def fraction? (text : List Char) : Option (Nat × List Char) :=
  match text with
  | '.' :: rest =>
    if (rest.head?.bind digitValue?).isSome then
      let (value, after) := takeDigits 9 0 rest
      some (value * 10 ^ (9 - (rest.length - after.length)), after.dropWhile fun c =>
        (digitValue? c).isSome)
    else none
  | _ => some (0, text)

/-- Reads exactly two digits. -/
def twoDigits? : List Char → Option (Nat × List Char)
  | a :: b :: rest => do
    let tens ← digitValue? a
    let ones ← digitValue? b
    return (tens * 10 + ones, rest)
  | _ => none

/-- Reads an offset from UTC in minutes. -/
def offset? (text : List Char) : Option (Int × List Char) :=
  let east := fun (sign : Int) (rest : List Char) => do
    let (hours, rest) ← twoDigits? rest
    let (minutes, rest) ← twoDigits? (rest.dropWhile fun c => c == ':' || isBlank c)
    if minutes < 60 ∧ hours < 24 then some (sign * (hours * 60 + minutes : Nat), rest) else none
  match text with
  | 'Z' :: rest | 'z' :: rest => some (0, rest)
  | '+' :: rest => east 1 rest
  | '-' :: rest | '−' :: rest => east (-1) rest
  | u :: t :: c :: rest =>
    if u.toUpper = 'U' ∧ t.toUpper = 'T' ∧ c.toUpper = 'C' then some (0, rest) else none
  | _ => none

/-- The instant of a date, a time of day with seconds up to 60, nanoseconds and an offset in
minutes. -/
def ofCivil? (date : Date) (hour minute second nanos : Nat) (offset : Int) : Option Instant :=
  if date.isValid ∧ -262143 ≤ date.year ∧ date.year ≤ 262142 ∧ hour < 24 ∧ minute < 60 ∧
    second ≤ 60 then
    let leap := second / 60
    let ofDay := hour * 3600 + minute * 60 + (second - leap)
    of? (date.toDayNumber * 86400 + ofDay - offset * 60) (nanos + leap * 1000000000)
  else none

/-- Reads a date and time. -/
def ofDigits? (text : List Char) : Option Instant := do
  let (year, text) ← year? text
  let text ← mark? '-' text
  let (month, text) ← number? 2 text
  let text ← mark? '-' text
  let (day, text) ← number? 2 text
  let text ← match text with
    | 'T' :: rest | 't' :: rest | ' ' :: rest => some rest
    | _ => none
  let (hour, text) ← number? 2 text
  let text ← mark? ':' text
  let (minute, text) ← number? 2 text
  let text ← mark? ':' text
  let (second, text) ← number? 2 text
  let (nanos, text) ← fraction? text
  let (offset, text) ← offset? (dropBlanks text)
  if dropBlanks text = [] then ofCivil? ⟨year, month, day⟩ hour minute second nanos offset else none

def ofText? (text : String) : Option Instant := ofDigits? text.toList

end PaymentVault.Instant
