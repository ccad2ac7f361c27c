import PaymentVault.Number.Decimal.Basic

/-!
# Decimal text

Decimals are written in plain notation with exactly their fraction digits. Reading is laxer: a
sign, one point anywhere, and underscores after the first digit. Fraction digits that do not fit
are rounded off by the first of them alone, five and more upwards. Text that is not in plain
notation is read in scientific notation: a plain number times a power of ten, again with at most
28 fraction digits.
-/
namespace PaymentVault

/-- The value of an ASCII digit. -/
def digitValue? (c : Char) : Option Nat :=
  if '0' ≤ c ∧ c ≤ '9' then some (c.toNat - '0'.toNat) else none

namespace Decimal

/-- Decimal digits of `n`, zeros in front to make at least `width` of them. -/
def padded (width n : Nat) : List Char :=
  let digits := Nat.toDigits 10 n
  List.replicate (width - digits.length) '0' ++ digits

/-- Digits of an unsigned decimal, the point before the last `scale` of them. -/
def plainDigits (coefficient scale : Nat) : List Char :=
  let digits := padded (scale + 1) coefficient
  if scale = 0 then digits
  else digits.take (digits.length - scale) ++ '.' :: digits.drop (digits.length - scale)

/-- Plain notation. -/
def digits (d : Decimal) : List Char :=
  (if d.isNegative then ['-'] else []) ++ plainDigits d.coefficient d.scale

def toText (d : Decimal) : String := String.ofList d.digits

/-- Whether a character may stand among digits that are dropped. -/
def isDroppable (c : Char) : Bool := (digitValue? c).isSome || c == '_'

/-- Ends a reading at the first digit that no longer fits. -/
def roundOff (coefficient scale : Nat) (dropped : List Char) : Option (Nat × Nat) :=
  if dropped.all isDroppable then
    if 5 ≤ (dropped.head?.bind digitValue?).getD 0 then
      if coefficient + 1 < 2 ^ 96 then some (coefficient + 1, scale)
      else if scale = 0 then none
      else some ((coefficient + 5) / 10, scale - 1)
    else some (coefficient, scale)
  else none

/-- The coefficient from which on a further digit might not fit into 64 bits. -/
def wideCoefficient : Nat := (2 ^ 64 - 1) / 10 - 255

/-- The text behind the 28th fraction digit that rounding looks at. Underscores are passed over
if the coefficient was wide before that digit; otherwise an underscore is itself the first
dropped digit, a zero. -/
def behindLastPlace (coefficient : Nat) (text : List Char) : List Char :=
  if wideCoefficient ≤ coefficient / 10 then text.dropWhile (· == '_') else text

/-- Reads digits onto a coefficient and scale; `started` after the first digit, `fraction` after the
point. -/
def scan (coefficient scale : Nat) (started fraction : Bool) : List Char → Option (Nat × Nat)
  | [] => if started then some (coefficient, scale) else none
  | c :: rest =>
    if fraction && scale == 28 then
      roundOff coefficient scale (behindLastPlace coefficient (c :: rest))
    else
      match digitValue? c with
      | some digit =>
        let next := coefficient * 10 + digit
        if next < 2 ^ 96 then scan next (if fraction then scale + 1 else scale) true fraction rest
        else if fraction then roundOff coefficient scale (c :: rest)
        else none
      | none =>
        if c == '.' && !fraction then scan coefficient scale started true rest
        else if c == '_' && started then scan coefficient scale started fraction rest
        else none

/-- Takes a sign off the front. -/
def splitSign : List Char → Bool × List Char
  | '-' :: rest => (true, rest)
  | '+' :: rest => (false, rest)
  | text => (false, text)

/-- Reads plain notation. -/
def ofDigits? (text : List Char) : Option Decimal :=
  let (negative, body) := splitSign text
  (scan 0 0 false false body).bind fun (coefficient, scale) => ofParts? negative coefficient scale

/-- An unsigned number of at most 32 bits, a plus sign allowed in front. -/
def exponent? (text : List Char) : Option Nat :=
  let body := if text.head? = some '+' then text.tail else text
  if body.isEmpty then none
  else
    (body.mapM digitValue?).bind fun digits =>
      let value := digits.foldl (fun acc digit => acc * 10 + digit) 0
      if value < 2 ^ 32 then some value else none

/-- Moves the point of `d` to the right, by `places` up to 28 from the start of its fraction. -/
def scaleUp? (d : Decimal) (places : Nat) : Option Decimal :=
  if places ≤ d.scale then ofParts? d.isNegative d.coefficient (d.scale - places)
  else if 28 < places then none
  else ofParts? d.isNegative (d.coefficient * 10 ^ (places - d.scale)) 0

/-- A coefficient without its last `count` digits, rounded by the first of these, five and more
upwards. -/
def withoutDigits (count coefficient : Nat) : Nat := (coefficient + 10 ^ count / 2) / 10 ^ count

theorem withoutDigits_le (count coefficient : Nat) :
    withoutDigits count coefficient ≤ coefficient := by
  cases count with
  | zero => simp [withoutDigits]
  | succ count =>
    have positive : 0 < 10 ^ (count + 1) := Nat.pow_pos (by decide)
    have ten : 10 ≤ 10 ^ (count + 1) := by
      rw [Nat.pow_succ]
      exact Nat.le_mul_of_pos_left 10 (Nat.pow_pos (by decide))
    rcases Nat.eq_zero_or_pos coefficient with zero | some
    · subst zero
      refine Nat.le_of_eq ?_
      unfold withoutDigits
      exact Nat.div_eq_of_lt (by omega)
    · have product : 10 ^ (count + 1) * 1 ≤ 10 ^ (count + 1) * coefficient :=
        Nat.mul_le_mul_left _ some
      have larger : 10 * coefficient ≤ 10 ^ (count + 1) * coefficient := Nat.mul_le_mul_right _ ten
      refine Nat.le_of_lt_succ ((Nat.div_lt_iff_lt_mul positive).2 ?_)
      rw [Nat.succ_mul, Nat.mul_comm coefficient]
      omega

/-- Moves the point of `d` to the left. Digits that leave the 28th place are rounded off, and a
zero that is left of a negative number keeps the sign. -/
def scaleDown (d : Decimal) (places : Nat) : Decimal :=
  if h : d.scale + places ≤ 28 then { d with scale := d.scale + places, scale_le := h }
  else
    { d with
      coefficient := withoutDigits (d.scale + places - 28) d.coefficient
      scale := 28
      coefficient_lt := Nat.lt_of_le_of_lt (withoutDigits_le _ _) d.coefficient_lt
      scale_le := Nat.le_refl 28 }

/-- Reads a plain decimal, the letter `e` and a whole exponent, which is not below -28. -/
def ofScientific? (text : List Char) : Option Decimal :=
  let isMark := fun c : Char => c == 'e' || c == 'E'
  match text.dropWhile (!isMark ·) with
  | [] => none
  | _ :: mark => do
    let base ← ofDigits? (text.takeWhile (!isMark ·))
    match mark with
    | '-' :: places => do
      let places ← exponent? places
      if 28 < places then none else some (scaleDown base places)
    | places => do
      let places ← exponent? places
      scaleUp? base places

/-- The decimal of a text in either notation. -/
def ofText? (text : String) : Option Decimal :=
  (ofDigits? text.toList).or (ofScientific? text.toList)

end Decimal
end PaymentVault
