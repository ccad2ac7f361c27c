import PaymentVault.Number.Decimal.Text

/-!
# Double precision numbers in decimal notation

Just as much of 64-bit binary floating point as decimal literals need: the double nearest to a
ratio, a literal's digits times a power of ten as two rounded steps, and the shortest decimal
digits that read back as a given double. Only magnitudes appear here; signs belong to the
literal.
-/
namespace PaymentVault

/-- A finite magnitude `significand * 2 ^ exponent`. -/
structure Binary64 where
  significand : Nat
  exponent : Int
  deriving DecidableEq

namespace Binary64

/-- `num / den * 2 ^ (-exponent)` as a fraction. -/
def scaledRatio (num den : Nat) (exponent : Int) : Nat × Nat :=
  if exponent < 0 then (num * 2 ^ exponent.natAbs, den) else (num, den * 2 ^ exponent.natAbs)

/-- The exponent that leaves 53 significant bits before the point, or the least exponent there
is. -/
def exponentOf (num den : Nat) : Int :=
  let guess : Int := (num.log2 : Int) - den.log2 - 52
  let (n, d) := scaledRatio num den guess
  max (if n / d < 2 ^ 52 then guess - 1 else guess) (-1074)

/-- The double nearest to a ratio, ties to even; nothing where it would be infinite. -/
def ofRatio? (num den : Nat) : Option Binary64 :=
  if num = 0 then some ⟨0, -1074⟩
  else
    let exponent := exponentOf num den
    let (n, d) := scaledRatio num den exponent
    let rounded := roundHalfEven n d
    let value : Binary64 := if rounded = 2 ^ 53 then ⟨2 ^ 52, exponent + 1⟩ else ⟨rounded, exponent⟩
    if 971 < value.exponent then none else some value

/-- The exact value as a fraction. -/
def ratio (x : Binary64) : Nat × Nat := scaledRatio x.significand 1 (-x.exponent)

def isZero (x : Binary64) : Bool := x.significand == 0

def mul? (x y : Binary64) : Option Binary64 :=
  ofRatio? (x.ratio.1 * y.ratio.1) (x.ratio.2 * y.ratio.2)

def div? (x y : Binary64) : Option Binary64 :=
  ofRatio? (x.ratio.1 * y.ratio.2) (x.ratio.2 * y.ratio.1)

/-- Multiplies by a power of ten, by way of the double nearest to that power; far negative
powers are taken in strides of `10 ^ 308`. -/
def timesTenPow? : Nat → Binary64 → Int → Option Binary64
  | 0, x, _ => some x
  | strides + 1, x, power =>
    if 0 ≤ power then
      if power ≤ 308 then do x.mul? (← ofRatio? (10 ^ power.natAbs) 1)
      else if x.isZero then some x
      else none
    else if -308 ≤ power then do x.div? (← ofRatio? (10 ^ power.natAbs) 1)
    else if x.isZero then some x
    else do
      let next ← x.div? (← ofRatio? (10 ^ 308) 1)
      timesTenPow? strides next (power + 308)

/-- The double that a literal with these digits and this power of ten denotes. -/
def ofLiteral? (significand : Nat) (power : Int) : Option Binary64 := do
  timesTenPow? (power.natAbs / 308 + 2) (← ofRatio? significand 1) power

/-- The exponent of the leading decimal digit. -/
def leadingPower (num den : Nat) : Int :=
  if den ≤ num then ((Nat.toDigits 10 (num / den)).length : Int) - 1
  else -(((List.range 400).find? fun j => den ≤ num * 10 ^ j).getD 0 : Int)

/-- Whether `candidate * 10 ^ power` reads back as `x`: it lies between the midpoints to the
neighbouring doubles, which count when the significand is even. -/
def isNearest (x : Binary64) (candidate : Nat) (power : Int) : Bool :=
  let (n, d) := if power < 0 then (candidate, 10 ^ power.natAbs)
    else (candidate * 10 ^ power.natAbs, 1)
  let below := if x.significand = 2 ^ 52 ∧ -1074 < x.exponent then 4 * x.significand - 1
    else 4 * x.significand - 2
  let low := scaledRatio below 1 (-(x.exponent - 2))
  let high := scaledRatio (4 * x.significand + 2) 1 (-(x.exponent - 2))
  if x.significand % 2 = 0 then
    decide (low.1 * d ≤ n * low.2) && decide (n * high.2 ≤ high.1 * d)
  else
    decide (low.1 * d < n * low.2) && decide (n * high.2 < high.1 * d)

/-- A coefficient and power of ten without the zero that rounding up nines leaves at the end. -/
def withoutCarry (count : Nat) (parts : Nat × Int) : Nat × Int :=
  if parts.1 = 10 ^ count then (10 ^ (count - 1), parts.2 + 1) else parts

/-- The closest `count`-digit decimal that reads back as `x`, the larger of two that are equally
close, as a coefficient and a power of ten. -/
def digitsOfCount? (x : Binary64) (count : Nat) : Option (Nat × Int) :=
  let (num, den) := x.ratio
  let power := leadingPower num den - count + 1
  let (n, d) := if power < 0 then (num * 10 ^ power.natAbs, den) else (num, den * 10 ^ power.natAbs)
  let floor := n / d
  let pick := if 2 * (n % d) < d then [floor, floor + 1] else [floor + 1, floor]
  (pick.find? (x.isNearest · power)).map fun candidate => withoutCarry count (candidate, power)

/-- The fewest decimal digits that read back as `x`, as a coefficient and a power of ten. -/
def shortest (x : Binary64) : Nat × Int :=
  if x.isZero then (0, 0)
  else ((List.range 17).findSome? fun k => x.digitsOfCount? (k + 1)).getD (0, 0)

/-- Those digits in plain notation. -/
def plain (x : Binary64) : List Char :=
  let (coefficient, power) := x.shortest
  if power < 0 then Decimal.plainDigits coefficient power.natAbs
  else Nat.toDigits 10 (coefficient * 10 ^ power.natAbs)

end Binary64
end PaymentVault
