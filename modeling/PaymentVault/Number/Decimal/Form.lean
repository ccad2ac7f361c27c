import PaymentVault.Json.Format

/-!
# Decimals in JSON

Decimals are written as strings in plain notation. They are read from strings in plain or
scientific notation and also from numbers, a fraction by way of the shortest digits of the
double it denotes.
-/
namespace PaymentVault.Json.Format

/-- The decimal of a number as written. -/
def decimalOfNumeral? : Numeral → Option Decimal
  | .natural n => Decimal.ofParts? false n 0
  | .negative n => Decimal.ofParts? true n 0
  | .real isNegative size => Decimal.ofDigits? ((if isNegative then ['-'] else []) ++ size.plain)

def decimal : Format Decimal where
  write d := .string d.toText
  read text :=
    match skipSpace text with
    | [] => .error .endsEarly
    | some '"' :: rest => do
      let (written, rest) ← openString rest
      match Decimal.ofText? written with
      | some d => return (d, rest)
      | none => throw .wrongShape
    | c :: rest =>
      if c = some '-' ∨ c.digit?.isSome then do
        let (written, rest) ← readNumeral (c :: rest)
        match decimalOfNumeral? written with
        | some d => return (d, rest)
        | none => throw .wrongShape
      else .error (mistyped (c :: rest))

end PaymentVault.Json.Format
