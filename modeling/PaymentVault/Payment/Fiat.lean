import PaymentVault.Number.Decimal.Basic

/-!
# Fiat values

Amounts are whole base units, a hundred million to the coin, and a rate is the price of one
coin. What an amount was worth is taken down once, together with the rate it was worked out
from.
-/
namespace PaymentVault

/-- The price of one coin at some exchange, in some currency. -/
structure ExchangeRate where
  exchangeName : String
  rate : Decimal
  currency : String
  deriving DecidableEq

/-- What an amount was worth, as far as it was known. -/
structure FiatValue where
  exchangeName : Option String := none
  rate : Option Decimal := none
  currency : Option String := none
  amount : Option Decimal := none
  deriving DecidableEq

/-- The number of decimal places of a coin. -/
def coinPlaces : Nat := 8

/-- An amount at a rate; nothing if it is too large for a decimal. -/
def localAmount? (amount : Int64) (rate : Decimal) : Option Decimal :=
  let units := Decimal.ofInt amount.toInt (by
    have low := Int64.le_toInt amount
    have high := Int64.toInt_lt amount
    omega)
  (units.mul? rate).map (·.divTenPow coinPlaces)

namespace FiatValue

/-- Nothing known. -/
def unknown : FiatValue := {}

instance : Inhabited FiatValue := ⟨unknown⟩

/-- The value of an amount at the latest rate, if there is one. A local amount of zero is left
out. -/
def ofAmount (amount : Int64) : Option ExchangeRate → FiatValue
  | none => unknown
  | some quote =>
    { exchangeName := some quote.exchangeName
      rate := some quote.rate
      currency := some quote.currency
      amount := (localAmount? amount quote.rate).filter fun value => !value.isZero }

def isUnknown (value : FiatValue) : Bool := value = unknown

/-- The same value, no zero in it with a sign. -/
def settled (value : FiatValue) : FiatValue :=
  { value with rate := value.rate.map Decimal.settled, amount := value.amount.map Decimal.settled }

end FiatValue
end PaymentVault
