import PaymentVault.Payment.Basic
import PaymentVault.Text.Lowercase.Basic

/-!
# Order, selection and search

Payments are listed from the newest to the oldest, smaller amounts first within one instant, and
entries that tie on both stay in the order they came. A selection keeps the entries that meet a
condition and sorts them.
-/
namespace PaymentVault.Payment

/-- Whether one payment may be listed before another. -/
def precedes (a b : Payment) : Bool :=
  match b.date.compare a.date with
  | .lt => true
  | .gt => false
  | .eq => a.amount ≤ b.amount

/-- The payments in the order of the list. -/
def sorted (payments : List Payment) : List Payment := payments.mergeSort precedes

/-- The kinds that a screen of today's payments shows. -/
def todaysKinds : PaymentKind → List PaymentKind
  | .sending => [.sending]
  | .receiving => [.requested, .receiving, .partPaid]
  | _ => []

/-- The payments of one day that belong to a screen. -/
def ofDay (screen : PaymentKind) (today : Int) (payments : List Payment) : List Payment :=
  sorted (payments.filter fun payment =>
    (todaysKinds screen).contains payment.kind && payment.date.dayNumber == today)

/-- The texts of a payment that a search looks through. -/
def searchTexts : Payment → List String
  | request r => r.label.getD "" :: r.note.getD "" :: r.label.toList
  | transaction t => t.description :: t.note :: t.outputAddresses ++ [t.rawTransaction]

/-- Whether a search finds the payment: a text holds the query, letter case aside, or the query
is the address of the request. -/
def isFoundBy (query : String) (payment : Payment) : Bool :=
  let needle := lowercase query.toList
  (payment.searchTexts.any fun text => occursIn needle (lowercase text.toList)) ||
    payment.request?.any fun request => request.address == query

/-- The payments that a search finds. -/
def search (query : String) (payments : List Payment) : List Payment :=
  sorted (payments.filter (isFoundBy query))

end PaymentVault.Payment
