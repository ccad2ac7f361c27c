import PaymentVault.Payment.Memo
import PaymentVault.Payment.Request

/-!
# Payments

The list of payments shows transactions and requests side by side. Either way a payment has an
amount, a date, a status, a kind and texts.
-/
namespace PaymentVault

/-- A transaction as the wallet sees it. -/
structure TransactionPayment where
  hash : String
  date : Instant
  status : Status
  amount : Int64
  fiat : FiatValue
  miningFee : Option UInt64
  clientFee : Option UInt64
  classification : Option Classification
  kind : PaymentKind
  description : String
  note : String
  isCoinbase : Bool
  outputAddresses : List String
  rawTransaction : String
  size : UInt64
  deriving DecidableEq

/-- An entry of the payments list. -/
inductive Payment where
  | request (request : PaymentRequest)
  | transaction (transaction : TransactionPayment)
  deriving DecidableEq

namespace Payment

/-- The signed amount; that of a request stops at the largest signed word. -/
def amount : Payment → Int64
  | request r => Int64.ofInt (min (2 ^ 63 - 1) r.amount.toNat)
  | transaction t => t.amount

def date : Payment → Instant
  | request r => r.date
  | transaction t => t.date

/-- The payment with another date. -/
def withDate (date : Instant) : Payment → Payment
  | request r => request { r with date }
  | transaction t => transaction { t with date }

def status : Payment → Status
  | request r => r.status
  | transaction t => t.status

def kind : Payment → PaymentKind
  | request r => r.kind
  | transaction t => t.kind

/-- The description; a request is described by its label. -/
def description : Payment → String
  | request r => r.label.getD ""
  | transaction t => t.description

/-- The note, empty if there is none. -/
def note : Payment → String
  | request r => r.note.getD ""
  | transaction t => t.note

def fiat : Payment → FiatValue
  | request r => r.fiat
  | transaction t => t.fiat

def request? : Payment → Option PaymentRequest
  | request r => some r
  | transaction _ => none

def transaction? : Payment → Option TransactionPayment
  | request _ => none
  | transaction t => some t

end Payment
end PaymentVault
