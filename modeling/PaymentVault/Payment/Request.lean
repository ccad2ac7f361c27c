import PaymentVault.Ledger.Error
import PaymentVault.Number.Saturating
import PaymentVault.Payment.Fiat
import PaymentVault.Payment.Status
import PaymentVault.Time.Instant

/-!
# Payment requests

A request asks for an amount to be paid to an address. Transactions that pay it are listed by
hash in the order they came, and each counts once towards the paid amount.
-/
namespace PaymentVault

structure PaymentRequest where
  address : String
  amount : UInt64
  paidAmount : UInt64 := 0
  label : Option String := none
  note : Option String := none
  date : Instant
  fiat : FiatValue := {}
  fundingHashes : List String := []
  deriving DecidableEq

namespace PaymentRequest

/-- A request must have the address it is kept under. -/
def validate (request : PaymentRequest) : Except LedgerError Unit :=
  if request.address = "" then .error (.precondition "Payment request must have an address")
  else .ok ()

/-- The same request, no zero in it with a sign. -/
def settled (request : PaymentRequest) : PaymentRequest :=
  { request with fiat := request.fiat.settled }

def isFullyFunded (request : PaymentRequest) : Bool := request.amount ≤ request.paidAmount

def kind (request : PaymentRequest) : PaymentKind :=
  if 0 < request.paidAmount ∧ !request.isFullyFunded then .partPaid else .requested

def status (request : PaymentRequest) : Status where
  severity := .amber
  reason := if request.kind = .partPaid then .partPaid else .requested

/-- The request with a transaction counted towards it, unless that was done before. -/
def fundedBy (hash : String) (value : UInt64) (request : PaymentRequest) : PaymentRequest :=
  if hash ∈ request.fundingHashes then request
  else
    { request with
      fundingHashes := request.fundingHashes ++ [hash]
      paidAmount := saturatingAdd request.paidAmount value }

section fundedBy

variable (hash : String) (value : UInt64) (request : PaymentRequest)

@[simp] theorem address_fundedBy : (request.fundedBy hash value).address = request.address := by
  unfold fundedBy
  split <;> rfl

@[simp] theorem amount_fundedBy : (request.fundedBy hash value).amount = request.amount := by
  unfold fundedBy
  split <;> rfl

@[simp] theorem label_fundedBy : (request.fundedBy hash value).label = request.label := by
  unfold fundedBy
  split <;> rfl

@[simp] theorem note_fundedBy : (request.fundedBy hash value).note = request.note := by
  unfold fundedBy
  split <;> rfl

@[simp] theorem date_fundedBy : (request.fundedBy hash value).date = request.date := by
  unfold fundedBy
  split <;> rfl

@[simp] theorem fiat_fundedBy : (request.fundedBy hash value).fiat = request.fiat := by
  unfold fundedBy
  split <;> rfl

@[simp] theorem mem_fundingHashes_fundedBy (other : String) :
    other ∈ (request.fundedBy hash value).fundingHashes ↔
      other ∈ request.fundingHashes ∨ other = hash := by
  unfold fundedBy
  split
  · constructor
    · exact Or.inl
    · rintro (listed | rfl) <;> assumption
  · simp

@[simp] theorem fundedBy_fundedBy (later : UInt64) :
    (request.fundedBy hash value).fundedBy hash later = request.fundedBy hash value := by
  rw [fundedBy, if_pos (by simp)]

end fundedBy

end PaymentRequest
end PaymentVault
