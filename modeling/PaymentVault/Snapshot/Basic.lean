import PaymentVault.Number.Decimal.Text
import PaymentVault.Payment.Memo
import PaymentVault.Payment.Request
import PaymentVault.Snapshot.Message
import PaymentVault.Vault.Error

/-!
# Snapshots of the books

A snapshot lists requests and memos. It is stored as a container message of format version one;
files without a version are of that version too. Reading fills in what older files leave out,
but a request needs an address and a date, and a memo needs a hash. Decimals are stored as text,
in which a zero loses its sign.
-/
namespace PaymentVault

structure Snapshot where
  requests : List PaymentRequest := []
  memos : List Memo := []
  deriving DecidableEq

/-- The format version that is written. -/
def formatVersion : UInt32 := 1

namespace FiatValue

/-- The message of a value; none if nothing is known. -/
def toMessage? (value : FiatValue) : Option FiatMessage :=
  if value.isUnknown then none
  else
    some
      { exchangeName := value.exchangeName
        rate := value.rate.map Decimal.toText
        currency := value.currency
        amount := value.amount.map Decimal.toText }

/-- The value in a message; a decimal that cannot be read is absent. -/
def ofMessage : Option FiatMessage → FiatValue
  | none => unknown
  | some m =>
    { exchangeName := m.exchangeName
      rate := m.rate.bind Decimal.ofText?
      currency := m.currency
      amount := m.amount.bind Decimal.ofText? }

end FiatValue

namespace Instant

/-- The instant of a millisecond: its second with the given nanoseconds, or else with the remaining
milliseconds. -/
def ofMillis? (millis : Int64) (nanos : Option UInt32) : Option Instant :=
  let ofSecond := (millis.toInt % 1000).toNat * 1000000
  Instant.of? (millis.toInt / 1000) ((nanos.map UInt32.toNat).getD ofSecond)

end Instant

namespace PaymentRequest

def toMessage (r : PaymentRequest) : RequestMessage :=
  { address := some r.address
    amount := some r.amount
    paidAmount := some r.paidAmount
    label := r.label
    note := r.note
    date := some (Int64.ofInt r.date.millis)
    fiat := r.fiat.toMessage?
    fundingHashes := r.fundingHashes
    nanos := some (UInt32.ofNat r.date.nanos) }

def ofMessage (m : RequestMessage) : Except Malformation PaymentRequest :=
  match m.address with
  | none => .error .requestWithoutAddress
  | some address =>
    match m.date.bind fun millis => Instant.ofMillis? millis m.nanos with
    | none => .error (.requestWithoutDate address)
    | some date =>
      .ok
        { address
          amount := m.amount.getD 0
          paidAmount := m.paidAmount.getD 0
          label := m.label
          note := m.note
          date
          fiat := FiatValue.ofMessage m.fiat
          fundingHashes := m.fundingHashes }

end PaymentRequest

namespace Memo

def toMessage (a : Memo) : MemoMessage :=
  { hash := some a.hash
    note := a.note
    fiat := a.fiat.toMessage?
    minerFee := a.minerFee
    clientFee := a.clientFee }

def ofMessage (m : MemoMessage) : Except Malformation Memo :=
  match m.hash with
  | none => .error .memoWithoutHash
  | some hash =>
    .ok
      { hash
        note := m.note
        fiat := FiatValue.ofMessage m.fiat
        minerFee := m.minerFee
        clientFee := m.clientFee }

end Memo

namespace Snapshot

def toMessage (s : Snapshot) : ContainerMessage where
  formatVersion := PaymentVault.formatVersion
  requests := s.requests.map PaymentRequest.toMessage
  memos := s.memos.map Memo.toMessage

/-- The snapshot in a message: the version is checked first, then the requests in order, then the
memos. -/
def ofMessage (m : ContainerMessage) : Except Malformation Snapshot :=
  if PaymentVault.formatVersion < m.formatVersion then
    .error (.unsupportedFormat m.formatVersion.toNat)
  else do
    let requests ← m.requests.mapM PaymentRequest.ofMessage
    let memos ← m.memos.mapM Memo.ofMessage
    return { requests, memos }

def encode (s : Snapshot) : Bytes := s.toMessage.encode

def decode (bytes : Bytes) : Except VaultError Snapshot :=
  match ContainerMessage.decode? bytes with
  | none => .error (.malformed .notFields)
  | some m => (ofMessage m).mapError .malformed

/-- The same snapshot, no zero in it with a sign; this is what reading back what was written
gives. -/
def settled (s : Snapshot) : Snapshot where
  requests := s.requests.map PaymentRequest.settled
  memos := s.memos.map Memo.settled

/-- The snapshot with requests in the order of their addresses and memos in that of their hashes. -/
def sorted (s : Snapshot) : Snapshot where
  requests := s.requests.mergeSort fun a b => decide (a.address ≤ b.address)
  memos := s.memos.mergeSort fun a b => decide (a.hash ≤ b.hash)

end Snapshot
end PaymentVault
