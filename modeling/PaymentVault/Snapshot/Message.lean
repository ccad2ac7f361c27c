import PaymentVault.Wire.Field

/-!
# The messages of a snapshot

A snapshot file holds one container message with a message for each request and each memo, and
these hold one for a fiat value. Every part of a message may be absent. A message is written as
its fields in the order of their numbers. It is read by taking in fields one by one: a later
value of a part replaces an earlier one, a later fiat message adds to an earlier one, and
unknown fields change nothing.
-/
namespace PaymentVault.Wire

/-! ## Parts of messages -/

namespace Field

def ofText (number : Nat) (text : String) : Field := ⟨number, .delimited (.ofText text)⟩

def ofWord (number : Nat) (value : UInt64) : Field := ⟨number, .varint value⟩

/-- The text of a field that must hold one. -/
def text? (field : Field) : Option String :=
  match field.value with
  | .delimited content => content.toText?
  | _ => none

/-- The number in a field that must hold one. -/
def word? (field : Field) : Option UInt64 :=
  match field.value with
  | .varint value => some value
  | _ => none

/-- The content of a field that must hold a message. -/
def content? (field : Field) : Option Bytes :=
  match field.value with
  | .delimited content => some content
  | _ => none

end Field
end PaymentVault.Wire

namespace PaymentVault

open Wire

/-- A fiat value with its decimals as text. -/
structure FiatMessage where
  exchangeName : Option String := none
  rate : Option String := none
  currency : Option String := none
  amount : Option String := none
  deriving DecidableEq

/-- A request; the date is in milliseconds, refined by the nanoseconds within the second. -/
structure RequestMessage where
  address : Option String := none
  amount : Option UInt64 := none
  paidAmount : Option UInt64 := none
  label : Option String := none
  note : Option String := none
  date : Option Int64 := none
  fiat : Option FiatMessage := none
  fundingHashes : List String := []
  nanos : Option UInt32 := none
  deriving DecidableEq

structure MemoMessage where
  hash : Option String := none
  note : Option String := none
  fiat : Option FiatMessage := none
  minerFee : Option UInt64 := none
  clientFee : Option UInt64 := none
  deriving DecidableEq

/-- All of a snapshot. Format version zero is not written. -/
structure ContainerMessage where
  formatVersion : UInt32 := 0
  requests : List RequestMessage := []
  memos : List MemoMessage := []
  deriving DecidableEq

/-- How many groups may nest in the fields of the container. -/
def containerDepth : Nat := 100

/-- How many groups may nest in the fields of a request or a memo. -/
def entryDepth : Nat := 99

/-- How many groups may nest in the fields of a fiat message. -/
def fiatDepth : Nat := 98

namespace FiatMessage

def fields (m : FiatMessage) : List Field :=
  (m.exchangeName.map (.ofText 1)).toList ++ (m.rate.map (.ofText 2)).toList ++
    (m.currency.map (.ofText 3)).toList ++ (m.amount.map (.ofText 4)).toList

/-- Takes in a field. -/
def absorb (m : FiatMessage) (field : Field) : Option FiatMessage :=
  match field.number with
  | 1 => field.text?.map fun text => { m with exchangeName := some text }
  | 2 => field.text?.map fun text => { m with rate := some text }
  | 3 => field.text?.map fun text => { m with currency := some text }
  | 4 => field.text?.map fun text => { m with amount := some text }
  | _ => some m

def encode (m : FiatMessage) : Bytes := writeFields m.fields

/-- The message with what is written in some bytes added. -/
def merge? (m : FiatMessage) (bytes : Bytes) : Option FiatMessage :=
  (readFields? fiatDepth bytes).bind fun fields => fields.foldlM absorb m

/-- What a field adds to a fiat message that may not be there yet. -/
def absorbInto? (fiat : Option FiatMessage) (field : Field) : Option (Option FiatMessage) :=
  field.content?.bind fun content => ((fiat.getD {}).merge? content).map some

end FiatMessage

namespace RequestMessage

def fields (m : RequestMessage) : List Field :=
  (m.address.map (.ofText 1)).toList ++ (m.amount.map (.ofWord 2)).toList ++
    (m.paidAmount.map (.ofWord 3)).toList ++ (m.label.map (.ofText 4)).toList ++
    (m.note.map (.ofText 5)).toList ++ (m.date.map fun date => .ofWord 6 date.toUInt64).toList ++
    (m.fiat.map fun fiat => ⟨7, .delimited fiat.encode⟩).toList ++
      m.fundingHashes.map (.ofText 8) ++
    (m.nanos.map fun nanos => .ofWord 9 nanos.toUInt64).toList

/-- Takes in a field. -/
def absorb (m : RequestMessage) (field : Field) : Option RequestMessage :=
  match field.number with
  | 1 => field.text?.map fun text => { m with address := some text }
  | 2 => field.word?.map fun word => { m with amount := some word }
  | 3 => field.word?.map fun word => { m with paidAmount := some word }
  | 4 => field.text?.map fun text => { m with label := some text }
  | 5 => field.text?.map fun text => { m with note := some text }
  | 6 => field.word?.map fun word => { m with date := some word.toInt64 }
  | 7 => (FiatMessage.absorbInto? m.fiat field).map fun fiat => { m with fiat }
  | 8 => field.text?.map fun text => { m with fundingHashes := m.fundingHashes ++ [text] }
  | 9 => field.word?.map fun word => { m with nanos := some word.toUInt32 }
  | _ => some m

def encode (m : RequestMessage) : Bytes := writeFields m.fields

def decode? (bytes : Bytes) : Option RequestMessage :=
  (readFields? entryDepth bytes).bind fun fields => fields.foldlM absorb {}

end RequestMessage

namespace MemoMessage

def fields (m : MemoMessage) : List Field :=
  (m.hash.map (.ofText 1)).toList ++ (m.note.map (.ofText 2)).toList ++
    (m.fiat.map fun fiat => ⟨3, .delimited fiat.encode⟩).toList ++
      (m.minerFee.map (.ofWord 4)).toList ++
    (m.clientFee.map (.ofWord 5)).toList

/-- Takes in a field. -/
def absorb (m : MemoMessage) (field : Field) : Option MemoMessage :=
  match field.number with
  | 1 => field.text?.map fun text => { m with hash := some text }
  | 2 => field.text?.map fun text => { m with note := some text }
  | 3 => (FiatMessage.absorbInto? m.fiat field).map fun fiat => { m with fiat }
  | 4 => field.word?.map fun word => { m with minerFee := some word }
  | 5 => field.word?.map fun word => { m with clientFee := some word }
  | _ => some m

def encode (m : MemoMessage) : Bytes := writeFields m.fields

def decode? (bytes : Bytes) : Option MemoMessage :=
  (readFields? entryDepth bytes).bind fun fields => fields.foldlM absorb {}

end MemoMessage

namespace ContainerMessage

def fields (m : ContainerMessage) : List Field :=
  (if m.formatVersion = 0 then [] else [.ofWord 1 m.formatVersion.toUInt64]) ++
    m.requests.map (fun request => ⟨2, .delimited request.encode⟩) ++
    m.memos.map fun memo => ⟨3, .delimited memo.encode⟩

/-- Takes in a field. -/
def absorb (m : ContainerMessage) (field : Field) : Option ContainerMessage :=
  match field.number with
  | 1 => field.word?.map fun word => { m with formatVersion := word.toUInt32 }
  | 2 => do
    let request ← RequestMessage.decode? (← field.content?)
    return { m with requests := m.requests ++ [request] }
  | 3 => do
    let memo ← MemoMessage.decode? (← field.content?)
    return { m with memos := m.memos ++ [memo] }
  | _ => some m

def encode (m : ContainerMessage) : Bytes := writeFields m.fields

def decode? (bytes : Bytes) : Option ContainerMessage :=
  (readFields? containerDepth bytes).bind fun fields => fields.foldlM absorb {}

end ContainerMessage
end PaymentVault
