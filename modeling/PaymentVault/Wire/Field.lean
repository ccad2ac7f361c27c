import PaymentVault.Wire.Varint

/-!
# Fields of a message

A message is a run of fields. Each has a number and a value of one of a few wire types, so that
a reader can pass over fields it does not know. Groups are older and only ever passed over; they
must end with the number they began with, and they nest no deeper than a limit.
-/
namespace PaymentVault.Wire

/-- The form in which the value of a field is written. -/
inductive WireType where
  | varint
  | fixed64
  | delimited
  | startGroup
  | endGroup
  | fixed32
  deriving DecidableEq

namespace WireType

def code : WireType → Nat
  | varint => 0
  | fixed64 => 1
  | delimited => 2
  | startGroup => 3
  | endGroup => 4
  | fixed32 => 5

def ofCode? : Nat → Option WireType
  | 0 => some varint
  | 1 => some fixed64
  | 2 => some delimited
  | 3 => some startGroup
  | 4 => some endGroup
  | 5 => some fixed32
  | _ => none

@[simp] theorem ofCode?_code (wire : WireType) : ofCode? wire.code = some wire := by
  cases wire <;> rfl

end WireType

/-- The value of a field; of a group only that it was there. -/
inductive WireValue where
  | varint (value : UInt64)
  | fixed64 (value : UInt64)
  | delimited (content : Bytes)
  | group
  | fixed32 (value : UInt32)
  deriving DecidableEq

structure Field where
  number : Nat
  value : WireValue
  deriving DecidableEq

/-! ## Writing -/

/-- A field's number and wire type in one number. -/
def key (number : Nat) (wire : WireType) : Bytes := varint (UInt64.ofNat (number * 8 + wire.code))

/-- The written form of a field. -/
def Field.write : Field → Bytes
  | ⟨number, .varint value⟩ => key number .varint ++ varint value
  | ⟨number, .fixed64 value⟩ => key number .fixed64 ++ Bytes.ofNatLittle 8 value.toNat
  | ⟨number, .delimited content⟩ =>
    key number .delimited ++ varint (UInt64.ofNat content.length) ++ content
  | ⟨number, .group⟩ => key number .startGroup ++ key number .endGroup
  | ⟨number, .fixed32 value⟩ => key number .fixed32 ++ Bytes.ofNatLittle 4 value.toNat

/-- The written form of a run of fields. -/
def writeFields (fields : List Field) : Bytes := fields.flatMap Field.write

/-! ## Reading -/

/-- Takes a key off the front. Keys have 32 bits and numbers start from one. -/
def readKey? (bytes : Bytes) : Option ((Nat × WireType) × Bytes) := do
  let (key, rest) ← readVarint? bytes
  let wire ← WireType.ofCode? (key.toNat % 8)
  if key.toNat < 2 ^ 32 ∧ 8 ≤ key.toNat then return ((key.toNat / 8, wire), rest) else none

/-- Takes `count` bytes off the front. -/
def takeBytes? (count : Nat) (bytes : Bytes) : Option (Bytes × Bytes) :=
  if count ≤ bytes.length then some (bytes.take count, bytes.drop count) else none

/-- Takes a value off the front, groups excepted. -/
def readPlain? : WireType → Bytes → Option (WireValue × Bytes)
  | .varint, bytes => do
    let (value, rest) ← readVarint? bytes
    return (.varint value, rest)
  | .fixed64, bytes => do
    let (digits, rest) ← takeBytes? 8 bytes
    return (.fixed64 (UInt64.ofNat (Bytes.toNatLittle digits)), rest)
  | .delimited, bytes => do
    let (length, rest) ← readVarint? bytes
    let (content, rest) ← takeBytes? length.toNat rest
    return (.delimited content, rest)
  | .fixed32, bytes => do
    let (digits, rest) ← takeBytes? 4 bytes
    return (.fixed32 (UInt32.ofNat (Bytes.toNatLittle digits)), rest)
  | .startGroup, _ => none
  | .endGroup, _ => none

/-- Passes over the fields of open groups up to the end of the outermost. The numbers of the
open groups are listed from the innermost; `depth` limits how many of them may hold a field, and
`fuel` bounds the number of fields. -/
def skipGroups (depth : Nat) : Nat → List Nat → Bytes → Option Bytes
  | _, [], bytes => some bytes
  | 0, _ :: _, _ => none
  | fuel + 1, number :: outer, bytes => do
    let ((inner, wire), rest) ← readKey? bytes
    if wire = .endGroup then
      if inner = number then skipGroups depth fuel outer rest else none
    else if depth ≤ outer.length + 1 then none
    else if wire = .startGroup then skipGroups depth fuel (inner :: number :: outer) rest
    else do
      let (_, rest) ← readPlain? wire rest
      skipGroups depth fuel (number :: outer) rest

/-- Takes a field off the front. -/
def readField? (depth : Nat) (bytes : Bytes) : Option (Field × Bytes) := do
  let ((number, wire), rest) ← readKey? bytes
  if wire = .startGroup then
    let rest ← skipGroups depth rest.length [number] rest
    return (⟨number, .group⟩, rest)
  else
    let (value, rest) ← readPlain? wire rest
    return (⟨number, value⟩, rest)

/-- Reads fields to the end; `fuel` bounds their number. -/
def readFieldsFrom (depth : Nat) : Nat → Bytes → Option (List Field)
  | _, [] => some []
  | 0, _ :: _ => none
  | fuel + 1, b :: rest => do
    let (field, rest) ← readField? depth (b :: rest)
    let fields ← readFieldsFrom depth fuel rest
    return field :: fields

/-- The fields of a message; groups nest up to `depth`. -/
def readFields? (depth : Nat) (bytes : Bytes) : Option (List Field) :=
  readFieldsFrom depth bytes.length bytes

end PaymentVault.Wire
