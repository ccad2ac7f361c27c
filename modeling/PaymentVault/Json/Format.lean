import PaymentVault.Json.Reader

/-!
# Typed JSON forms

A format pairs the JSON form of a type with a reader for it. Records are written as objects with
all their members in order. They are read from objects, in any order and with unknown members
passed over, and from arrays of their members in order. A member given twice, or missing without
a value to stand in, is JSON of the wrong shape.
-/
namespace PaymentVault.Json

/-- The JSON form of a type and the reader for it. -/
structure Format (α : Type) where
  write : α → Json
  read : Reader α

namespace Format

variable {α β : Type}

/-- The form of one type used for another. -/
def imap (format : Format α) (into : α → β) (of : β → α) : Format β where
  write b := format.write (of b)
  read text := do
    let (a, rest) ← format.read text
    return (into a, rest)

/-- Values of a form that also pass a conversion. -/
def refine (format : Format α) (into? : α → Option β) (of : β → α) : Format β where
  write b := format.write (of b)
  read text := do
    let (a, rest) ← format.read text
    match into? a with
    | some b => return (b, rest)
    | none => throw .wrongShape

def string : Format String where
  write := .string
  read text :=
    match skipSpace text with
    | some '"' :: rest => openString rest
    | text => .error (mistyped text)

def bool : Format Bool where
  write := .bool
  read text :=
    match skipSpace text with
    | some 't' :: rest => (passWord ['r', 'u', 'e'] rest).map (true, ·)
    | some 'f' :: rest => (passWord ['a', 'l', 's', 'e'] rest).map (false, ·)
    | text => .error (mistyped text)

/-- Any number, as written. -/
def readNumeral : Reader Numeral := fun text =>
  match skipSpace text with
  | [] => .error .endsEarly
  | some '-' :: rest => numeral true rest
  | c :: rest =>
    if c.digit?.isSome then numeral false (c :: rest) else .error (mistyped (c :: rest))

/-- Whole numbers. -/
def integer : Format Int where
  write := .number
  read text := do
    let (n, rest) ← readNumeral text
    match n with
    | .natural n => return ((n : Int), rest)
    | .negative n => return (-(n : Int), rest)
    | .real _ _ => throw .wrongShape

def uint64 : Format UInt64 :=
  integer.refine (fun n => if 0 ≤ n ∧ n < 2 ^ 64 then some (UInt64.ofNat n.toNat) else none)
    (fun n => (n.toNat : Int))

def uint32 : Format UInt32 :=
  integer.refine (fun n => if 0 ≤ n ∧ n < 2 ^ 32 then some (UInt32.ofNat n.toNat) else none)
    (fun n => (n.toNat : Int))

def int64 : Format Int64 :=
  integer.refine (fun n => if -2 ^ 63 ≤ n ∧ n < 2 ^ 63 then some (Int64.ofInt n) else none)
    Int64.toInt

/-- Bytes as hexadecimal text. -/
def hexBytes : Format Bytes := string.refine Bytes.ofHex? Bytes.hex

def null : Format Unit where
  write _ := .null
  read text :=
    match skipSpace text with
    | some 'n' :: rest => (passWord ['u', 'l', 'l'] rest).map ((), ·)
    | text => .error (mistyped text)

/-- A value or `null`. -/
def optional (format : Format α) : Format (Option α) where
  write
    | some a => format.write a
    | none => .null
  read text :=
    match skipSpace text with
    | some 'n' :: rest => (passWord ['u', 'l', 'l'] rest).map (none, ·)
    | text => (format.read text).map fun (a, rest) => (some a, rest)

/-- Items after the first; `fuel` bounds their number. -/
def readItems (element : Reader α) : Nat → Reader (List α)
  | 0, _ => .error .endsEarly
  | fuel + 1, text =>
    match skipSpace text with
    | [] => .error .endsEarly
    | c :: rest =>
      if c = some ']' then .ok ([], rest)
      else if c = some ',' then
        match skipSpace rest with
        | [] => .error .endsEarly
        | some ']' :: _ => .error .notJson
        | rest => do
          let (item, rest) ← element rest
          let (items, rest) ← readItems element fuel rest
          return (item :: items, rest)
      else .error .notJson

def list (format : Format α) : Format (List α) where
  write items := .array (items.map format.write)
  read text :=
    match skipSpace text with
    | some '[' :: rest =>
      match skipSpace rest with
      | [] => .error .endsEarly
      | some ']' :: rest => .ok ([], rest)
      | rest => do
        let (item, rest) ← format.read rest
        let (items, rest) ← readItems format.read (rest.length + 1) rest
        return (item :: items, rest)
    | text => .error (mistyped text)

/-! ## Alternatives -/

/-- Reads an alternative that is named by a string alone or by the only member of an object. -/
def readNamed (bare : String → Option α) (content : String → Option (Reader α)) :
    Reader α := fun text =>
  match skipSpace text with
  | [] => .error .endsEarly
  | some '"' :: rest => do
    let (name, rest) ← openString rest
    match bare name with
    | some a => return (a, rest)
    | none => throw .wrongShape
  | some '{' :: rest => do
    let rest ← passMark '"' rest
    let (name, rest) ← openString rest
    match content name with
    | none => throw .wrongShape
    | some read =>
      let rest ← passMark ':' rest
      let (a, rest) ← read rest
      let rest ← passMark '}' rest
      return (a, rest)
  | _ => .error .notJson

/-- One of a list of names, each for a value. -/
def named [DecidableEq α] (names : List (α × String)) : Format α where
  write a := .string (((names.find? fun entry => entry.1 = a).map (·.2)).getD "")
  read :=
    let valueOf := fun name => (names.find? fun entry => entry.2 = name).map (·.1)
    readNamed valueOf fun name => (valueOf name).map fun a => fun text => do
      let (_, rest) ← null.read text
      return (a, rest)

/-- One of two forms, under its name. -/
def either (leftName : String) (left : Format α) (rightName : String) (right : Format β) :
    Format (α ⊕ β) where
  write
    | .inl a => .object [(leftName, left.write a)]
    | .inr b => .object [(rightName, right.write b)]
  read := readNamed (fun _ => none) fun name =>
    if name = leftName then some fun text => (left.read text).map fun (a, rest) => (.inl a, rest)
    else if name = rightName then
      some fun text => (right.read text).map fun (b, rest) => (.inr b, rest)
    else none

end Format

/-! ## Records -/

/-- The members of a record, in order. `absent` stands in for a member missing from an object,
`beyond` for one that an array ends before. -/
inductive Members : Type → Type 1 where
  | done : Members Unit
  | field {α β : Type} (name : String) (format : Format α) (absent beyond : Option α)
      (rest : Members β) :
      Members (α × β)

namespace Members

/-- A member that must be given. -/
abbrev required {α β : Type} (name : String) (format : Format α) (rest : Members β) :
    Members (α × β) :=
  .field name format none none rest

/-- A member that may be missing from an object, `null` being its usual sign of absence. -/
abbrev nullable {α β : Type} (name : String) (format : Format α) (rest : Members β) :
    Members (Option α × β) :=
  .field name format.optional (some none) none rest

/-- A member with a value to stand in for it. -/
abbrev defaulted {α β : Type} (name : String) (format : Format α) (value : α) (rest : Members β) :
    Members (α × β) :=
  .field name format (some value) (some value) rest

/-- The values of the members found so far. -/
@[reducible] def Draft : {τ : Type} → Members τ → Type
  | _, .done => Unit
  | _, .field (α := α) _ _ _ _ rest => Option α × rest.Draft

def blank : {τ : Type} → (members : Members τ) → members.Draft
  | _, .done => ()
  | _, .field _ _ _ _ rest => (none, rest.blank)

/-- The reader of what follows the name of a member, if there is such a member. It refuses a
member found already. -/
def reader? : {τ : Type} → (members : Members τ) → String → members.Draft →
    Option (Reader members.Draft)
  | _, .done, _, _ => none
  | _, .field name format _ _ rest, key, draft =>
    if key = name then
      some fun text => do
        if draft.1.isSome then throw .wrongShape
        let text ← passMark ':' text
        let (a, text) ← format.read text
        return ((some a, draft.2), text)
    else
      (rest.reader? key draft.2).map fun read text =>
        (read text).map fun (others, text) => ((draft.1, others), text)

/-- The record, once every member was found or something stands in for it. -/
def complete? : {τ : Type} → (members : Members τ) → members.Draft → Option τ
  | _, .done, _ => some ()
  | _, .field _ _ absent _ rest, draft => do
    let a ← draft.1.or absent
    let b ← rest.complete? draft.2
    return (a, b)

/-- Passes over what follows an unknown name. -/
def skipMemberValue (text : List Glyph) : Except JsonFault (List Glyph) := do
  let text ← passMark ':' text
  skipValue (text.length + 1) text

/-- Members from a name on; `fuel` bounds their number. -/
def readMember {τ : Type} (members : Members τ) : Nat → members.Draft → Reader members.Draft
  | 0, _, _ => .error .endsEarly
  | fuel + 1, draft, text => do
    let text ← passMark '"' text
    let (key, text) ← openString text
    let (draft, text) ← match members.reader? key draft with
      | some read => read text
      | none => (skipMemberValue text).map (draft, ·)
    match skipSpace text with
    | [] => throw .endsEarly
    | c :: text =>
      if c = some '}' then return (draft, text)
      else if c = some ',' then readMember members fuel draft text
      else throw .notJson

/-- The members of an object whose brace has been passed. -/
def readObject {τ : Type} (members : Members τ) : Reader τ := fun text => do
  let (draft, text) ← match skipSpace text with
    | some '}' :: text => pure (members.blank, text)
    | text => readMember members (text.length + 1) members.blank text
  match members.complete? draft with
  | some record => return (record, text)
  | none => throw .wrongShape

/-- The start of an element, a comma passed before any but the first. -/
def elementStart (first : Bool) (text : List Glyph) : Except JsonFault (List Glyph) :=
  if first then .ok text
  else
    match text with
    | some ',' :: text =>
      match skipSpace text with
      | [] => .error .endsEarly
      | some ']' :: _ => .error .notJson
      | text => .ok text
    | _ => .error .notJson

/-- The elements of an array, one for each member. -/
def readElements : {τ : Type} → Members τ → Bool → Reader τ
  | _, .done, _, text => (passMark ']' text).map ((), ·)
  | _, .field _ format _ beyond rest, first, text =>
    match skipSpace text with
    | [] => .error .endsEarly
    | some ']' :: text => do
      match beyond with
      | none => throw .wrongShape
      | some a =>
        let (b, text) ← rest.readElements first (some ']' :: text)
        return ((a, b), text)
    | text => do
      let text ← elementStart first text
      let (a, text) ← format.read text
      let (b, text) ← rest.readElements false text
      return ((a, b), text)

/-- The members with their values, in order. -/
def write : {τ : Type} → Members τ → τ → List (String × Json)
  | _, .done, _ => []
  | _, .field name format _ _ rest, (a, b) => (name, format.write a) :: rest.write b

/-- The form of a record. -/
def format {τ : Type} (members : Members τ) : Format τ where
  write record := .object (members.write record)
  read text :=
    match skipSpace text with
    | some '[' :: text => members.readElements true text
    | some '{' :: text => members.readObject text
    | text => .error (mistyped text)

end Members

namespace Format

variable {α : Type}

/-- Reads a whole text as one value. -/
def parseGlyphs (format : Format α) (text : List Glyph) : Except JsonFault α := do
  let (a, rest) ← format.read text
  if skipSpace rest = [] then return a else throw .notJson

/-- Reads a text as one value. -/
def parse (format : Format α) (text : String) : Except JsonFault α :=
  format.parseGlyphs (glyphs text)

/-- Reads the bytes of a file as one value. -/
def parseBytes (format : Format α) (bytes : Bytes) : Except JsonFault α :=
  match bytes.toText? with
  | some text => format.parse text
  | none => format.parseGlyphs (glyphsOfBytes bytes)

end Format
end PaymentVault.Json
