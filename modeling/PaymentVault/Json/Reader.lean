import PaymentVault.Bytes.Basic
import PaymentVault.Number.Binary64
import PaymentVault.Json.Basic

/-!
# Reading JSON text

Values are read straight from the text, the wanted type deciding at each place what may stand
there. So the first departure from that type ends the reading, whether or not the rest is JSON
at all. Three outcomes are told apart: text that is not JSON, text that ends too early, and JSON
of the wrong shape.

The text of a file may have stray bytes in it, which are part of no character. They do no harm
in a string that is passed over.
-/
namespace PaymentVault

/-- Why a text gave no value. -/
inductive JsonFault where
  | notJson
  | endsEarly
  | wrongShape
  deriving DecidableEq, Repr

namespace Json

/-- A character of a text, or a stray byte. -/
abbrev Glyph := Option Char

namespace Glyph

/-- The number of bytes that spell it. -/
def size : Glyph → Nat
  | some c => c.utf8Size
  | none => 1

/-- The value of an ASCII digit. -/
def digit? (glyph : Glyph) : Option Nat := glyph.bind digitValue?

/-- The value of a hexadecimal digit. -/
def hex? (glyph : Glyph) : Option Nat := glyph.bind hexValue?

end Glyph

/-- A text without stray bytes. -/
def glyphs (text : String) : List Glyph := text.toList.map some

/-- The glyphs of any bytes: at each place the character that starts there, if one does. -/
def glyphsOfBytes : Bytes → List Glyph
  | [] => []
  | byte :: rest =>
    match ByteArray.utf8DecodeChar? ⟨(byte :: rest.take 3).toArray⟩ 0 with
    | some c => some c :: glyphsOfBytes (rest.drop (c.utf8Size - 1))
    | none => none :: glyphsOfBytes rest
termination_by bytes => bytes.length

/-- A reader takes a value off the front of a text. -/
abbrev Reader (α : Type) := List Glyph → Except JsonFault (α × List Glyph)

/-- Passes over the space that may stand between tokens. -/
def skipSpace (text : List Glyph) : List Glyph :=
  text.dropWhile fun c => c == some ' ' || c == some '\n' || c == some '\t' || c == some '\r'

/-- Passes over the letters of a word. -/
def passWord : List Char → List Glyph → Except JsonFault (List Glyph)
  | [], text => .ok text
  | _ :: _, [] => .error .endsEarly
  | letter :: word, c :: rest => if c = some letter then passWord word rest else .error .notJson

/-- Passes over a mark after space. -/
def passMark (mark : Char) (text : List Glyph) : Except JsonFault (List Glyph) :=
  match skipSpace text with
  | [] => .error .endsEarly
  | c :: rest => if c = some mark then .ok rest else .error .notJson

/-! ## Strings -/

/-- Four hexadecimal digits. A text of fewer than four bytes ends too early. -/
def hexQuad : Reader Nat
  | a :: b :: c :: d :: rest =>
    match a.hex?, b.hex?, c.hex?, d.hex? with
    | some a, some b, some c, some d => .ok (((a * 16 + b) * 16 + c) * 16 + d, rest)
    | _, _, _, _ => .error .notJson
  | short => .error (if short.foldr (fun glyph size => glyph.size + size) 0 < 4 then .endsEarly
      else .notJson)

/-- The character of a numbered escape; characters beyond 16 bits are written as a pair of
numbers. -/
def numberedEscape : Reader Char := fun text => do
  let (high, rest) ← hexQuad text
  if 0xDC00 ≤ high ∧ high ≤ 0xDFFF then throw .notJson
  else if high < 0xD800 ∨ 0xDBFF < high then return (Char.ofNat high, rest)
  else
    match rest with
    | [] => throw .endsEarly
    | some '\\' :: [] => throw .endsEarly
    | some '\\' :: some 'u' :: rest =>
      let (low, rest) ← hexQuad rest
      if 0xDC00 ≤ low ∧ low ≤ 0xDFFF then
        return (Char.ofNat ((high - 0xD800) * 0x400 + (low - 0xDC00) + 0x10000), rest)
      else throw .notJson
    | _ => throw .notJson

/-- The character of a one-letter escape. -/
def letterEscape? (c : Char) : Option Char :=
  if c = '"' then some '"'
  else if c = '\\' then some '\\'
  else if c = '/' then some '/'
  else if c = 'b' then some '\x08'
  else if c = 'f' then some '\x0c'
  else if c = 'n' then some '\n'
  else if c = 'r' then some '\r'
  else if c = 't' then some '\t'
  else none

/-- What stands after a backslash. -/
def escape (numbered : Reader Char) : Reader Char
  | [] => .error .endsEarly
  | c :: rest =>
    if c = some 'u' then numbered rest
    else
      match c.bind letterEscape? with
      | some c => .ok (c, rest)
      | none => .error .notJson

/-- A control character. -/
def isControl (c : Char) : Bool := c.toNat < 0x20

/-- The rest of a string up to its closing quote; `fuel` bounds its length. -/
def stringBody (numbered : Reader Char) : Nat → Reader (List Glyph)
  | 0, _ => .error .endsEarly
  | _ + 1, [] => .error .endsEarly
  | fuel + 1, c :: rest =>
    if c = some '"' then .ok ([], rest)
    else if c = some '\\' then do
      let (c, rest) ← escape numbered rest
      let (body, rest) ← stringBody numbered fuel rest
      return (some c :: body, rest)
    else if c.any isControl then .error .notJson
    else do
      let (body, rest) ← stringBody numbered fuel rest
      return (c :: body, rest)

/-- A string whose opening quote has been passed. Stray bytes are noticed at its end. -/
def openString : Reader String := fun text => do
  let (body, rest) ← stringBody numberedEscape (text.length + 1) text
  match body.mapM id with
  | some chars => return (String.ofList chars, rest)
  | none => throw .notJson

/-- Passes over a string whose opening quote has been passed; its numbered escapes need not pair
up. -/
def skipString (text : List Glyph) : Except JsonFault (List Glyph) := do
  let lone := fun text => do
    let (_, rest) ← hexQuad text
    return ('\x00', rest)
  let (_, rest) ← stringBody lone (text.length + 1) text
  return rest

/-! ## Numbers -/

/-- A number as written: whole within 64 bits, or else the nearest double. -/
inductive Numeral where
  | natural (value : Nat)
  | negative (size : Nat)
  | real (isNegative : Bool) (size : Binary64)

/-- The digits at the front of a text. -/
def spanDigits : List Glyph → List Nat × List Glyph
  | [] => ([], [])
  | c :: rest =>
    match c.digit? with
    | some digit =>
      let (digits, rest) := spanDigits rest
      (digit :: digits, rest)
    | none => ([], c :: rest)

/-- Takes digits onto a 64-bit value until one does not fit. -/
def absorb : Nat → List Nat → Nat × List Nat
  | value, [] => (value, [])
  | value, digit :: digits =>
    if value * 10 + digit < 2 ^ 64 then absorb (value * 10 + digit) digits
    else (value, digit :: digits)

def realNumeral (isNegative : Bool) (significand : Nat) (power : Int) :
    Reader Numeral := fun rest =>
  match Binary64.ofLiteral? significand power with
  | some size => .ok (.real isNegative size, rest)
  | none => .error .notJson

/-- The exponent of a literal, its letter passed. -/
def exponentPart (isNegative : Bool) (significand : Nat) (power : Int) :
    Reader Numeral := fun text =>
  let (down, text) := match text with
    | some '+' :: rest => (false, rest)
    | some '-' :: rest => (true, rest)
    | _ => (false, text)
  match spanDigits text with
  | ([], []) => .error .endsEarly
  | ([], _ :: _) => .error .notJson
  | (digits, rest) =>
    let value : Int := digits.foldl (fun acc (digit : Nat) => acc * 10 + (digit : Int)) 0
    if value < 2 ^ 31 then
      realNumeral isNegative significand (if down then power - value else power + value) rest
    else if significand ≠ 0 ∧ !down then .error .notJson
    else realNumeral isNegative 0 0 rest

/-- The fraction of a literal, its point passed. -/
def fractionPart (isNegative : Bool) (significand : Nat) (power : Int) :
    Reader Numeral := fun text =>
  match spanDigits text with
  | ([], []) => .error .endsEarly
  | ([], _ :: _) => .error .notJson
  | (digits, rest) =>
    let (significand, left) := absorb significand digits
    let power := power - ((digits.length - left.length : Nat) : Int)
    match rest with
    | some 'e' :: rest | some 'E' :: rest => exponentPart isNegative significand power rest
    | _ => realNumeral isNegative significand power rest

/-- A number, its sign passed. -/
def numeral (isNegative : Bool) : Reader Numeral := fun text =>
  match spanDigits text with
  | ([], []) => .error .endsEarly
  | ([], _ :: _) => .error .notJson
  | (0 :: _ :: _, _) => .error .notJson
  | (digits, rest) =>
    let (significand, left) := absorb 0 digits
    match rest with
    | some '.' :: rest => fractionPart isNegative significand left.length rest
    | some 'e' :: rest | some 'E' :: rest => exponentPart isNegative significand left.length rest
    | _ =>
      if left ≠ [] then realNumeral isNegative significand left.length rest
      else if !isNegative then .ok (.natural significand, rest)
      else if 1 ≤ significand ∧ significand ≤ 2 ^ 63 then .ok (.negative significand, rest)
      else realNumeral true significand 0 rest

/-! ## Values nobody asked for -/

/-- The fault of a reading that was bound to fail even where it found a value. -/
def faultOf {α : Type} : Except JsonFault α → JsonFault
  | .error fault => fault
  | .ok _ => .wrongShape

/-- The fault of meeting this text where a value of another type was wanted. -/
def mistyped : List Glyph → JsonFault
  | [] => .endsEarly
  | c :: rest =>
    if c = some 'n' then faultOf (passWord ['u', 'l', 'l'] rest)
    else if c = some 't' then faultOf (passWord ['r', 'u', 'e'] rest)
    else if c = some 'f' then faultOf (passWord ['a', 'l', 's', 'e'] rest)
    else if c = some '-' then faultOf (numeral true rest)
    else if c.digit?.isSome then faultOf (numeral false (c :: rest))
    else if c = some '"' then faultOf (openString rest)
    else if c = some '[' ∨ c = some '{' then .wrongShape
    else .notJson

/-- Passes over the exponent of a number, its letter passed. -/
def skipExponent (text : List Glyph) : Except JsonFault (List Glyph) :=
  let text := match text with
    | some '+' :: rest | some '-' :: rest => rest
    | _ => text
  match spanDigits text with
  | ([], _) => .error .notJson
  | (_, rest) => .ok rest

/-- Passes over a number, its sign passed. -/
def skipNumber (text : List Glyph) : Except JsonFault (List Glyph) :=
  match spanDigits text with
  | ([], _) => .error .notJson
  | (0 :: _ :: _, _) => .error .notJson
  | (_, some '.' :: rest) =>
    match spanDigits rest with
    | ([], _) => .error .notJson
    | (_, some 'e' :: rest) | (_, some 'E' :: rest) => skipExponent rest
    | (_, rest) => .ok rest
  | (_, some 'e' :: rest) | (_, some 'E' :: rest) => skipExponent rest
  | (_, rest) => .ok rest

mutual

/-- Passes over any value; `fuel` bounds the number of its parts. -/
def skipValue : Nat → List Glyph → Except JsonFault (List Glyph)
  | 0, _ => .error .endsEarly
  | fuel + 1, text =>
    match skipSpace text with
    | [] => .error .endsEarly
    | c :: rest =>
      if c = some 'n' then passWord ['u', 'l', 'l'] rest
      else if c = some 't' then passWord ['r', 'u', 'e'] rest
      else if c = some 'f' then passWord ['a', 'l', 's', 'e'] rest
      else if c = some '-' then skipNumber rest
      else if c.digit?.isSome then skipNumber (c :: rest)
      else if c = some '"' then skipString rest
      else if c = some '[' then
        match skipSpace rest with
        | some ']' :: rest => .ok rest
        | _ => (skipValue fuel rest).bind (skipItems fuel)
      else if c = some '{' then
        match skipSpace rest with
        | some '}' :: rest => .ok rest
        | _ => skipMember fuel rest
      else .error .notJson

/-- Passes over what follows an item. -/
def skipItems : Nat → List Glyph → Except JsonFault (List Glyph)
  | 0, _ => .error .endsEarly
  | fuel + 1, text =>
    match skipSpace text with
    | [] => .error .endsEarly
    | c :: rest =>
      if c = some ']' then .ok rest
      else if c = some ',' then (skipValue fuel rest).bind (skipItems fuel)
      else .error .notJson

/-- Passes over a member and what follows it. -/
def skipMember : Nat → List Glyph → Except JsonFault (List Glyph)
  | 0, _ => .error .endsEarly
  | fuel + 1, text => do
    let rest ← passMark '"' text
    let rest ← skipString rest
    let rest ← passMark ':' rest
    let rest ← skipValue fuel rest
    match skipSpace rest with
    | [] => .error .endsEarly
    | c :: rest =>
      if c = some '}' then .ok rest
      else if c = some ',' then skipMember fuel rest
      else .error .notJson

end

end Json
end PaymentVault
