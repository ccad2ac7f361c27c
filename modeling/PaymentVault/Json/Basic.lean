import PaymentVault.Bytes.Hex

/-!
# JSON values and their text

Numbers are integers here, for nothing else is ever written. Members keep their order. A value
is written either without any space or indented by two blanks for each level.
-/
namespace PaymentVault

inductive Json where
  | null
  | bool (value : Bool)
  | number (value : Int)
  | string (value : String)
  | array (items : List Json)
  | object (members : List (String × Json))
  deriving Inhabited

namespace Json

/-- How the parts of a value are set apart: not at all, or on lines of their own at some depth. -/
inductive Layout where
  | compact
  | indented (depth : Nat)
  deriving DecidableEq

namespace Layout

/-- The layout of what stands inside. -/
def inner : Layout → Layout
  | compact => compact
  | indented depth => indented (depth + 1)

/-- What comes before a part. -/
def lineBreak : Layout → List Char
  | compact => []
  | indented depth => '\n' :: List.replicate (2 * depth) ' '

/-- What comes between a member's name and its value. -/
def colon : Layout → List Char
  | compact => [':']
  | indented _ => [':', ' ']

end Layout

/-- A character inside a string: quotes, backslashes and control characters are escaped. -/
def escaped (c : Char) : List Char :=
  if c = '"' then ['\\', c]
  else if c = '\\' then ['\\', '\\']
  else if c = '\x08' then ['\\', 'b']
  else if c = '\x0c' then ['\\', 'f']
  else if c = '\n' then ['\\', 'n']
  else if c = '\r' then ['\\', 'r']
  else if c = '\t' then ['\\', 't']
  else if c.toNat < 0x20 then
    ['\\', 'u', '0', '0', hexDigit (c.toNat / 16), hexDigit (c.toNat % 16)]
  else [c]

/-- A quoted string. -/
def quoted (text : String) : List Char := '"' :: text.toList.flatMap escaped ++ ['"']

/-- The digits of an integer. -/
def integerDigits (n : Int) : List Char :=
  (if n < 0 then ['-'] else []) ++ Nat.toDigits 10 n.natAbs

mutual

def render (layout : Layout) : Json → List Char
  | null => ['n', 'u', 'l', 'l']
  | bool true => ['t', 'r', 'u', 'e']
  | bool false => ['f', 'a', 'l', 's', 'e']
  | number n => integerDigits n
  | string text => quoted text
  | array [] => ['[', ']']
  | array (item :: items) =>
    '[' :: layout.inner.lineBreak ++ render layout.inner item ++ renderItems layout.inner items ++
      layout.lineBreak ++ [']']
  | object [] => ['{', '}']
  | object ((name, value) :: members) =>
    '{' :: layout.inner.lineBreak ++ quoted name ++ layout.colon ++ render layout.inner value ++
      renderMembers layout.inner members ++ layout.lineBreak ++ ['}']

/-- Further items, a comma before each. -/
def renderItems (layout : Layout) : List Json → List Char
  | [] => []
  | item :: items => ',' :: layout.lineBreak ++ render layout item ++ renderItems layout items

/-- Further members, a comma before each. -/
def renderMembers (layout : Layout) : List (String × Json) → List Char
  | [] => []
  | (name, value) :: members =>
    ',' :: layout.lineBreak ++ quoted name ++ layout.colon ++ render layout value ++
      renderMembers layout members

end

/-- The text without spaces. -/
def compactText (value : Json) : String := String.ofList (render .compact value)

/-- The indented text. -/
def indentedText (value : Json) : String := String.ofList (render (.indented 0) value)

end Json
end PaymentVault
