import PaymentVault.Bytes.Hex
import PaymentVault.Text.Printable

/-!
# Quoted text for descriptions

Text between quotes, with quotes and backslashes escaped and unprintable characters given by number.
-/
namespace PaymentVault

/-- The hexadecimal digits of a number, without zeros in front. -/
def hexNumeral (n : Nat) : List Char := Nat.toDigits 16 n

/-- A character inside quotes. -/
def debugEscaped (c : Char) : List Char :=
  if c = '"' then ['\\', c]
  else if c = '\\' then ['\\', '\\']
  else if c = '\n' then ['\\', 'n']
  else if c = '\r' then ['\\', 'r']
  else if c = '\t' then ['\\', 't']
  else if c = '\x00' then ['\\', '0']
  else if isPrintable c then [c]
  else '\\' :: 'u' :: '\x7b' :: hexNumeral c.toNat ++ ['\x7d']

def debugQuoted (text : String) : String :=
  String.ofList ('"' :: text.toList.flatMap debugEscaped ++ ['"'])

end PaymentVault
