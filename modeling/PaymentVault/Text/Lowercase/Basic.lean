import PaymentVault.Text.Lowercase.Tables

/-!
# Lowercase text

The full Unicode lowercase mapping of a text, without language-specific rules. Two characters
stand out: capital I with a dot becomes two characters, and capital sigma takes its final form
at the end of a word, so that a character's form can depend on its neighbours.
-/
namespace PaymentVault.Lowercase

def inRanges (ranges : List (Nat × Nat)) (c : Char) : Bool :=
  ranges.any fun range => range.1 ≤ c.toNat && c.toNat ≤ range.2

/-- The property `Case_Ignorable`. -/
def isIgnorable (c : Char) : Bool := inRanges ignorable c

/-- The property `Cased`, on characters that are not case-ignorable. -/
def isCased (c : Char) : Bool := inRanges cased c

/-- Whether the nearest character that is not case-ignorable is a letter with a case. -/
def startsCased (text : List Char) : Bool :=
  match text.dropWhile isIgnorable with
  | [] => false
  | c :: _ => isCased c

/-- The simple mapping. -/
def simple (c : Char) : Char :=
  let n := c.toNat
  match mappings.find? fun run => run.1 ≤ n && n ≤ run.2.1 && (n - run.1) % run.2.2.1 == 0 with
  | some run => Char.ofNat (n + run.2.2.2).toNat
  | none => c

/-- The lowercase form of a character between the text before it, nearest character first, and
the text after it. -/
def mapped (before : List Char) (c : Char) (after : List Char) : List Char :=
  if c = 'Σ' then [if startsCased before && !startsCased after then 'ς' else 'σ']
  else if c = 'İ' then ['i', '\u0307']
  else [simple c]

/-- Maps a text that follows `before`. -/
def mapFrom (before : List Char) : List Char → List Char
  | [] => []
  | c :: after => mapped before c after ++ mapFrom (c :: before) after

end PaymentVault.Lowercase

namespace PaymentVault

/-- The lowercase form of a text. -/
def lowercase (text : List Char) : List Char := Lowercase.mapFrom [] text

/-- Whether `part` occurs in `text` character by character. -/
def occursIn (part : List Char) : List Char → Bool
  | [] => part.isEmpty
  | c :: rest => part.isPrefixOf (c :: rest) || occursIn part rest

theorem occursIn_iff {part text : List Char} : occursIn part text ↔ part <:+: text := by
  induction text with
  | nil => simp [occursIn]
  | cons c rest ih => simp [occursIn, ih, List.infix_cons_iff]

end PaymentVault
