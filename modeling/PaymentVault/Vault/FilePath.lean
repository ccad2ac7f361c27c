/-!
# File paths

A path is kept as it is shown, together with the segments that lead to its place. They lead
there from the directory that the root directory is in, or if the path is relative, from the
working directory. A segment may be a name, but also empty or a dot, which both stay in a
directory, or two dots, which leave it.

Paths have a limited size. It counts the bytes of the text, and those that the text does not
show if the root directory goes by a shorter name.
-/
namespace PaymentVault

/-- A path as it is shown, its segments, and where they start. -/
structure FilePath where
  text : String
  segments : List String
  isRelative : Bool := false
  /-- How many bytes the path has that its text does not show. -/
  hidden : Nat := 0
  deriving DecidableEq

namespace FilePath

/-- The segment that leads to the top of the disk. -/
def top : String := "/"

/-- The root directory under some name. -/
def root (name : String) (hidden : Nat) : FilePath := { text := name, segments := [name], hidden }

/-- The working directory, which paths may leave unsaid. -/
def here : FilePath := { text := "", segments := [], isRelative := true }

/-- The text of a path with one more segment; a text that ends in a slash needs no other. -/
def joinText (text segment : String) : String :=
  if text = "" ∨ text.toList.getLast? = some '/' then text ++ segment else text ++ "/" ++ segment

def child (path : FilePath) (name : String) : FilePath :=
  { path with text := joinText path.text name, segments := path.segments ++ [name] }

/-- The path of a place that is given from another. Slashes set segments apart; one in front
leads to the top of the disk instead. -/
def below (path : FilePath) (relative : String) : FilePath :=
  let segments := relative.splitOn "/"
  if segments.length ≠ 1 ∧ segments.head? = some "" then
    { text := relative, segments := top :: segments }
  else { path with text := joinText path.text relative, segments := path.segments ++ segments }

/-- Whether a segment stays in a directory. -/
def isStay (segment : String) : Bool := segment = "" || segment = "."

/-- Whether a segment names a place in a directory. -/
def isName (segment : String) : Bool := !isStay segment && segment ≠ ".." && segment ≠ top

/-- The most bytes that a name may have. -/
def nameLimit : Nat := 255

/-- The number of bytes that a path has. -/
def size (path : FilePath) : Nat := path.text.utf8ByteSize + path.hidden

/-- The number of bytes that a path stays below. -/
def sizeLimit : Nat := 4096

/-- Whether a path can be asked for at all: it has no null character and is not too long. -/
def isSpellable (path : FilePath) : Bool :=
  !path.text.toList.contains '\x00' && path.size < sizeLimit

/-- The number of bytes in the name of a draft. -/
def draftNameSize : Nat := 10

/-- The size of a path to a draft, which is in the same directory as the file; a dot stands for
a directory that is left unsaid. -/
def draftSize (path : FilePath) : Nat :=
  let leading := (path.segments.dropLast.reverse.dropWhile isStay).reverse
  max 1 ("/".intercalate leading).utf8ByteSize + path.hidden + 1 + draftNameSize

/-- The segments without slashes at the end. -/
def trimmedSegments (path : FilePath) : List String :=
  (path.segments.reverse.dropWhile (· = "")).reverse

/-- The segments of every directory that a path is spelled below, from the first down. -/
def ancestors (path : FilePath) : List (List String) :=
  let leading := path.segments.filter fun segment => !isStay segment
  (List.range (leading.length - 1)).map fun n => leading.take (n + 1)

end FilePath
end PaymentVault
