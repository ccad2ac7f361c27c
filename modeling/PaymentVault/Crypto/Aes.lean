import PaymentVault.Bytes.Basic

/-!
# The block cipher AES-256

A block is a square of sixteen bytes, column by column. Fourteen rounds substitute the bytes,
shift the rows, mix the columns (all rounds but the last) and add a round key. Substitution is
inversion in the field of 256 elements and an affine map.
-/
namespace PaymentVault.Aes

abbrev Block := Vector UInt8 16

/-- Multiplication by the generator of the field. -/
def double (x : UInt8) : UInt8 := if x < 0x80 then x <<< 1 else (x <<< 1) ^^^ 0x1b

/-- Multiplication in the field, `bits` bits of the second factor from the lowest. -/
def mulBits : Nat → UInt8 → UInt8 → UInt8
  | 0, _, _ => 0
  | bits + 1, x, y => (if y % 2 = 1 then x else 0) ^^^ mulBits bits (double x) (y >>> 1)

def mul (x y : UInt8) : UInt8 := mulBits 8 x y

/-- The inverse, which is the 254th power; zero stays. -/
def inverse (x : UInt8) : UInt8 :=
  let square := fun y => mul y y
  let x3 := mul (square x) x
  let x7 := mul (square x3) x
  let x15 := mul (square x7) x
  let x31 := mul (square x15) x
  let x63 := mul (square x31) x
  let x127 := mul (square x63) x
  square x127

def rotateLeft (x : UInt8) (count : UInt8) : UInt8 := (x <<< count) ||| (x >>> (8 - count))

/-- The substitution of every byte. -/
def substitutions : Vector UInt8 256 :=
  Vector.ofFn fun i =>
    let x := inverse (UInt8.ofNat i)
    x ^^^ rotateLeft x 1 ^^^ rotateLeft x 2 ^^^ rotateLeft x 3 ^^^ rotateLeft x 4 ^^^ 0x63

def substitute (x : UInt8) : UInt8 := substitutions.get ⟨x.toNat, x.toNat_lt⟩

/-- Moves each row to the left by its number. -/
def shiftRows (block : Block) : Block := Vector.ofFn fun i => block[5 * i.val % 16]

/-- Multiplies each column by a fixed polynomial. -/
def mixColumns (block : Block) : Block :=
  Vector.ofFn fun i =>
    let column := i.val / 4 * 4
    let next := block[column + (i.val + 1) % 4]
    double (block.get i) ^^^ double next ^^^ next ^^^ block[column + (i.val + 2) % 4] ^^^
      block[column + (i.val + 3) % 4]

def addKey (key block : Block) : Block := block.zipWith (· ^^^ ·) key

/-! ## Round keys -/

/-- Adds a word to the first of some words, the sum to the second, and so on. -/
def chain (word : Bytes) : List Bytes → List Bytes
  | [] => []
  | next :: rest => next.xor word :: chain (next.xor word) rest

/-- The eight words that follow eight words of the schedule. -/
def nextWords (constant : UInt8) (words : List Bytes) : List Bytes :=
  let last := words.getLastD []
  let turned := (last.drop 1 ++ last.take 1).map substitute
  let front := chain (Bytes.xor turned [constant, 0, 0, 0]) (words.take 4)
  front ++ chain ((front.getLastD []).map substitute) (words.drop 4)

/-- The schedule from eight words on. -/
def scheduleFrom : Nat → UInt8 → List Bytes → List Bytes
  | 0, _, words => words
  | steps + 1, constant, words =>
    words ++ scheduleFrom steps (double constant) (nextWords constant words)

def chunks (size : Nat) : Nat → Bytes → List Bytes
  | 0, _ => []
  | count + 1, bytes => bytes.take size :: chunks size count (bytes.drop size)

/-- The block of up to sixteen bytes, zeros for those missing. -/
def Block.ofBytes (bytes : Bytes) : Block := Vector.ofFn fun i => bytes.getD i 0

/-- The round keys of a key of 32 bytes. -/
def roundKeys (key : Bytes) : List Block :=
  (chunks 16 15 (scheduleFrom 7 1 (chunks 4 8 key)).flatten).map Block.ofBytes

/-! ## Encryption -/

/-- The rounds after the first addition of a key. -/
def rounds : List Block → Block → Block
  | [], block => block
  | [key], block => addKey key (shiftRows (block.map substitute))
  | key :: keys, block => rounds keys (addKey key (mixColumns (shiftRows (block.map substitute))))

/-- Encrypts a block under round keys. -/
def encrypt (keys : List Block) (block : Block) : Block :=
  match keys with
  | [] => block
  | first :: keys => rounds keys (addKey first block)

end PaymentVault.Aes
