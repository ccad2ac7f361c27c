import PaymentVault.Bytes.Basic
import PaymentVault.Number.Power

/-!
# The hash BLAKE2b

Messages are taken in by blocks of 128 bytes. Each block is mixed into eight words of state
through twelve rounds on sixteen words, in each of which every column and then every diagonal of
the square of words is mixed as a group of four.
-/
namespace PaymentVault.Blake2b

/-- A square of words, row by row. -/
abbrev Square := Vector UInt64 16

/-- Four words that are mixed together. -/
structure Quad where
  a : UInt64
  b : UInt64
  c : UInt64
  d : UInt64

def rotateRight (x : UInt64) (count : UInt64) : UInt64 := (x >>> count) ||| (x <<< (64 - count))

/-- Mixes a group of four words; `add` says how two of them are added up, given a word of
message to add as well in each half. -/
def Quad.mix (add : UInt64 → UInt64 → UInt64) (x y : UInt64) (q : Quad) : Quad :=
  let a := add q.a q.b + x
  let d := rotateRight (q.d ^^^ a) 32
  let c := add q.c d
  let b := rotateRight (q.b ^^^ c) 24
  let a := add a b + y
  let d := rotateRight (d ^^^ a) 16
  let c := add c d
  let b := rotateRight (b ^^^ c) 63
  ⟨a, b, c, d⟩

/-- Mixes the words at four places. -/
def mixAt (add : UInt64 → UInt64 → UInt64) (x y : UInt64) (a b c d : Fin 16)
    (v : Square) : Square :=
  let q := Quad.mix add x y ⟨v[a], v[b], v[c], v[d]⟩
  (((v.set a q.a).set b q.b).set c q.c).set d q.d

/-- Mixes the columns and then the diagonals. `message` gives the sixteen words to add. -/
def mixSquare (add : UInt64 → UInt64 → UInt64) (message : Fin 16 → UInt64) (v : Square) : Square :=
  let v := mixAt add (message 0) (message 1) 0 4 8 12 v
  let v := mixAt add (message 2) (message 3) 1 5 9 13 v
  let v := mixAt add (message 4) (message 5) 2 6 10 14 v
  let v := mixAt add (message 6) (message 7) 3 7 11 15 v
  let v := mixAt add (message 8) (message 9) 0 5 10 15 v
  let v := mixAt add (message 10) (message 11) 1 6 11 12 v
  let v := mixAt add (message 12) (message 13) 2 7 8 13 v
  mixAt add (message 14) (message 15) 3 4 9 14 v

/-- The start of the state. -/
def start : Vector UInt64 8 :=
  #v[0x6a09e667f3bcc908, 0xbb67ae8584caa73b, 0x3c6ef372fe94f82b, 0xa54ff53a5f1d36f1,
    0x510e527fade682d1, 0x9b05688c2b3e6c1f, 0x1f83d9abfb41bd6b, 0x5be0cd19137e2179]

/-- The order in which the rounds add the words of a block; the first two orders come twice. -/
def orders : List (Vector (Fin 16) 16) :=
  [#v[0, 1, 2, 3, 4, 5, 6, 7, 8, 9, 10, 11, 12, 13, 14, 15],
    #v[14, 10, 4, 8, 9, 15, 13, 6, 1, 12, 0, 2, 11, 7, 5, 3],
    #v[11, 8, 12, 0, 5, 2, 15, 13, 10, 14, 3, 6, 7, 1, 9, 4],
    #v[7, 9, 3, 1, 13, 12, 11, 14, 2, 6, 5, 10, 4, 0, 15, 8],
    #v[9, 0, 5, 7, 2, 4, 10, 15, 14, 1, 11, 12, 6, 8, 3, 13],
    #v[2, 12, 6, 10, 0, 11, 8, 3, 4, 13, 7, 5, 15, 14, 1, 9],
    #v[12, 5, 1, 15, 14, 13, 4, 10, 0, 7, 6, 3, 9, 2, 8, 11],
    #v[13, 11, 7, 14, 12, 1, 3, 9, 5, 0, 15, 4, 8, 6, 2, 10],
    #v[6, 15, 14, 9, 11, 3, 0, 8, 12, 2, 13, 7, 1, 4, 10, 5],
    #v[10, 2, 8, 4, 7, 6, 1, 5, 15, 11, 9, 14, 3, 12, 13, 0],
    #v[0, 1, 2, 3, 4, 5, 6, 7, 8, 9, 10, 11, 12, 13, 14, 15],
    #v[14, 10, 4, 8, 9, 15, 13, 6, 1, 12, 0, 2, 11, 7, 5, 3]]

/-- The word at a place of some bytes, zeros beyond their end. -/
def wordAt (bytes : Bytes) (place : Nat) : UInt64 :=
  UInt64.ofNat (Bytes.toNatLittle ((bytes.drop (8 * place)).take 8))

/-- Takes a block into the state; `count` is the number of bytes up to its end. -/
def compress (state : Vector UInt64 8) (block : Bytes) (count : Nat) (isLast : Bool) :
    Vector UInt64 8 :=
  let words : Square := Vector.ofFn fun i => wordAt block i
  let low := UInt64.ofNat count
  let high := UInt64.ofNat (count / 2 ^ 64)
  let last : UInt64 := if isLast then 0xFFFFFFFFFFFFFFFF else 0
  let second : Vector UInt64 8 :=
    #v[start[0], start[1], start[2], start[3], start[4] ^^^ low, start[5] ^^^ high,
      start[6] ^^^ last, start[7]]
  let square : Square := state ++ second
  let mixed := orders.foldl (fun v order => mixSquare (· + ·) (fun i => words[order[i]]) v) square
  Vector.ofFn fun i : Fin 8 => state[i] ^^^ mixed[i.val] ^^^ mixed[i.val + 8]

/-- Takes in a message of which `count` bytes went before; `fuel` bounds the number of blocks. -/
def absorb : Nat → Vector UInt64 8 → Nat → Bytes → Vector UInt64 8
  | 0, state, _, _ => state
  | fuel + 1, state, count, message =>
    if message.length ≤ 128 then compress state message (count + message.length) true
    else absorb fuel (compress state (message.take 128) (count + 128) false) (count + 128)
      (message.drop 128)

/-- The hash of a message in up to 64 bytes. -/
def hash (length : Nat) (message : Bytes) : Bytes :=
  let state := start.set 0 (start[0] ^^^ 0x01010000 ^^^ UInt64.ofNat length)
  let state := absorb (message.length / 128 + 1) state 0 message
  (state.toList.flatMap fun word => Bytes.ofNatLittle 8 word.toNat).take length

end PaymentVault.Blake2b
