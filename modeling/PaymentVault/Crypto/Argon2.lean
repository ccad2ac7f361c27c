import PaymentVault.Crypto.Blake2b

/-!
# The key derivation Argon2id

A memory of blocks is filled lane by lane. Each new block mixes the one before it with an
earlier one, chosen in the first half of the first pass from a counter and afterwards from the
contents of the memory. The lanes of a quarter of the memory (a slice) see only finished slices
of each other, so that the order of lanes within a slice does not matter.
-/
namespace PaymentVault.Argon2

/-- What a derivation costs. -/
structure Params where
  memoryKib : UInt32
  iterations : UInt32
  parallelism : UInt32
  deriving DecidableEq

/-- Why there is no derivation of some cost. -/
inductive Fault where
  | tooLittleMemory
  | tooFewIterations
  | tooFewLanes
  | tooManyLanes
  deriving DecidableEq

def Fault.message : Fault → String
  | tooLittleMemory => "memory cost is too small"
  | tooFewIterations => "time cost is too small"
  | tooFewLanes => "not enough threads"
  | tooManyLanes => "too many threads"

/-- Costs are checked for memory first, then for iterations, then for lanes. The memory that the
lanes need is computed in 32 bits, which is exact for as many lanes as there may be. -/
def Params.check (params : Params) : Except Fault Unit :=
  if params.memoryKib < 8 ∨ params.memoryKib < 8 * params.parallelism then .error .tooLittleMemory
  else if params.iterations = 0 then .error .tooFewIterations
  else if params.parallelism = 0 then .error .tooFewLanes
  else if 2 ^ 24 ≤ params.parallelism.toNat then .error .tooManyLanes
  else .ok ()

/-! ## Blocks -/

/-- A block of 1024 bytes. -/
abbrev Block := Vector UInt64 128

def Block.zero : Block := Vector.replicate 128 0

def Block.xor (a b : Block) : Block := a.zipWith (· ^^^ ·) b

def Block.ofBytes (bytes : Bytes) : Block := Vector.ofFn fun i => Blake2b.wordAt bytes i

def Block.toBytes (block : Block) : Bytes :=
  block.toList.flatMap fun word => Bytes.ofNatLittle 8 word.toNat

/-- A sum with twice the product of the low halves. -/
def hardAdd (x y : UInt64) : UInt64 := x + y + 2 * ((x &&& 0xFFFFFFFF) * (y &&& 0xFFFFFFFF))

/-- Mixes the sixteen words at some places. -/
def mixWords (place : Fin 16 → Fin 128) (block : Block) : Block :=
  let mixed := Blake2b.mixSquare hardAdd (fun _ => 0) (Vector.ofFn fun i => block[place i])
  (List.finRange 16).foldl (fun block i => block.set (place i) (mixed.get i)) block

/-- Where the words of a row are. -/
def rowPlace (row : Fin 8) (i : Fin 16) : Fin 128 := ⟨16 * row + i, by omega⟩

/-- Where the words of a column of pairs are. -/
def columnPlace (column : Fin 8) (i : Fin 16) : Fin 128 :=
  ⟨16 * (i / 2) + 2 * column + i % 2, by omega⟩

/-- Mixes two blocks into one. -/
def compress (x y : Block) : Block :=
  let sum := x.xor y
  let rows := (List.finRange 8).foldl (fun block row => mixWords (rowPlace row) block) sum
  let columns :=
    (List.finRange 8).foldl (fun block column => mixWords (columnPlace column) block) rows
  columns.xor sum

/-- A hash of any length: halves of 64-byte hashes of hashes, and at the end one whole hash. -/
def longHashFrom : Nat → Nat → Bytes → Bytes
  | 0, _, _ => []
  | fuel + 1, length, previous =>
    if length ≤ 64 then Blake2b.hash length previous
    else
      let next := Blake2b.hash 64 previous
      next.take 32 ++ longHashFrom fuel (length - 32) next

def longHash (length : Nat) (message : Bytes) : Bytes :=
  longHashFrom (length / 32 + 1) length (Bytes.ofNatLittle 4 length ++ message)

/-! ## Filling the memory -/

/-- The shape of the memory. -/
structure Layout where
  lanes : Nat
  /-- Blocks of a lane in one slice. -/
  segment : Nat
  passes : Nat

def Layout.ofParams (params : Params) : Layout where
  lanes := params.parallelism.toNat
  segment := params.memoryKib.toNat / (4 * params.parallelism.toNat)
  passes := params.iterations.toNat

/-- Blocks of a lane. -/
def Layout.columns (layout : Layout) : Nat := 4 * layout.segment

/-- A block to be filled: in which pass, in which slice, of which lane, and where in the segment. -/
structure Position where
  pass : Nat
  slice : Nat
  lane : Nat
  index : Nat

/-- All positions in the order of filling. The first two blocks of a lane are filled beforehand. -/
def Layout.positions (layout : Layout) : List Position :=
  (List.range layout.passes).flatMap fun pass =>
    (List.range 4).flatMap fun slice =>
      (List.range layout.lanes).flatMap fun lane =>
        let first := if pass = 0 ∧ slice = 0 then 2 else 0
        (List.range' first (layout.segment - first)).map fun index => { pass, slice, lane, index }

/-- The number that chooses a reference independently of the data. -/
def counterWord (layout : Layout) (spot : Position) : UInt64 :=
  let input := [spot.pass, spot.lane, spot.slice, layout.lanes * layout.columns, layout.passes, 2,
    spot.index / 128 + 1]
  let block : Block := Vector.ofFn fun i => UInt64.ofNat (input.getD i 0)
  let addresses := compress .zero (compress .zero block)
  addresses.get ⟨spot.index % 128, Nat.mod_lt _ (by decide)⟩

/-- The lane and column of the block that a number refers to from a position. -/
def reference (layout : Layout) (spot : Position) (word : UInt64) : Nat × Nat :=
  let lane := if spot.pass = 0 ∧ spot.slice = 0 then spot.lane
    else word.toNat / 2 ^ 32 % layout.lanes
  let finished := if spot.pass = 0 then spot.slice * layout.segment
    else layout.columns - layout.segment
  let area := if lane = spot.lane then finished + spot.index - 1
    else if spot.index = 0 then finished - 1 else finished
  let low := word.toNat % 2 ^ 32
  let back := area * (low * low / 2 ^ 32) / 2 ^ 32
  let oldest := if spot.pass = 0 then 0 else (spot.slice + 1) % 4 * layout.segment
  (lane, (oldest + (area - 1 - back)) % layout.columns)

/-- Fills the block at a position. -/
def fillAt (layout : Layout) (memory : Array Block) (spot : Position) : Array Block :=
  let column := spot.slice * layout.segment + spot.index
  let place := fun lane column => lane * layout.columns + column
  let previous :=
    memory.getD (place spot.lane ((column + layout.columns - 1) % layout.columns)) .zero
  let word :=
    if spot.pass = 0 ∧ spot.slice < 2 then counterWord layout spot else previous[0]
  let (lane, earlier) := reference layout spot word
  let fresh := compress previous (memory.getD (place lane earlier) .zero)
  let here := place spot.lane column
  memory.setIfInBounds here (if spot.pass = 0 then fresh else fresh.xor (memory.getD here .zero))

/-- The memory before it is filled: two blocks of each lane come from the seed. -/
def seeded (layout : Layout) (seed : Bytes) : Array Block :=
  let firstBlock := fun lane column =>
    Block.ofBytes (longHash 1024 (seed ++ Bytes.ofNatLittle 4 column ++ Bytes.ofNatLittle 4 lane))
  ((List.range layout.lanes).flatMap fun lane =>
    firstBlock lane 0 :: firstBlock lane 1 ::
      List.replicate (layout.columns - 2) Block.zero).toArray

/-- The hash of all that goes into a derivation. -/
def seedOf (params : Params) (length : Nat) (secret salt : Bytes) : Bytes :=
  let word := Bytes.ofNatLittle 4
  Blake2b.hash 64
    (word params.parallelism.toNat ++ word length ++ word params.memoryKib.toNat ++
      word params.iterations.toNat ++ word 0x13 ++ word 2 ++ word secret.length ++ secret ++
      word salt.length ++ salt ++ word 0 ++ word 0)

/-- Derives `length` bytes from a secret. -/
def derive (params : Params) (length : Nat) (secret salt : Bytes) : Except Fault Bytes :=
  match params.check with
  | .error fault => .error fault
  | .ok () =>
    let layout := Layout.ofParams params
    let memory :=
      layout.positions.foldl (fillAt layout) (seeded layout (seedOf params length secret salt))
    let last := (List.range layout.lanes).foldl
      (fun sum lane => sum.xor (memory.getD (lane * layout.columns + layout.columns - 1) .zero))
        Block.zero
    .ok (longHash length last.toBytes)

end PaymentVault.Argon2
