import PaymentVault.Crypto.Aes
import PaymentVault.Number.Power

/-!
# Authenticated encryption with AES-256-GCM

The text is masked with encrypted counters, and a tag over the masked text follows it. Opening
checks the tag before anything else. What opens is exactly what was sealed under that key and
nonce (`open?_eq_some_iff`).
-/
namespace PaymentVault.Gcm

/-- The largest number of bytes that are sealed at once. -/
def maxLength : Nat := 2 ^ 36

def tagLength : Nat := 16

/-! ## Tags -/

/-- The product in the field of `2 ^ 128` elements, by the bits of `x` from the highest; `y` is
halved at each step. -/
def mulBits : Nat → Nat → Nat → Nat → Nat
  | 0, _, _, sum => sum
  | bits + 1, x, y, sum =>
    let sum := if x / 2 ^ bits % 2 = 1 then sum ^^^ y else sum
    let half := if y % 2 = 1 then (y / 2) ^^^ (0xe1 * 2 ^ 120) else y / 2
    mulBits bits x half sum

def mul (x y : Nat) : Nat := mulBits 128 x y 0

/-- Adds up blocks of sixteen bytes, the last filled up with zeros, multiplying after each;
`fuel` bounds their number. -/
def digest (hashKey : Nat) : Nat → Nat → Bytes → Nat
  | 0, sum, _ => sum
  | _ + 1, sum, [] => sum
  | fuel + 1, sum, bytes =>
    let block := bytes.take 16
    let value := Bytes.toNatBig block * 2 ^ (8 * (16 - block.length))
    digest hashKey fuel (mul (sum ^^^ value) hashKey) (bytes.drop 16)

/-! ## Counters -/

/-- The block of a nonce and a counter of 32 bits. -/
def counterBlock (nonce : Bytes) (count : Nat) : Aes.Block :=
  Aes.Block.ofBytes (nonce ++ Bytes.ofNatBig 4 count)

/-- The encrypted counters from `first` on. -/
def mask (keys : List Aes.Block) (nonce : Bytes) : Nat → Nat → Bytes
  | 0, _ => []
  | blocks + 1, first =>
    (Aes.encrypt keys (counterBlock nonce first)).toList ++ mask keys nonce blocks (first + 1)

@[simp] theorem length_mask (keys : List Aes.Block) (nonce : Bytes) (blocks first : Nat) :
    (mask keys nonce blocks first).length = 16 * blocks := by
  induction blocks generalizing first with
  | zero => rfl
  | succ blocks ih =>
    simp only [mask, List.length_append, Vector.length_toList, ih]
    omega

/-- Masks a text, or takes the mask off. -/
def masked (key nonce text : Bytes) : Bytes :=
  text.xor (mask (Aes.roundKeys key) nonce (text.length / 16 + 1) 2)

@[simp] theorem length_masked (key nonce text : Bytes) :
    (masked key nonce text).length = text.length := by
  simp only [masked, Bytes.xor, List.length_zipWith, length_mask]
  omega

@[simp] theorem masked_masked (key nonce text : Bytes) :
    masked key nonce (masked key nonce text) = text := by
  rw [masked, length_masked]
  exact Bytes.xor_xor _ _ (by rw [length_mask]; omega)

/-- The tag of a masked text. -/
def tag (key nonce text : Bytes) : Bytes :=
  let keys := Aes.roundKeys key
  let hashKey := Bytes.toNatBig (Aes.encrypt keys (Aes.Block.ofBytes [])).toList
  let sum := digest hashKey (text.length / 16 + 1) 0 text
  let sum := mul (sum ^^^ (8 * text.length)) hashKey
  (Bytes.ofNatBig tagLength sum).xor (Aes.encrypt keys (counterBlock nonce 1)).toList

@[simp] theorem length_tag (key nonce text : Bytes) : (tag key nonce text).length = tagLength := by
  simp [tag, Bytes.xor, tagLength]

/-! ## Sealing and opening -/

/-- The masked text and its tag; nothing if the text is too long. -/
def seal? (key nonce text : Bytes) : Option Bytes :=
  if text.length ≤ maxLength then
    let hidden := masked key nonce text
    some (hidden ++ tag key nonce hidden)
  else none

/-- The text of what was sealed; nothing if the tag is wrong. -/
def open? (key nonce bytes : Bytes) : Option Bytes :=
  let hidden := bytes.take (bytes.length - tagLength)
  if hidden.length ≤ maxLength ∧ bytes = hidden ++ tag key nonce hidden then
    some (masked key nonce hidden)
  else none

theorem open?_eq_some_iff {key nonce bytes text : Bytes} :
    open? key nonce bytes = some text ↔ seal? key nonce text = some bytes := by
  constructor
  · intro opened
    simp only [open?] at opened
    split at opened
    · next fits =>
      obtain rfl := Option.some.inj opened
      rw [seal?, if_pos (by rw [length_masked]; exact fits.1), masked_masked]
      exact congrArg some fits.2.symm
    · cases opened
  · intro sealed
    simp only [seal?] at sealed
    split at sealed
    · next fits =>
      obtain rfl := Option.some.inj sealed
      have front : (masked key nonce text ++ tag key nonce (masked key nonce text)).take
          ((masked key nonce text ++ tag key nonce (masked key nonce text)).length - tagLength) =
            masked key nonce text := by
        simp
      simp only [open?, front, length_masked, fits, true_and, if_true, masked_masked]
    · cases sealed

end PaymentVault.Gcm
