import PaymentVault.Bytes.Basic
import PaymentVault.Number.Power

/-!
# Variable length numbers

A number is written seven bits to the byte, lowest first, and every byte but the last has its
high bit set. Ten bytes are enough for 64 bits; longer numbers are refused. Reading gives back
the number that the bytes spell, in whatever length, and leaves what follows
(`readVarint?_of_spells`).
-/
namespace PaymentVault.Wire

/-- The digits of a number, at most `count` of them. -/
def varintDigits : Nat → Nat → Bytes
  | 0, _ => []
  | count + 1, n =>
    if n < 128 then [UInt8.ofNat n] else UInt8.ofNat (n % 128 + 128) :: varintDigits count (n / 128)

/-- The written form of a 64-bit number. -/
def varint (n : UInt64) : Bytes := varintDigits 10 n.toNat

/-- Takes the digits of a number, at most `count` of them, off the front. -/
def takeVarint : Nat → Bytes → Option (Nat × Bytes)
  | 0, _ => none
  | _ + 1, [] => none
  | count + 1, b :: rest =>
    if b.toNat < 128 then some (b.toNat, rest)
    else (takeVarint count rest).map fun (high, rest) => (b.toNat - 128 + 128 * high, rest)

/-- Takes a 64-bit number off the front. -/
def readVarint? (bytes : Bytes) : Option (UInt64 × Bytes) :=
  (takeVarint 10 bytes).bind fun (n, rest) =>
    if n < 2 ^ 64 then some (UInt64.ofNat n, rest) else none

/-! ## Spellings -/

/-- The bytes spell the number. Zeros after its highest digit make no difference. -/
inductive Spells : Bytes → Nat → Prop
  | last {b : UInt8} (ends : b.toNat < 128) : Spells [b] b.toNat
  | more {b : UInt8} {bytes : Bytes} {high : Nat} (continues : 128 ≤ b.toNat)
    (spells : Spells bytes high) : Spells (b :: bytes) (b.toNat - 128 + 128 * high)

/-- The bytes spell a 64-bit number and are few enough to be read. -/
structure SpellsWord (bytes : Bytes) (word : UInt64) : Prop where
  length_le : bytes.length ≤ 10
  spells : Spells bytes word.toNat

theorem takeVarint_of_spells {bytes : Bytes} {n count : Nat} (spells : Spells bytes n)
    (few : bytes.length ≤ count) (rest : Bytes) :
    takeVarint count (bytes ++ rest) = some (n, rest) := by
  induction spells generalizing count with
  | last ends =>
    obtain ⟨less, rfl⟩ := Nat.exists_eq_succ_of_ne_zero (Nat.ne_of_gt few)
    rw [List.singleton_append, takeVarint, if_pos ends]
  | more continues _ ih =>
    obtain ⟨less, rfl⟩ := Nat.exists_eq_succ_of_ne_zero (Nat.ne_zero_of_lt few)
    rw [List.cons_append, takeVarint, if_neg (Nat.not_lt.2 continues),
      ih (Nat.le_of_succ_le_succ few), Option.map_some]

theorem readVarint?_of_spells {bytes : Bytes} {word : UInt64} (spelled : SpellsWord bytes word)
    (rest : Bytes) : readVarint? (bytes ++ rest) = some (word, rest) := by
  have bound := word.toNat_lt
  simp [readVarint?, takeVarint_of_spells spelled.spells spelled.length_le, bound]

theorem SpellsWord.ne_nil {bytes : Bytes} {word : UInt64} (spelled : SpellsWord bytes word) :
    bytes ≠ [] := by
  rintro rfl
  cases spelled.spells

/-! ## The written form -/

theorem length_varintDigits_le (count n : Nat) : (varintDigits count n).length ≤ count := by
  induction count generalizing n with
  | zero => simp [varintDigits]
  | succ count ih =>
    have rest := ih (n / 128)
    rw [varintDigits]
    split
    · simp
    · rw [List.length_cons]
      omega

theorem spells_varintDigits (count n : Nat) (bound : n < 128 ^ (count + 1)) :
    Spells (varintDigits (count + 1) n) n := by
  have last (n : Nat) (small : n < 128) : Spells [UInt8.ofNat n] n := by
    have digit : (UInt8.ofNat n).toNat = n := by
      rw [UInt8.toNat_ofNat']
      omega
    have spells := Spells.last (b := UInt8.ofNat n) (by omega)
    rwa [digit] at spells
  induction count generalizing n with
  | zero =>
    have small : n < 128 := bound
    rw [varintDigits, if_pos small]
    exact last n small
  | succ count ih =>
    rw [varintDigits]
    split
    · next small => exact last n small
    · have digit : (UInt8.ofNat (n % 128 + 128)).toNat = n % 128 + 128 := by
        rw [UInt8.toNat_ofNat']
        omega
      have shrinks : n / 128 < 128 ^ (count + 1) := by
        rw [Nat.pow_succ] at bound
        omega
      have spells := Spells.more (b := UInt8.ofNat (n % 128 + 128)) (by omega) (ih _ shrinks)
      have value : n % 128 + 128 - 128 + 128 * (n / 128) = n := by omega
      rwa [digit, value] at spells

theorem length_varint_le (n : UInt64) : (varint n).length ≤ 10 := length_varintDigits_le 10 _

theorem spellsWord_varint (n : UInt64) : SpellsWord (varint n) n := by
  have bound := n.toNat_lt
  exact ⟨length_varint_le n, spells_varintDigits 9 n.toNat (by omega)⟩

end PaymentVault.Wire
