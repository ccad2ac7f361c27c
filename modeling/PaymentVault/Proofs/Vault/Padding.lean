import Mathlib.Order.Bounds.Defs
import PaymentVault.Vault.Padding

/-!
# Padding and taking it off

What is padded consists of whole blocks, as few as are longer than what was there, and the padding
can be taken off again. It can be taken off of nothing else: bytes that were not padded are refused,
and no position outside of them is looked at to find that out (`unpad_exactly_pad`).
-/
namespace PaymentVault.Padding

theorem added_pos (length : Nat) : 0 < added length := by
  have below : length % blockLength < blockLength := Nat.mod_lt _ (by decide)
  unfold added
  omega

theorem added_le (length : Nat) : added length ≤ blockLength := Nat.sub_le _ _

theorem blockLength_dvd (length : Nat) : (length + added length) % blockLength = 0 := by
  have below : length % blockLength < blockLength := Nat.mod_lt _ (by decide)
  have whole := Nat.div_add_mod length blockLength
  have sum : length + added length = blockLength * (length / blockLength + 1) := by
    rw [Nat.mul_add]
    unfold added
    omega
  rw [sum, Nat.mul_mod_right]

theorem toNat_padByte (length : Nat) : (UInt8.ofNat (added length)).toNat = added length := by
  have small : added length ≤ 32 := added_le length
  simp only [UInt8.toNat_ofNat']
  omega

theorem length_pad (bytes : Bytes) : (pad bytes).length = bytes.length + added bytes.length := by
  rw [pad, List.length_append, List.length_replicate]

theorem getLast?_pad (bytes : Bytes) :
    (pad bytes).getLast? = some (UInt8.ofNat (added bytes.length)) := by
  obtain ⟨n, same⟩ := Nat.exists_eq_succ_of_ne_zero (Nat.ne_of_gt (added_pos bytes.length))
  rw [pad, same, List.getLast?_append, List.getLast?_replicate]
  simp

/-- The padding can be taken off again. -/
theorem unpad_pad (bytes : Bytes) : unpad (pad bytes) = .ok bytes := by
  have body : (pad bytes).take ((pad bytes).length - added bytes.length) = bytes := by
    rw [length_pad, Nat.add_sub_cancel, pad, List.take_left]
  have tail : (pad bytes).drop ((pad bytes).length - added bytes.length) =
      List.replicate (added bytes.length) (UInt8.ofNat (added bytes.length)) := by
    rw [length_pad, Nat.add_sub_cancel, pad, List.drop_left]
  have blocks : (pad bytes).length % blockLength = 0 := by rw [length_pad, blockLength_dvd]
  have nonzero : UInt8.ofNat (added bytes.length) ≠ 0 := by
    intro zero
    have positive := added_pos bytes.length
    rw [← toNat_padByte, zero] at positive
    exact absurd positive (by decide)
  have small : ¬ blockLength < added bytes.length := Nat.not_lt.2 (added_le _)
  simp only [unpad, getLast?_pad, toNat_padByte, body, tail, blocks, nonzero, small]
  simp

/-! ## Padding is the only form that is taken off -/

/-- What padded bytes look like from behind: whole blocks, a last byte that can be a count, and as
many bytes like it as it says. -/
structure IsPaddedWith (padded : Bytes) (last : UInt8) : Prop where
  ends : padded.getLast? = some last
  blocks : padded.length % blockLength = 0
  positive : last ≠ 0
  within : last.toNat ≤ blockLength
  alike : ∀ b ∈ padded.drop (padded.length - last.toNat), b = last

/-- Bytes that were not padded: there are none, or no whole blocks of them, or the last byte is
not a count, or another byte of the padding differs from it. -/
inductive IsIllPadded (padded : Bytes) : Prop
  | empty (none : padded = [])
  | ragged (uneven : padded.length % blockLength ≠ 0)
  | miscounted {last : UInt8} (ends : padded.getLast? = some last)
    (wrong : last = 0 ∨ blockLength < last.toNat)
  | mixed {last other : UInt8} (ends : padded.getLast? = some last)
    (near : other ∈ padded.drop (padded.length - last.toNat)) (differs : other ≠ last)

theorem isIllPadded_or_isPaddedWith (padded : Bytes) :
    IsIllPadded padded ∨ ∃ last, IsPaddedWith padded last := by
  cases ends : padded.getLast? with
  | none => exact .inl (.empty (List.getLast?_eq_none_iff.1 ends))
  | some last =>
    by_cases blocks : padded.length % blockLength = 0
    · by_cases wrong : last = 0 ∨ blockLength < last.toNat
      · exact .inl (.miscounted ends wrong)
      · by_cases mixed : ∃ other ∈ padded.drop (padded.length - last.toNat), other ≠ last
        · obtain ⟨other, near, differs⟩ := mixed
          exact .inl (.mixed ends near differs)
        · rw [not_or, Nat.not_lt] at wrong
          refine .inr ⟨last, ends, blocks, wrong.1, wrong.2, fun b near => ?_⟩
          exact Decidable.of_not_not fun differs => mixed ⟨b, near, differs⟩
    · exact .inl (.ragged blocks)

theorem unpad_of_isIllPadded {padded : Bytes} (ill : IsIllPadded padded) :
    unpad padded = .error .credentialPadding := by
  unfold unpad
  cases ends : padded.getLast? with
  | none => rfl
  | some last =>
    dsimp only
    rw [if_pos]
    cases ill with
    | empty none =>
      subst none
      cases ends
    | ragged uneven => exact .inl uneven
    | miscounted ends' wrong =>
      obtain rfl := Option.some.inj (ends.symm.trans ends')
      rcases wrong with zero | large
      · exact .inr (.inl zero)
      · exact .inr (.inr (.inl large))
    | mixed ends' near differs =>
      obtain rfl := Option.some.inj (ends.symm.trans ends')
      exact .inr (.inr (.inr (List.any_eq_true.2 ⟨_, near, by simpa using differs⟩)))

namespace IsPaddedWith

variable {padded : Bytes} {last : UInt8} (paddedWith : IsPaddedWith padded last)
include paddedWith

/-- There are as many bytes as the last one says. -/
theorem le_length : last.toNat ≤ padded.length := by
  have positive : padded ≠ [] := by
    rintro rfl
    cases paddedWith.ends
  have some := List.length_pos_iff.2 positive
  have blocks := paddedWith.blocks
  have within := paddedWith.within
  unfold blockLength at blocks within
  omega

theorem unpad_eq : unpad padded = .ok (padded.take (padded.length - last.toNat)) := by
  have within := Nat.not_lt.2 paddedWith.within
  have alike : (padded.drop (padded.length - last.toNat)).any (· ≠ last) = false := by
    rw [List.any_eq_false]
    intro b near
    simp [paddedWith.alike b near]
  simp only [unpad, paddedWith.ends]
  rw [if_neg]
  rintro (uneven | zero | large | differs)
  · exact uneven paddedWith.blocks
  · exact paddedWith.positive zero
  · exact within large
  · rw [alike] at differs
    cases differs

/-- The last byte says how many bytes are added to those before them. -/
theorem added_eq : added (padded.length - last.toNat) = last.toNat := by
  have enough := paddedWith.le_length
  have blocks := paddedWith.blocks
  have within := paddedWith.within
  have positive : last.toNat ≠ 0 := fun zero => paddedWith.positive (UInt8.toNat_inj.1 zero)
  unfold added
  unfold blockLength at *
  omega

theorem eq_pad : padded = pad (padded.take (padded.length - last.toNat)) := by
  have enough := paddedWith.le_length
  have length : (padded.take (padded.length - last.toNat)).length = padded.length - last.toNat := by
    rw [List.length_take]
    omega
  have tail : padded.drop (padded.length - last.toNat) = List.replicate last.toNat last := by
    rw [List.eq_replicate_iff, List.length_drop]
    exact ⟨by omega, paddedWith.alike⟩
  rw [pad, length, paddedWith.added_eq, UInt8.ofNat_toNat, ← tail, List.take_append_drop]

end IsPaddedWith

theorem unpad_eq_ok_iff {padded bytes : Bytes} : unpad padded = .ok bytes ↔ padded = pad bytes := by
  constructor
  · intro unpadded
    rcases isIllPadded_or_isPaddedWith padded with ill | ⟨last, paddedWith⟩
    · rw [unpad_of_isIllPadded ill] at unpadded
      cases unpadded
    · rw [paddedWith.unpad_eq] at unpadded
      cases unpadded
      exact paddedWith.eq_pad
  · rintro rfl
    exact unpad_pad bytes

theorem unpad_eq_error_iff {padded : Bytes} :
    unpad padded = .error .credentialPadding ↔ IsIllPadded padded := by
  constructor
  · intro failed
    rcases isIllPadded_or_isPaddedWith padded with ill | ⟨last, paddedWith⟩
    · exact ill
    · rw [paddedWith.unpad_eq] at failed
      cases failed
  · exact unpad_of_isIllPadded

/-- Padding gives the shortest whole blocks that are longer. -/
theorem isLeast_length_pad (bytes : Bytes) :
    IsLeast {length | blockLength ∣ length ∧ bytes.length < length} (pad bytes).length := by
  have most := added_le bytes.length
  have positive := added_pos bytes.length
  have whole := blockLength_dvd bytes.length
  rw [length_pad]
  constructor
  · exact ⟨Nat.dvd_of_mod_eq_zero whole, by omega⟩
  · rintro length ⟨multiple, longer⟩
    have blocks := Nat.mod_eq_zero_of_dvd multiple
    unfold blockLength at *
    omega

/-! ## Reading by position -/

/-- A difference that must not be negative. -/
def difference? (a b : Nat) : Option Nat := if b ≤ a then some (a - b) else none

/-- Bytes cut in two at a position among them. -/
def cut? (position : Nat) (bytes : Bytes) : Option (Bytes × Bytes) :=
  if position ≤ bytes.length then some (bytes.splitAt position) else none

/-- Takes the padding off by way of positions; nothing if one of them is outside the bytes. -/
def unpadByPosition? (padded : Bytes) : Option (Except Malformation Bytes) :=
  if padded.isEmpty || padded.length % blockLength ≠ 0 then some (.error .credentialPadding)
  else do
    let last ← padded[← difference? padded.length 1]?
    if last = 0 ∨ blockLength < last.toNat then return .error .credentialPadding
    let (body, tail) ← cut? (← difference? padded.length last.toNat) padded
    return if tail.any (· ≠ last) then .error .credentialPadding else .ok body

/-- The checks that come before a position keep it among the bytes. -/
theorem unpadByPosition?_eq (padded : Bytes) : unpadByPosition? padded = some (unpad padded) := by
  unfold unpadByPosition? unpad
  cases ends : padded.getLast? with
  | none =>
    obtain rfl := List.getLast?_eq_none_iff.1 ends
    rfl
  | some last =>
    have positive : 0 < padded.length := by
      apply List.length_pos_iff.2
      rintro rfl
      cases ends
    have first : difference? padded.length 1 = some (padded.length - 1) := if_pos positive
    have read : padded[padded.length - 1]? = some last := by
      rw [← List.getLast?_eq_getElem?, ends]
    have filled : padded.isEmpty = false := by
      rw [List.isEmpty_eq_false_iff]
      exact List.length_pos_iff.1 positive
    by_cases blocks : padded.length % blockLength = 0
    · by_cases wrong : last = 0 ∨ blockLength < last.toNat
      · rcases wrong with zero | large
        · simp [filled, blocks, first, read, zero]
        · simp [filled, blocks, first, read, large]
      · rw [not_or, Nat.not_lt] at wrong
        obtain ⟨nonzero, within⟩ := wrong
        have enough : last.toNat ≤ padded.length := by
          unfold blockLength at blocks within
          omega
        have second : difference? padded.length last.toNat = some (padded.length - last.toNat) :=
          if_pos enough
        have halves : cut? (padded.length - last.toNat) padded =
            some (padded.take (padded.length - last.toNat),
              padded.drop (padded.length - last.toNat)) := by
          rw [cut?, if_pos (Nat.sub_le _ _), List.splitAt_eq]
        simp [filled, blocks, first, read, second, halves, nonzero, Nat.not_lt.2 within]
    · simp [blocks]

/-- Padding gives the shortest whole blocks that are longer than the bytes and begin with them, and
is taken off of nothing else: whatever is not padded is refused, without a look outside of it. -/
theorem unpad_exactly_pad (bytes padded : Bytes) :
    bytes <+: pad bytes ∧
      IsLeast {length | blockLength ∣ length ∧ bytes.length < length} (pad bytes).length ∧
      unpad (pad bytes) = .ok bytes ∧
      (unpad padded = .ok bytes ↔ padded = pad bytes) ∧
      (unpad padded = .error .credentialPadding ↔ ∀ original, padded ≠ pad original) ∧
      (unpad padded = .error .credentialPadding ↔ IsIllPadded padded) ∧
      unpadByPosition? padded = some (unpad padded) := by
  refine ⟨List.prefix_append _ _, isLeast_length_pad bytes, unpad_pad bytes, unpad_eq_ok_iff,
    ?_, unpad_eq_error_iff, unpadByPosition?_eq padded⟩
  constructor
  · rintro failed original rfl
    rw [unpad_pad] at failed
    cases failed
  · intro unpaddable
    rcases isIllPadded_or_isPaddedWith padded with ill | ⟨last, paddedWith⟩
    · exact unpad_of_isIllPadded ill
    · exact absurd paddedWith.eq_pad (unpaddable _)

end PaymentVault.Padding
