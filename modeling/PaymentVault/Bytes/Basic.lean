/-!
# Byte strings

A byte string is a plain list of bytes. Texts become bytes through UTF-8; reading them back fails on
anything that is not well-formed UTF-8 and returns every text unchanged (`toText?_ofText`).
-/
namespace PaymentVault

abbrev Bytes := List UInt8

namespace Bytes

/-- The UTF-8 form of a text. -/
def ofText (text : String) : Bytes := text.toUTF8.data.toList

/-- The text that a byte string spells in UTF-8, if it is well formed. -/
def toText? (bytes : Bytes) : Option String := String.fromUTF8? ⟨bytes.toArray⟩

@[simp] theorem toText?_ofText (text : String) : toText? (ofText text) = some text := by
  have valid : ByteArray.IsValidUTF8 ⟨(ofText text).toArray⟩ := text.isValidUTF8
  simp only [toText?, String.fromUTF8?]
  rw [dif_pos valid]
  rfl

/-- Big-endian bytes of `value`, least significant `width` of them. -/
def ofNatBig : Nat → Nat → Bytes
  | 0, _ => []
  | width + 1, value => ofNatBig width (value / 256) ++ [UInt8.ofNat (value % 256)]

/-- Little-endian bytes of `value`, least significant `width` of them. -/
def ofNatLittle : Nat → Nat → Bytes
  | 0, _ => []
  | width + 1, value => UInt8.ofNat (value % 256) :: ofNatLittle width (value / 256)

/-- The number whose big-endian digits are the bytes. -/
def toNatBig (bytes : Bytes) : Nat := bytes.foldl (fun acc b => acc * 256 + b.toNat) 0

/-- The number whose little-endian digits are the bytes. -/
def toNatLittle : Bytes → Nat
  | [] => 0
  | b :: rest => b.toNat + 256 * toNatLittle rest

@[simp] theorem length_ofNatBig (width value : Nat) : (ofNatBig width value).length = width := by
  induction width generalizing value with
  | zero => rfl
  | succ width ih => simp [ofNatBig, ih]

/-- Position by position exclusive or, as long as both last. -/
def xor (a b : Bytes) : Bytes := a.zipWith (· ^^^ ·) b

/-- Masking twice with one long enough mask gives the bytes back. -/
theorem xor_xor (a mask : Bytes) (h : a.length ≤ mask.length) : xor (xor a mask) mask = a := by
  induction a generalizing mask with
  | nil => rfl
  | cons x a ih =>
    cases mask with
    | nil => simp at h
    | cons m mask =>
      have rest := ih mask (by simpa using h)
      simp only [xor, List.zipWith_cons_cons] at rest ⊢
      rw [rest, UInt8.xor_assoc, UInt8.xor_self, UInt8.xor_zero]

end Bytes
end PaymentVault
