import Mathlib.Algebra.GroupWithZero.Nat
import PaymentVault.Proofs.Number.DecimalText
import PaymentVault.Proofs.Snapshot.Messages
import PaymentVault.Snapshot.Basic

/-!
# How long messages get

A message is not much longer than the texts in it, for all else in it has a fixed size. So the
lengths in a snapshot fit as long as the texts of each entry can be held in memory, however many
entries there are (`fits_of_isAddressable`).
-/
namespace PaymentVault

open Wire

/-- The room that texts take in memory: their bytes, and for each of them three words that say where
it is. -/
def textRoom (texts : List String) : Nat := (texts.map fun text => text.utf8ByteSize + 24).sum

theorem textRoom_append (a b : List String) : textRoom (a ++ b) = textRoom a + textRoom b := by
  simp [textRoom]

namespace FiatValue

/-- The texts of a fiat value, its decimals apart. -/
def texts (value : FiatValue) : List String := value.exchangeName.toList ++ value.currency.toList

end FiatValue

namespace PaymentRequest

def texts (r : PaymentRequest) : List String :=
  r.address :: r.label.toList ++ r.note.toList ++ r.fiat.texts ++ r.fundingHashes

/-- The texts fit in the half of a 64-bit address space that a program may use. -/
def IsAddressable (r : PaymentRequest) : Prop := textRoom r.texts < 2 ^ 63

instance (r : PaymentRequest) : Decidable r.IsAddressable := inferInstanceAs (Decidable (_ < _))

end PaymentRequest

namespace Memo

def texts (m : Memo) : List String := m.hash :: m.note.toList ++ m.fiat.texts

/-- The texts fit in the half of a 64-bit address space that a program may use. -/
def IsAddressable (m : Memo) : Prop := textRoom m.texts < 2 ^ 63

instance (m : Memo) : Decidable m.IsAddressable := inferInstanceAs (Decidable (_ < _))

end Memo

/-- Each entry fits in memory. -/
structure Snapshot.IsAddressable (s : Snapshot) : Prop where
  requests : ∀ r ∈ s.requests, r.IsAddressable
  memos : ∀ m ∈ s.memos, m.IsAddressable

/-! ## Fields -/

theorem Wire.Field.length_write_ofWord_le (number : Nat) (value : UInt64) :
    (ofWord number value).write.length ≤ 20 := by
  have front : (key number .varint).length ≤ 10 := length_varint_le _
  have back := length_varint_le value
  simp only [ofWord, write, List.length_append]
  omega

theorem Wire.Field.length_write_delimited_le (number : Nat) (content : Bytes) :
    (write ⟨number, .delimited content⟩).length ≤ content.length + 20 := by
  have front : (key number .delimited).length ≤ 10 := length_varint_le _
  have back := length_varint_le (UInt64.ofNat content.length)
  simp only [write, List.length_append]
  omega

theorem Wire.length_writeFields_append (a b : List Field) :
    (writeFields (a ++ b)).length = (writeFields a).length + (writeFields b).length := by
  simp [writeFields]

theorem Wire.length_writeFields_cons (field : Field) (fields : List Field) :
    (writeFields (field :: fields)).length = field.write.length + (writeFields fields).length := by
  simp [writeFields]

/-- Fields that hold texts. -/
theorem Wire.length_writeFields_texts_le (number : Nat) (texts : List String) :
    (writeFields (texts.map (.ofText number))).length ≤ textRoom texts := by
  induction texts with
  | nil => simp [writeFields]
  | cons text texts ih =>
    have size : (Bytes.ofText text).length = text.utf8ByteSize := rfl
    have first := Field.length_write_delimited_le number (Bytes.ofText text)
    rw [List.map_cons, length_writeFields_cons, Field.ofText, textRoom, List.map_cons, List.sum_cons]
    rw [textRoom] at ih
    omega

theorem Wire.length_writeFields_text?_le (number : Nat) (text : Option String) :
    (writeFields (text.map (.ofText number)).toList).length ≤ textRoom text.toList := by
  rw [Option.toList_map]
  exact length_writeFields_texts_le number text.toList

/-- A field of bounded length, if it is there. -/
theorem Wire.length_writeFields_part?_le {α : Type} {field : α → Field} {bound : Nat}
    (each : ∀ a, (field a).write.length ≤ bound) (part : Option α) :
    (writeFields (part.map field).toList).length ≤ bound := by
  cases part with
  | none => simp [writeFields]
  | some a => simpa [writeFields] using each a

theorem Wire.length_writeFields_fiat?_le (number : Nat) (fiat : Option FiatMessage) :
    (writeFields (fiat.map fun fiat => ⟨number, .delimited fiat.encode⟩).toList).length ≤
      (fiat.elim 0 fun fiat => fiat.encode.length) + 20 := by
  cases fiat with
  | none => simp [writeFields]
  | some fiat =>
    have only := Field.length_write_delimited_le number fiat.encode
    simpa [writeFields] using only

/-! ## Decimals -/

theorem Decimal.length_plainDigits_le (coefficient scale : Nat) :
    (plainDigits coefficient scale).length ≤ (padded (scale + 1) coefficient).length + 1 := by
  unfold plainDigits
  split
  · simp
  · rw [List.length_append, List.length_cons, List.length_take, List.length_drop]
    omega

theorem Decimal.length_digits_le (d : Decimal) : d.digits.length ≤ 32 := by
  have few : (Nat.toDigits 10 d.coefficient).length ≤ 29 := by
    rw [Nat.length_toDigits_le_iff (by decide) (by decide)]
    exact Nat.lt_of_lt_of_le d.coefficient_lt (by decide)
  have places := d.scale_le
  have size := length_padded (d.scale + 1) d.coefficient
  have plain := length_plainDigits_le d.coefficient d.scale
  rw [digits, List.length_append]
  split
  · rw [List.length_singleton]
    omega
  · rw [List.length_nil]
    omega

theorem utf8ByteSize_ofList_le (text : List Char) :
    (String.ofList text).utf8ByteSize ≤ 4 * text.length := by
  induction text with
  | nil => simp
  | cons c text ih =>
    have first := c.utf8Size_le_four
    rw [String.ofList_cons, String.utf8ByteSize_append, String.utf8ByteSize_singleton,
      List.length_cons]
    omega

theorem Decimal.textRoom_toText_le (d : Option Decimal) :
    textRoom (d.map toText).toList ≤ 200 := by
  cases d with
  | none => simp [textRoom]
  | some d =>
    have few := d.length_digits_le
    have small := utf8ByteSize_ofList_le d.digits
    simp only [textRoom, toText, Option.map_some, Option.toList_some, List.map_cons, List.map_nil,
      List.sum_cons, List.sum_nil]
    omega

/-! ## Entries -/

theorem FiatMessage.length_encode_le (m : FiatMessage) :
    m.encode.length ≤ textRoom (m.exchangeName.toList) + textRoom (m.rate.toList) +
      textRoom (m.currency.toList) + textRoom (m.amount.toList) := by
  have exchangeName := length_writeFields_text?_le 1 m.exchangeName
  have rate := length_writeFields_text?_le 2 m.rate
  have currency := length_writeFields_text?_le 3 m.currency
  have amount := length_writeFields_text?_le 4 m.amount
  simp only [encode, fields, length_writeFields_append]
  omega

theorem FiatValue.length_toMessage?_le (value : FiatValue) :
    (value.toMessage?.elim 0 fun fiat => fiat.encode.length) ≤ textRoom value.texts + 400 := by
  unfold toMessage?
  split
  · simp
  · have size := FiatMessage.length_encode_le
      { exchangeName := value.exchangeName
        rate := value.rate.map Decimal.toText
        currency := value.currency
        amount := value.amount.map Decimal.toText }
    dsimp only at size
    have rate := Decimal.textRoom_toText_le value.rate
    have amount := Decimal.textRoom_toText_le value.amount
    simp only [Option.elim_some, texts, textRoom_append]
    omega

theorem PaymentRequest.length_encode_le (r : PaymentRequest) :
    r.toMessage.encode.length ≤ textRoom r.texts + 500 := by
  have address := length_writeFields_text?_le 1 (some r.address)
  have amount := length_writeFields_part?_le (Field.length_write_ofWord_le 2) (some r.amount)
  have paidAmount := length_writeFields_part?_le (Field.length_write_ofWord_le 3) (some r.paidAmount)
  have label := length_writeFields_text?_le 4 r.label
  have note := length_writeFields_text?_le 5 r.note
  have date := length_writeFields_part?_le
    (fun millis : Int64 => Field.length_write_ofWord_le 6 millis.toUInt64)
    (some (Int64.ofInt r.date.millis))
  have fiat := length_writeFields_fiat?_le 7 r.fiat.toMessage?
  have value := r.fiat.length_toMessage?_le
  have hashes := length_writeFields_texts_le 8 r.fundingHashes
  have nanos := length_writeFields_part?_le
    (fun nanos : UInt32 => Field.length_write_ofWord_le 9 nanos.toUInt64)
    (some (UInt32.ofNat r.date.nanos))
  have room : textRoom r.texts = textRoom (some r.address).toList + textRoom r.label.toList +
      textRoom r.note.toList + textRoom r.fiat.texts + textRoom r.fundingHashes := by
    simp [texts, textRoom, Nat.add_assoc]
  simp only [RequestMessage.encode, RequestMessage.fields, toMessage, length_writeFields_append]
  omega

theorem Memo.length_encode_le (m : Memo) : m.toMessage.encode.length ≤ textRoom m.texts + 500 := by
  have hash := length_writeFields_text?_le 1 (some m.hash)
  have note := length_writeFields_text?_le 2 m.note
  have fiat := length_writeFields_fiat?_le 3 m.fiat.toMessage?
  have value := m.fiat.length_toMessage?_le
  have minerFee := length_writeFields_part?_le (Field.length_write_ofWord_le 4) m.minerFee
  have clientFee := length_writeFields_part?_le (Field.length_write_ofWord_le 5) m.clientFee
  have room : textRoom m.texts = textRoom (some m.hash).toList + textRoom m.note.toList +
      textRoom m.fiat.texts := by
    simp [texts, textRoom, Nat.add_assoc]
  simp only [MemoMessage.encode, MemoMessage.fields, toMessage, length_writeFields_append]
  omega

/-- The lengths of entries that fit in memory can be written. -/
theorem Snapshot.fits_of_isAddressable {s : Snapshot} (addressable : s.IsAddressable) :
    s.toMessage.Fits := by
  constructor
  · intro m member
    obtain ⟨r, there, rfl⟩ := List.mem_map.1 member
    have bound : textRoom r.texts < 2 ^ 63 := addressable.requests r there
    have size := r.length_encode_le
    omega
  · intro m member
    obtain ⟨memo, there, rfl⟩ := List.mem_map.1 member
    have bound : textRoom memo.texts < 2 ^ 63 := addressable.memos memo there
    have size := memo.length_encode_le
    omega

end PaymentVault
