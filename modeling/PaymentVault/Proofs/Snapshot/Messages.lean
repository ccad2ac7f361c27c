import PaymentVault.Proofs.Wire.Fields

/-!
# Reading written messages

The message that was written is the message that is read. This holds of any number of entries, and of
each of them up to 2 ^ 64 bytes, for lengths are written in 64 bits.
-/
namespace PaymentVault

open Wire

theorem all_toList_map {α : Type} (value : Option α) (field : α → Field) :
    (value.map field).toList.all Field.isCommon = value.all fun a => (field a).isCommon := by
  cases value <;> simp

namespace FiatMessage

variable {m : FiatMessage}

theorem all_isCommon (m : FiatMessage) : m.fields.all Field.isCommon := by
  simp [fields, all_toList_map]

theorem foldlM_fields (m : FiatMessage) : m.fields.foldlM absorb {} = some m := by
  have exchangeName :=
    foldlM_option absorb (fun exchangeName => { exchangeName }) (.ofText 1) m.exchangeName
    fun _ _ => by simp [absorb]
  have rate :=
    foldlM_option absorb (fun rate => { exchangeName := m.exchangeName, rate }) (.ofText 2) m.rate
    fun _ _ => by simp [absorb]
  have currency := foldlM_option absorb (fun currency =>
    { exchangeName := m.exchangeName, rate := m.rate, currency })
    (.ofText 3) m.currency fun _ _ => by simp [absorb]
  have amount := foldlM_option absorb
    (fun amount =>
      { exchangeName := m.exchangeName, rate := m.rate, currency := m.currency, amount })
    (.ofText 4) m.amount fun _ _ => by simp [absorb]
  simp only [fields, List.foldlM_append, exchangeName, rate, currency, amount, Option.bind_eq_bind,
    Option.bind_some]

theorem merge?_encode (bounded : m.encode.length < 2 ^ 64) : merge? {} m.encode = some m := by
  rw [merge?, encode, readFields?_writeFields fiatDepth
    (isPlain_of_isCommon m.all_isCommon bounded), Option.bind_some, foldlM_fields]

/-- A fiat message is taken in where there is none. -/
theorem absorbInto?_none (number : Nat) (bounded : m.encode.length < 2 ^ 64) :
    absorbInto? none ⟨number, .delimited m.encode⟩ = some (some m) := by
  rw [absorbInto?, Field.content?_delimited, Option.bind_some, Option.getD_none,
    merge?_encode bounded]
  rfl

end FiatMessage

namespace RequestMessage

variable {m : RequestMessage}

theorem all_isCommon (m : RequestMessage) : m.fields.all Field.isCommon := by
  simp [fields, all_toList_map, List.all_map]

theorem length_encode_fiat_le {fiat : FiatMessage} (there : m.fiat = some fiat) :
    fiat.encode.length ≤ m.encode.length :=
  length_content_le 7 (by simp [fields, there])

theorem foldlM_fields (bounded : m.encode.length < 2 ^ 64) :
    m.fields.foldlM absorb {} = some m := by
  have fits (fiat : FiatMessage) (there : m.fiat = some fiat) : fiat.encode.length < 2 ^ 64 :=
    Nat.lt_of_le_of_lt (length_encode_fiat_le there) bounded
  obtain ⟨address, amount, paidAmount, label, note, date, fiat, fundingHashes, nanos⟩ := m
  have first := foldlM_option absorb (fun address => { address }) (.ofText 1) address fun _ _ => by
    simp [absorb]
  have second := foldlM_option absorb (fun amount => { address, amount }) (.ofWord 2) amount
    fun _ _ => by simp [absorb]
  have third :=
    foldlM_option absorb (fun paidAmount => { address, amount, paidAmount }) (.ofWord 3) paidAmount
    fun _ _ => by simp [absorb]
  have fourth :=
    foldlM_option absorb (fun label => { address, amount, paidAmount, label }) (.ofText 4) label
    fun _ _ => by simp [absorb]
  have fifth :=
    foldlM_option absorb (fun note => { address, amount, paidAmount, label, note }) (.ofText 5) note
    fun _ _ => by simp [absorb]
  have sixth :=
    foldlM_option absorb (fun date => { address, amount, paidAmount, label, note, date })
    (fun date => .ofWord 6 date.toUInt64) date fun _ _ => by simp [absorb]
  have seventh :=
    foldlM_option absorb (fun fiat => { address, amount, paidAmount, label, note, date, fiat })
    (fun fiat => ⟨7, .delimited fiat.encode⟩) fiat
    fun _ there => by simp [absorb, FiatMessage.absorbInto?_none 7 (fits _ there)]
  have eighth := foldlM_list absorb
    (fun fundingHashes => { address, amount, paidAmount, label, note, date, fiat, fundingHashes })
      (.ofText 8) []
    fundingHashes fun _ _ _ => by simp [absorb]
  have ninth := foldlM_option absorb
    (fun nanos => { address, amount, paidAmount, label, note, date, fiat, fundingHashes, nanos })
    (fun nanos => .ofWord 9 nanos.toUInt64) nanos fun _ _ => by simp [absorb]
  rw [List.nil_append] at eighth
  simp only [fields, List.foldlM_append, first, second, third, fourth, fifth, sixth,
    seventh, eighth, ninth, Option.bind_eq_bind, Option.bind_some]

theorem decode?_encode (bounded : m.encode.length < 2 ^ 64) : decode? m.encode = some m := by
  rw [decode?, encode,
    readFields?_writeFields entryDepth (isPlain_of_isCommon m.all_isCommon bounded),
    Option.bind_some, foldlM_fields bounded]

end RequestMessage

namespace MemoMessage

variable {m : MemoMessage}

theorem all_isCommon (m : MemoMessage) : m.fields.all Field.isCommon := by
  simp [fields, all_toList_map]

theorem length_encode_fiat_le {fiat : FiatMessage} (there : m.fiat = some fiat) :
    fiat.encode.length ≤ m.encode.length :=
  length_content_le 3 (by simp [fields, there])

theorem foldlM_fields (bounded : m.encode.length < 2 ^ 64) :
    m.fields.foldlM absorb {} = some m := by
  have fits (fiat : FiatMessage) (there : m.fiat = some fiat) : fiat.encode.length < 2 ^ 64 :=
    Nat.lt_of_le_of_lt (length_encode_fiat_le there) bounded
  obtain ⟨hash, note, fiat, minerFee, clientFee⟩ := m
  have first := foldlM_option absorb (fun hash => { hash }) (.ofText 1) hash fun _ _ => by
    simp [absorb]
  have second := foldlM_option absorb (fun note => { hash, note }) (.ofText 2) note fun _ _ => by
    simp [absorb]
  have third := foldlM_option absorb (fun fiat => { hash, note, fiat }) (fun fiat =>
    ⟨3, .delimited fiat.encode⟩) fiat
    fun _ there => by simp [absorb, FiatMessage.absorbInto?_none 3 (fits _ there)]
  have fourth :=
    foldlM_option absorb (fun minerFee => { hash, note, fiat, minerFee }) (.ofWord 4) minerFee
    fun _ _ => by simp [absorb]
  have fifth := foldlM_option absorb (fun clientFee => { hash, note, fiat, minerFee, clientFee })
    (.ofWord 5) clientFee fun _ _ => by simp [absorb]
  simp only [fields, List.foldlM_append, first, second, third, fourth, fifth, Option.bind_eq_bind,
    Option.bind_some]

theorem decode?_encode (bounded : m.encode.length < 2 ^ 64) : decode? m.encode = some m := by
  rw [decode?, encode,
    readFields?_writeFields entryDepth (isPlain_of_isCommon m.all_isCommon bounded),
    Option.bind_some, foldlM_fields bounded]

end MemoMessage

namespace ContainerMessage

variable {m : ContainerMessage}

/-- The lengths of the entries fit in 64 bits. There may be any number of them. -/
structure Fits (m : ContainerMessage) : Prop where
  requests : ∀ r ∈ m.requests, r.encode.length < 2 ^ 64
  memos : ∀ r ∈ m.memos, r.encode.length < 2 ^ 64

theorem Fits.of_length (bounded : m.encode.length < 2 ^ 64) : m.Fits := by
  constructor
  · intro r member
    have field : ⟨2, .delimited r.encode⟩ ∈ m.fields :=
      List.mem_append_left _ (List.mem_append_right _ (List.mem_map_of_mem member))
    exact Nat.lt_of_le_of_lt (length_content_le 2 field) bounded
  · intro r member
    have field : ⟨3, .delimited r.encode⟩ ∈ m.fields :=
      List.mem_append_right _ (List.mem_map_of_mem member)
    exact Nat.lt_of_le_of_lt (length_content_le 3 field) bounded

theorem Fits.isPlain (fits : m.Fits) : ∀ field ∈ m.fields, field.IsPlain := by
  intro field member
  rw [fields, List.mem_append, List.mem_append] at member
  rcases member with (version | request) | memo
  · split at version
    · exact absurd version List.not_mem_nil
    · rw [List.mem_singleton.1 version]
      exact ⟨(by decide : IsFieldNumber 1), trivial⟩
  · obtain ⟨r, there, rfl⟩ := List.mem_map.1 request
    exact ⟨(by decide : IsFieldNumber 2), fits.requests r there⟩
  · obtain ⟨r, there, rfl⟩ := List.mem_map.1 memo
    exact ⟨(by decide : IsFieldNumber 3), fits.memos r there⟩

theorem foldlM_fields (fits : m.Fits) : m.fields.foldlM absorb {} = some m := by
  obtain ⟨formatVersion, requests, memos⟩ := m
  have request (r : RequestMessage) (member : r ∈ requests) :
      RequestMessage.decode? r.encode = some r :=
    RequestMessage.decode?_encode (fits.requests r member)
  have memo (r : MemoMessage) (member : r ∈ memos) : MemoMessage.decode? r.encode = some r :=
    MemoMessage.decode?_encode (fits.memos r member)
  have first : (if formatVersion = 0 then [] else [Field.ofWord 1 formatVersion.toUInt64]).foldlM
      absorb {} =
      some { formatVersion } := by
    split
    · next unversioned =>
      subst unversioned
      rfl
    · simp [absorb]
  have second := foldlM_list absorb (fun requests => { formatVersion, requests })
    (fun request => ⟨2, .delimited request.encode⟩) [] requests
    fun _ r member => by simp [absorb, request r member]
  have third := foldlM_list absorb (fun memos => { formatVersion, requests, memos })
    (fun memo => ⟨3, .delimited memo.encode⟩) [] memos fun _ r member => by
      simp [absorb, memo r member]
  rw [List.nil_append] at second third
  simp only [fields, List.foldlM_append, first, second, third, Option.bind_eq_bind,
    Option.bind_some]

/-- The message that was written is the message that is read. -/
theorem decode?_encode (fits : m.Fits) : decode? m.encode = some m := by
  rw [decode?, encode, readFields?_writeFields containerDepth fits.isPlain, Option.bind_some,
    foldlM_fields fits]

end ContainerMessage
end PaymentVault
