import PaymentVault.Snapshot.Message

/-!
# Reading fields

The fields that some bytes spell are the fields that are read (`readFields?_of_spells`). A field
has many spellings, for its numbers have. One of them is its written form, as long as its number is
small enough for a key and its length fits in 64 bits.
-/
namespace PaymentVault.Wire

/-- A number that a key has room for. -/
def IsFieldNumber (number : Nat) : Prop := 0 < number ∧ number < 2 ^ 29

instance (number : Nat) : Decidable (IsFieldNumber number) := inferInstanceAs (Decidable (_ ∧ _))

theorem WireType.code_lt (wire : WireType) : wire.code < 8 := by
  cases wire <;> decide

/-! ## Spellings -/

/-- The bytes spell the number and the wire type of a field. -/
structure SpellsKey (bytes : Bytes) (number : Nat) (wire : WireType) : Prop where
  valid : IsFieldNumber number
  word : SpellsWord bytes (UInt64.ofNat (number * 8 + wire.code))

/-- The bytes spell the field, which is no group. -/
inductive SpellsField : Bytes → Field → Prop
  | varint {front back number value} (key : SpellsKey front number .varint)
    (word : SpellsWord back value) : SpellsField (front ++ back) ⟨number, .varint value⟩
  | fixed64 {front digits number} (key : SpellsKey front number .fixed64)
    (length : digits.length = 8) :
    SpellsField (front ++ digits) ⟨number, .fixed64 (UInt64.ofNat (Bytes.toNatLittle digits))⟩
  | delimited {front size content number} (key : SpellsKey front number .delimited)
    (length : SpellsWord size (UInt64.ofNat content.length)) (bounded : content.length < 2 ^ 64) :
    SpellsField (front ++ size ++ content) ⟨number, .delimited content⟩
  | fixed32 {front digits number} (key : SpellsKey front number .fixed32)
    (length : digits.length = 4) :
    SpellsField (front ++ digits) ⟨number, .fixed32 (UInt32.ofNat (Bytes.toNatLittle digits))⟩

/-- The bytes spell the fields, one after another. -/
inductive SpellsFields : Bytes → List Field → Prop
  | nil : SpellsFields [] []
  | cons {bytes rest field fields} (first : SpellsField bytes field)
    (others : SpellsFields rest fields) : SpellsFields (bytes ++ rest) (field :: fields)

theorem readKey?_of_spells {bytes : Bytes} {number : Nat} {wire : WireType}
    (key : SpellsKey bytes number wire) (rest : Bytes) :
    readKey? (bytes ++ rest) = some ((number, wire), rest) := by
  obtain ⟨⟨positive, small⟩, spelled⟩ := key
  have code := wire.code_lt
  have word : (UInt64.ofNat (number * 8 + wire.code)).toNat = number * 8 + wire.code := by
    rw [UInt64.toNat_ofNat']
    omega
  have kind : (number * 8 + wire.code) % 8 = wire.code := by omega
  have which : (number * 8 + wire.code) / 8 = number := by omega
  have sized : number * 8 + wire.code < 2 ^ 32 ∧ 8 ≤ number * 8 + wire.code := by omega
  simp only [readKey?, readVarint?_of_spells spelled, Option.bind_eq_bind, Option.bind_some,
    word, kind, which, WireType.ofCode?_code, if_pos sized]
  rfl

theorem takeBytes?_append (front rest : Bytes) :
    takeBytes? front.length (front ++ rest) = some (front, rest) := by
  simp [takeBytes?]

theorem readField?_of_spells (depth : Nat) {bytes : Bytes} {field : Field}
    (spelled : SpellsField bytes field) (rest : Bytes) :
    readField? depth (bytes ++ rest) = some (field, rest) := by
  cases spelled with
  | varint key word =>
    rw [List.append_assoc, readField?, readKey?_of_spells key]
    simp only [Option.bind_eq_bind, Option.bind_some, readPlain?, readVarint?_of_spells word]
    rfl
  | @fixed64 front digits number key length =>
    have taken := takeBytes?_append digits rest
    rw [length] at taken
    rw [List.append_assoc, readField?, readKey?_of_spells key]
    simp only [Option.bind_eq_bind, Option.bind_some, readPlain?, taken]
    rfl
  | @delimited front size content number key length bounded =>
    have word : (UInt64.ofNat content.length).toNat = content.length := by
      rw [UInt64.toNat_ofNat', Nat.mod_eq_of_lt bounded]
    rw [List.append_assoc, List.append_assoc, readField?, readKey?_of_spells key]
    simp only [Option.bind_eq_bind, Option.bind_some, readPlain?, readVarint?_of_spells length,
      word, takeBytes?_append]
    rfl
  | @fixed32 front digits number key length =>
    have taken := takeBytes?_append digits rest
    rw [length] at taken
    rw [List.append_assoc, readField?, readKey?_of_spells key]
    simp only [Option.bind_eq_bind, Option.bind_some, readPlain?, taken]
    rfl

theorem SpellsField.ne_nil {bytes : Bytes} {field : Field} (spelled : SpellsField bytes field) :
    bytes ≠ [] := by
  cases spelled with
  | varint key => simp [key.word.ne_nil]
  | fixed64 key => simp [key.word.ne_nil]
  | delimited key => simp [key.word.ne_nil]
  | fixed32 key => simp [key.word.ne_nil]

theorem readFieldsFrom_of_spells (depth : Nat) {bytes : Bytes} {fields : List Field}
    (spelled : SpellsFields bytes fields) {fuel : Nat} (enough : bytes.length ≤ fuel) :
    readFieldsFrom depth fuel bytes = some fields := by
  induction spelled generalizing fuel with
  | nil =>
    cases fuel <;> rfl
  | @cons bytes rest field fields first _ ih =>
    have filled : 0 < bytes.length := List.length_pos_iff.2 first.ne_nil
    rw [List.length_append] at enough
    obtain ⟨fuel, rfl⟩ : ∃ less, fuel = less + 1 := ⟨fuel - 1, by omega⟩
    have taken := readField?_of_spells depth first rest
    cases whole : bytes ++ rest with
    | nil => simp [first.ne_nil] at whole
    | cons b tail =>
      rw [whole] at taken
      have remaining : readFieldsFrom depth fuel rest = some fields := ih (by omega)
      simp only [readFieldsFrom, taken, Option.bind_eq_bind, Option.bind_some, remaining]
      rfl

/-- The fields that are spelled are the fields that are read. -/
theorem readFields?_of_spells (depth : Nat) {bytes : Bytes} {fields : List Field}
    (spelled : SpellsFields bytes fields) : readFields? depth bytes = some fields :=
  readFieldsFrom_of_spells depth spelled (Nat.le_refl _)

/-! ## The written form -/

theorem spellsKey_key {number : Nat} (valid : IsFieldNumber number) (wire : WireType) :
    SpellsKey (key number wire) number wire := ⟨valid, spellsWord_varint _⟩

/-- Numbers and contents are the values that messages are written with. -/
def WireValue.IsPlain : WireValue → Prop
  | .varint _ => True
  | .delimited content => content.length < 2 ^ 64
  | .fixed64 _ | .group | .fixed32 _ => False

/-- A field that can be written and read again. -/
structure Field.IsPlain (field : Field) : Prop where
  number : IsFieldNumber field.number
  value : field.value.IsPlain

theorem Field.IsPlain.spells {field : Field} (plain : field.IsPlain) :
    SpellsField field.write field := by
  obtain ⟨number, value⟩ := field
  obtain ⟨valid, sound⟩ := plain
  cases value with
  | varint value => exact .varint (spellsKey_key valid _) (spellsWord_varint value)
  | delimited content => exact .delimited (spellsKey_key valid _) (spellsWord_varint _) sound
  | fixed64 => exact sound.elim
  | group => exact sound.elim
  | fixed32 => exact sound.elim

theorem spellsFields_writeFields {fields : List Field} (plain : ∀ field ∈ fields, field.IsPlain) :
    SpellsFields (writeFields fields) fields := by
  induction fields with
  | nil => exact .nil
  | cons field fields ih =>
    obtain ⟨first, others⟩ := List.forall_mem_cons.1 plain
    exact .cons first.spells (ih others)

/-- The fields that were written are the fields that are read. -/
theorem readFields?_writeFields (depth : Nat) {fields : List Field}
    (plain : ∀ field ∈ fields, field.IsPlain) :
    readFields? depth (writeFields fields) = some fields :=
  readFields?_of_spells depth (spellsFields_writeFields plain)

/-- What is written of a field is part of what is written of all. -/
theorem length_content_le {fields : List Field} (number : Nat) {content : Bytes}
    (member : ⟨number, .delimited content⟩ ∈ fields) :
    content.length ≤ (writeFields fields).length := by
  induction fields with
  | nil => exact absurd member List.not_mem_nil
  | cons field fields ih =>
    rw [writeFields, List.flatMap_cons, List.length_append]
    rcases List.mem_cons.1 member with rfl | later
    · simp only [Field.write, List.length_append]
      omega
    · have below := ih later
      rw [writeFields] at below
      omega

/-- Whether a field is of the kinds that messages are written with. -/
def Field.isCommon (field : Field) : Bool :=
  0 < field.number && field.number < 2 ^ 29 &&
    match field.value with
    | .varint _ | .delimited _ => true
    | .fixed64 _ | .group | .fixed32 _ => false

/-- In a message of less than 2 ^ 64 bytes the length of every content fits. -/
theorem isPlain_of_isCommon {fields : List Field} (common : fields.all Field.isCommon)
    (bounded : (writeFields fields).length < 2 ^ 64) : ∀ field ∈ fields, field.IsPlain := by
  intro field member
  have kind := List.all_eq_true.1 common field member
  obtain ⟨number, value⟩ := field
  simp only [Field.isCommon, Bool.and_eq_true, decide_eq_true_eq] at kind
  refine ⟨kind.1, ?_⟩
  cases value with
  | varint => trivial
  | delimited content => exact Nat.lt_of_le_of_lt (length_content_le number member) bounded
  | fixed64 => cases kind.2
  | group => cases kind.2
  | fixed32 => cases kind.2

/-! ## Taking fields in -/

namespace Field

variable (number : Nat)

@[simp] theorem isCommon_ofText (text : String) :
    (ofText number text).isCommon = (0 < number && number < 2 ^ 29) :=
  Bool.and_true _

@[simp] theorem isCommon_ofWord (value : UInt64) :
    (ofWord number value).isCommon = (0 < number && number < 2 ^ 29) :=
  Bool.and_true _

@[simp] theorem isCommon_delimited (content : Bytes) :
    isCommon ⟨number, .delimited content⟩ = (0 < number && number < 2 ^ 29) :=
  Bool.and_true _

@[simp] theorem number_ofText (text : String) : (ofText number text).number = number := rfl

@[simp] theorem text?_ofText (text : String) : (ofText number text).text? = some text :=
  Bytes.toText?_ofText text

@[simp] theorem number_ofWord (value : UInt64) : (ofWord number value).number = number := rfl

@[simp] theorem word?_ofWord (value : UInt64) : (ofWord number value).word? = some value := rfl

@[simp] theorem content?_delimited (content : Bytes) :
    content? ⟨number, .delimited content⟩ = some content := rfl

end Field

section absorbing

variable {μ α : Type} (absorb : μ → Field → Option μ)

/-- A part that may be absent is taken in. -/
theorem foldlM_option (part : Option α → μ) (field : α → Field) (value : Option α)
    (takes : ∀ a, value = some a → absorb (part none) (field a) = some (part (some a))) :
    (value.map field).toList.foldlM absorb (part none) = some (part value) := by
  cases value with
  | none => rfl
  | some a =>
    rw [Option.map_some, Option.toList_some, List.foldlM_cons, takes a rfl]
    rfl

/-- A part that may be repeated is taken in. -/
theorem foldlM_list (part : List α → μ) (field : α → Field) (taken values : List α)
    (takes : ∀ taken, ∀ a ∈ values, absorb (part taken) (field a) = some (part (taken ++ [a]))) :
    (values.map field).foldlM absorb (part taken) = some (part (taken ++ values)) := by
  induction values generalizing taken with
  | nil =>
    rw [List.append_nil]
    rfl
  | cons a values ih =>
    rw [List.map_cons, List.foldlM_cons, takes taken a (List.mem_cons_self ..)]
    have rest := ih (taken ++ [a]) fun taken b member =>
      takes taken b (List.mem_cons_of_mem _ member)
    rwa [List.append_assoc] at rest

end absorbing

end PaymentVault.Wire
