import PaymentVault.Proofs.Snapshot.Messages
import PaymentVault.Proofs.Wire.Order

/-!
# Messages in any arrangement

Each part of a message is told by the fields of its number, for itself. So bytes hold a message
whatever the order of its parts and whatever fields of unknown numbers are among them, and this
at every level: a fiat message may be arranged anew in a request that is arranged anew in a
container. What is read is the message (`ContainerMessage.decode?_of_isHeldBy`).
-/
namespace PaymentVault

open Wire

namespace Wire.Slot

variable {μ : Type}

/-- A text, of which the last counts. -/
def text (number : Nat) (get : μ → Option String) (put : μ → Option String → μ) : Slot μ :=
  ⟨number, Option String, get, put, fun _ field => field.text?.map some⟩

/-- Texts, all of which count. -/
def texts (number : Nat) (get : μ → List String) (put : μ → List String → μ) : Slot μ :=
  ⟨number, List String, get, put, fun taken field => field.text?.map fun text => taken ++ [text]⟩

/-- A number, of which the last counts. -/
def word {α : Type} (number : Nat) (ofWord : UInt64 → α) (get : μ → α) (put : μ → α → μ) :
    Slot μ :=
  ⟨number, α, get, put, fun _ field => field.word?.map ofWord⟩

/-- A fiat message, to which later ones add. -/
def fiat (number : Nat) (get : μ → Option FiatMessage) (put : μ → Option FiatMessage → μ) :
    Slot μ :=
  ⟨number, Option FiatMessage, get, put, FiatMessage.absorbInto?⟩

/-- Messages, all of which count. -/
def entries {α : Type} (number : Nat) (decode? : Bytes → Option α) (get : μ → List α)
    (put : μ → List α → μ) : Slot μ :=
  ⟨number, List α, get, put, fun taken field =>
    (field.content?.bind decode?).map fun entry => taken ++ [entry]⟩

end Wire.Slot

namespace FiatMessage

def slots : List (Slot FiatMessage) :=
  [.text 1 exchangeName fun m exchangeName => { m with exchangeName },
    .text 2 rate fun m rate => { m with rate },
    .text 3 currency fun m currency => { m with currency },
    .text 4 amount fun m amount => { m with amount }]

theorem isMadeOf_slots : IsMadeOf slots absorb where
  apart := by simp [slots, Slot.apart_iff, Slot.text]
  takes := by
    simp +contextual [slots, absorb, Slot.absorb, Slot.text, Function.comp_def]
  passes m field undeclared := by
    unfold absorb
    split <;> simp_all [slots, Slot.text]

/-- The bytes spell the fields of the message in some arrangement. -/
def IsHeldBy (m : FiatMessage) (bytes : Bytes) : Prop := Holds [1, 2, 3, 4] Eq m.fields bytes

/-- A field with the number holds the same fiat message, or all is the same. -/
inductive Alike (number : Nat) : Field → Field → Prop
  | same (field) : Alike number field field
  | fiat {m : FiatMessage} {bytes} (held : m.IsHeldBy bytes) :
    Alike number ⟨number, .delimited m.encode⟩ ⟨number, .delimited bytes⟩

variable {m : FiatMessage} {bytes : Bytes}

/-- What is added to a message does not depend on the arrangement. -/
theorem merge?_of_isHeldBy (held : m.IsHeldBy bytes) (bounded : m.encode.length < 2 ^ 64)
    (start : FiatMessage) : start.merge? bytes = start.merge? m.encode := by
  have written := readFields?_writeFields fiatDepth (isPlain_of_isCommon m.all_isCommon bounded)
  rw [merge?, merge?, encode, written, Option.bind_some]
  exact isMadeOf_slots.foldlM_of_holds held (fun a _ b same m => congrArg m.absorb same) fiatDepth
    start

theorem absorbInto?_of_isHeldBy {number : Nat} (held : m.IsHeldBy bytes)
    (plain : Field.IsPlain ⟨number, .delimited m.encode⟩) (fiat : Option FiatMessage) :
    absorbInto? fiat ⟨number, .delimited m.encode⟩ = absorbInto? fiat ⟨number, .delimited bytes⟩ :=
  congrArg (Option.map some) (merge?_of_isHeldBy held plain.value _).symm

end FiatMessage

namespace RequestMessage

def slots : List (Slot RequestMessage) :=
  [.text 1 address fun m address => { m with address },
    .word 2 some amount fun m amount => { m with amount },
    .word 3 some paidAmount fun m paidAmount => { m with paidAmount },
    .text 4 label fun m label => { m with label },
    .text 5 note fun m note => { m with note },
    .word 6 (some ·.toInt64) date fun m date => { m with date },
    .fiat 7 fiat fun m fiat => { m with fiat },
    .texts 8 fundingHashes fun m fundingHashes => { m with fundingHashes },
    .word 9 (some ·.toUInt32) nanos fun m nanos => { m with nanos }]

theorem isMadeOf_slots : IsMadeOf slots absorb where
  apart := by simp [slots, Slot.apart_iff, Slot.text, Slot.word, Slot.fiat, Slot.texts]
  takes := by
    simp +contextual [slots, absorb, Slot.absorb, Slot.text, Slot.word, Slot.fiat, Slot.texts,
      Function.comp_def]
  passes m field undeclared := by
    unfold absorb
    split <;> simp_all [slots, Slot.text, Slot.word, Slot.fiat, Slot.texts]

/-- The bytes spell the fields of the message in some arrangement. -/
def IsHeldBy (m : RequestMessage) (bytes : Bytes) : Prop :=
  Holds [1, 2, 3, 4, 5, 6, 7, 8, 9] (FiatMessage.Alike 7) m.fields bytes

theorem absorb_of_alike {a b : Field} (plain : a.IsPlain) (alike : FiatMessage.Alike 7 a b)
    (m : RequestMessage) : m.absorb a = m.absorb b := by
  cases alike with
  | same => rfl
  | fiat held =>
    have fiat := FiatMessage.absorbInto?_of_isHeldBy held plain m.fiat
    exact congrArg (Option.map fun fiat => { m with fiat }) fiat

theorem decode?_of_isHeldBy {m : RequestMessage} {bytes : Bytes} (held : m.IsHeldBy bytes)
    (bounded : m.encode.length < 2 ^ 64) : decode? bytes = some m := by
  have plain := isPlain_of_isCommon m.all_isCommon bounded
  have read := isMadeOf_slots.foldlM_of_holds held
    (fun a member b alike m => absorb_of_alike (plain a member) alike m) entryDepth {}
  rw [decode?, read, foldlM_fields bounded]

end RequestMessage

namespace MemoMessage

def slots : List (Slot MemoMessage) :=
  [.text 1 hash fun m hash => { m with hash },
    .text 2 note fun m note => { m with note },
    .fiat 3 fiat fun m fiat => { m with fiat },
    .word 4 some minerFee fun m minerFee => { m with minerFee },
    .word 5 some clientFee fun m clientFee => { m with clientFee }]

theorem isMadeOf_slots : IsMadeOf slots absorb where
  apart := by simp [slots, Slot.apart_iff, Slot.text, Slot.word, Slot.fiat]
  takes := by
    simp +contextual [slots, absorb, Slot.absorb, Slot.text, Slot.word, Slot.fiat,
      Function.comp_def]
  passes m field undeclared := by
    unfold absorb
    split <;> simp_all [slots, Slot.text, Slot.word, Slot.fiat]

/-- The bytes spell the fields of the message in some arrangement. -/
def IsHeldBy (m : MemoMessage) (bytes : Bytes) : Prop :=
  Holds [1, 2, 3, 4, 5] (FiatMessage.Alike 3) m.fields bytes

theorem absorb_of_alike {a b : Field} (plain : a.IsPlain) (alike : FiatMessage.Alike 3 a b)
    (m : MemoMessage) : m.absorb a = m.absorb b := by
  cases alike with
  | same => rfl
  | fiat held =>
    have fiat := FiatMessage.absorbInto?_of_isHeldBy held plain m.fiat
    exact congrArg (Option.map fun fiat => { m with fiat }) fiat

theorem decode?_of_isHeldBy {m : MemoMessage} {bytes : Bytes} (held : m.IsHeldBy bytes)
    (bounded : m.encode.length < 2 ^ 64) : decode? bytes = some m := by
  have plain := isPlain_of_isCommon m.all_isCommon bounded
  have read := isMadeOf_slots.foldlM_of_holds held
    (fun a member b alike m => absorb_of_alike (plain a member) alike m) entryDepth {}
  rw [decode?, read, foldlM_fields bounded]

end MemoMessage

namespace ContainerMessage

def slots : List (Slot ContainerMessage) :=
  [.word 1 UInt64.toUInt32 formatVersion fun m formatVersion => { m with formatVersion },
    .entries 2 RequestMessage.decode? requests fun m requests => { m with requests },
    .entries 3 MemoMessage.decode? memos fun m memos => { m with memos }]

theorem isMadeOf_slots : IsMadeOf slots absorb where
  apart := by simp [slots, Slot.apart_iff, Slot.word, Slot.entries]
  takes slot member m field numbered := by
    simp only [slots, List.mem_cons, List.not_mem_nil, or_false] at member
    rcases member with rfl | rfl | rfl
    · have first : field.number = 1 := numbered
      simp [absorb, first, Slot.absorb, Slot.word, Function.comp_def]
    · have second : field.number = 2 := numbered
      simp [absorb, second, Slot.absorb, Slot.entries, Option.map_eq_bind, Option.bind_assoc]
    · have third : field.number = 3 := numbered
      simp [absorb, third, Slot.absorb, Slot.entries, Option.map_eq_bind, Option.bind_assoc]
  passes m field undeclared := by
    unfold absorb
    split <;> simp_all [slots, Slot.word, Slot.entries]

/-- A field holds the same entry, or all is the same. -/
inductive Alike : Field → Field → Prop
  | same (field) : Alike field field
  | request {m : RequestMessage} {bytes} (held : m.IsHeldBy bytes) :
    Alike ⟨2, .delimited m.encode⟩ ⟨2, .delimited bytes⟩
  | memo {m : MemoMessage} {bytes} (held : m.IsHeldBy bytes) :
    Alike ⟨3, .delimited m.encode⟩ ⟨3, .delimited bytes⟩

theorem absorb_of_alike {a b : Field} (plain : a.IsPlain) (alike : Alike a b)
    (m : ContainerMessage) : m.absorb a = m.absorb b := by
  cases alike with
  | same => rfl
  | request held =>
    have written := RequestMessage.decode?_encode plain.value
    have arranged := RequestMessage.decode?_of_isHeldBy held plain.value
    simp only [absorb, Field.content?_delimited, Option.bind_eq_bind, Option.bind_some, written,
      arranged]
  | memo held =>
    have written := MemoMessage.decode?_encode plain.value
    have arranged := MemoMessage.decode?_of_isHeldBy held plain.value
    simp only [absorb, Field.content?_delimited, Option.bind_eq_bind, Option.bind_some, written,
      arranged]

/-- The bytes spell the fields of the message in some arrangement, and for its version one, or
zero, or nothing. -/
def IsHeldBy (m : ContainerMessage) (bytes : Bytes) : Prop :=
  ∃ version ∈ [none, some 0, some 1],
    Holds [1, 2, 3] Alike
      ((version.map (.ofWord 1)).toList ++ { m with formatVersion := 0 }.fields) bytes

theorem decode?_of_isHeldBy {m : ContainerMessage} {bytes : Bytes} (held : m.IsHeldBy bytes)
    (fits : m.Fits) : ∃ formatVersion ≤ 1, decode? bytes = some { m with formatVersion } := by
  obtain ⟨version, known, held⟩ := held
  have fitsWith (formatVersion : UInt32) : { m with formatVersion }.Fits :=
    ⟨fits.requests, fits.memos⟩
  have plain : ∀ field ∈ (version.map (.ofWord 1)).toList ++ { m with formatVersion := 0 }.fields,
      field.IsPlain := by
    intro field member
    rcases List.mem_append.1 member with told | entry
    · rw [Option.mem_toList, Option.map_eq_some_iff] at told
      obtain ⟨value, -, rfl⟩ := told
      exact ⟨(by decide : IsFieldNumber 1), trivial⟩
    · exact (fitsWith 0).isPlain field entry
  have read := isMadeOf_slots.foldlM_of_holds held
    (fun a member b alike m => absorb_of_alike (plain a member) alike m) containerDepth {}
  -- A version that is told as zero is taken in, but leaves the message as it starts.
  simp only [List.mem_cons, List.not_mem_nil, or_false] at known
  rcases known with rfl | rfl | rfl
  · exact ⟨0, by decide, read.trans (foldlM_fields (fitsWith 0))⟩
  · exact ⟨0, by decide, read.trans (foldlM_fields (fitsWith 0))⟩
  · exact ⟨1, by decide, read.trans (foldlM_fields (fitsWith 1))⟩

end ContainerMessage
end PaymentVault
