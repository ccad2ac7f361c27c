import Mathlib.Data.List.Forall2
import PaymentVault.Proofs.Snapshot.Dates
import PaymentVault.Snapshot.Basic

/-!
# What a container message reads as

Older versions and other programs write containers too, so any of them may be met. What it reads
as is told here part by part and without the functions that read it: a newer version is refused,
and so is the first entry that lacks what it needs; whatever else is left out has a default.
Reading what was written of a message follows this law (`decode_encode_iff`).
-/
namespace PaymentVault

/-! ## Lists of entries -/

section scans

variable {α β ε : Type}

/-- All entries are good, or else the first bad one decides. -/
inductive Scans (IsGood : α → β → Prop) (IsBad : α → ε → Prop) :
    List α → Except ε (List β) → Prop
  | all {entries results} (good : List.Forall₂ IsGood entries results) :
    Scans IsGood IsBad entries (.ok results)
  | first {front results bad cause rest} (good : List.Forall₂ IsGood front results)
    (refused : IsBad bad cause) : Scans IsGood IsBad (front ++ bad :: rest) (.error cause)

variable {IsGood : α → β → Prop} {IsBad : α → ε → Prop} {read : α → Except ε β}
  (good_iff : ∀ {a b}, read a = .ok b ↔ IsGood a b)
  (bad_iff : ∀ {a cause}, read a = .error cause ↔ IsBad a cause)

include good_iff

theorem mapM_of_good {entries : List α} {results : List β}
    (good : List.Forall₂ IsGood entries results) : entries.mapM read = .ok results := by
  induction good with
  | nil => rfl
  | cons first _ ih =>
    rw [List.mapM_cons, good_iff.2 first, ih]
    rfl

include bad_iff

theorem scans_mapM (entries : List α) : Scans IsGood IsBad entries (entries.mapM read) := by
  induction entries with
  | nil => exact .all .nil
  | cons entry rest ih =>
    rw [List.mapM_cons]
    cases here : read entry with
    | error cause => exact .first .nil (bad_iff.1 here)
    | ok result =>
      have good := good_iff.1 here
      generalize rest.mapM read = outcome at ih
      cases ih with
      | all others => exact .all (.cons good others)
      | first others refused => exact .first (.cons good others) refused

/-- To read entries one by one is to scan them. -/
theorem mapM_eq_iff_scans {entries : List α} {outcome : Except ε (List β)} :
    entries.mapM read = outcome ↔ Scans IsGood IsBad entries outcome := by
  constructor
  · rintro rfl
    exact scans_mapM good_iff bad_iff entries
  · rintro (good | ⟨good, refused⟩)
    · exact mapM_of_good good_iff good
    · rw [List.mapM_append, mapM_of_good good_iff good, List.mapM_cons, bad_iff.2 refused]
      rfl

end scans

/-! ## Dates -/

namespace Instant

/-- The instant is in the second of the milliseconds, with the given nanoseconds or else with the
milliseconds that remain. -/
structure IsOfParts (millis : Int64) (nanos : Option UInt32) (t : Instant) : Prop where
  from_second : 1000 * t.seconds ≤ millis.toInt
  before_next : millis.toInt < 1000 * (t.seconds + 1)
  nanos : (t.nanos : Int) =
    match nanos with
    | some nanos => nanos.toNat
    | none => (millis.toInt - 1000 * t.seconds) * 1000000

theorem of?_eq_some_iff {seconds : Int} {nanos : Nat} {t : Instant} :
    of? seconds nanos = some t ↔ t.seconds = seconds ∧ t.nanos = nanos := by
  constructor
  · intro found
    unfold of? at found
    split at found
    · cases found
      exact ⟨rfl, rfl⟩
    · cases found
  · rintro ⟨rfl, rfl⟩
    exact of?_self t

theorem ofMillis?_eq_some_iff {millis : Int64} {nanos : Option UInt32} {t : Instant} :
    ofMillis? millis nanos = some t ↔ t.IsOfParts millis nanos := by
  rw [ofMillis?, of?_eq_some_iff]
  cases nanos with
  | none =>
    constructor
    · rintro ⟨second, within⟩
      rw [Option.map_none, Option.getD_none] at within
      exact ⟨by omega, by omega, by dsimp only; omega⟩
    · rintro ⟨low, high, within⟩
      dsimp only at within
      rw [Option.map_none, Option.getD_none]
      omega
  | some nanos =>
    constructor
    · rintro ⟨second, within⟩
      exact ⟨by omega, by omega, congrArg Int.ofNat within⟩
    · rintro ⟨low, high, within⟩
      exact ⟨by omega, Int.ofNat.inj within⟩

end Instant

/-! ## Fiat values -/

/-- A decimal is the one that the text spells; without such a text it is absent. -/
def Decimal.IsReadFrom (text : Option String) (decimal : Option Decimal) : Prop :=
  ∀ d, decimal = some d ↔ ∃ spelled, text = some spelled ∧ Decimal.ofText? spelled = some d

/-- The parts of a fiat value are those of the message, each for itself. -/
structure FiatMessage.Tells (m : FiatMessage) (value : FiatValue) : Prop where
  exchangeName : value.exchangeName = m.exchangeName
  rate : Decimal.IsReadFrom m.rate value.rate
  currency : value.currency = m.currency
  amount : Decimal.IsReadFrom m.amount value.amount

theorem Decimal.isReadFrom_iff {text : Option String} {decimal : Option Decimal} :
    IsReadFrom text decimal ↔ decimal = text.bind Decimal.ofText? := by
  constructor
  · intro spelled
    ext d
    rw [spelled d, Option.bind_eq_some_iff]
  · rintro rfl d
    exact Option.bind_eq_some_iff

namespace FiatValue

/-- Nothing is known of a value without a message. -/
def IsToldBy : Option FiatMessage → FiatValue → Prop
  | none, value => value = unknown
  | some m, value => m.Tells value

theorem ofMessage_eq_iff {m : Option FiatMessage} {value : FiatValue} :
    ofMessage m = value ↔ value.IsToldBy m := by
  cases m with
  | none => exact eq_comm
  | some m =>
    constructor
    · rintro rfl
      exact ⟨rfl, Decimal.isReadFrom_iff.2 rfl, rfl, Decimal.isReadFrom_iff.2 rfl⟩
    · intro told
      have rate := Decimal.isReadFrom_iff.1 told.rate
      have amount := Decimal.isReadFrom_iff.1 told.amount
      rw [ofMessage, ← told.exchangeName, ← rate, ← told.currency, ← amount]

end FiatValue

/-! ## Entries -/

namespace RequestMessage

/-- A request with an address and a date; amounts that are left out are zero. -/
structure Tells (m : RequestMessage) (r : PaymentRequest) : Prop where
  address : m.address = some r.address
  amount : r.amount = m.amount.getD 0
  paidAmount : r.paidAmount = m.paidAmount.getD 0
  label : r.label = m.label
  note : r.note = m.note
  date : ∃ millis, m.date = some millis ∧ r.date.IsOfParts millis m.nanos
  fiat : r.fiat.IsToldBy m.fiat
  fundingHashes : r.fundingHashes = m.fundingHashes

/-- What a message lacks that tells of no request. -/
inductive IsRefused (m : RequestMessage) : Malformation → Prop
  | withoutAddress (absent : m.address = none) : IsRefused m .requestWithoutAddress
  | withoutDate {address} (there : m.address = some address)
    (undated : ∀ millis, m.date = some millis → ∀ t : Instant, ¬t.IsOfParts millis m.nanos) :
    IsRefused m (.requestWithoutDate address)

end RequestMessage

namespace MemoMessage

/-- A memo with a hash. -/
structure Tells (m : MemoMessage) (memo : Memo) : Prop where
  hash : m.hash = some memo.hash
  note : memo.note = m.note
  fiat : memo.fiat.IsToldBy m.fiat
  minerFee : memo.minerFee = m.minerFee
  clientFee : memo.clientFee = m.clientFee

/-- What a message lacks that tells of no memo. -/
inductive IsRefused (m : MemoMessage) : Malformation → Prop
  | withoutHash (absent : m.hash = none) : IsRefused m .memoWithoutHash

end MemoMessage

namespace PaymentRequest

variable {m : RequestMessage}

theorem date_eq_some_iff {t : Instant} :
    (m.date.bind fun millis => Instant.ofMillis? millis m.nanos) = some t ↔
      ∃ millis, m.date = some millis ∧ t.IsOfParts millis m.nanos := by
  rw [Option.bind_eq_some_iff]
  simp only [Instant.ofMillis?_eq_some_iff]

theorem date_eq_none_iff : (m.date.bind fun millis => Instant.ofMillis? millis m.nanos) = none ↔
    ∀ millis, m.date = some millis → ∀ t : Instant, ¬t.IsOfParts millis m.nanos := by
  rw [Option.eq_none_iff_forall_ne_some]
  constructor
  · intro absent millis there t parts
    exact absent t (date_eq_some_iff.2 ⟨millis, there, parts⟩)
  · intro absent t dated
    obtain ⟨millis, there, parts⟩ := date_eq_some_iff.1 dated
    exact absent millis there t parts

theorem ofMessage_eq_ok_iff {r : PaymentRequest} : ofMessage m = .ok r ↔ m.Tells r := by
  constructor
  · intro read
    unfold ofMessage at read
    split at read
    · cases read
    · next address there =>
      split at read
      · cases read
      · next date dated =>
        cases read
        exact ⟨there, rfl, rfl, rfl, rfl, date_eq_some_iff.1 dated,
          FiatValue.ofMessage_eq_iff.1 rfl, rfl⟩
  · intro told
    have dated := date_eq_some_iff.2 told.date
    have fiat := FiatValue.ofMessage_eq_iff.2 told.fiat
    simp only [ofMessage, told.address, dated, fiat, ← told.amount, ← told.paidAmount, ← told.label,
      ← told.note, ← told.fundingHashes]

theorem ofMessage_eq_error_iff {cause : Malformation} :
    ofMessage m = .error cause ↔ m.IsRefused cause := by
  constructor
  · intro read
    unfold ofMessage at read
    split at read
    · next absent =>
      cases read
      exact .withoutAddress absent
    · next address there =>
      split at read
      · next undated =>
        cases read
        exact .withoutDate there (date_eq_none_iff.1 undated)
      · cases read
  · rintro (absent | ⟨there, undated⟩)
    · simp only [ofMessage, absent]
    · simp only [ofMessage, there, date_eq_none_iff.2 undated]

theorem mapM_ofMessage_eq_iff {messages : List RequestMessage}
    {outcome : Except Malformation (List PaymentRequest)} :
    messages.mapM ofMessage = outcome ↔
      Scans RequestMessage.Tells RequestMessage.IsRefused messages outcome :=
  mapM_eq_iff_scans ofMessage_eq_ok_iff ofMessage_eq_error_iff

end PaymentRequest

namespace Memo

variable {m : MemoMessage}

theorem ofMessage_eq_ok_iff {memo : Memo} : ofMessage m = .ok memo ↔ m.Tells memo := by
  constructor
  · intro read
    unfold ofMessage at read
    split at read
    · cases read
    · next hash there =>
      cases read
      exact ⟨there, rfl, FiatValue.ofMessage_eq_iff.1 rfl, rfl, rfl⟩
  · intro told
    have fiat := FiatValue.ofMessage_eq_iff.2 told.fiat
    simp only [ofMessage, told.hash, fiat, ← told.note, ← told.minerFee, ← told.clientFee]

theorem ofMessage_eq_error_iff {cause : Malformation} :
    ofMessage m = .error cause ↔ m.IsRefused cause := by
  constructor
  · intro read
    unfold ofMessage at read
    split at read
    · next absent =>
      cases read
      exact .withoutHash absent
    · cases read
  · rintro ⟨absent⟩
    simp only [ofMessage, absent]

theorem mapM_ofMessage_eq_iff {messages : List MemoMessage}
    {outcome : Except Malformation (List Memo)} :
    messages.mapM ofMessage = outcome ↔
      Scans MemoMessage.Tells MemoMessage.IsRefused messages outcome :=
  mapM_eq_iff_scans ofMessage_eq_ok_iff ofMessage_eq_error_iff

end Memo

/-! ## Containers -/

namespace ContainerMessage

/-- What a container reads as. Its version is looked at first, then its requests, then its memos;
version zero is that of containers without a version. -/
inductive ReadsAs (m : ContainerMessage) : Except VaultError Snapshot → Prop
  | newer (later : 1 < m.formatVersion) :
    ReadsAs m (.error (.malformed (.unsupportedFormat m.formatVersion.toNat)))
  | badRequest {cause} (supported : m.formatVersion ≤ 1)
    (requests : Scans RequestMessage.Tells RequestMessage.IsRefused m.requests (.error cause)) :
    ReadsAs m (.error (.malformed cause))
  | badMemo {requests cause} (supported : m.formatVersion ≤ 1)
    (requests : Scans RequestMessage.Tells RequestMessage.IsRefused m.requests (.ok requests))
    (memos : Scans MemoMessage.Tells MemoMessage.IsRefused m.memos (.error cause)) :
    ReadsAs m (.error (.malformed cause))
  | sound {snapshot : Snapshot} (supported : m.formatVersion ≤ 1)
    (requests :
      Scans RequestMessage.Tells RequestMessage.IsRefused m.requests (.ok snapshot.requests))
    (memos : Scans MemoMessage.Tells MemoMessage.IsRefused m.memos (.ok snapshot.memos)) :
    ReadsAs m (.ok snapshot)

end ContainerMessage

namespace Snapshot

variable {m : ContainerMessage}

theorem readsAs_ofMessage (m : ContainerMessage) :
    m.ReadsAs ((ofMessage m).mapError .malformed) := by
  by_cases later : PaymentVault.formatVersion < m.formatVersion
  · rw [ofMessage, if_pos later]
    exact .newer later
  · have supported : m.formatVersion ≤ 1 := UInt32.not_lt.1 later
    rw [ofMessage, if_neg later]
    cases requests : m.requests.mapM PaymentRequest.ofMessage with
    | error cause =>
      exact .badRequest supported (PaymentRequest.mapM_ofMessage_eq_iff.1 requests)
    | ok goodRequests =>
      have scanned := PaymentRequest.mapM_ofMessage_eq_iff.1 requests
      cases memos : m.memos.mapM Memo.ofMessage with
      | error cause => exact .badMemo supported scanned (Memo.mapM_ofMessage_eq_iff.1 memos)
      | ok goodMemos => exact .sound supported scanned (Memo.mapM_ofMessage_eq_iff.1 memos)

/-- A message reads as one thing only. -/
theorem ofMessage_of_readsAs {outcome : Except VaultError Snapshot} (reads : m.ReadsAs outcome) :
    (ofMessage m).mapError .malformed = outcome := by
  have older (supported : m.formatVersion ≤ 1) : ¬PaymentVault.formatVersion < m.formatVersion :=
    UInt32.not_lt.2 supported
  cases reads with
  | newer later =>
    have unsupported : PaymentVault.formatVersion < m.formatVersion := later
    rw [ofMessage, if_pos unsupported]
    rfl
  | badRequest supported requests =>
    rw [ofMessage, if_neg (older supported), PaymentRequest.mapM_ofMessage_eq_iff.2 requests]
    rfl
  | badMemo supported requests memos =>
    rw [ofMessage, if_neg (older supported), PaymentRequest.mapM_ofMessage_eq_iff.2 requests,
      Memo.mapM_ofMessage_eq_iff.2 memos]
    rfl
  | sound supported requests memos =>
    rw [ofMessage, if_neg (older supported), PaymentRequest.mapM_ofMessage_eq_iff.2 requests,
      Memo.mapM_ofMessage_eq_iff.2 memos]
    rfl

/-- A container that was written reads as the one thing that its message tells. -/
theorem decode_encode_iff (fits : m.Fits) (outcome : Except VaultError Snapshot) :
    decode m.encode = outcome ↔ m.ReadsAs outcome := by
  rw [decode, ContainerMessage.decode?_encode fits]
  constructor
  · rintro rfl
    exact readsAs_ofMessage m
  · exact ofMessage_of_readsAs

end Snapshot

/-- A container without a version, with a date of one millisecond before the epoch and a rate that
is no number. -/
def foreignMessage : ContainerMessage :=
  { requests :=
      [{ address := some ""
         date := some (-1)
         fiat := some { rate := some "dear", currency := some "GBP", amount := some "1.50" } }]
    memos := [{ hash := some "", clientFee := some 0 }] }

def foreignSnapshot : Snapshot :=
  { requests :=
      [{ address := ""
         amount := 0
         date :=
           { Instant.beforeEpoch with
             nanos := 999000000
             nanos_lt := by decide
             leap := by decide }
         fiat := { currency := some "GBP", amount := some ⟨false, 150, 2, by decide, by decide⟩ } }]
    memos := [{ hash := "", clientFee := some 0 }] }

theorem Snapshot.decode_encode_iff_foreign :
    foreignMessage.Fits ∧ foreignMessage.ReadsAs (.ok foreignSnapshot) := by
  have fits : foreignMessage.Fits := by
    constructor
    · intro r member
      rw [List.mem_singleton.1 member]
      decide
    · intro memo member
      rw [List.mem_singleton.1 member]
      decide
  exact ⟨fits, (decode_encode_iff fits _).1 rfl⟩

end PaymentVault
