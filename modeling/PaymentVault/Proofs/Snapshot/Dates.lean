import PaymentVault.Proofs.Number.DecimalText
import PaymentVault.Proofs.Snapshot.Messages
import PaymentVault.Snapshot.Basic

/-!
# Snapshots that can be read again

A date is stored in milliseconds and the nanoseconds of its second. The milliseconds of a leap
second run into the next second, where there is no such number of nanoseconds. Any other date
comes back as it was. So reading what was written gives the snapshot, or it fails at the first
request from a leap second (`decode_encode_of_fits`).
-/
namespace PaymentVault

/-- Not in a leap second. -/
def Instant.IsOrdinary (t : Instant) : Prop := t.nanos < 1000000000

instance (t : Instant) : Decidable t.IsOrdinary := inferInstanceAs (Decidable (_ < _))

theorem Instant.toInt_millis (t : Instant) : (Int64.ofInt t.millis).toInt = t.millis := by
  have low := t.first_le
  have high := t.le_last
  have small := t.nanos_lt
  refine Int64.toInt_ofInt_of_le ?_ ?_
  · unfold millis
    omega
  · unfold millis
    omega

/-- An ordinary date comes back. -/
theorem Instant.ofMillis?_millis {t : Instant} (ordinary : t.IsOrdinary) :
    ofMillis? (Int64.ofInt t.millis) (some (UInt32.ofNat t.nanos)) = some t := by
  have below : t.nanos < 1000000000 := ordinary
  have second : t.millis / 1000 = t.seconds := by
    unfold millis
    omega
  have word : (UInt32.ofNat t.nanos).toNat = t.nanos := by
    rw [UInt32.toNat_ofNat']
    omega
  simp only [ofMillis?, toInt_millis, second, Option.map_some, Option.getD_some, word, of?_self]

/-- The parts of a leap second do not fit together: its milliseconds are in the next second,
which is not the last of a minute. -/
theorem Instant.ofMillis?_millis_of_leap {t : Instant} (leap : ¬t.IsOrdinary) :
    ofMillis? (Int64.ofInt t.millis) (some (UInt32.ofNat t.nanos)) = none := by
  have above : 1000000000 ≤ t.nanos := Nat.le_of_not_lt leap
  have below := t.nanos_lt
  have last := t.leap above
  have second : t.millis / 1000 = t.seconds + 1 := by
    unfold millis
    omega
  have word : (UInt32.ofNat t.nanos).toNat = t.nanos := by
    rw [UInt32.toNat_ofNat']
    omega
  simp only [ofMillis?, toInt_millis, second, Option.map_some, Option.getD_some, word, of?]
  rw [dif_neg]
  intro valid
  have again := valid.2.1 above
  omega

/-- The last nanosecond before the epoch. -/
def Instant.beforeEpoch : Instant :=
  ⟨-1, 999999999, by decide, by decide, by decide, by decide⟩

/-- A fiat value comes back but for signs of zeros. -/
theorem FiatValue.ofMessage_toMessage? (value : FiatValue) :
    ofMessage value.toMessage? = value.settled := by
  have decimal (d : Option Decimal) :
      (d.map Decimal.toText).bind Decimal.ofText? = d.map Decimal.settled := by
    cases d <;> simp
  by_cases empty : value = unknown
  · subst empty
    rfl
  · have known : value.isUnknown = false := by simp [isUnknown, empty]
    simp only [toMessage?, known, Bool.false_eq_true, if_false, ofMessage, decimal, settled]

/-- A request comes back unless it is from a leap second. -/
theorem PaymentRequest.ofMessage_toMessage (r : PaymentRequest) :
    ofMessage r.toMessage =
      if r.date.IsOrdinary then .ok r.settled else .error (.requestWithoutDate r.address) := by
  by_cases ordinary : r.date.IsOrdinary
  · simp only [ofMessage, toMessage, Option.bind_some, Instant.ofMillis?_millis ordinary,
      Option.getD_some, FiatValue.ofMessage_toMessage?, settled, if_pos ordinary]
  · simp only [ofMessage, toMessage, Option.bind_some, Instant.ofMillis?_millis_of_leap ordinary,
      if_neg ordinary]

theorem Memo.ofMessage_toMessage (m : Memo) : ofMessage m.toMessage = .ok m.settled := by
  simp only [ofMessage, toMessage, FiatValue.ofMessage_toMessage?, settled]

namespace Snapshot

/-- No request is from a leap second. -/
def HasOrdinaryDates (s : Snapshot) : Prop := ∀ r ∈ s.requests, r.date.IsOrdinary

/-- The first request that is from a leap second. -/
def firstLeap? (s : Snapshot) : Option PaymentRequest :=
  s.requests.find? fun r => !decide r.date.IsOrdinary

theorem HasOrdinaryDates.firstLeap?_eq_none {s : Snapshot} (ordinary : s.HasOrdinaryDates) :
    s.firstLeap? = none := by
  rw [firstLeap?, List.find?_eq_none]
  intro r member
  simp [ordinary r member]

theorem HasOrdinaryDates.settled {s : Snapshot} (ordinary : s.HasOrdinaryDates) :
    s.settled.HasOrdinaryDates := by
  intro r member
  obtain ⟨original, there, rfl⟩ := List.mem_map.1 member
  exact ordinary original there

/-- Requests are read up to the first that is from a leap second. -/
theorem mapM_ofMessage_requests (requests : List PaymentRequest) :
    (requests.map PaymentRequest.toMessage).mapM PaymentRequest.ofMessage =
      match requests.find? fun r => !decide r.date.IsOrdinary with
      | none => .ok (requests.map PaymentRequest.settled)
      | some r => .error (.requestWithoutDate r.address) := by
  induction requests with
  | nil => rfl
  | cons r rest ih =>
    rw [List.map_cons, List.mapM_cons, r.ofMessage_toMessage, ih]
    by_cases ordinary : r.date.IsOrdinary
    · cases found : rest.find? fun r => !decide r.date.IsOrdinary <;>
        simp [ordinary, found, bind, Except.bind, pure, Except.pure]
    · simp [ordinary, bind, Except.bind]

theorem mapM_ofMessage_memos (memos : List Memo) :
    (memos.map Memo.toMessage).mapM Memo.ofMessage = .ok (memos.map Memo.settled) := by
  have each : Memo.ofMessage ∘ Memo.toMessage = fun m => pure m.settled := by
    funext m
    exact m.ofMessage_toMessage
  rw [List.mapM_map, each, List.mapM_pure]
  rfl

/-- Reading what was written gives the snapshot, or it fails at the first request that is from a
leap second. -/
theorem decode_encode_of_fits {s : Snapshot} (fits : s.toMessage.Fits) :
    decode s.encode =
      match s.firstLeap? with
      | none => .ok s.settled
      | some r => .error (.malformed (.requestWithoutDate r.address)) := by
  have version : ¬PaymentVault.formatVersion < PaymentVault.formatVersion := by decide
  rw [decode, encode, ContainerMessage.decode?_encode fits]
  simp only [ofMessage, toMessage, if_neg version, mapM_ofMessage_requests, mapM_ofMessage_memos]
  rw [firstLeap?]
  cases s.requests.find? fun r => !decide r.date.IsOrdinary with
  | none => rfl
  | some r => rfl

/-- A snapshot with ordinary dates that was written can be read. -/
theorem decode_encode {s : Snapshot} (ordinary : s.HasOrdinaryDates) (fits : s.toMessage.Fits) :
    decode s.encode = .ok s.settled := by
  rw [decode_encode_of_fits fits, ordinary.firstLeap?_eq_none]

end Snapshot
end PaymentVault
