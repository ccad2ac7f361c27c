import PaymentVault.Proofs.Snapshot.Arrangements
import PaymentVault.Proofs.Snapshot.Reading
import PaymentVault.Proofs.Snapshot.RoundTrip

/-!
# Other versions of the format

Files of earlier and later versions are met. Earlier ones lack the format version and the
nanoseconds of dates. Later ones may have fields that are not known yet, and any program may write
fields in an order of its own. All this at once still reads as the snapshot; only the dates that
lack nanoseconds are floored to the millisecond (`decode_of_isHeldBy`).
-/
namespace PaymentVault

open Wire

namespace Instant

/-- Nanoseconds from the epoch. -/
def sinceEpoch (t : Instant) : Int := t.seconds * 1000000000 + t.nanos

/-- The last whole millisecond up to the instant. -/
def floored (t : Instant) : Instant where
  seconds := t.seconds
  nanos := t.nanos / 1000000 * 1000000
  nanos_lt := by
    have below := t.nanos_lt
    omega
  leap := by
    intro above
    exact t.leap (by omega)
  first_le := t.first_le
  le_last := t.le_last

theorem sinceEpoch_floored (t : Instant) :
    t.floored.sinceEpoch = t.sinceEpoch / 1000000 * 1000000 := by
  simp only [sinceEpoch, floored]
  omega

/-- Without nanoseconds the milliseconds are what is left of a date. -/
theorem ofMillis?_millis_none {t : Instant} (ordinary : t.IsOrdinary) :
    ofMillis? (Int64.ofInt t.millis) none = some t.floored := by
  have below : t.nanos < 1000000000 := ordinary
  have second : t.millis / 1000 = t.floored.seconds := by
    simp only [millis, floored]
    omega
  have within : (t.millis % 1000).toNat * 1000000 = t.floored.nanos := by
    simp only [millis, floored]
    omega
  simp only [ofMillis?, toInt_millis, second, Option.map_none, Option.getD_none, within, of?_self]

end Instant

namespace PaymentRequest

/-- The request with its date floored to the millisecond. -/
def floored (r : PaymentRequest) : PaymentRequest := { r with date := r.date.floored }

/-- The message of a request before its date had nanoseconds. -/
def toCoarseMessage (r : PaymentRequest) : RequestMessage := { r.toMessage with nanos := none }

theorem ofMessage_toCoarseMessage {r : PaymentRequest} (ordinary : r.date.IsOrdinary) :
    ofMessage r.toCoarseMessage = .ok r.floored.settled := by
  have date := Instant.ofMillis?_eq_some_iff.1 (Instant.ofMillis?_millis_none ordinary)
  have fiat := FiatValue.ofMessage_eq_iff.1 (FiatValue.ofMessage_toMessage? r.fiat)
  exact ofMessage_eq_ok_iff.2 ⟨rfl, rfl, rfl, rfl, rfl, ⟨_, rfl, date⟩, fiat, rfl⟩

theorem length_encode_toCoarseMessage_le (r : PaymentRequest) :
    r.toCoarseMessage.encode.length ≤ r.toMessage.encode.length := by
  simp only [RequestMessage.encode, RequestMessage.fields, toCoarseMessage,
    length_writeFields_append, Option.map_none, Option.toList_none]
  simp [writeFields]

end PaymentRequest

namespace Snapshot

variable {s : Snapshot} {coarse : Nat → Bool} {bytes : Bytes}

/-- The snapshot with the dates of some requests floored to the millisecond. -/
def floored (s : Snapshot) (coarse : Nat → Bool) : Snapshot :=
  { s with requests := s.requests.mapIdx fun i r => if coarse i then r.floored else r }

/-- The message of the snapshot, some of its requests without nanoseconds. -/
def toCoarseMessage (s : Snapshot) (coarse : Nat → Bool) : ContainerMessage :=
  { s.toMessage with
    requests := s.requests.mapIdx fun i r => if coarse i then r.toCoarseMessage else r.toMessage }

theorem fits_toCoarseMessage (addressable : s.IsAddressable) : (s.toCoarseMessage coarse).Fits := by
  have fits := fits_of_isAddressable addressable
  refine ⟨?_, fits.memos⟩
  intro m member
  obtain ⟨i, bound, rfl⟩ := List.mem_mapIdx.1 member
  have written := fits.requests _ (List.mem_map_of_mem (List.getElem_mem bound))
  have shorter := s.requests[i].length_encode_toCoarseMessage_le
  split
  · exact Nat.lt_of_le_of_lt shorter written
  · exact written

theorem mapM_ofMessage_coarse {requests : List PaymentRequest}
    (ordinary : ∀ r ∈ requests, r.date.IsOrdinary) (coarse : Nat → Bool) :
    (requests.mapIdx fun i r => if coarse i then r.toCoarseMessage else r.toMessage).mapM
        PaymentRequest.ofMessage =
      .ok ((requests.mapIdx fun i r => if coarse i then r.floored else r).map
        PaymentRequest.settled) := by
  induction requests generalizing coarse with
  | nil => rfl
  | cons r requests ih =>
    obtain ⟨first, others⟩ := List.forall_mem_cons.1 ordinary
    have read : PaymentRequest.ofMessage (if coarse 0 then r.toCoarseMessage else r.toMessage) =
        .ok (if coarse 0 then r.floored else r).settled := by
      split
      · exact PaymentRequest.ofMessage_toCoarseMessage first
      · rw [r.ofMessage_toMessage, if_pos first]
    -- Seen from the rest of the list, every position is one less.
    rw [List.mapIdx_cons, List.mapM_cons, read, ih others fun i => coarse (i + 1), List.mapIdx_cons]
    rfl

theorem isHeldBy_encode (fits : s.toMessage.Fits) :
    (s.toCoarseMessage fun _ => false).IsHeldBy s.encode := by
  have requests : (s.toCoarseMessage fun _ => false).requests = s.toMessage.requests :=
    List.ext_getElem (by simp [toCoarseMessage, toMessage]) (by simp [toCoarseMessage, toMessage])
  have whole : (s.toCoarseMessage fun _ => false) = s.toMessage :=
    congrArg (fun requests => { s.toMessage with requests }) requests
  rw [whole]
  refine ⟨some 1, by simp, s.toMessage.fields, spellsFields_writeFields fits.isPlain, ?_⟩
  intro number _
  exact List.forall₂_same.2 fun field _ => .same field

/-- What is written of a snapshot is one of the forms that hold it. Whatever form it is met in, the
version left out or zero, fields of unknown numbers put in anywhere, and the fields of any message
in another order, the snapshot is read, with the dates of requests that lack their nanoseconds
floored to the millisecond and with nothing else changed but signs of zeros. -/
theorem decode_of_isHeldBy (ordinary : s.HasOrdinaryDates) (addressable : s.IsAddressable) :
    (s.toCoarseMessage fun _ => false).IsHeldBy s.encode ∧
      ∀ coarse bytes, (s.toCoarseMessage coarse).IsHeldBy bytes →
        decode bytes = .ok (s.floored coarse).settled ∧
          (s.floored coarse).settled.Same (s.floored coarse) ∧
          ∀ r ∈ s.requests,
            r.floored.date.sinceEpoch = r.date.sinceEpoch / 1000000 * 1000000 := by
  refine ⟨isHeldBy_encode (fits_of_isAddressable addressable), fun coarse bytes held => ?_⟩
  refine ⟨?_, settled_same _, fun r _ => r.date.sinceEpoch_floored⟩
  obtain ⟨formatVersion, first, read⟩ :=
    ContainerMessage.decode?_of_isHeldBy held (fits_toCoarseMessage addressable)
  have supported : ¬PaymentVault.formatVersion < formatVersion := UInt32.not_lt.2 first
  have requests := mapM_ofMessage_coarse ordinary coarse
  have memos := mapM_ofMessage_memos s.memos
  rw [decode, read]
  simp only [ofMessage, if_neg supported, toCoarseMessage, toMessage, requests, memos]
  rfl

/-- A request of a nanosecond before the epoch, and a memo. -/
def datedSnapshot : Snapshot :=
  { requests :=
      [{ address := "address"
         amount := 5
         date := .beforeEpoch
         fiat := { exchangeName := some "exchange", currency := some "GBP" }
         fundingHashes := ["b", "a"] }]
    memos := [{ hash := "hash" }] }

/-- A fiat message with its fields turned around, and a flag that is not known. -/
def turnedFiat : List Field := [.ofText 3 "GBP", .ofWord 5 1, .ofText 1 "exchange"]

/-- A request message without nanoseconds, its fields turned around but for the hashes, and a text
that is not known. -/
def turnedRequest : List Field :=
  [.ofText 8 "b", ⟨7, .delimited (writeFields turnedFiat)⟩, .ofWord 6 (-1), .ofText 10 "text",
    .ofText 8 "a", .ofWord 3 0, .ofWord 2 5, .ofText 1 "address"]

/-- A memo message that starts with a number that is not known. -/
def turnedMemo : List Field := [.ofWord 6 0, .ofText 1 "hash"]

/-- A container message that starts with its memo and a field that is not known, and whose version
is zero. -/
def turnedContainer : List Field :=
  [⟨536870911, .fixed32 67305985⟩, ⟨3, .delimited (writeFields turnedMemo)⟩,
    ⟨2, .delimited (writeFields turnedRequest)⟩, .ofWord 1 0]

theorem isHeldBy_turnedFiat :
    FiatMessage.IsHeldBy { exchangeName := some "exchange", currency := some "GBP" }
      (writeFields turnedFiat) := by
  refine ⟨turnedFiat, spellsFields_writeFields (isPlain_of_isCommon rfl (by decide)), ?_⟩
  intro number known
  rw [List.forall₂_eq_eq_eq]
  revert number
  decide

theorem isHeldBy_turnedRequest {r : PaymentRequest} (there : r ∈ datedSnapshot.requests) :
    r.toCoarseMessage.IsHeldBy (writeFields turnedRequest) := by
  rw [List.mem_singleton.1 there]
  refine ⟨turnedRequest, spellsFields_writeFields (isPlain_of_isCommon rfl (by decide)), ?_⟩
  intro number known
  simp only [List.mem_cons, List.not_mem_nil, or_false] at known
  rcases known with rfl | rfl | rfl | rfl | rfl | rfl | rfl | rfl | rfl
  · exact .cons (.same _) .nil
  · exact .cons (.same _) .nil
  · exact .cons (.same _) .nil
  · exact .nil
  · exact .nil
  · exact .cons (.same _) .nil
  · exact .cons (.fiat isHeldBy_turnedFiat) .nil
  · exact .cons (.same _) (.cons (.same _) .nil)
  · exact .nil

theorem isHeldBy_turnedMemo {m : Memo} (there : m ∈ datedSnapshot.memos) :
    m.toMessage.IsHeldBy (writeFields turnedMemo) := by
  rw [List.mem_singleton.1 there]
  refine ⟨turnedMemo, spellsFields_writeFields (isPlain_of_isCommon rfl (by decide)), ?_⟩
  intro number known
  simp only [List.mem_cons, List.not_mem_nil, or_false] at known
  rcases known with rfl | rfl | rfl | rfl | rfl
  · exact .cons (.same _) .nil
  · exact .nil
  · exact .nil
  · exact .nil
  · exact .nil

theorem decode_of_isHeldBy_dated :
    datedSnapshot.HasOrdinaryDates ∧ datedSnapshot.IsAddressable ∧
      (datedSnapshot.toCoarseMessage fun _ => true).IsHeldBy (writeFields turnedContainer) ∧
      decode (writeFields turnedContainer) = .ok (datedSnapshot.floored fun _ => true) := by
  have ordinary : datedSnapshot.HasOrdinaryDates := by
    intro r member
    rw [List.mem_singleton.1 member]
    decide
  have addressable : datedSnapshot.IsAddressable := by
    constructor
    · intro r member
      rw [List.mem_singleton.1 member]
      decide
    · intro m member
      rw [List.mem_singleton.1 member]
      decide
  have held : (datedSnapshot.toCoarseMessage fun _ => true).IsHeldBy
      (writeFields turnedContainer) := by
    have unknown : SpellsField (key 536870911 .fixed32 ++ [1, 2, 3, 4])
        ⟨536870911, .fixed32 67305985⟩ := .fixed32 (spellsKey_key (by decide) _) rfl
    have known : SpellsFields (writeFields turnedContainer.tail) turnedContainer.tail :=
      spellsFields_writeFields (isPlain_of_isCommon rfl (by decide))
    refine ⟨some 0, by simp, turnedContainer, .cons unknown known, ?_⟩
    intro number known
    simp only [List.mem_cons, List.not_mem_nil, or_false] at known
    rcases known with rfl | rfl | rfl
    · exact .cons (.same _) .nil
    · exact .cons (.request (isHeldBy_turnedRequest (List.mem_singleton.2 rfl))) .nil
    · exact .cons (.memo (isHeldBy_turnedMemo (List.mem_singleton.2 rfl))) .nil
  exact ⟨ordinary, addressable, held,
    ((decode_of_isHeldBy ordinary addressable).2 _ _ held).1⟩

end Snapshot
end PaymentVault
