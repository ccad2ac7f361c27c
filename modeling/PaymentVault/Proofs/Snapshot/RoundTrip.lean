import Mathlib.Data.List.Forall2
import PaymentVault.Proofs.Snapshot.Dates
import PaymentVault.Proofs.Snapshot.Sizes

/-!
# Reading back what was written

A snapshot with ordinary dates is read back as it was, entry by entry; of its decimals only a
zero can lose something, namely its sign (`decode_encode_same`). If there are requests from leap
seconds, then the first of them is what reading fails at (`decode_encode_eq`), although a file can
hold such a date in a form that is read (`leap_read_once`).
-/
namespace PaymentVault

/-! ## The same but for signs of zeros -/

/-- Decimals of one value and one scale. -/
def Decimal.Same (a b : Decimal) : Prop := a.mantissa = b.mantissa ∧ a.scale = b.scale

structure FiatValue.Same (a b : FiatValue) : Prop where
  exchangeName : a.exchangeName = b.exchangeName
  rate : Option.Rel Decimal.Same a.rate b.rate
  currency : a.currency = b.currency
  amount : Option.Rel Decimal.Same a.amount b.amount

/-- Requests that agree in every field, in the fiat value up to signs of zeros. -/
structure PaymentRequest.Same (a b : PaymentRequest) : Prop where
  fiat : a.fiat.Same b.fiat
  others : { a with fiat := b.fiat } = b

/-- Memos that agree in every field, in the fiat value up to signs of zeros. -/
structure Memo.Same (a b : Memo) : Prop where
  fiat : a.fiat.Same b.fiat
  others : { a with fiat := b.fiat } = b

/-- Snapshots with the same entries in the same order. -/
structure Snapshot.Same (a b : Snapshot) : Prop where
  requests : List.Forall₂ PaymentRequest.Same a.requests b.requests
  memos : List.Forall₂ Memo.Same a.memos b.memos

theorem rel_map_self {α : Type} {R : α → α → Prop} {change : α → α}
    (related : ∀ a, R (change a) a) (entry : Option α) : Option.Rel R (entry.map change) entry := by
  cases entry with
  | none => exact .none
  | some a => exact .some (related a)

theorem Decimal.settled_same (d : Decimal) : d.settled.Same d := ⟨d.mantissa_settled, rfl⟩

theorem FiatValue.settled_same (value : FiatValue) : value.settled.Same value where
  exchangeName := rfl
  rate := rel_map_self Decimal.settled_same value.rate
  currency := rfl
  amount := rel_map_self Decimal.settled_same value.amount

theorem PaymentRequest.settled_same (r : PaymentRequest) : r.settled.Same r :=
  ⟨r.fiat.settled_same, rfl⟩

theorem Memo.settled_same (memo : Memo) : memo.settled.Same memo := ⟨memo.fiat.settled_same, rfl⟩

theorem Snapshot.settled_same (s : Snapshot) : s.settled.Same s := by
  constructor
  · rw [settled, List.forall₂_map_left_iff]
    exact List.forall₂_same.2 fun r _ => r.settled_same
  · rw [settled, List.forall₂_map_left_iff]
    exact List.forall₂_same.2 fun m _ => m.settled_same

/-- A snapshot is read back with every entry in its place, every date to the nanosecond and
every decimal with its value and scale. -/
theorem Snapshot.decode_encode_same {s : Snapshot} (ordinary : s.HasOrdinaryDates)
    (addressable : s.IsAddressable) : decode s.encode = .ok s.settled ∧ s.settled.Same s := by
  have read := decode_encode ordinary (fits_of_isAddressable addressable)
  exact ⟨read, s.settled_same⟩

/-- Two requests of one address from the last nanosecond before the epoch, and a memo. -/
def mixedSnapshot : Snapshot :=
  let request : PaymentRequest :=
    { address := "Zürich"
      amount := 18446744073709551615
      label := some ""
      date := .beforeEpoch
      fiat :=
        { rate := some ⟨true, 79228162514264337593543950335, 27, by decide, by decide⟩
          amount := some { Decimal.zero with isNegative := true } }
      fundingHashes := ["b", "a", "b"] }
  { requests := [request, { request with paidAmount := 1, label := none, fiat := {} }]
    memos := [{ hash := "", note := some "", minerFee := some 0 }] }

theorem Snapshot.decode_encode_same_mixed :
    mixedSnapshot.HasOrdinaryDates ∧ mixedSnapshot.IsAddressable ∧
      decode mixedSnapshot.encode = .ok mixedSnapshot.settled ∧
      mixedSnapshot.settled.Same mixedSnapshot := by
  have ordinary : mixedSnapshot.HasOrdinaryDates := by
    simp [HasOrdinaryDates, mixedSnapshot, Instant.IsOrdinary, Instant.beforeEpoch]
  have addressable : mixedSnapshot.IsAddressable := by
    constructor
    · intro r member
      simp only [mixedSnapshot, List.mem_cons, List.not_mem_nil, or_false] at member
      rcases member with rfl | rfl <;> decide
    · intro m member
      simp only [mixedSnapshot, List.mem_cons, List.not_mem_nil, or_false] at member
      subst member
      decide
  exact ⟨ordinary, addressable, decode_encode_same ordinary addressable⟩

/-! ## Leap seconds -/

/-- A snapshot of one request, from the leap second at the end of the second minute. -/
def leapSnapshot : Snapshot :=
  { requests :=
      [{ address := "address"
         amount := 5
         date := ⟨119, 1500000000, by decide, by decide, by decide, by decide⟩ }] }

def leapMessage : ContainerMessage :=
  { formatVersion
    requests :=
      [{ address := some "address", amount := some 5, date := some 119000, nanos := some 1500000000 }] }

namespace Snapshot

/-- A snapshot is read back, or reading fails at the first request that is from a leap second. -/
theorem decode_encode_eq {s : Snapshot} (addressable : s.IsAddressable) :
    decode s.encode =
      match s.firstLeap? with
      | none => .ok s.settled
      | some r => .error (.malformed (.requestWithoutDate r.address)) := by
  have fits := fits_of_isAddressable addressable
  exact decode_encode_of_fits fits

theorem decode_encode_eq_leap :
    leapSnapshot.IsAddressable ∧
      decode leapSnapshot.encode = .error (.malformed (.requestWithoutDate "address")) := by
  have addressable : leapSnapshot.IsAddressable := by
    constructor
    · intro r member
      rw [List.mem_singleton.1 member]
      decide
    · intro m member
      exact absurd member List.not_mem_nil
  exact ⟨addressable, decode_encode_eq addressable⟩

/-- A file can hold a date in a leap second in a form that is read: the second itself in
milliseconds. Storing what was read makes it unreadable. -/
theorem leap_read_once :
    decode leapMessage.encode = .ok leapSnapshot ∧
      decode leapSnapshot.encode = .error (.malformed (.requestWithoutDate "address")) := by
  constructor
  · rfl
  · rfl

end Snapshot
end PaymentVault
