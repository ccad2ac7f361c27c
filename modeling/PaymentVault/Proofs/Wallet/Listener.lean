import Mathlib.Logic.Relation
import PaymentVault.Proofs.Ledger.Pinning
import PaymentVault.Wallet.Payments

/-!
# Listening for transactions

Sightings come through a buffer. Whoever sends them waits while it is full, and whoever listens
takes them out one by one; who goes first is open. Whatever they do, it comes to the same end: the
sightings were noted in their order (`ends_iff`). So sightings by way of a buffer are
observations like any other, and the value of a transaction is pinned by whichever observation is
the first (`pinned_of_run`).
-/
namespace PaymentVault

variable {ω : Type}

/-- A wallet that listens: the sightings still to be sent, and those in the buffer. -/
structure Listener (ω : Type) where
  unsent : List OpenWallet.Sighting
  buffer : List OpenWallet.Sighting := []
  wallet : OpenWallet ω

namespace Listener

variable (facilities : Facilities ω) (capacity : Nat)

/-- A sighting is sent while there is room, or the one in front is noted. The buffer has room for
one at least. -/
inductive Step : Listener ω → Listener ω → Prop where
  | send {seen unsent buffer wallet} (room : buffer.length < max capacity 1) :
    Step ⟨seen :: unsent, buffer, wallet⟩ ⟨unsent, buffer ++ [seen], wallet⟩
  | receive {unsent seen buffer wallet} :
    Step ⟨unsent, seen :: buffer, wallet⟩
      ⟨unsent, buffer, (wallet.noteSeen facilities seen.hash seen.amount).2⟩

/-- The wallet once all sightings are noted in their order. -/
def outcome (listener : Listener ω) : OpenWallet ω :=
  listener.wallet.noteAll facilities (listener.buffer ++ listener.unsent)

variable {facilities capacity} {listener next : Listener ω}

theorem Step.outcome_eq (step : Step facilities capacity listener next) :
    next.outcome facilities = listener.outcome facilities := by
  cases step with
  | send room => simp [outcome]
  | receive => rfl

theorem outcome_eq_of_steps
    (steps : Relation.ReflTransGen (Step facilities capacity) listener next) :
    next.outcome facilities = listener.outcome facilities := by
  induction steps with
  | refl => rfl
  | tail _ step ih => exact step.outcome_eq.trans ih

variable (facilities capacity)

/-- Whatever has been done, the listener can come to its end. -/
theorem steps_to_end (listener : Listener ω) :
    Relation.ReflTransGen (Step facilities capacity) listener
      ⟨[], [], listener.outcome facilities⟩ := by
  obtain ⟨unsent, buffer, wallet⟩ := listener
  induction unsent generalizing buffer wallet with
  | nil =>
    induction buffer generalizing wallet with
    | nil => exact .refl
    | cons seen buffer ih => exact .head .receive (ih _)
  | cons seen unsent ih =>
    -- Taking out what is in the buffer makes room for the next sighting.
    induction buffer generalizing wallet with
    | nil => exact .head (.send (by simp)) (ih [seen] wallet)
    | cons first buffer ihBuffer => exact .head .receive (ihBuffer _)

variable {facilities capacity}

/-- The listener ends with the sightings noted in their order, and with nothing else. -/
theorem ends_iff {sightings : List OpenWallet.Sighting} {wallet after : OpenWallet ω} :
    Relation.ReflTransGen (Step facilities capacity) ⟨sightings, [], wallet⟩ ⟨[], [], after⟩ ↔
      after = wallet.noteAll facilities sightings := by
  constructor
  · intro steps
    exact outcome_eq_of_steps steps
  · rintro rfl
    exact steps_to_end facilities capacity ⟨sightings, [], wallet⟩

end Listener

/-- To note sightings is to make observations, all at the rate there is. -/
theorem OpenWallet.noteAll_eq (facilities : Facilities ω) (sightings : List Sighting)
    (wallet : OpenWallet ω) :
    wallet.noteAll facilities sightings =
      wallet.withBooks (Observation.run
        (sightings.map fun seen =>
          .seen (facilities.rate wallet.around.rest) seen.hash seen.amount) wallet.books) := by
  induction sightings generalizing wallet with
  | nil => rfl
  | cons seen sightings ih => exact ih (wallet.noteSeen facilities seen.hash seen.amount).2

namespace Observation

/-- At any point of a run of observations, at whatever rates: a hash has the memo that it had at the
start, or else the one of its first observation, and it keeps it from then on. A payment shows the
value in the memo. A transaction is said to be new just if it had no memo and was not observed
before, so once at most, and there is a further memo for each hash that was. To listen for
sightings by way of a buffer of any capacity is to note them one by one. -/
theorem pinned_of_run (earlier later : List Observation) (books : Books) :
    (∀ hash, (run earlier books).memos.get? hash =
        (books.memos.get? hash).or ((earlier.find? fun o => o.hash == hash).map memo)) ∧
      (∀ hash memo, (run earlier books).memos.get? hash = some memo →
        (run (earlier ++ later) books).memos.get? hash = some memo) ∧
      (∀ view resolve rate tx payment,
        ((run earlier books).adapt view resolve rate tx).1 = .ok payment →
          ((run (earlier ++ adapt view resolve rate tx :: later) books).memos.get? tx.hash).map
            Memo.fiat = some payment.fiat) ∧
      (∀ rate hash amount, ((run earlier books).noteSeen rate hash amount).1 = true ↔
        books.memos.get? hash = none ∧ ∀ o ∈ earlier, o.hash ≠ hash) ∧
      (∀ rate rate' hash amount amount',
        ((run (earlier ++ seen rate hash amount :: later) books).noteSeen rate' hash amount').1 =
          false) ∧
      (run earlier books).memos.size =
        books.memos.size +
          {hash ∈ (earlier.map Observation.hash).toFinset | books.memos.get? hash = none}.card ∧
      ∀ (facilities : Facilities ω) (capacity : Nat) (sightings : List OpenWallet.Sighting)
        (wallet after : OpenWallet ω),
        (Relation.ReflTransGen (Listener.Step facilities capacity) ⟨sightings, [], wallet⟩
          ⟨[], [], after⟩ ↔
            after = sightings.foldl (fun wallet seen =>
              (wallet.noteSeen facilities seen.hash seen.amount).2) wallet) ∧
          wallet.listen facilities capacity sightings =
            wallet.withBooks (run (sightings.map fun seen =>
              .seen (facilities.rate wallet.around.rest) seen.hash seen.amount) wallet.books) := by
  refine ⟨?_, ?_, ?_, ?_, ?_, ?_, ?_⟩
  · exact get?_memos_run earlier books
  · intro hash memo there
    rw [run_append]
    exact get?_memos_run_of_eq_some later there
  · intro view resolve rate tx payment adapted
    obtain ⟨memo, there, shown⟩ := Option.map_eq_some_iff.1 (fiat_of_adapt adapted)
    have pinned : ((adapt view resolve rate tx).perform (run earlier books)).memos.get? tx.hash =
        some memo := there
    rw [run_append, run_cons, get?_memos_run_of_eq_some later pinned, Option.map_some, shown]
  · exact noteSeen_run_fst earlier books
  · intro rate rate' hash amount amount'
    have member : seen rate hash amount ∈ earlier ++ seen rate hash amount :: later := by simp
    exact noteSeen_run_fst_of_mem member books rate' amount'
  · exact size_memos_run earlier books
  · intro facilities capacity sightings wallet after
    constructor
    · exact Listener.ends_iff
    · rw [OpenWallet.listen_eq_noteAll, OpenWallet.noteAll_eq]

/-- A transaction that could not be adapted keeps what it was worth at that time, here nothing. -/
example :
    let tx : LedgerTransaction :=
      { hash := "a", updateTime := .epoch, confidence := none, outputs := [⟨7, []⟩],
        isCoinbase := false, raw := [] }
    let view : WalletView :=
      { transactions := [tx], valueOf := fun _ => 7, isMine := fun _ => true }
    let rate : ExchangeRate := { exchangeName := "e", rate := .zero, currency := "c" }
    let books := run [adapt view .spelled none tx, seen (some rate) "b" 7] .empty
    (books.adapt view .spelled (some rate) tx).1 = .error (.unresolvedAddress "empty script") ∧
      (books.noteSeen (some rate) "a" 7).1 = false ∧
      (books.memos.get? "a").map Memo.fiat = some .unknown ∧
      (books.memos.get? "b").map Memo.fiat =
        some { exchangeName := some "e", rate := some .zero, currency := some "c" } := by
  decide

end Observation
end PaymentVault
