import PaymentVault.Proofs.Register
import PaymentVault.Proofs.Snapshot.RoundTrip
import PaymentVault.Proofs.Vault.PaymentsFile
import PaymentVault.Rehearsal.Cipher
import PaymentVault.Wallet.Payments

/-!
# Storing the books and getting them back

Whatever was done with a wallet, books that were stored come back: a wallet that is opened anew
finds the entries it was left with, in whichever order they were written. A write that fails
leaves the file as it was, and a load that fails leaves the books as they were
(`stored_of_writes`). It takes that no request is from a leap second; and where a write fails, that
the directory of the wallet is there, as the write may have made it before it failed.
-/
namespace PaymentVault

/-! ## Books that hold the same -/

/-- Books with the same requests at all addresses and the same memos at all hashes. -/
structure Books.Same (a b : Books) : Prop where
  requests : ∀ address,
    Option.Rel PaymentRequest.Same (a.requests.get? address) (b.requests.get? address)
  memos : ∀ hash, Option.Rel Memo.Same (a.memos.get? hash) (b.memos.get? hash)

/-- The snapshot lists the entries of the books, in any order. -/
structure Snapshot.Enumerates (snapshot : Snapshot) (books : Books) : Prop where
  requests : snapshot.requests.Perm books.requests.entries
  memos : snapshot.memos.Perm books.memos.entries

namespace Books

theorem enumerates_snapshot (books : Books) : books.snapshot.Enumerates books :=
  ⟨.refl _, .refl _⟩

/-- Whatever order books are written in, the same books are loaded. -/
theorem same_loaded {snapshot : Snapshot} {written : Books}
    (enumerates : snapshot.Enumerates written) (books : Books) :
    (books.loaded (some snapshot.settled)).Same written := by
  constructor
  · intro address
    have found : (books.loaded (some snapshot.settled)).requests.get? address =
        (written.requests.get? address).map PaymentRequest.settled :=
      Register.get?_ofList_map enumerates.requests PaymentRequest.settled (fun _ => rfl) address
    rw [found]
    exact rel_map_self PaymentRequest.settled_same _
  · intro hash
    have found : (books.loaded (some snapshot.settled)).memos.get? hash =
        (written.memos.get? hash).map Memo.settled :=
      Register.get?_ofList_map enumerates.memos Memo.settled (fun _ => rfl) hash
    rw [found]
    exact rel_map_self Memo.settled_same _

end Books

namespace OpenWallet

variable {ω : Type} (facilities : Facilities ω)

/-! ## Wallets that can be met -/

/-- The directory of the wallet is there. Where it is not, it is made on the way to the payments
file, and the path of the file may lead elsewhere afterwards. -/
def IsHoused (wallet : OpenWallet ω) : Prop :=
  ∃ place, wallet.around.disk.LeadsTo wallet.directory place

/-- What can happen to the payments of a wallet. Elsewhere anything may change, the credential
and the files too. -/
inductive Step : OpenWallet ω → OpenWallet ω → Prop
  | initialise (wallet) : Step wallet (wallet.initialise facilities).2
  | takeLoadFailure (wallet) : Step wallet wallet.takeLoadFailure.2
  | load (wallet) : Step wallet (wallet.load facilities).2
  | save (wallet) : Step wallet (wallet.save facilities).2
  | shutdown (wallet) : Step wallet (wallet.shutdown facilities)
  | addRequest (wallet request) : Step wallet (wallet.addRequest request).2
  | addMemo (wallet memo) : Step wallet (wallet.addMemo memo).2
  | deleteRequest (wallet address) : Step wallet (wallet.deleteRequest facilities address).2
  | undoDelete (wallet) : Step wallet (wallet.undoDelete facilities).2
  | adapt (wallet tx) : Step wallet (wallet.adapt facilities tx).2
  | noteSeen (wallet hash amount) : Step wallet (wallet.noteSeen facilities hash amount).2
  | list (wallet) : Step wallet (wallet.list facilities).2
  | elsewhere (wallet summary credential around) :
    Step wallet { wallet with summary, credential, around }

/-- A wallet that was opened in its directory, after any steps that left the directory there. -/
inductive Reached : OpenWallet ω → Prop
  | opened {wallet : OpenWallet ω} (fresh : wallet.desk = {}) (housed : wallet.IsHoused) :
    Reached wallet
  | step {wallet next : OpenWallet ω} (reached : Reached wallet)
    (step : Step facilities wallet next) (housed : next.IsHoused) : Reached next

variable {facilities} {wallet next : OpenWallet ω}

namespace IsHoused

theorem save (housed : wallet.IsHoused) : (wallet.save facilities).2.IsHoused := by
  obtain ⟨place, leads⟩ := housed
  exact ⟨place, PaymentsFile.leadsTo_save leads⟩

theorem saveAfter (housed : wallet.IsHoused) (changed : Option PaymentRequest) :
    (wallet.saveAfter facilities changed).2.IsHoused := by
  cases changed with
  | none => exact housed
  | some request => exact housed.save

theorem initialise (housed : wallet.IsHoused) : (wallet.initialise facilities).2.IsHoused := by
  obtain ⟨place, leads⟩ := housed
  have kept := leads.ensureDirectory wallet.paymentsFile.directory
  unfold OpenWallet.initialise
  rcases ensured : wallet.around.disk.ensureDirectory wallet.paymentsFile.directory with
    ⟨cause | ⟨⟩, disk⟩
  · rw [ensured] at kept
    exact ⟨place, kept⟩
  · rw [ensured] at kept
    have loaded : ((wallet.withDisk disk).load facilities).2.IsHoused := by
      unfold OpenWallet.load
      split <;> exact ⟨place, kept⟩
    dsimp only
    rcases outcome : (wallet.withDisk disk).load facilities with ⟨fault | ⟨⟩, after⟩
    · rw [outcome] at loaded
      exact loaded
    · rw [outcome] at loaded
      exact loaded

theorem addRequest (housed : wallet.IsHoused) (request : PaymentRequest) :
    (wallet.addRequest request).2.IsHoused := by
  unfold OpenWallet.addRequest
  split <;> exact housed

theorem addMemo (housed : wallet.IsHoused) (memo : Memo) : (wallet.addMemo memo).2.IsHoused := by
  unfold OpenWallet.addMemo
  split <;> exact housed

end IsHoused

/-! ## Writing -/

variable (facilities) in
/-- A write of the books: how it ends, and the wallet after it. Deleting a request and putting one
back are writes if there is such a request. The entries of any books may be written in any order. -/
inductive Writes (wallet : OpenWallet ω) : Except WalletFault Unit → OpenWallet ω → Prop
  | save {result after} (saved : wallet.save facilities = (result, after)) :
    Writes wallet result after
  | shutdown : Writes wallet (wallet.save facilities).1 (wallet.shutdown facilities)
  | delete {address result after}
    (deleted : wallet.deleteRequest facilities address = (result, after))
    (written : result ≠ .ok none) : Writes wallet (result.map fun _ => ()) after
  | undo {result after} (restored : wallet.undoDelete facilities = (result, after))
    (written : result ≠ .ok none) : Writes wallet (result.map fun _ => ()) after
  | reordered {books snapshot result disk} (enumerates : snapshot.Enumerates books)
    (saved : wallet.paymentsFile.save facilities.cipher wallet.credential snapshot
      wallet.around.disk = (result, disk)) :
    Writes wallet (result.mapError .saveFailure) ((wallet.withBooks books).withDisk disk)

theorem desk_saveAfter (changed : Option PaymentRequest) (wallet : OpenWallet ω) :
    (wallet.saveAfter facilities changed).2.desk = wallet.desk := by
  cases changed with
  | none => rfl
  | some request => rfl

theorem save_eq_of_saveAfter {changed : Option PaymentRequest}
    {result : Except WalletFault (Option PaymentRequest)}
    (saved : wallet.saveAfter facilities changed = (result, next)) (written : result ≠ .ok none) :
    wallet.save facilities = (result.map fun _ => (), next) := by
  cases changed with
  | none =>
    cases saved
    exact absurd rfl written
  | some request =>
    rcases outcome : wallet.save facilities with ⟨fault | ⟨⟩, after⟩
    · simp only [saveAfter, outcome] at saved
      cases saved
      rfl
    · simp only [saveAfter, outcome] at saved
      cases saved
      rfl

variable {result : Except WalletFault Unit}

variable (facilities) in
/-- A list of the books was to be sealed in the payments file of the wallet. -/
structure Seals (wallet : OpenWallet ω) (result : Except WalletFault Unit)
    (after : OpenWallet ω) : Prop where
  directory : after.directory = wallet.directory
  credential : after.credential = wallet.credential
  saved : ∃ snapshot outcome, snapshot.Enumerates after.books ∧
    wallet.paymentsFile.save facilities.cipher wallet.credential snapshot wallet.around.disk =
      (outcome, after.around.disk) ∧ result = outcome.mapError .saveFailure

theorem seals_save (books : Books)
    (saved : (wallet.withBooks books).save facilities = (result, next)) :
    wallet.Seals facilities result next := by
  cases saved
  exact ⟨rfl, rfl, books.snapshot, _, books.enumerates_snapshot, rfl, rfl⟩

theorem Writes.seals (writes : wallet.Writes facilities result next) :
    wallet.Seals facilities result next := by
  cases writes with
  | save saved => exact seals_save wallet.books saved
  | shutdown => exact seals_save wallet.books rfl
  | delete deleted written => exact seals_save _ (save_eq_of_saveAfter deleted written)
  | undo restored written => exact seals_save _ (save_eq_of_saveAfter restored written)
  | reordered enumerates saved => exact ⟨rfl, rfl, _, _, enumerates, saved, rfl⟩

/-! ## Getting back what was written -/

variable (facilities) in
/-- The books after a write are found again, by a wallet that is opened anew as well as by this
one. -/
structure GetsBack (wallet after : OpenWallet ω) : Prop where
  initialise : ∀ fresh : OpenWallet ω, fresh.directory = wallet.directory →
    fresh.credential = wallet.credential → fresh.around.disk = after.around.disk →
      fresh.desk = {} →
        (fresh.initialise facilities).1 = .ok () ∧
          (fresh.initialise facilities).2.desk.loadFailure = none ∧
          (fresh.initialise facilities).2.books.Same after.books
  load : (after.load facilities).1 = .ok () ∧ (after.load facilities).2.books.Same after.books

theorem load_eq_of_ok {snapshot : Option Snapshot}
    (loaded : wallet.paymentsFile.load facilities.cipher wallet.credential wallet.around.disk =
      .ok snapshot) :
    wallet.load facilities = (.ok (), wallet.withBooks (wallet.books.loaded snapshot)) := by
  unfold OpenWallet.load
  rw [loaded]

theorem load_eq_of_error {cause : VaultError}
    (failed : wallet.paymentsFile.load facilities.cipher wallet.credential wallet.around.disk =
      .error cause) :
    wallet.load facilities = (.error (.loadFailure cause), wallet) := by
  unfold OpenWallet.load
  rw [failed]

theorem initialise_eq_of_ok {snapshot : Option Snapshot}
    (ensured : wallet.around.disk.ensureDirectory wallet.paymentsFile.directory =
      (.ok (), wallet.around.disk))
    (loaded : wallet.paymentsFile.load facilities.cipher wallet.credential wallet.around.disk =
      .ok snapshot) :
    wallet.initialise facilities =
      (.ok (), wallet.withBooks (wallet.books.loaded snapshot)) := by
  have same : (wallet.withDisk wallet.around.disk).load facilities =
      (.ok (), wallet.withBooks (wallet.books.loaded snapshot)) := load_eq_of_ok loaded
  rw [initialise, ensured]
  dsimp only
  rw [same]

theorem Seals.getsBack (faithful : facilities.cipher.Faithful)
    (seals : wallet.Seals facilities (.ok ()) next)
    (ordinary : ∀ r ∈ next.books.requests.entries, r.date.IsOrdinary) :
    wallet.GetsBack facilities next := by
  obtain ⟨directory, credential, snapshot, outcome, enumerates, saved, ended⟩ := seals
  obtain rfl : outcome = .ok () := by
    cases outcome with
    | error cause => cases ended
    | ok => rfl
  have dated : snapshot.HasOrdinaryDates := fun r member =>
    ordinary r (enumerates.requests.mem_iff.1 member)
  have first := congrArg Prod.fst saved
  have loaded := PaymentsFile.load_save faithful dated first
  have ensured := PaymentsFile.ensureDirectory_save first
  rw [saved] at loaded ensured
  dsimp only at loaded ensured
  constructor
  · intro fresh sameDirectory sameCredential sameDisk closed
    have file : fresh.paymentsFile = wallet.paymentsFile :=
      congrArg PaymentsFile.ofWallet sameDirectory
    rw [← file, ← sameDisk] at ensured loaded
    rw [← sameCredential] at loaded
    rw [initialise_eq_of_ok ensured loaded]
    exact ⟨rfl, congrArg PaymentsDesk.loadFailure closed, Books.same_loaded enumerates _⟩
  · have file : next.paymentsFile = wallet.paymentsFile :=
      congrArg PaymentsFile.ofWallet directory
    rw [← file, ← credential] at loaded
    rw [load_eq_of_ok loaded]
    exact ⟨rfl, Books.same_loaded enumerates _⟩

/-- A write that fails leaves the file as it was. -/
theorem Seals.load_eq {fault : WalletFault} (seals : wallet.Seals facilities (.error fault) next)
    (housed : wallet.IsHoused) (credential : String) :
    wallet.paymentsFile.load facilities.cipher credential next.around.disk =
      wallet.paymentsFile.load facilities.cipher credential wallet.around.disk := by
  obtain ⟨-, -, snapshot, outcome, -, saved, ended⟩ := seals
  obtain ⟨place, leads⟩ := housed
  cases outcome with
  | ok => cases ended
  | error cause =>
    have disk : next.around.disk = (wallet.paymentsFile.save facilities.cipher wallet.credential
        snapshot wallet.around.disk).2 := (congrArg Prod.snd saved).symm
    rw [disk]
    exact PaymentsFile.load_congr
      (PaymentsFile.read_save_of_error leads (congrArg Prod.fst saved))

theorem load_snd_of_error {fault : WalletFault}
    (failed : wallet.load facilities = (.error fault, next)) : next = wallet := by
  unfold OpenWallet.load at failed
  split at failed
  · cases failed
  · cases failed
    rfl

/-- Whatever was done with a wallet: books that were written are found again, a write that fails
leaves what can be loaded under any credential, and a load that fails changes nothing. -/
theorem stored_of_writes (faithful : facilities.cipher.Faithful) (wallet : OpenWallet ω) :
    (∀ after, wallet.Writes facilities (.ok ()) after →
      (∀ r ∈ after.books.requests.entries, r.date.IsOrdinary) →
        wallet.GetsBack facilities after) ∧
      (∀ fault after, wallet.Writes facilities (.error fault) after → wallet.IsHoused →
        ∀ credential,
          wallet.paymentsFile.load facilities.cipher credential after.around.disk =
            wallet.paymentsFile.load facilities.cipher credential wallet.around.disk) ∧
      ∀ fault after, wallet.load facilities = (.error fault, after) → after = wallet := by
  refine ⟨?_, ?_, ?_⟩
  · intro after writes ordinary
    exact writes.seals.getsBack faithful ordinary
  · intro fault after writes housed credential
    exact writes.seals.load_eq housed credential
  · intro fault after failed
    exact load_snd_of_error failed

/-! ## An instance -/

/-- A request of a nanosecond before the epoch, with a zero that has a sign. -/
def nearbyRequest : PaymentRequest :=
  { address := "address"
    amount := 5
    date := .beforeEpoch
    fiat := { amount := some { Decimal.zero with isNegative := true } } }

/-- A wallet with a request and a memo that are not stored yet. -/
def busyWallet : OpenWallet RehearsalWallet :=
  ((rehearsedWallet.addRequest nearbyRequest).2.addMemo { hash := "hash", minerFee := some 0 }).2

theorem isHoused_rehearsedWallet : rehearsedWallet.IsHoused :=
  PaymentsFile.leadsTo_of_filed (WalletSummary.read_write_of_ok _ _ _ (write_rooted _))

theorem isHoused_busyWallet : busyWallet.IsHoused :=
  (isHoused_rehearsedWallet.addRequest nearbyRequest).addMemo _

theorem reached_busyWallet :
    busyWallet.Reached (RehearsalWallet.facilities labelCipher false) := by
  have added : (rehearsedWallet.addRequest nearbyRequest).2.IsHoused :=
    isHoused_rehearsedWallet.addRequest nearbyRequest
  exact ((Reached.opened rfl isHoused_rehearsedWallet).step (.addRequest _ _) added).step
    (.addMemo _ _) isHoused_busyWallet

theorem stored_of_writes_busy :
    let facilities := RehearsalWallet.facilities labelCipher false
    busyWallet.Reached facilities ∧
      busyWallet.Writes facilities (.ok ()) (busyWallet.save facilities).2 ∧
      busyWallet.GetsBack facilities (busyWallet.save facilities).2 := by
  intro facilities
  have succeeded : (busyWallet.save facilities).1 = .ok () := by rfl
  have writes : busyWallet.Writes facilities (.ok ()) (busyWallet.save facilities).2 :=
    .save (Prod.ext succeeded rfl)
  have entries : (busyWallet.save facilities).2.books.requests.entries = [nearbyRequest] := by rfl
  refine ⟨reached_busyWallet, writes, ?_⟩
  refine (stored_of_writes labelCipher_faithful busyWallet).1 _ writes ?_
  rw [entries, List.forall_mem_singleton]
  decide

end OpenWallet
end PaymentVault
