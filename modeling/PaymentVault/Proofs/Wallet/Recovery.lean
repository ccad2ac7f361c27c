import PaymentVault.Proofs.Ledger.Deletion
import PaymentVault.Proofs.Wallet.Identity

/-!
# Getting a deleted request back

Deleting a request and putting it back happen in memory first and are stored then, so neither is
lost if that fails. What was deleted waits until it is put back as it was, whatever else is done
with the wallet meanwhile (`recovered_of_delete`), and then it is in the file after the next write
that succeeds. But if it, or any other request, is from a leap second, then that file cannot be
read any more (`unreadable_after_undo`).
-/
namespace PaymentVault

namespace Books

/-! ## What a list of transactions counts -/

/-- The transactions up to the first whose addresses cannot be found, and that one. -/
def attempted (resolve : AddressResolver) : List LedgerTransaction → List LedgerTransaction
  | [] => []
  | tx :: rest =>
    match addressesOf resolve tx.outputs with
    | .error _ => [tx]
    | .ok _ => tx :: attempted resolve rest

/-- What a list of transactions that is adapted up to the first failure counts towards the request
at an address. -/
def creditsOfAll (view : WalletView) (resolve : AddressResolver) (txs : List LedgerTransaction)
    (address : String) : List Credit :=
  (attempted resolve txs).flatMap (creditsOf view resolve · address)

variable (view : WalletView) (resolve : AddressResolver) (rate : Option ExchangeRate)

theorem adaptAll_snd (txs : List LedgerTransaction) (books : Books) :
    (adaptAll view resolve rate txs books).2 =
      (adaptEach view resolve rate (attempted resolve txs) books).2 := by
  induction txs generalizing books with
  | nil => rfl
  | cons tx rest ih =>
    have ok := @exists_adapt_eq_ok_iff view resolve rate tx books
    rw [← exists_addressesOf_iff] at ok
    rcases adapted : adapt view resolve rate tx books with ⟨fault | payment, next⟩
    · cases found : addressesOf resolve tx.outputs with
      | error cause => simp [adaptAll, attempted, adaptEach, adapted, found]
      | ok addresses => simp [adapted, found] at ok
    · cases found : addressesOf resolve tx.outputs with
      | error cause => simp [adapted, found] at ok
      | ok addresses => simp [adaptAll, attempted, adaptEach, adapted, found, ih]

theorem get?_adaptAll (txs : List LedgerTransaction) (books : Books) (address : String) :
    (adaptAll view resolve rate txs books).2.requests.get? address =
      (books.requests.get? address).map
        (·.creditedWith (creditsOfAll view resolve txs address)) := by
  rw [adaptAll_snd, get?_adaptEach]
  rfl

theorem lastDeleted_adaptAll (txs : List LedgerTransaction) (books : Books) :
    (adaptAll view resolve rate txs books).2.requests.lastDeleted =
      books.requests.lastDeleted := by
  rw [adaptAll_snd, lastDeleted_adaptEach]

/-! ## What is read of written books -/

/-- What is read of a file in which the books were written: the same books, unless a request is
from a leap second. -/
inductive ReadAs (books : Books) : Except VaultError (Option Snapshot) → Prop
  | same {snapshot : Snapshot}
    (ordinary : ∀ address r, books.requests.get? address = some r → r.date.IsOrdinary)
    (same : ∀ before : Books, (before.loaded (some snapshot)).Same books) :
    ReadAs books (.ok (some snapshot))
  | leap {address : String} {r : PaymentRequest} (stored : books.requests.get? address = some r)
    (leap : ¬r.date.IsOrdinary) :
    ReadAs books (.error (.malformed (.requestWithoutDate address)))

variable {books other : Books}

theorem ReadAs.congr {outcome : Except VaultError (Option Snapshot)} (read : books.ReadAs outcome)
    (requests : ∀ address, books.requests.get? address = other.requests.get? address)
    (memos : books.memos = other.memos) : other.ReadAs outcome := by
  cases read with
  | same ordinary same =>
    constructor
    · simpa only [requests] using ordinary
    · intro before
      constructor
      · simpa only [requests] using (same before).requests
      · simpa only [memos] using (same before).memos
  | leap stored leap =>
    rw [requests] at stored
    exact .leap stored leap

end Books

theorem Snapshot.Enumerates.readAs {snapshot : Snapshot} {books : Books} {file : PaymentsFile}
    {cipher : KeyCipher} {credential : String} {disk : Disk}
    (enumerates : snapshot.Enumerates books) (faithful : cipher.Faithful)
    (keeps : file.Keeps cipher credential snapshot disk) :
    books.ReadAs (file.load cipher credential disk) := by
  have member (address : String) (r : PaymentRequest)
      (stored : books.requests.get? address = some r) : r ∈ snapshot.requests :=
    enumerates.requests.mem_iff.2 (Register.mem_of_get? stored)
  rw [keeps.load_eq faithful]
  cases first : snapshot.firstLeap? with
  | none =>
    refine .same ?_ (Books.same_loaded enumerates)
    intro address r stored
    have ordinary := List.find?_eq_none.1 first r (member address r stored)
    simpa using ordinary
  | some r =>
    have stored := enumerates.requests.mem_iff.1 (List.mem_of_find?_eq_some first)
    have leap := List.find?_some first
    exact .leap (Register.mem_entries_iff.1 stored) (by simpa using leap)

namespace OpenWallet

variable {ω : Type} (facilities : Facilities ω)

/-! ## What may happen meanwhile -/

/-- The steps that neither put anything back nor delete or load anything, and add nothing at an
address, with what they count towards a request there. -/
inductive Passes (address : String) : List Credit → OpenWallet ω → OpenWallet ω → Prop
  | takeLoadFailure (wallet) : Passes address [] wallet wallet.takeLoadFailure.2
  | save (wallet) : Passes address [] wallet (wallet.save facilities).2
  | shutdown (wallet) : Passes address [] wallet (wallet.shutdown facilities)
  | addRequest (wallet) {request : PaymentRequest} (apart : request.address ≠ address) :
    Passes address [] wallet (wallet.addRequest request).2
  | addMemo (wallet memo) : Passes address [] wallet (wallet.addMemo memo).2
  | deleteRequest (wallet) {absent : String} (absence : wallet.books.requests.get? absent = none) :
    Passes address [] wallet (wallet.deleteRequest facilities absent).2
  | adapt (wallet tx) :
    Passes address
      (Books.creditsOf (facilities.view wallet.around.rest) facilities.resolve tx address)
      wallet (wallet.adapt facilities tx).2
  | noteSeen (wallet hash amount) :
    Passes address [] wallet (wallet.noteSeen facilities hash amount).2
  | list (wallet) :
    Passes address
      (Books.creditsOfAll (facilities.view wallet.around.rest) facilities.resolve
        (facilities.view wallet.around.rest).transactions address)
      wallet (wallet.list facilities).2
  | elsewhere (wallet summary credential around) :
    Passes address [] wallet { wallet with summary, credential, around }

/-- The other steps. -/
inductive Disturbs (address : String) : OpenWallet ω → OpenWallet ω → Prop
  | initialise (wallet) : Disturbs address wallet (wallet.initialise facilities).2
  | load (wallet) : Disturbs address wallet (wallet.load facilities).2
  | addRequest (wallet) {request : PaymentRequest} (here : request.address = address) :
    Disturbs address wallet (wallet.addRequest request).2
  | deleteRequest (wallet) {other : String} (stored : wallet.books.requests.get? other ≠ none) :
    Disturbs address wallet (wallet.deleteRequest facilities other).2
  | undoDelete (wallet) : Disturbs address wallet (wallet.undoDelete facilities).2

/-- Any number of such steps, with all that they count. -/
inductive Passage (address : String) : List Credit → OpenWallet ω → OpenWallet ω → Prop
  | refl (wallet) : Passage address [] wallet wallet
  | tail {credits more : List Credit} {wallet next last : OpenWallet ω}
    (passage : Passage address credits wallet next)
    (passes : Passes facilities address more next last) :
    Passage address (credits ++ more) wallet last

variable {facilities} {wallet next later : OpenWallet ω}

/-- Every step is one or the other. -/
theorem Step.disturbs_or_passes (address : String) (step : Step facilities wallet next) :
    Disturbs facilities address wallet next ∨
      ∃ credits, Passes facilities address credits wallet next := by
  cases step with
  | initialise => exact .inl (.initialise _)
  | load => exact .inl (.load _)
  | undoDelete => exact .inl (.undoDelete _)
  | addRequest request =>
    by_cases here : request.address = address
    · exact .inl (.addRequest _ here)
    · exact .inr ⟨_, .addRequest _ here⟩
  | deleteRequest other =>
    by_cases absence : wallet.books.requests.get? other = none
    · exact .inr ⟨_, .deleteRequest _ absence⟩
    · exact .inl (.deleteRequest _ absence)
  | takeLoadFailure => exact .inr ⟨_, .takeLoadFailure _⟩
  | save => exact .inr ⟨_, .save _⟩
  | shutdown => exact .inr ⟨_, .shutdown _⟩
  | addMemo memo => exact .inr ⟨_, .addMemo _ memo⟩
  | adapt tx => exact .inr ⟨_, .adapt _ tx⟩
  | noteSeen hash amount => exact .inr ⟨_, .noteSeen _ hash amount⟩
  | list => exact .inr ⟨_, .list _⟩
  | elsewhere => exact .inr ⟨_, .elsewhere _ _ _ _⟩

variable {address : String} {credits : List Credit} {r : PaymentRequest}

theorem deleteRequest_of_get?_eq_none (absence : wallet.books.requests.get? address = none) :
    wallet.deleteRequest facilities address = (.ok none, wallet) := by
  rw [deleteRequest, RequestBook.delete_of_get?_eq_none _ absence]
  rfl

theorem undoDelete_of_lastDeleted_eq_none (slot : wallet.books.requests.lastDeleted = none) :
    wallet.undoDelete facilities = (.ok none, wallet) := by
  rw [undoDelete, RequestBook.undoDelete_of_lastDeleted_eq_none _ slot]
  rfl

/-- What one step does to the request at the address, and to the one that can be put back. -/
theorem Passes.requests_eq (passes : Passes facilities address credits wallet next) :
    next.books.requests.get? address =
        (wallet.books.requests.get? address).map (·.creditedWith credits) ∧
      next.books.requests.lastDeleted = wallet.books.requests.lastDeleted := by
  have kept (entry : Option PaymentRequest) : entry = entry.map (·.creditedWith []) := by simp
  cases passes with
  | takeLoadFailure => exact ⟨kept _, rfl⟩
  | save => exact ⟨kept _, rfl⟩
  | shutdown => exact ⟨kept _, rfl⟩
  | addRequest _ apart =>
    unfold OpenWallet.addRequest
    split
    · exact ⟨kept _, rfl⟩
    · next request _ _ =>
      have there := RequestBook.get?_insert wallet.books.requests address request
      rw [if_neg apart] at there
      exact ⟨there.trans (kept _), rfl⟩
  | addMemo _ memo =>
    unfold OpenWallet.addMemo
    split
    · exact ⟨kept _, rfl⟩
    · exact ⟨kept _, rfl⟩
  | deleteRequest _ absence =>
    rw [deleteRequest_of_get?_eq_none absence]
    exact ⟨kept _, rfl⟩
  | adapt _ tx => exact ⟨Books.get?_adapt _ _ _ tx _ address, Books.lastDeleted_adapt _ _ _ tx _⟩
  | noteSeen _ hash amount => exact ⟨kept _, rfl⟩
  | list =>
    rw [books_list]
    exact ⟨Books.get?_adaptAll _ _ _ _ _ address, Books.lastDeleted_adaptAll _ _ _ _ _⟩
  | elsewhere => exact ⟨kept _, rfl⟩

theorem Passage.requests_eq (passage : Passage facilities address credits wallet later) :
    later.books.requests.get? address =
        (wallet.books.requests.get? address).map (·.creditedWith credits) ∧
      later.books.requests.lastDeleted = wallet.books.requests.lastDeleted := by
  induction passage with
  | refl => simp
  | tail _ passes ih =>
    obtain ⟨request, slot⟩ := passes.requests_eq
    rw [request, slot, ih.1, ih.2, Option.map_map]
    simp [Function.comp_def, PaymentRequest.creditedWith_append]

/-! ## Deleting and putting back -/

/-- A request was given, and the wallet has another entry at its address and another request to put
back. Nothing else is changed in the books. -/
structure Moves (wallet : OpenWallet ω) (r : PaymentRequest) (here slot : Option PaymentRequest)
    (outcome : Except WalletFault (Option PaymentRequest) × OpenWallet ω) : Prop where
  given : ∀ request, outcome.1 = .ok request → request = some r
  requests : ∀ place, outcome.2.books.requests.get? place =
    if r.address = place then here else wallet.books.requests.get? place
  memos : outcome.2.books.memos = wallet.books.memos
  lastDeleted : outcome.2.books.requests.lastDeleted = slot

theorem moves_saveAfter {book : RequestBook} {changed here slot : Option PaymentRequest}
    (given : changed = some r)
    (requests : ∀ place, book.get? place =
      if r.address = place then here else wallet.books.requests.get? place)
    (lastDeleted : book.lastDeleted = slot) :
    wallet.Moves r here slot
      ((wallet.withBooks { wallet.books with requests := book }).saveAfter facilities changed) := by
  subst given
  constructor
  · intro request ended
    rcases saved : (wallet.withBooks { wallet.books with requests := book }).save facilities with
      ⟨fault | ⟨⟩, after⟩
    · simp [saveAfter, saved, Except.map] at ended
    · simpa [saveAfter, saved, Except.map, eq_comm] using ended
  · rw [books_saveAfter]
    exact requests
  · rw [books_saveAfter]
    rfl
  · rw [books_saveAfter]
    exact lastDeleted

theorem moves_deleteRequest (stored : wallet.books.requests.get? address = some r) :
    wallet.Moves r none (some r) (wallet.deleteRequest facilities address) := by
  obtain rfl : r.address = address := Register.key_of_get? stored
  have given := RequestBook.delete_fst wallet.books.requests r.address
  have slot := RequestBook.lastDeleted_delete wallet.books.requests r.address
  rw [stored] at given slot
  exact moves_saveAfter given (RequestBook.get?_delete _ r.address) slot

theorem moves_undoDelete (slot : wallet.books.requests.lastDeleted = some r) :
    wallet.Moves r (some r) none (wallet.undoDelete facilities) := by
  have given := RequestBook.undoDelete_fst wallet.books.requests
  rw [slot] at given
  exact moves_saveAfter given (RequestBook.get?_undoDelete _ slot)
    (RequestBook.lastDeleted_undoDelete _)

/-- Books that were written are read from the file under the credential of the wallet. -/
theorem Writes.readAs (faithful : facilities.cipher.Faithful)
    (writes : wallet.Writes facilities (.ok ()) next) :
    next.books.ReadAs (next.finds facilities) := by
  obtain ⟨directory, credential, snapshot, outcome, enumerates, saved, ended⟩ := writes.seals
  obtain rfl : outcome = .ok () := by
    cases outcome with
    | error cause => cases ended
    | ok => rfl
  have keeps := PaymentsFile.keeps_save (congrArg Prod.fst saved)
  have file : next.paymentsFile = wallet.paymentsFile := congrArg PaymentsFile.ofWallet directory
  rw [saved, ← file, ← credential] at keeps
  exact enumerates.readAs faithful keeps

/-- A request that can be put back is, in memory at least, and nothing is left to be put back then.
It is in the file after the next write that succeeds, with what was counted towards it by then. -/
structure Restores (facilities : Facilities ω) (wallet : OpenWallet ω) (r : PaymentRequest) :
    Prop where
  moves : wallet.Moves r (some r) none (wallet.undoDelete facilities)
  read : (wallet.undoDelete facilities).1 = .ok (some r) →
    (wallet.undoDelete facilities).2.books.ReadAs
      ((wallet.undoDelete facilities).2.finds facilities)
  later : ∀ credits since,
    Passage facilities r.address credits (wallet.undoDelete facilities).2 since →
      since.undoDelete facilities = (.ok none, since) ∧
      ∀ written, since.Writes facilities (.ok ()) written →
        written.books.requests.get? r.address = since.books.requests.get? r.address →
          written.books.requests.get? r.address = some (r.creditedWith credits) ∧
            written.books.ReadAs (written.finds facilities)

theorem restores_of_lastDeleted (faithful : facilities.cipher.Faithful)
    (slot : wallet.books.requests.lastDeleted = some r) : wallet.Restores facilities r := by
  have moves : wallet.Moves r (some r) none (wallet.undoDelete facilities) := moves_undoDelete slot
  constructor
  · exact moves
  · intro ended
    have restored : wallet.undoDelete facilities =
        (.ok (some r), (wallet.undoDelete facilities).2) := Prod.ext ended rfl
    have writes := Writes.undo restored (by simp)
    exact writes.readAs faithful
  · intro credits since passage
    obtain ⟨entry, left⟩ := passage.requests_eq
    rw [moves.lastDeleted] at left
    rw [moves.requests, if_pos rfl] at entry
    refine ⟨undoDelete_of_lastDeleted_eq_none left, fun written writes same => ?_⟩
    exact ⟨same.trans entry, writes.readAs faithful⟩

/-- Deleting an address without a request changes nothing, the file included. A request that is
deleted, be it stored or not, can be put back after whatever steps that do not disturb it, and so
it can after any further step, unless that one does; after another one is deleted only that one
can. If it is put back and stored at once, then the file holds the books from before. -/
theorem recovered_of_delete (faithful : facilities.cipher.Faithful) (wallet : OpenWallet ω) :
    (∀ absent, wallet.books.requests.get? absent = none →
      wallet.deleteRequest facilities absent = (.ok none, wallet)) ∧
    ∀ address r, wallet.books.requests.get? address = some r →
      wallet.Moves r none (some r) (wallet.deleteRequest facilities address) ∧
      (∀ credits later,
        Passage facilities address credits (wallet.deleteRequest facilities address).2 later →
          later.Restores facilities r ∧
          (∀ next, Step facilities later next →
            Disturbs facilities address later next ∨ ∃ more,
              Passage facilities address (credits ++ more)
                (wallet.deleteRequest facilities address).2 next) ∧
          ∀ other s, later.books.requests.get? other = some s →
            (later.deleteRequest facilities other).2.Restores facilities s ∧
              ((later.deleteRequest facilities other).2.undoDelete facilities).2.books.requests.get?
                address = none) ∧
      (((wallet.deleteRequest facilities address).2.undoDelete facilities).1 = .ok (some r) →
        wallet.books.ReadAs
          (((wallet.deleteRequest facilities address).2.undoDelete facilities).2.finds
            facilities)) := by
  refine ⟨fun absent absence => deleteRequest_of_get?_eq_none absence, ?_⟩
  intro address r stored
  obtain rfl : r.address = address := Register.key_of_get? stored
  have deleted : wallet.Moves r none (some r) (wallet.deleteRequest facilities r.address) :=
    moves_deleteRequest stored
  refine ⟨deleted, ?_, ?_⟩
  · intro credits later passage
    obtain ⟨entry, slot⟩ := passage.requests_eq
    rw [deleted.requests, if_pos rfl, Option.map_none] at entry
    rw [deleted.lastDeleted] at slot
    refine ⟨restores_of_lastDeleted faithful slot, ?_, ?_⟩
    · intro next step
      rcases step.disturbs_or_passes r.address with disturbs | ⟨more, passes⟩
      · exact .inl disturbs
      · exact .inr ⟨more, passage.tail passes⟩
    · intro other s stored
      have again : later.Moves s none (some s) (later.deleteRequest facilities other) :=
        moves_deleteRequest stored
      have restores := restores_of_lastDeleted faithful again.lastDeleted
      refine ⟨restores, ?_⟩
      have place : s.address = other := Register.key_of_get? stored
      have apart : s.address ≠ r.address := by
        intro same
        rw [← place, same, entry] at stored
        cases stored
      rw [restores.moves.requests, if_neg apart, again.requests, if_neg apart, entry]
  · intro ended
    have restores := restores_of_lastDeleted faithful deleted.lastDeleted
    refine (restores.read ended).congr ?_ ?_
    · intro place
      rw [restores.moves.requests, deleted.requests]
      by_cases here : r.address = place
      · rw [if_pos here, ← here, stored]
      · rw [if_neg here, if_neg here]
    · rw [restores.moves.memos, deleted.memos]

theorem recovered_of_delete_busy :
    let facilities := RehearsalWallet.facilities labelCipher false
    let deleted := (busyWallet.deleteRequest facilities "address").2
    busyWallet.books.requests.get? "address" = some nearbyRequest ∧
      deleted.books.requests.entries = [] ∧
      (deleted.undoDelete facilities).1 = .ok (some nearbyRequest) ∧
      busyWallet.books.ReadAs ((deleted.undoDelete facilities).2.finds facilities) := by
  have stored : busyWallet.books.requests.get? "address" = some nearbyRequest := by rfl
  have ended : ((busyWallet.deleteRequest (RehearsalWallet.facilities labelCipher false)
      "address").2.undoDelete (RehearsalWallet.facilities labelCipher false)).1 =
        .ok (some nearbyRequest) := by rfl
  have faithful : (RehearsalWallet.facilities labelCipher false).cipher.Faithful :=
    labelCipher_faithful
  have recovered := (recovered_of_delete faithful busyWallet).2 "address" nearbyRequest stored
  exact ⟨stored, by rfl, ended, recovered.2.2 ended⟩

/-- A request from the leap second at the end of the first minute that is deleted and put back
cannot be read from the file, although both calls succeed. -/
theorem unreadable_after_undo :
    let facilities := RehearsalWallet.facilities labelCipher false
    let bill : PaymentRequest :=
      { address := "address", amount := 5,
        date := ⟨59, 1000000000, by decide, by decide, by decide, by decide⟩ }
    let wallet := (rehearsedWallet.addRequest bill).2
    let deleted := wallet.deleteRequest facilities "address"
    let undone := deleted.2.undoDelete facilities
    wallet.Reached facilities ∧ deleted.1 = .ok (some bill) ∧ undone.1 = .ok (some bill) ∧
      undone.2.books.requests.entries = [bill] ∧
      undone.2.finds facilities = .error (.malformed (.requestWithoutDate "address")) := by
  refine ⟨?_, ?_, ?_, ?_, ?_⟩
  · exact .step (.opened rfl isHoused_rehearsedWallet) (.addRequest _ _)
      (isHoused_rehearsedWallet.addRequest _)
  all_goals rfl

end OpenWallet
end PaymentVault
