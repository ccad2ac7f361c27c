import PaymentVault.Proofs.Rotation.Readable

/-!
# What is done with an open wallet

Rotations of the credential and operations on the payments follow each other in any order. An
action is mild unless it is one of the few that can make a wallet unreadable.
-/
namespace PaymentVault

open Rotation

variable {σ ω : Type}

/-- What can be done with an open wallet. -/
inductive Action (ω : Type) where
  | rotate (old new : String)
  | addRequest (request : PaymentRequest)
  | addMemo (memo : Memo)
  | adapt (tx : LedgerTransaction)
  | list
  | noteSeen (hash : String) (amount : Int64)
  | deleteRequest (address : String)
  | undoDelete
  | save
  | load
  | shutdown
  /-- Nothing is done, and meanwhile what is around the wallet changes. -/
  | wait (around : Surroundings ω)

/-- What an open wallet and its rotations rely on. -/
structure Engine (σ ω : Type) where
  facilities : Facilities ω
  cipher : ChangingCipher σ
  stores : OpenWallet ω → List (BoundStore ω)

namespace Engine

/-- The wallet after an action, and the state of the cipher of rotations. -/
def perform (engine : Engine σ ω) : Action ω → OpenWallet ω × σ → OpenWallet ω × σ
  | .rotate old new, (wallet, s) =>
    (Rotation.rotate engine.facilities.lock engine.cipher (engine.stores wallet) old new wallet s).2
  | .addRequest request, (wallet, s) => ((wallet.addRequest request).2, s)
  | .addMemo memo, (wallet, s) => ((wallet.addMemo memo).2, s)
  | .adapt tx, (wallet, s) => ((wallet.adapt engine.facilities tx).2, s)
  | .list, (wallet, s) => ((wallet.list engine.facilities).2, s)
  | .noteSeen hash amount, (wallet, s) => ((wallet.noteSeen engine.facilities hash amount).2, s)
  | .deleteRequest address, (wallet, s) => ((wallet.deleteRequest engine.facilities address).2, s)
  | .undoDelete, (wallet, s) => ((wallet.undoDelete engine.facilities).2, s)
  | .save, (wallet, s) => ((wallet.save engine.facilities).2, s)
  | .load, (wallet, s) => ((wallet.load engine.facilities).2, s)
  | .shutdown, (wallet, s) => (wallet.shutdown engine.facilities, s)
  | .wait around, (wallet, s) => ({ wallet with around }, s)

/-- The credential in force after an action. -/
def credentialAfter (engine : Engine σ ω) (credential : String) :
    Action ω → OpenWallet ω × σ → String
  | .rotate old new, (wallet, s) =>
    inForce credential new
      (Rotation.rotate engine.facilities.lock engine.cipher (engine.stores wallet)
        old new wallet s).1
  | _, _ => credential

/-- The laws of those that an engine relies on. -/
structure Sound (engine : Engine σ ω) (IsEncrypted : ω → Prop) : Prop where
  faithful : engine.facilities.cipher.Faithful
  truthful : engine.cipher.Truthful engine.facilities.cipher
  lawful : engine.facilities.lock.Lawful IsEncrypted
  bound : ∀ wallet, BindsPayments engine.facilities IsEncrypted wallet (engine.stores wallet)

/-- An action that cannot do lasting harm: a rotation that recovers if it fails, a request that
can be stored, a change elsewhere. -/
def IsMild (engine : Engine σ ω) (IsEncrypted : ω → Prop) : Action ω → OpenWallet ω × σ → Prop
  | .rotate old new, (wallet, s) =>
    ∀ calls ending, Makes engine.facilities.lock engine.cipher (engine.stores wallet) old new wallet
      s calls ending →
      Recovers (PaymentsAt engine.facilities.cipher wallet (engine.stores wallet)) calls
  | .addRequest request, _ => request.date.IsOrdinary
  | .wait around, (wallet, _) =>
    LeavesAlone engine.facilities.lock IsEncrypted wallet.directory wallet.around around
  | _, _ => True

/-- Mild actions one after another. -/
inductive Course (engine : Engine σ ω) (IsEncrypted : ω → Prop) :
    OpenWallet ω × σ → List (Action ω) → OpenWallet ω × σ → Prop where
  | nil (state) : Course engine IsEncrypted state [] state
  | cons {state final action actions} (mild : engine.IsMild IsEncrypted action state)
      (rest : Course engine IsEncrypted (engine.perform action state) actions final) :
    Course engine IsEncrypted state (action :: actions) final

end Engine

namespace OpenWallet

/-- A wallet that was made under a credential, and whose lock, summary file and payments file go
with it. -/
structure FoundedUnder (facilities : Facilities ω) (IsEncrypted : ω → Prop) (backupKey : WalletKey)
    (credential : String) (wallet : OpenWallet ω) : Prop where
  created : ∃ walletId name,
    WalletSummary.create walletId name credential facilities.cipher backupKey = .ok wallet.summary
  entered : wallet.credential = credential
  locked : facilities.lock.IsUnder IsEncrypted credential wallet.around.rest
  filed : WalletSummary.read wallet.summaryPath wallet.around.disk = .ok wallet.summary
  stored : wallet.paymentsFile.IsReadable facilities.cipher credential wallet.around.disk

/-- No request of a wallet is from a leap second, be it in the books or in the file. -/
structure HasOrdinaryDates (cipher : KeyCipher) (wallet : OpenWallet ω) : Prop where
  booked : wallet.books.requests.Forall fun r => r.date.IsOrdinary
  stored : ∀ snapshot, wallet.paymentsFile.load cipher wallet.credential wallet.around.disk =
    .ok (some snapshot) →
    snapshot.HasOrdinaryDates

theorem FoundedUnder.stands {facilities : Facilities ω} {IsEncrypted : ω → Prop}
    {backupKey : WalletKey} {credential : String} {wallet : OpenWallet ω}
    (faithful : facilities.cipher.Faithful)
    (founded : wallet.FoundedUnder facilities IsEncrypted backupKey credential)
    (ordinary : wallet.HasOrdinaryDates facilities.cipher) :
    wallet.StandsUnder facilities IsEncrypted backupKey credential := by
  obtain ⟨⟨walletId, name, created⟩, rfl, locked, filed, stored⟩ := founded
  exact ⟨rfl, locked, filed, WalletSummary.secures_create faithful created,
    ⟨stored, ordinary.stored⟩, ordinary.booked⟩

end OpenWallet

end PaymentVault
