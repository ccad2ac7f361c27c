import PaymentVault.Proofs.Ledger.Requests
import PaymentVault.Proofs.Vault.PaymentsFile
import PaymentVault.Wallet.Payments

/-!
# Readable wallets

A wallet is readable under a credential if the lock, the summary file and the payments file all
go with it and with what the wallet has in memory. No operation on the payments changes that.
-/
namespace PaymentVault

variable {ω : Type}

namespace Lock

/-- The keys are encrypted, and one credential is accepted for them. -/
def IsUnder (lock : Lock ω) (IsEncrypted : ω → Prop) (credential : String) (rest : ω) : Prop :=
  IsEncrypted rest ∧ ∀ other, lock.accepts other rest ↔ other = credential

/-- Encrypting makes the credential the one that is accepted, and a call that fails changes
nothing. -/
structure Lawful (lock : Lock ω) (IsEncrypted : ω → Prop) : Prop where
  encrypt_ok : ∀ {credential rest rest'}, lock.encrypt credential rest = (.ok (), rest') →
    lock.IsUnder IsEncrypted credential rest'
  encrypt_error : ∀ {credential cause former rest rest'},
    lock.encrypt credential rest = (.error cause, rest') →
    lock.IsUnder IsEncrypted former rest → lock.IsUnder IsEncrypted former rest'
  decrypt_error : ∀ {credential cause former rest rest'},
    lock.decrypt credential rest = (.error cause, rest') →
    lock.IsUnder IsEncrypted former rest → lock.IsUnder IsEncrypted former rest'

end Lock

/-- The files of a wallet and its lock are as they were. -/
structure LeavesAlone (lock : Lock ω) (IsEncrypted : ω → Prop) (directory : FilePath)
    (around later : Surroundings ω) :
    Prop where
  summary : later.disk.read (WalletSummary.path directory) =
    around.disk.read (WalletSummary.path directory)
  payments : later.disk.read (PaymentsFile.ofWallet directory).path =
    around.disk.read (PaymentsFile.ofWallet directory).path
  lock : ∀ credential, lock.IsUnder IsEncrypted credential around.rest →
    lock.IsUnder IsEncrypted credential later.rest

namespace OpenWallet

variable (facilities : Facilities ω) (IsEncrypted : ω → Prop) (backupKey : WalletKey)
  (credential : String)

/-- Whoever has the credential gets at everything, and so does whoever has the backup key. -/
structure ReadableUnder (wallet : OpenWallet ω) : Prop where
  entered : wallet.credential = credential
  locked : facilities.lock.IsUnder IsEncrypted credential wallet.around.rest
  filed : WalletSummary.read wallet.summaryPath wallet.around.disk = .ok wallet.summary
  secured : wallet.summary.Secures facilities.cipher credential backupKey
  stored : wallet.paymentsFile.IsReadable facilities.cipher credential wallet.around.disk

/-- Moreover no request is from a leap second, neither in the books nor in the file. -/
structure StandsUnder (wallet : OpenWallet ω) : Prop where
  entered : wallet.credential = credential
  locked : facilities.lock.IsUnder IsEncrypted credential wallet.around.rest
  filed : WalletSummary.read wallet.summaryPath wallet.around.disk = .ok wallet.summary
  secured : wallet.summary.Secures facilities.cipher credential backupKey
  stored : wallet.paymentsFile.IsSound facilities.cipher credential wallet.around.disk
  ordinary : wallet.books.requests.Forall fun r => r.date.IsOrdinary

variable {facilities IsEncrypted backupKey credential} {wallet : OpenWallet ω}

theorem save_snd (wallet : OpenWallet ω) :
    (wallet.save facilities).2 =
      wallet.withDisk
        (wallet.paymentsFile.save facilities.cipher wallet.credential wallet.books.snapshot
          wallet.around.disk).2 :=
  rfl

theorem StandsUnder.readable
    (stands : wallet.StandsUnder facilities IsEncrypted backupKey credential) :
    wallet.ReadableUnder facilities IsEncrypted backupKey credential where
  entered := stands.entered
  locked := stands.locked
  filed := stands.filed
  secured := stands.secured
  stored := stands.stored.readable

/-- Funding a request does not change its date. -/
theorem ordinary_fundedBy (hash : String) (value : UInt64) (r : PaymentRequest)
    (ordinary : r.date.IsOrdinary) :
    (r.fundedBy hash value).date.IsOrdinary := by
  rwa [PaymentRequest.date_fundedBy]

namespace StandsUnder

variable (stands : wallet.StandsUnder facilities IsEncrypted backupKey credential)
include stands

/-- What is stored has ordinary dates if the books have. -/
theorem snapshot : wallet.books.snapshot.HasOrdinaryDates :=
  fun _ member => stands.ordinary.of_mem_entries member

theorem withAround {around : Surroundings ω}
    (alone : LeavesAlone facilities.lock IsEncrypted wallet.directory wallet.around around) :
    { wallet with around }.StandsUnder facilities IsEncrypted backupKey credential where
  entered := stands.entered
  locked := alone.lock credential stands.locked
  filed := (WalletSummary.read_congr alone.summary).trans stands.filed
  secured := stands.secured
  stored := stands.stored.congr alone.payments
  ordinary := stands.ordinary

theorem withBooks {books : Books} (ordinary : books.requests.Forall fun r => r.date.IsOrdinary) :
    (wallet.withBooks books).StandsUnder facilities IsEncrypted backupKey credential where
  entered := stands.entered
  locked := stands.locked
  filed := stands.filed
  secured := stands.secured
  stored := stands.stored
  ordinary := ordinary

theorem withDisk {disk : Disk}
    (filed : WalletSummary.read wallet.summaryPath disk = .ok wallet.summary)
    (stored : wallet.paymentsFile.IsSound facilities.cipher credential disk) :
    (wallet.withDisk disk).StandsUnder facilities IsEncrypted backupKey credential where
  entered := stands.entered
  locked := stands.locked
  filed := filed
  secured := stands.secured
  stored := stored
  ordinary := stands.ordinary

/-! ## Storing and loading -/

/-- The payments file is sound after a save under the credential of the wallet, whether or not
that went well. -/
theorem stored_save (faithful : facilities.cipher.Faithful) :
    wallet.paymentsFile.IsSound facilities.cipher credential
      (wallet.paymentsFile.save facilities.cipher credential wallet.books.snapshot
        wallet.around.disk).2 := by
  obtain ⟨place, leads⟩ := PaymentsFile.leadsTo_of_filed stands.filed
  rcases saved : (wallet.paymentsFile.save facilities.cipher credential wallet.books.snapshot
    wallet.around.disk).1 with cause | ⟨⟩
  · exact stands.stored.congr (PaymentsFile.read_save_of_error leads saved)
  · exact PaymentsFile.isSound_save faithful stands.snapshot saved

theorem save (faithful : facilities.cipher.Faithful) :
    (wallet.save facilities).2.StandsUnder facilities IsEncrypted backupKey credential := by
  have filed : WalletSummary.read wallet.summaryPath
      (wallet.paymentsFile.save facilities.cipher credential wallet.books.snapshot
        wallet.around.disk).2 =
        .ok wallet.summary := PaymentsFile.read_summary_save stands.filed
  rw [save_snd, stands.entered]
  exact stands.withDisk filed (stands.stored_save faithful)

theorem load :
    (wallet.load facilities).2.StandsUnder facilities IsEncrypted backupKey credential := by
  unfold OpenWallet.load
  rw [stands.entered]
  cases loaded : wallet.paymentsFile.load facilities.cipher credential wallet.around.disk with
  | error cause => exact stands
  | ok found =>
    cases found with
    | none => exact stands.withBooks .empty
    | some snapshot =>
      exact stands.withBooks (stands.ordinary.replaceAll (stands.stored.ordinary snapshot loaded))

/-! ## Requests, memos and transactions -/

theorem addRequest {request : PaymentRequest} (ordinary : request.date.IsOrdinary) :
    (wallet.addRequest request).2.StandsUnder facilities IsEncrypted backupKey credential := by
  unfold OpenWallet.addRequest
  cases request.validate with
  | error cause => exact stands
  | ok => exact stands.withBooks (stands.ordinary.insert ordinary)

theorem addMemo (memo : Memo) :
    (wallet.addMemo memo).2.StandsUnder facilities IsEncrypted backupKey credential := by
  unfold OpenWallet.addMemo
  cases memo.validate with
  | error cause => exact stands
  | ok => exact stands.withBooks stands.ordinary

theorem saveAfter (faithful : facilities.cipher.Faithful) (changed : Option PaymentRequest) :
    (wallet.saveAfter facilities changed).2.StandsUnder facilities IsEncrypted backupKey
      credential := by
  cases changed with
  | none => exact stands
  | some request => exact stands.save faithful

theorem deleteRequest (faithful : facilities.cipher.Faithful) (address : String) :
    (wallet.deleteRequest facilities address).2.StandsUnder facilities IsEncrypted
      backupKey credential :=
  (stands.withBooks (stands.ordinary.delete address)).saveAfter faithful _

theorem undoDelete (faithful : facilities.cipher.Faithful) :
    (wallet.undoDelete facilities).2.StandsUnder facilities IsEncrypted backupKey credential :=
  (stands.withBooks stands.ordinary.undoDelete).saveAfter faithful _

theorem adapt (tx : LedgerTransaction) :
    (wallet.adapt facilities tx).2.StandsUnder facilities IsEncrypted backupKey credential :=
  stands.withBooks (Books.forall_adapt ordinary_fundedBy _ _ _ tx stands.ordinary)

theorem noteSeen (hash : String) (amount : Int64) :
    (wallet.noteSeen facilities hash amount).2.StandsUnder facilities IsEncrypted
      backupKey credential :=
  stands.withBooks stands.ordinary

theorem list :
    (wallet.list facilities).2.StandsUnder facilities IsEncrypted backupKey credential := by
  have ordinary :=
    Books.forall_adaptAll ordinary_fundedBy (facilities.view wallet.around.rest) facilities.resolve
    (facilities.rate wallet.around.rest)
      (facilities.view wallet.around.rest).transactions stands.ordinary
  unfold OpenWallet.list
  rcases adapted : wallet.books.adaptAll (facilities.view wallet.around.rest) facilities.resolve
    (facilities.rate wallet.around.rest) (facilities.view wallet.around.rest).transactions with
      ⟨cause | payments, books⟩
  · rw [adapted] at ordinary
    simp only [adapted]
    exact stands.withBooks ordinary
  · rw [adapted] at ordinary
    simp only [adapted]
    have booked := stands.withBooks ordinary
    exact ⟨booked.entered, booked.locked, booked.filed, booked.secured, booked.stored, ordinary⟩

end StandsUnder
end OpenWallet
end PaymentVault
