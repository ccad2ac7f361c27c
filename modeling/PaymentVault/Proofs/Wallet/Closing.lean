import PaymentVault.Proofs.Wallet.Storing

/-!
# Opening a wallet and closing it

A wallet that is opened and closed with nothing done in between writes what it has read. If the
file could be read, the same books are in it afterwards, unless a request is from a leap second. If
it could not, the books that are written are empty, and what was in the file is gone
(`load_shutdown_initialise`); so it goes with a file under another credential
(`unread_file_is_replaced`).
-/
namespace PaymentVault

/-- The books that opening finds in a file, empty if nothing could be read. -/
def Books.found : Except VaultError (Option Snapshot) → Books
  | .ok snapshot => empty.loaded snapshot
  | .error _ => empty

/-- What could be read of a payments file before, and what can be read of it after the books that
were found have been written. -/
inductive Rewritten :
    Except VaultError (Option Snapshot) → Except VaultError (Option Snapshot) → Prop
  | kept {snapshot again : Snapshot}
    (same : (Books.empty.loaded (some again)).Same (Books.empty.loaded (some snapshot))) :
    Rewritten (.ok (some snapshot)) (.ok (some again))
  | leap {snapshot : Snapshot} {r : PaymentRequest}
    (first : (Books.empty.loaded (some snapshot)).snapshot.firstLeap? = some r) :
    Rewritten (.ok (some snapshot)) (.error (.malformed (.requestWithoutDate r.address)))
  | begun : Rewritten (.ok none) (.ok (some {}))
  | lost (cause : VaultError) : Rewritten (.error cause) (.ok (some {}))

/-- Books that were found and written are found again, except that no leap second is. -/
theorem Rewritten.of_keeps {file : PaymentsFile} {cipher : KeyCipher} {credential : String}
    {disk : Disk} {before : Except VaultError (Option Snapshot)} (faithful : cipher.Faithful)
    (keeps : file.Keeps cipher credential (Books.found before).snapshot disk) :
    Rewritten before (file.load cipher credential disk) := by
  rw [keeps.load_eq faithful]
  rcases before with cause | _ | snapshot
  · exact .lost cause
  · exact .begun
  · cases first : (Books.found (.ok (some snapshot))).snapshot.firstLeap? with
    | none => exact .kept (Books.same_loaded (Books.enumerates_snapshot _) _)
    | some r => exact .leap first

namespace OpenWallet

variable {ω : Type} {facilities : Facilities ω} {wallet opened : OpenWallet ω}

variable (facilities) in
/-- The wallet was opened, and its payments file is as it was. -/
structure OpensTo (wallet opened : OpenWallet ω) : Prop where
  directory : opened.directory = wallet.directory
  credential : opened.credential = wallet.credential
  read : opened.around.disk.read wallet.paymentsFile.path =
    wallet.around.disk.read wallet.paymentsFile.path
  books : opened.books = Books.found
    (wallet.paymentsFile.load facilities.cipher wallet.credential wallet.around.disk)

/-- Opening makes no file. Where it fails, nothing happens and the books cannot be saved. -/
theorem initialise_cases (fresh : wallet.desk = {}) (housed : wallet.IsHoused) :
    (wallet.initialise facilities).2 = wallet ∧
        (∃ fault, (wallet.save facilities).1 = .error fault) ∨
      wallet.OpensTo facilities (wallet.initialise facilities).2 := by
  obtain ⟨place, leads⟩ := housed
  have read := PaymentsFile.read_ensureDirectory leads
  change (wallet.around.disk.ensureDirectory wallet.paymentsFile.directory).2.read
    wallet.paymentsFile.path = _ at read
  rcases ensured : wallet.around.disk.ensureDirectory wallet.paymentsFile.directory with
    ⟨cause | ⟨⟩, disk⟩
  · obtain rfl := PaymentsFile.ensureDirectory_of_error leads ensured
    refine .inl ⟨?_, .saveFailure cause, ?_⟩
    · rw [initialise, ensured]
      rfl
    · rw [save, Books.save, PaymentsFile.save, ensured]
      rfl
  · rw [ensured] at read
    have same : (wallet.withDisk disk).paymentsFile.load facilities.cipher wallet.credential disk =
        wallet.paymentsFile.load facilities.cipher wallet.credential wallet.around.disk :=
      PaymentsFile.load_congr read
    rw [initialise, ensured]
    dsimp only
    cases outcome : wallet.paymentsFile.load facilities.cipher wallet.credential
      wallet.around.disk with
    | ok snapshot =>
      rw [load_eq_of_ok (same.trans outcome)]
      refine .inr ⟨rfl, rfl, read, ?_⟩
      rw [outcome]
      exact congrArg (fun desk : PaymentsDesk => desk.books.loaded snapshot) fresh
    | error cause =>
      rw [load_eq_of_error (same.trans outcome)]
      refine .inr ⟨rfl, rfl, read, ?_⟩
      rw [outcome]
      rfl

/-! ## Closing -/

theorem OpensTo.paymentsFile (opens : wallet.OpensTo facilities opened) :
    opened.paymentsFile = wallet.paymentsFile :=
  congrArg PaymentsFile.ofWallet opens.directory

/-- Closing writes the books that were found. -/
theorem OpensTo.keeps (opens : wallet.OpensTo facilities opened)
    (saved : (opened.save facilities).1 = .ok ()) :
    wallet.paymentsFile.Keeps facilities.cipher wallet.credential
      (Books.found (wallet.paymentsFile.load facilities.cipher wallet.credential
        wallet.around.disk)).snapshot (opened.shutdown facilities).around.disk := by
  cases done : (opened.paymentsFile.save facilities.cipher opened.credential
      opened.books.snapshot opened.around.disk).1 with
  | error cause =>
    have failed : (opened.save facilities).1 = .error (.saveFailure cause) :=
      congrArg (Except.mapError WalletFault.saveFailure) done
    rw [failed] at saved
    cases saved
  | ok =>
    have keeps := PaymentsFile.keeps_save done
    have closed : (opened.shutdown facilities).around.disk =
        (opened.paymentsFile.save facilities.cipher opened.credential opened.books.snapshot
          opened.around.disk).2 := rfl
    rwa [← closed, opens.paymentsFile, opens.credential, opens.books] at keeps

/-- So much of what was found is read again, under any credential with the key of the wallet. -/
theorem OpensTo.rewritten (opens : wallet.OpensTo facilities opened)
    (faithful : facilities.cipher.Faithful) (saved : (opened.save facilities).1 = .ok ())
    {credential : String}
    (same : facilities.cipher.deriveKey credential =
      facilities.cipher.deriveKey wallet.credential) :
    Rewritten
      (wallet.paymentsFile.load facilities.cipher credential wallet.around.disk)
      (wallet.paymentsFile.load facilities.cipher credential
        (opened.shutdown facilities).around.disk) := by
  rw [PaymentsFile.load_eq_of_deriveKey same, PaymentsFile.load_eq_of_deriveKey same]
  exact .of_keeps faithful (opens.keeps saved)

/-- What is left of a payments file when its wallet is opened in its directory and closed. It is as
it was if the closing write fails. Otherwise the books that opening found are in it, sealed under
the credential of the wallet, and so much of them is read as can be. -/
theorem load_shutdown_initialise (faithful : facilities.cipher.Faithful)
    (fresh : wallet.desk = {}) (housed : wallet.IsHoused) :
    let opened := (wallet.initialise facilities).2
    let closed := opened.shutdown facilities
    let before credential :=
      wallet.paymentsFile.load facilities.cipher credential wallet.around.disk
    let after credential :=
      wallet.paymentsFile.load facilities.cipher credential closed.around.disk
    (∀ fault, (opened.save facilities).1 = .error fault →
      ∀ credential, after credential = before credential) ∧
      ((opened.save facilities).1 = .ok () →
        wallet.paymentsFile.Keeps facilities.cipher wallet.credential
            (Books.found (before wallet.credential)).snapshot closed.around.disk ∧
          ∀ credential, facilities.cipher.deriveKey credential =
              facilities.cipher.deriveKey wallet.credential →
            Rewritten (before credential) (after credential)) := by
  dsimp only
  constructor
  · intro fault failed credential
    have seals : (wallet.initialise facilities).2.Seals facilities (.error fault) _ :=
      failed ▸ Writes.shutdown.seals
    have left := seals.load_eq housed.initialise credential
    rcases initialise_cases fresh housed with ⟨unopened, -⟩ | opens
    · rw [unopened] at left ⊢
      exact left
    · rw [opens.paymentsFile] at left
      exact left.trans (PaymentsFile.load_congr opens.read)
  · intro saved
    rcases initialise_cases fresh housed with ⟨unopened, fault, failed⟩ | opens
    · rw [unopened, failed] at saved
      cases saved
    · exact ⟨opens.keeps saved, fun credential same => opens.rewritten faithful saved same⟩

/-- A wallet that was closed after its books had been stored. -/
def storedWallet : OpenWallet RehearsalWallet :=
  (busyWallet.save (RehearsalWallet.facilities labelCipher false)).2.reopened

theorem load_shutdown_initialise_stored :
    let facilities := RehearsalWallet.facilities labelCipher false
    let opened := (storedWallet.initialise facilities).2
    (opened.save facilities).1 = .ok () ∧
      Rewritten
        (storedWallet.paymentsFile.load labelCipher "old" storedWallet.around.disk)
        (storedWallet.paymentsFile.load labelCipher "old"
          (opened.shutdown facilities).around.disk) := by
  dsimp only
  have after : (busyWallet.save (RehearsalWallet.facilities labelCipher false)).2.IsHoused :=
    isHoused_busyWallet.save
  have stored : storedWallet.IsHoused := after
  have saved : ((storedWallet.initialise (RehearsalWallet.facilities labelCipher false)).2.save
      (RehearsalWallet.facilities labelCipher false)).1 = .ok () := by rfl
  have left := (load_shutdown_initialise labelCipher_faithful rfl stored).2 saved
  exact ⟨saved, left.2 "old" rfl⟩

/-- A wallet whose payments are sealed under a credential that is not its own. -/
def strandedWallet : OpenWallet RehearsalWallet :=
  rehearsedWallet.withDisk (rehearsedWallet.paymentsFile.save labelCipher "new"
    busyWallet.books.snapshot rehearsedWallet.around.disk).2

/-- Payments that could be read under another credential are gone when a wallet that could not
read them is closed. -/
theorem unread_file_is_replaced :
    let facilities := RehearsalWallet.facilities labelCipher false
    let opened := (strandedWallet.initialise facilities).2
    let load credential (wallet : OpenWallet RehearsalWallet) :=
      strandedWallet.paymentsFile.load labelCipher credential wallet.around.disk
    load "new" strandedWallet = .ok (some busyWallet.books.snapshot.settled) ∧
      opened.desk.loadFailure = some (.loadFailure (.decryption "other label")) ∧
      load "new" (opened.shutdown facilities) = .error (.decryption "other label") ∧
      load "old" (opened.shutdown facilities) = .ok (some {}) := by
  refine ⟨?_, ?_, ?_, ?_⟩
  all_goals rfl

end OpenWallet
end PaymentVault
