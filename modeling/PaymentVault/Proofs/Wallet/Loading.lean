import PaymentVault.Proofs.Wallet.Closing

/-!
# What loading leaves of the past

Two wallets that find the same payments file have the same requests and memos once the file is
loaded, whatever was done with each of them before. The request that can be put back is another
matter. It is forgotten if there is no file or the file cannot be read, but it outlives a snapshot
that is loaded, and then each wallet can put back what it could before (`loaded_of_same_file`). So
a request that the file does not have may come back after the file was loaded
(`undo_outlives_load`).
-/
namespace PaymentVault

namespace Books

/-- The request that can be put back after loading: the one from before if there was a snapshot. -/
def keptToUndo (books : Books) : Except VaultError (Option Snapshot) → Option PaymentRequest
  | .ok (some _) => books.requests.lastDeleted
  | .ok none => none
  | .error _ => none

/-- The books after loading: what was found, and what can be put back from before. -/
structure HoldsFound (before : Books) (outcome : Except VaultError (Option Snapshot))
    (after : Books) : Prop where
  requests : after.requests.requests = (found outcome).requests.requests
  memos : after.memos = (found outcome).memos
  lastDeleted : after.requests.lastDeleted = before.keptToUndo outcome

theorem holdsFound_loaded (before : Books) (snapshot : Option Snapshot) :
    before.HoldsFound (.ok snapshot) (before.loaded snapshot) := by
  cases snapshot with
  | none => exact ⟨rfl, rfl, rfl⟩
  | some snapshot => exact ⟨rfl, rfl, rfl⟩

theorem holdsFound_empty (before : Books) (cause : VaultError) :
    before.HoldsFound (.error cause) empty := ⟨rfl, rfl, rfl⟩

end Books

namespace OpenWallet

variable {ω : Type} {facilities : Facilities ω} {wallet after : OpenWallet ω}

/-- What a wallet finds in its payments file. -/
def finds (facilities : Facilities ω) (wallet : OpenWallet ω) :
    Except VaultError (Option Snapshot) :=
  wallet.paymentsFile.load facilities.cipher wallet.credential wallet.around.disk

/-- The books were loaded, be it into an open wallet or by opening it in its directory. -/
inductive Loads (facilities : Facilities ω) (wallet after : OpenWallet ω) : Prop
  | load (loaded : wallet.load facilities = (.ok (), after))
  | initialise (housed : wallet.IsHoused) (opened : wallet.initialise facilities = (.ok (), after))

theorem holdsFound_of_load (loaded : wallet.load facilities = (.ok (), after)) :
    wallet.books.HoldsFound (wallet.finds facilities) after.books := by
  cases outcome : wallet.finds facilities with
  | error cause =>
    rw [load_eq_of_error outcome] at loaded
    cases loaded
  | ok snapshot =>
    rw [load_eq_of_ok outcome] at loaded
    cases loaded
    exact wallet.books.holdsFound_loaded snapshot

/-- Making the directory makes no file. -/
theorem IsHoused.finds_withDisk (housed : wallet.IsHoused) {result : Except VaultError Unit}
    {disk : Disk}
    (ensured : wallet.around.disk.ensureDirectory wallet.paymentsFile.directory = (result, disk)) :
    (wallet.withDisk disk).finds facilities = wallet.finds facilities := by
  obtain ⟨place, leads⟩ := housed
  have read := PaymentsFile.read_ensureDirectory leads
  change (wallet.around.disk.ensureDirectory wallet.paymentsFile.directory).2.read
    wallet.paymentsFile.path = _ at read
  rw [ensured] at read
  exact PaymentsFile.load_congr read

variable (facilities) in
/-- Opening finds what is in the file once the directory was made. -/
theorem holdsFound_initialise {disk : Disk}
    (ensured : wallet.around.disk.ensureDirectory wallet.paymentsFile.directory = (.ok (), disk)) :
    wallet.books.HoldsFound ((wallet.withDisk disk).finds facilities)
      (wallet.initialise facilities).2.books := by
  rw [initialise, ensured]
  dsimp only
  cases outcome : (wallet.withDisk disk).finds facilities with
  | ok snapshot =>
    rw [load_eq_of_ok outcome]
    exact wallet.books.holdsFound_loaded snapshot
  | error cause =>
    rw [load_eq_of_error outcome]
    exact wallet.books.holdsFound_empty cause

theorem exists_ensureDirectory_of_initialise
    (opened : wallet.initialise facilities = (.ok (), after)) :
    ∃ disk, wallet.around.disk.ensureDirectory wallet.paymentsFile.directory = (.ok (), disk) := by
  rcases ensured : wallet.around.disk.ensureDirectory wallet.paymentsFile.directory with
    ⟨cause | ⟨⟩, disk⟩
  · rw [initialise, ensured] at opened
    cases opened
  · exact ⟨disk, rfl⟩

theorem Loads.holdsFound (loads : wallet.Loads facilities after) :
    wallet.books.HoldsFound (wallet.finds facilities) after.books := by
  cases loads with
  | load loaded => exact holdsFound_of_load loaded
  | initialise housed opened =>
    obtain ⟨disk, ensured⟩ := exists_ensureDirectory_of_initialise opened
    have holds := holdsFound_initialise facilities ensured
    rwa [opened, housed.finds_withDisk ensured] at holds

/-- Of two wallets that have one directory, credential and payments file, whatever was done with
each: after loading, the requests and the memos of both are the same. What can be put back is
nothing in both, except that after a snapshot was found it is in each what it was before. -/
theorem loaded_of_same_file {other later : OpenWallet ω}
    (directory : other.directory = wallet.directory)
    (credential : other.credential = wallet.credential)
    (file : other.around.disk.read other.paymentsFile.path =
      wallet.around.disk.read wallet.paymentsFile.path)
    (loads : wallet.Loads facilities after) (otherLoads : other.Loads facilities later) :
    later.books.requests.requests = after.books.requests.requests ∧
      later.books.memos = after.books.memos ∧
      match wallet.finds facilities with
      | .ok (some _) =>
        after.books.requests.lastDeleted = wallet.books.requests.lastDeleted ∧
          later.books.requests.lastDeleted = other.books.requests.lastDeleted
      | .ok none | .error _ =>
        after.books.requests.lastDeleted = none ∧ later.books.requests.lastDeleted = none := by
  have one := loads.holdsFound
  have two := otherLoads.holdsFound
  have files : other.paymentsFile = wallet.paymentsFile :=
    congrArg PaymentsFile.ofWallet directory
  have same : other.finds facilities = wallet.finds facilities := by
    rw [files] at file
    rw [finds, files, credential]
    exact PaymentsFile.load_congr file
  rw [same] at two
  refine ⟨two.requests.trans one.requests.symm, two.memos.trans one.memos.symm, ?_⟩
  have kept := one.lastDeleted
  have otherKept := two.lastDeleted
  rcases outcome : wallet.finds facilities with cause | _ | snapshot
  · rw [outcome] at kept otherKept
    exact ⟨kept, otherKept⟩
  · rw [outcome] at kept otherKept
    exact ⟨kept, otherKept⟩
  · rw [outcome] at kept otherKept
    exact ⟨kept, otherKept⟩

/-! ## An instance -/

/-- A wallet whose only request was deleted and is not in the file any more. -/
def clearedWallet : OpenWallet RehearsalWallet :=
  (busyWallet.deleteRequest (RehearsalWallet.facilities labelCipher false) "address").2

theorem isHoused_clearedWallet : clearedWallet.IsHoused := by
  have taken : (busyWallet.withBooks { busyWallet.books with
      requests := (busyWallet.books.requests.delete "address").2 }).IsHoused := isHoused_busyWallet
  exact taken.saveAfter _

theorem reached_clearedWallet :
    clearedWallet.Reached (RehearsalWallet.facilities labelCipher false) :=
  reached_busyWallet.step (.deleteRequest _ "address") isHoused_clearedWallet

theorem loaded_of_same_file_cleared :
    let facilities := RehearsalWallet.facilities labelCipher false
    let one := (clearedWallet.load facilities).2
    let other := (clearedWallet.reopened.initialise facilities).2
    other.books.requests.requests = one.books.requests.requests ∧
      other.books.memos = one.books.memos ∧
      clearedWallet.finds facilities =
        .ok (some { memos := [{ hash := "hash", minerFee := some 0 }] }) ∧
      one.books.requests.lastDeleted = some nearbyRequest ∧
      other.books.requests.lastDeleted = none := by
  intro facilities one other
  have found : clearedWallet.finds facilities =
      .ok (some { memos := [{ hash := "hash", minerFee := some 0 }] }) := by rfl
  have directory : clearedWallet.reopened.directory = clearedWallet.directory := rfl
  have loads : clearedWallet.Loads facilities one := .load (Prod.ext (by rfl) rfl)
  have otherLoads : clearedWallet.reopened.Loads facilities other :=
    .initialise isHoused_clearedWallet (Prod.ext (by rfl) rfl)
  obtain ⟨requests, memos, slots⟩ := loaded_of_same_file directory rfl rfl loads otherLoads
  rw [found] at slots
  exact ⟨requests, memos, found, slots.1, slots.2⟩

/-- A request that was deleted before the file was loaded can be put back after it, although the
file does not have it and a wallet that was opened anew over the same file has nothing to put
back. -/
theorem undo_outlives_load :
    let facilities := RehearsalWallet.facilities labelCipher false
    let one := clearedWallet.load facilities
    let other := clearedWallet.reopened.load facilities
    clearedWallet.Reached facilities ∧ clearedWallet.reopened.Reached facilities ∧
      one.1 = .ok () ∧ other.1 = .ok () ∧
      (one.2.undoDelete facilities).1 = .ok (some nearbyRequest) ∧
      (other.2.undoDelete facilities).1 = .ok none := by
  refine ⟨reached_clearedWallet, .opened rfl isHoused_clearedWallet, ?_, ?_, ?_, ?_⟩
  all_goals rfl

end OpenWallet
end PaymentVault
