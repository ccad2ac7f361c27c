import PaymentVault.Wallet.Basic

/-!
# Loading and storing the books

The books are written as one sealed snapshot. Loading replaces them by what the file holds, or
by nothing if there is no file, and leaves them alone if the file cannot be read. Starting up
with such a file gives empty books and keeps the failure to be told once.
-/
namespace PaymentVault

namespace Books

/-- The books as they are stored. -/
def snapshot (books : Books) : Snapshot where
  requests := books.requests.entries
  memos := books.memos.entries

/-- The books with their contents replaced by what a file held. -/
def loaded (books : Books) : Option Snapshot → Books
  | none => empty
  | some snapshot =>
    { requests := books.requests.replaceAll snapshot.requests
      memos := .ofList snapshot.memos }

/-- Writes the books to a payments file. -/
def save (file : PaymentsFile) (cipher : KeyCipher) (credential : String)
    (books : Books) (disk : Disk) :
    Except WalletFault Unit × Disk :=
  let (result, disk) := file.save cipher credential books.snapshot disk
  (result.mapError .saveFailure, disk)

end Books

namespace OpenWallet

variable {ω : Type} (facilities : Facilities ω)

/-- Replaces the books by what is stored. -/
def load (wallet : OpenWallet ω) : Except WalletFault Unit × OpenWallet ω :=
  match wallet.paymentsFile.load facilities.cipher wallet.credential wallet.around.disk with
  | .ok snapshot => (.ok (), wallet.withBooks (wallet.books.loaded snapshot))
  | .error cause => (.error (.loadFailure cause), wallet)

/-- Stores the books under the credential of the wallet. -/
def save (wallet : OpenWallet ω) : Except WalletFault Unit × OpenWallet ω :=
  let (result, disk) :=
    wallet.books.save wallet.paymentsFile facilities.cipher wallet.credential wallet.around.disk
  (result, wallet.withDisk disk)

/-- Makes the payments directory and loads the books. A file that cannot be read leaves them
empty. -/
def initialise (wallet : OpenWallet ω) : Except WalletFault Unit × OpenWallet ω :=
  match wallet.around.disk.ensureDirectory wallet.paymentsFile.directory with
  | (.error cause, disk) => (.error (.loadFailure cause), wallet.withDisk disk)
  | (.ok (), disk) =>
    match (wallet.withDisk disk).load facilities with
    | (.ok (), wallet) => (.ok (), wallet)
    | (.error fault, wallet) =>
      (.ok (),
        { wallet with desk := { wallet.desk with books := .empty, loadFailure := some fault } })

/-- The failure of the last start, told once. -/
def takeLoadFailure (wallet : OpenWallet ω) : Option WalletFault × OpenWallet ω :=
  (wallet.desk.loadFailure, { wallet with desk := { wallet.desk with loadFailure := none } })

/-- Stores the books a last time, whether or not that works. -/
def shutdown (wallet : OpenWallet ω) : OpenWallet ω := (wallet.save facilities).2

end OpenWallet
end PaymentVault
