import PaymentVault.Ledger.Adaptation
import PaymentVault.Payment.Query
import PaymentVault.Vault.SealedFile
import PaymentVault.Vault.Summary
import PaymentVault.Wallet.Fault

/-!
# An open wallet

An open wallet has a directory on a disk, a summary and a credential, and keeps the books of its
payments. All else it meets, from the lock on its keys to the ledger, is of a type of its own
(`ω`), seen through a few functions.
-/
namespace PaymentVault

/-- A disk and whatever else there is around a wallet. -/
structure Surroundings (ω : Type) where
  disk : Disk
  rest : ω

/-- The lock on the keys of a wallet. -/
structure Lock (ω : Type) where
  accepts : String → ω → Bool
  /-- Takes the encryption off the keys. -/
  decrypt : String → ω → Except LedgerError Unit × ω
  /-- Encrypts the keys under a credential. -/
  encrypt : String → ω → Except LedgerError Unit × ω

/-- What an open wallet relies on. -/
structure Facilities (ω : Type) where
  cipher : KeyCipher
  resolve : AddressResolver
  view : ω → WalletView
  rate : ω → Option ExchangeRate
  lock : Lock ω

/-- The payments of a wallet in memory: the books, the list that was shown last, and why the
last load failed, unless that was told already. -/
structure PaymentsDesk where
  books : Books := .empty
  lastListed : List Payment := []
  loadFailure : Option WalletFault := none

structure OpenWallet (ω : Type) where
  directory : FilePath
  summary : WalletSummary
  credential : String
  desk : PaymentsDesk := {}
  around : Surroundings ω

namespace OpenWallet

variable {ω : Type}

def paymentsFile (wallet : OpenWallet ω) : PaymentsFile := .ofWallet wallet.directory

def summaryPath (wallet : OpenWallet ω) : FilePath := WalletSummary.path wallet.directory

def books (wallet : OpenWallet ω) : Books := wallet.desk.books

/-- The wallet with other books. -/
def withBooks (books : Books) (wallet : OpenWallet ω) : OpenWallet ω :=
  { wallet with desk := { wallet.desk with books } }

/-- The wallet with its disk changed. -/
def withDisk (disk : Disk) (wallet : OpenWallet ω) : OpenWallet ω :=
  { wallet with around := { wallet.around with disk } }

/-- The wallet opened anew, with empty books. -/
def reopened (wallet : OpenWallet ω) : OpenWallet ω := { wallet with desk := {} }

end OpenWallet
end PaymentVault
