import PaymentVault.Snapshot.Basic
import PaymentVault.Vault.Disk
import PaymentVault.Vault.Key

/-!
# Sealed files

A sealed file holds one container. Whatever fails on the way, a file keeps its content until a
new one is complete; and a file that is not there is reported before any key is derived. The
payments file of a wallet is the sealed file that holds a snapshot.
-/
namespace PaymentVault

namespace SealedFile

/-- Seals a text under a key and replaces a file by it. -/
def saveWithKey (cipher : KeyCipher) (path : FilePath) (key : WalletKey)
    (text : Bytes) (disk : Disk) :
    Except VaultError Unit × Disk :=
  match cipher.encrypt key text with
  | .error fault => (.error fault, disk)
  | .ok container => disk.write path container

/-- Seals a text under a credential and replaces a file by it. -/
def save (cipher : KeyCipher) (path : FilePath) (credential : String) (text : Bytes) (disk : Disk) :
    Except VaultError Unit × Disk :=
  match cipher.deriveKey credential with
  | .error fault => (.error fault, disk)
  | .ok key => saveWithKey cipher path key text disk

/-- The text sealed in a file. -/
def load (cipher : KeyCipher) (path : FilePath) (credential : String) (disk : Disk) :
    Except VaultError Bytes := do
  let container ← disk.read path
  let key ← cipher.deriveKey credential
  cipher.decrypt key container

end SealedFile

/-- Where the payments of a wallet are kept. -/
structure PaymentsFile where
  directory : FilePath
  path : FilePath

namespace PaymentsFile

/-- The payments file below the directory of a wallet. -/
def ofWallet (walletDirectory : FilePath) : PaymentsFile where
  directory := walletDirectory.child "payments"
  path := (walletDirectory.child "payments").child "payments.aes"

/-- Replaces the file by a sealed snapshot; its directory is made first. -/
def save (file : PaymentsFile) (cipher : KeyCipher) (credential : String)
    (snapshot : Snapshot) (disk : Disk) :
    Except VaultError Unit × Disk :=
  match disk.ensureDirectory file.directory with
  | (.error fault, disk) => (.error fault, disk)
  | (.ok (), disk) => SealedFile.save cipher file.path credential snapshot.encode disk

/-- The snapshot in the file; nothing if there is no file. -/
def load (file : PaymentsFile) (cipher : KeyCipher) (credential : String) (disk : Disk) :
    Except VaultError (Option Snapshot) :=
  match SealedFile.load cipher file.path credential disk with
  | .ok text => (Snapshot.decode text).map some
  | .error (.missing _) => .ok none
  | .error fault => .error fault

end PaymentsFile
end PaymentVault
