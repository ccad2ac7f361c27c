import PaymentVault.Json.Format
import PaymentVault.Vault.Disk
import PaymentVault.Vault.Key
import PaymentVault.Vault.Padding

/-!
# Wallet summaries

The summary of a wallet names it and holds two secrets: the backup key, sealed under the key of
the credential, and the credential, padded and sealed under the backup key. So whoever has the
credential gets at the backup key, and whoever has the backup key at the credential. The summary
is kept as indented JSON.
-/
namespace PaymentVault

/-- The name of the directory that a wallet's files are kept in. -/
def walletRoot (walletId : String) : String := "strongroom-" ++ walletId

structure WalletSummary where
  walletId : String
  name : String
  notes : String
  sealedBackupKey : Bytes
  sealedCredential : Bytes
  deriving DecidableEq

namespace WalletSummary

open Json Json.Format

/-- Members from the first to the last; notes may be missing. -/
def form : Format WalletSummary :=
  (Members.required "wallet_id" string <|
    .required "name" string <|
    .defaulted "notes" string "" <|
    .required "encrypted_backup_key" hexBytes <|
    .required "encrypted_password" hexBytes .done).format.imap
    (fun (walletId, name, notes, sealedBackupKey, sealedCredential, _) =>
      { walletId, name, notes, sealedBackupKey, sealedCredential })
    (fun s => (s.walletId, s.name, s.notes, s.sealedBackupKey, s.sealedCredential, ()))

/-- The summary of a new wallet around a fresh backup key. -/
def create (walletId name credential : String) (cipher : KeyCipher) (backupKey : WalletKey) :
    Except VaultError WalletSummary := do
  let credentialKey ← cipher.deriveKey credential
  let sealedBackupKey ← cipher.encrypt credentialKey backupKey.bytes
  let sealedCredential ← cipher.encrypt backupKey (Padding.pad (.ofText credential))
  return { walletId, name, notes := "", sealedBackupKey, sealedCredential }

/-- The backup key, by way of the key of the credential. -/
def backupKey (summary : WalletSummary) (cipher : KeyCipher) (credentialKey : WalletKey) :
    Except VaultError WalletKey := do
  let bytes ← cipher.decrypt credentialKey summary.sealedBackupKey
  WalletKey.ofBytes bytes

/-- The credential, by way of the backup key. -/
def credential (summary : WalletSummary) (cipher : KeyCipher) (backupKey : WalletKey) :
    Except VaultError String := do
  let padded ← cipher.decrypt backupKey summary.sealedCredential
  let bytes ← (Padding.unpad padded).mapError .malformed
  match bytes.toText? with
  | some text => return text
  | none => throw (.malformed .credentialText)

/-- The summary file in the directory of a wallet. -/
def path (walletDirectory : FilePath) : FilePath := walletDirectory.child "wallet-summary.json"

def fileText (summary : WalletSummary) : String := (form.write summary).indentedText

/-- Reads the text of a summary file. -/
def parse (bytes : Bytes) : Except VaultError WalletSummary :=
  (form.parseBytes bytes).mapError .json

def read (file : FilePath) (disk : Disk) : Except VaultError WalletSummary := do
  let bytes ← disk.read file
  parse bytes

def write (summary : WalletSummary) (file : FilePath) (disk : Disk) :
    Except VaultError Unit × Disk :=
  disk.write file (.ofText summary.fileText)

end WalletSummary
end PaymentVault
