import PaymentVault.Vault.Container
import PaymentVault.Vault.Summary

/-!
# Settings

Where wallets are kept, what their keys cost, and how much may wait in line. Every member of the
JSON form may be left out. An environment may name another directory.
-/
namespace PaymentVault

structure Settings where
  dataDirectory : String
  kdf : Argon2.Params := defaultKdf
  seenCapacity : UInt64 := 100
  rotationCapacity : UInt64 := 4
  outcomeCapacity : UInt64 := 16
  deriving DecidableEq

namespace Settings

open Json Json.Format

/-- The form of settings where wallets are kept in `directory` unless told otherwise. -/
def form (directory : String) : Format Settings :=
  let standard : Settings := { dataDirectory := directory }
  (Members.defaulted "application_data_dir" string standard.dataDirectory <|
    .defaulted "kdf" Argon2.Params.form standard.kdf <|
    .defaulted "seen_channel_capacity" uint64 standard.seenCapacity <|
    .defaulted "rotation_queue_capacity" uint64 standard.rotationCapacity <|
    .defaulted "outcome_channel_capacity" uint64 standard.outcomeCapacity .done).format.imap
    (fun (dataDirectory, kdf, seenCapacity, rotationCapacity, outcomeCapacity, _) =>
      { dataDirectory, kdf, seenCapacity, rotationCapacity, outcomeCapacity })
    (fun s => (s.dataDirectory, s.kdf, s.seenCapacity, s.rotationCapacity, s.outcomeCapacity, ()))

/-- The settings with the directory that the environment names, if it names one. -/
def withEnvironment (directory : Option String) (settings : Settings) : Settings :=
  match directory with
  | none => settings
  | some text => if text = "" then settings else { settings with dataDirectory := text }

/-- The directory of a wallet. -/
def walletDirectory (settings : Settings) (walletId : String) : FilePath :=
  (FilePath.root settings.dataDirectory 0).below (walletRoot walletId)

def cipher (settings : Settings) : KeyCipher := walletCipher settings.kdf

end Settings
end PaymentVault
