import PaymentVault.Rehearsal.Shelf
import PaymentVault.Rehearsal.Wallet

/-!
# A cipher for rehearsals

It hides nothing: a key is the start of a credential, and a container is the key with the text
after it. But it opens a container under the key that sealed it and under no other, and it takes
only so long a text.
-/
namespace PaymentVault

/-- The first bytes of a credential, zeros standing for those it has not. -/
def spelledKey (credential : String) : WalletKey where
  bytes := (Bytes.ofText credential ++ List.replicate 32 0).take 32
  length_eq := by simp

def labelCipher : KeyCipher where
  deriveKey credential := .ok (spelledKey credential)
  encrypt key text := if text.length < 65536 then .ok (key.bytes ++ text)
    else .error (.encryption "too long")
  decrypt key container :=
    if container.take 32 = key.bytes then .ok (container.drop 32)
    else .error (.decryption "other label")

theorem labelCipher_decrypt (key : WalletKey) (text : Bytes) :
    labelCipher.decrypt key (key.bytes ++ text) = .ok text := by
  have label : (key.bytes ++ text).take 32 = key.bytes := by rw [← key.length_eq, List.take_left]
  have rest : (key.bytes ++ text).drop 32 = text := by rw [← key.length_eq, List.drop_left]
  simp only [labelCipher, label, rest, if_true]

/-- A wallet whose summary hides nothing either. -/
def labelledSummary (credential : String) (backupKey : WalletKey) : WalletSummary where
  walletId := "id"
  name := "name"
  notes := ""
  sealedBackupKey := (spelledKey credential).bytes ++ backupKey.bytes
  sealedCredential := backupKey.bytes ++ Padding.pad (.ofText credential)

theorem write_rooted (content : Bytes) :
    ((Disk.rooted (.root "wallet" 0)).write (WalletSummary.path (.root "wallet" 0)) content).1 =
      .ok () := by
  rfl

/-- The wallet with that summary, which is on a disk of its own. -/
def labelledWallet {ω : Type} (credential : String) (backupKey : WalletKey) (rest : ω) :
    OpenWallet ω where
  directory := .root "wallet" 0
  summary := labelledSummary credential backupKey
  credential
  around :=
    { disk := ((labelledSummary credential backupKey).write (WalletSummary.path (.root "wallet" 0))
        (.rooted (.root "wallet" 0))).2
      rest }

/-- A wallet for rehearsals with the credential `old`. -/
def rehearsedWallet : OpenWallet RehearsalWallet :=
  labelledWallet "old" (spelledKey "backup") { password := "old" }

/-- A wallet before a shelf all of whose stores are sealed under `old`. -/
def shelvedWallet (refusals : List Bool) : OpenWallet Shelf :=
  labelledWallet "old" (spelledKey "backup")
    { seals := fun _ => "old", lockedUnder := some "old", refusals }

end PaymentVault
