import PaymentVault.Rehearsal.Wallet
import PaymentVault.Vault.Container
import PaymentVault.Wallet.Outcome

/-!
# Rehearsing rotations

A cipher that goes wrong at chosen calls, and stores that note under which credential they are
resealed and then do as their kind says.
-/
namespace PaymentVault

/-- At which calls, counted from one, a cipher goes wrong; zero stands for none. -/
structure CipherFaults where
  /-- The last byte of the container is changed. -/
  corrupt : Nat := 0
  /-- A text that differs in the first byte is sealed. -/
  swap : Nat := 0
  /-- A text that differs in the last byte is sealed. -/
  garble : Nat := 0
  failDerive : Nat := 0
  failEncrypt : Nat := 0

/-- How often keys were derived and texts sealed. -/
structure CipherCalls where
  derivations : Nat := 0
  encryptions : Nat := 0

/-- The bytes with the first changed. -/
def changeFirst (mask : UInt8) : Bytes → Bytes
  | [] => []
  | b :: rest => (b ^^^ mask) :: rest

/-- The bytes with the last changed. -/
def changeLast (mask : UInt8) (bytes : Bytes) : Bytes := (changeFirst mask bytes.reverse).reverse

namespace CipherFaults

/-- A cipher with faults; its state counts the calls. -/
def cipher (faults : CipherFaults) (sound : KeyCipher) : ChangingCipher CipherCalls where
  deriveKey credential calls :=
    let calls := { calls with derivations := calls.derivations + 1 }
    if calls.derivations = faults.failDerive then (.error (.keyDerivation "injected"), calls)
    else (sound.deriveKey credential, calls)
  encrypt key text calls :=
    let calls := { calls with encryptions := calls.encryptions + 1 }
    let count := calls.encryptions
    if count = faults.failEncrypt then (.error (.encryption "injected"), calls)
    else
      let text := if count = faults.swap then changeFirst 1 text else text
      let text := if count = faults.garble then changeLast 1 text else text
      let container := sound.encrypt key text
      (if count = faults.corrupt then container.map (changeLast 0x5a) else container, calls)
  decrypt key container calls := (sound.decrypt key container, calls)

end CipherFaults

/-- What a store outside the wallet does when it is resealed. -/
inductive StoreKind where
  | recording
  | failing
  | precondition
  /-- Fails from the second time on. -/
  | once
  | panicking
  deriving DecidableEq

namespace StoreKind

def name : StoreKind → String
  | recording => "recording"
  | failing => "failing"
  | precondition => "precondition"
  | once => "once"
  | panicking => "panicking"

def ofName? (text : String) : Option StoreKind :=
  [recording, failing, precondition, once, panicking].find? fun kind => kind.name = text

/-- How a resealing ends, given what was noted before it. -/
def answer (noted : List String) : StoreKind → Except RotationStop Unit
  | recording => .ok ()
  | failing => .error (.failed (.saveFailure (.io "disk")))
  | precondition => .error (.failed (.precondition "store closed"))
  | once =>
    if noted.any fun note => "once:".toList.isPrefixOf note.toList then
      .error (.failed (.saveFailure (.encryption "sealed once")))
    else .ok ()
  | panicking => .error .aborted

def store (kind : StoreKind) : BoundStore RehearsalWallet where
  name := kind.name
  reseal credential around :=
    let noted := around.rest.resealings
    let rest := { around.rest with resealings := noted ++ [kind.name ++ ":" ++ credential] }
    (kind.answer noted, { around with rest })

end StoreKind

/-- The bound stores with the given names; the payments of the wallet are one that writes to the
disk. -/
def rehearsalStores (cipher : KeyCipher) (names : List String)
    (wallet : OpenWallet RehearsalWallet) :
    List (BoundStore RehearsalWallet) :=
  names.filterMap fun name =>
    if name = "payments" then some (Rotation.paymentsStore cipher wallet)
    else (StoreKind.ofName? name).map StoreKind.store

/-- A summary around the given backup key, which need not have the length of a key; then no
credential is sealed under it. -/
def rehearsalSummary (cipher : KeyCipher) (walletId name notes credential : String)
    (backupKey : Bytes) :
    Except VaultError WalletSummary := do
  let credentialKey ← cipher.deriveKey credential
  let sealedBackupKey ← cipher.encrypt credentialKey backupKey
  let sealedCredential ←
    match WalletKey.ofBytes backupKey with
    | .ok key => cipher.encrypt key (Padding.pad (.ofText credential))
    | .error _ => .ok []
  return { walletId, name, notes, sealedBackupKey, sealedCredential }

end PaymentVault
