import PaymentVault.Wallet.Storage

/-!
# Rotation of the credential

A rotation seals the secrets of the summary anew and checks that they come back before anything
is changed. Then it commits: it takes the wallet's own encryption off, writes the new summary,
reseals every bound store and encrypts the wallet again. A failure on the way is rolled back:
the old summary is written again, the stores resealed so far are resealed under the old
credential, and the wallet is encrypted with it.

The cipher of a rotation is not trusted and may change from call to call.
-/
namespace PaymentVault

/-- Why a rotation did not finish: a failure, or a store that broke down altogether. -/
inductive RotationStop where
  | failed (fault : WalletFault)
  | aborted
  deriving DecidableEq

/-- A store whose file is sealed under the credential of the wallet. -/
structure BoundStore (ω : Type) where
  name : String
  /-- Seals the file anew under a credential. -/
  reseal : String → Surroundings ω → Except RotationStop Unit × Surroundings ω

namespace Rotation

variable {σ ω : Type}

/-! ## Before the commit -/

/-- Goes on with the answer of a call, or stops with its failure. -/
def andThen {α β : Type} (wrap : VaultError → WalletFault) (call : Except VaultError α × σ)
    (next : α → σ → Except WalletFault β × σ) : Except WalletFault β × σ :=
  match call with
  | (.error cause, s) => (.error (wrap cause), s)
  | (.ok a, s) => next a s

@[simp] theorem andThen_ok {α β : Type} (wrap : VaultError → WalletFault) (a : α) (s : σ)
    (next : α → σ → Except WalletFault β × σ) : andThen wrap (.ok a, s) next = next a s := rfl

/-- A sealed secret could not be opened again. -/
def lost (what : String) (cause : VaultError) : WalletFault :=
  .irreversible (what ++ " could not be decrypted: " ++ cause.message)

/-- A sealed secret came back as something else. -/
def differs (what : String) : WalletFault := .irreversible (what ++ " differs after re-encryption")

/-- Seals the backup key under the new key, and checks that it comes back. -/
def resealBackupKey (cipher : ChangingCipher σ) (backupKey newKey : WalletKey) (s : σ) :
    Except WalletFault Bytes × σ :=
  andThen .saveFailure (cipher.encrypt newKey backupKey.bytes s) fun container s =>
  andThen (lost "backup key") (cipher.decrypt newKey container s) fun reborn s =>
  if reborn = backupKey.bytes then (.ok container, s) else (.error (differs "backup key"), s)

/-- Seals the padded new credential under the backup key, and checks that it comes back. -/
def resealCredential (cipher : ChangingCipher σ) (backupKey : WalletKey) (new : String) (s : σ) :
    Except WalletFault Bytes × σ :=
  andThen .saveFailure (cipher.encrypt backupKey (Padding.pad (.ofText new)) s) fun container s =>
  andThen (lost "credential") (cipher.decrypt backupKey container s) fun padded s =>
  andThen (lost "credential") ((Padding.unpad padded).mapError .malformed, s) fun reborn s =>
  if reborn = .ofText new then (.ok container, s) else (.error (differs "credential"), s)

/-- The summary that a rotation is to put in force. -/
def prepare (cipher : ChangingCipher σ) (summary : WalletSummary) (old new : String) (s : σ) :
    Except WalletFault WalletSummary × σ :=
  andThen .loadFailure (cipher.deriveKey old s) fun oldKey s =>
  andThen .loadFailure (cipher.decrypt oldKey summary.sealedBackupKey s) fun bytes s =>
  andThen .loadFailure (WalletKey.ofBytes bytes, s) fun backupKey s =>
  andThen .saveFailure (cipher.deriveKey new s) fun newKey s =>
  match resealBackupKey cipher backupKey newKey s with
  | (.error fault, s) => (.error fault, s)
  | (.ok sealedBackupKey, s) =>
    match resealCredential cipher backupKey new s with
    | (.error fault, s) => (.error fault, s)
    | (.ok sealedCredential, s) => (.ok { summary with sealedBackupKey, sealedCredential }, s)

/-! ## Commit and roll-back -/

/-- Reseals stores one after another up to the first that stops; gives also the stores resealed. -/
def resealAll (credential : String) :
    List (BoundStore ω) → Surroundings ω →
      Except RotationStop Unit × List (BoundStore ω) × Surroundings ω
  | [], around => (.ok (), [], around)
  | store :: rest, around =>
    match store.reseal credential around with
    | (.error stop, around) => (.error stop, [], around)
    | (.ok (), around) =>
      let (result, resealed, around) := resealAll credential rest around
      (result, store :: resealed, around)

/-- Encrypts the keys of the wallet. -/
def encryptKeys (lock : Lock ω) (credential : String) (around : Surroundings ω) :
    Except RotationStop Unit × Surroundings ω :=
  let (result, rest) := lock.encrypt credential around.rest
  (result.mapError fun cause => .failed (.ledger cause), { around with rest })

/-- Writes a summary. -/
def writeSummary (path : FilePath) (summary : WalletSummary) (around : Surroundings ω) :
    Except RotationStop Unit × Surroundings ω :=
  let (result, disk) := summary.write path around.disk
  (result.mapError fun cause => .failed (.saveFailure cause), { around with disk })

/-- Puts the new credential in force everywhere; gives also the stores resealed. -/
def commit (lock : Lock ω) (stores : List (BoundStore ω)) (path : FilePath)
    (updated : WalletSummary) (new : String) (around : Surroundings ω) :
    Except RotationStop Unit × List (BoundStore ω) × Surroundings ω :=
  match writeSummary path updated around with
  | (.error stop, around) => (.error stop, [], around)
  | (.ok (), around) =>
    match resealAll new stores around with
    | (.error stop, resealed, around) => (.error stop, resealed, around)
    | (.ok (), resealed, around) =>
      let (result, around) := encryptKeys lock new around
      (result, resealed, around)

/-- Reseals every store, failures notwithstanding; only a store that breaks down ends it. -/
def restoreAll (credential : String) : List (BoundStore ω) → Surroundings ω → Bool × Surroundings ω
  | [], around => (true, around)
  | store :: rest, around =>
    match store.reseal credential around with
    | (.error .aborted, around) => (false, around)
    | (_, around) => restoreAll credential rest around

/-- Puts the old credential back in force everywhere, as far as that goes. Says whether it came
to the end. -/
def rollBack (lock : Lock ω) (resealed : List (BoundStore ω)) (path : FilePath)
    (former : WalletSummary) (old : String) (around : Surroundings ω) : Bool × Surroundings ω :=
  let (_, around) := writeSummary path former around
  match restoreAll old resealed around with
  | (false, around) => (false, around)
  | (true, around) => (true, (encryptKeys lock old around).2)

/-- Changes the credential of a wallet whose keys have been decrypted. -/
def exchange (lock : Lock ω) (stores : List (BoundStore ω)) (updated : WalletSummary)
    (old new : String) (wallet : OpenWallet ω) : Except RotationStop Unit × OpenWallet ω :=
  match commit lock stores wallet.summaryPath updated new wallet.around with
  | (.ok (), _, around) => (.ok (), { wallet with summary := updated, credential := new, around })
  | (.error .aborted, _, around) => (.error .aborted, { wallet with around })
  | (.error (.failed fault), resealed, around) =>
    match rollBack lock resealed wallet.summaryPath wallet.summary old around with
    | (true, around) => (.error (.failed fault), { wallet with around })
    | (false, around) => (.error .aborted, { wallet with around })

/-- Changes the credential of a wallet from `old` to `new`. -/
def rotate (lock : Lock ω) (cipher : ChangingCipher σ) (stores : List (BoundStore ω))
    (old new : String) (wallet : OpenWallet ω) (s : σ) :
    Except RotationStop Unit × OpenWallet ω × σ :=
  if !lock.accepts old wallet.around.rest then (.error (.failed .credentialMismatch), wallet, s)
  else
    match prepare cipher wallet.summary old new s with
    | (.error fault, s) => (.error (.failed fault), wallet, s)
    | (.ok updated, s) =>
      match lock.decrypt old wallet.around.rest with
      | (.error cause, rest) =>
        (.error (.failed (.ledger cause)), { wallet with around := { wallet.around with rest } }, s)
      | (.ok (), rest) =>
        let (result, wallet) := exchange lock stores updated old new
          { wallet with around := { wallet.around with rest } }
        (result, wallet, s)

/-! ## The store of the payments -/

/-- The payments of a wallet as a bound store: its books are written under the credential. -/
def paymentsStore (cipher : KeyCipher) (wallet : OpenWallet ω) : BoundStore ω where
  name := "payments"
  reseal credential around :=
    let (result, disk) := wallet.books.save wallet.paymentsFile cipher credential around.disk
    (result.mapError .failed, { around with disk })

end Rotation
end PaymentVault
