import PaymentVault.Proofs.Vault.Container
import PaymentVault.Proofs.Vault.Padding
import PaymentVault.Proofs.Vault.SummaryFile
import PaymentVault.Rehearsal.Cipher

/-!
# Faithful ciphers

A faithful cipher opens what it has sealed. The cipher of wallet files is one, and so a new
summary gives both of its secrets back.
-/
namespace PaymentVault

/-- What is sealed under a key opens under it. Only texts whose length fits in 64 bits are
sealed. -/
structure KeyCipher.Faithful (cipher : KeyCipher) : Prop where
  opens : ∀ {key text container}, cipher.encrypt key text = .ok container →
    cipher.decrypt key container = .ok text
  bounded : ∀ {key text container}, cipher.encrypt key text = .ok container → text.length < 2 ^ 64

theorem walletCipher_faithful (kdf : Argon2.Params) : (walletCipher kdf).Faithful where
  opens packed := Container.unpack_pack rfl packed
  bounded := by
    intro key text container packed
    obtain ⟨hidden, sealed, -⟩ := Container.pack_eq_ok_iff.1 packed
    have fits : text.length ≤ Gcm.maxLength := by
      rw [Gcm.seal?] at sealed
      split at sealed
      · assumption
      · cases sealed
    exact Nat.lt_of_le_of_lt fits (by decide)

theorem labelCipher_faithful : labelCipher.Faithful where
  opens := by
    intro key text container sealed
    simp only [labelCipher] at sealed
    split at sealed
    · cases sealed
      exact labelCipher_decrypt key text
    · cases sealed
  bounded := by
    intro key text container sealed
    simp only [labelCipher] at sealed
    split at sealed
    · next short => exact Nat.lt_trans short (by decide)
    · cases sealed

namespace WalletSummary

/-- A credential opens a summary to a backup key, which opens it to the credential in turn. -/
def Secures (summary : WalletSummary) (cipher : KeyCipher) (credential : String)
    (backupKey : WalletKey) : Prop :=
  (∃ key, cipher.deriveKey credential = .ok key ∧ summary.backupKey cipher key = .ok backupKey) ∧
    summary.credential cipher backupKey = .ok credential

/-- A new summary gives both secrets back. -/
theorem secures_create {cipher : KeyCipher} (faithful : cipher.Faithful)
    {walletId name credential : String} {backupKey : WalletKey} {summary : WalletSummary}
    (created : create walletId name credential cipher backupKey = .ok summary) :
    summary.Secures cipher credential backupKey := by
  unfold create at created
  cases derived : cipher.deriveKey credential with
  | error cause => simp [derived, bind, Except.bind] at created
  | ok key =>
    cases wrapped : cipher.encrypt key backupKey.bytes with
    | error cause => simp [derived, wrapped, bind, Except.bind] at created
    | ok wrap =>
      cases enclosed : cipher.encrypt backupKey (Padding.pad (.ofText credential)) with
      | error cause => simp [derived, wrapped, enclosed, bind, Except.bind] at created
      | ok container =>
        simp only [derived, wrapped, enclosed, bind, Except.bind, pure, Except.pure] at created
        cases created
        exact ⟨⟨key, derived, backupKey_eq_ok_iff.2 (faithful.opens wrapped)⟩,
          credential_of_unpad (faithful.opens enclosed) (Padding.unpad_pad _)⟩

end WalletSummary
end PaymentVault
