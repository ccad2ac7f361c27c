import PaymentVault.Proofs.Wallet.Engine
import PaymentVault.Rehearsal.Rotation

/-!
# The laws of rehearsals

The lock, the faulty ciphers and the stores of rehearsals obey the laws of what they stand for.
-/
namespace PaymentVault

open Rotation

/-- A cipher with faults gives no wrong keys or texts, whatever it seals. -/
theorem CipherFaults.cipher_truthful (faults : CipherFaults) (sound : KeyCipher) :
    (faults.cipher sound).Truthful sound where
  deriveKey := by
    intro credential s key derived
    simp only [cipher] at derived
    split at derived
    · cases derived
    · exact derived
  decrypt := id

namespace RehearsalWallet

/-- The keys are encrypted. -/
def IsLocked (wallet : RehearsalWallet) : Prop := wallet.isEncrypted = true

theorem lock_lawful : lock.Lawful IsLocked where
  encrypt_ok := by
    intro credential rest rest' h
    simp only [lock, encrypt] at h
    split at h
    · cases h
    · cases h
      exact ⟨rfl, fun other => by simp [lock, eq_comm]⟩
  encrypt_error := by
    intro credential cause former rest rest' h under
    simp only [lock, encrypt] at h
    split at h
    · cases h
      exact under
    · cases h
  decrypt_error := by
    intro credential cause former rest rest' h under
    simp only [lock, decrypt] at h
    split at h
    · cases h
      exact under
    · split at h
      · cases h
        exact under
      · cases h

/-- Stores outside the wallet write to no file. -/
theorem isBystander_store (kind : StoreKind) (directory : FilePath) :
    IsBystander lock IsLocked directory kind.store :=
  fun _ _ => ⟨rfl, rfl, fun _ => id⟩

theorem bindsPayments (cipher : KeyCipher) (hasRates : Bool) (others : List String)
    (wallet : OpenWallet RehearsalWallet) :
    BindsPayments (facilities cipher hasRates) IsLocked wallet
      (rehearsalStores cipher ("payments" :: others) wallet) := by
  refine ⟨List.mem_cons_self .., fun store member other => ?_⟩
  obtain ⟨name, -, made⟩ := List.mem_filterMap.1 member
  split at made
  · cases made
    exact absurd rfl other
  · obtain ⟨kind, -, rfl⟩ := Option.map_eq_some_iff.1 made
    exact isBystander_store kind _

end RehearsalWallet

/-- An engine for rehearsals, whose stores are the payments and others. -/
def rehearsedEngine (others : List String) : Engine CipherCalls RehearsalWallet where
  facilities := RehearsalWallet.facilities labelCipher false
  cipher := CipherFaults.cipher {} labelCipher
  stores := rehearsalStores labelCipher ("payments" :: others)

theorem rehearsedEngine_sound (others : List String) :
    (rehearsedEngine others).Sound RehearsalWallet.IsLocked where
  faithful := labelCipher_faithful
  truthful := CipherFaults.cipher_truthful _ _
  lawful := RehearsalWallet.lock_lawful
  bound := RehearsalWallet.bindsPayments labelCipher false others

theorem StoreKind.answer_ne_aborted {kind : StoreKind} (calm : kind ≠ .panicking)
    (noted : List String) : kind.answer noted ≠ .error .aborted := by
  cases kind with
  | recording | failing | precondition => simp [answer]
  | once =>
    simp only [answer]
    split <;> simp
  | panicking => exact absurd rfl calm

/-- Stores break down only if they are of the kind that does. -/
theorem noneBreaksDown_rehearsalStores {others : List String} (calm : "panicking" ∉ others)
    (wallet : OpenWallet RehearsalWallet) :
    NoneBreaksDown ((rehearsedEngine others).stores wallet) := by
  intro store member credential around
  obtain ⟨name, listed, made⟩ := List.mem_filterMap.1 member
  split at made
  · cases made
    simp only [paymentsStore]
    rcases wallet.books.save wallet.paymentsFile labelCipher credential around.disk with
      ⟨fault | ⟨⟩, disk⟩
    · simp [mapError_error]
    · simp [mapError_ok]
  · next other =>
    obtain ⟨kind, found, rfl⟩ := Option.map_eq_some_iff.1 made
    have named : kind.name = name := by simpa using List.find?_some found
    refine StoreKind.answer_ne_aborted ?_ _
    rintro rfl
    subst named
    rcases List.mem_cons.1 listed with payments | among
    · exact other payments
    · exact calm among

/-- There is no payments file beside a new summary. -/
theorem read_payments_labelledSummary :
    ((labelledSummary "old" (spelledKey "backup")).write (WalletSummary.path (.root "wallet" 0))
        (.rooted (.root "wallet" 0))).2.read (PaymentsFile.ofWallet (.root "wallet" 0)).path =
      .error (.missing (PaymentsFile.ofWallet (.root "wallet" 0)).path.text) := by
  rfl

/-- A wallet with the credential `old` and no payments yet, whose keys are encrypted. -/
theorem founded_labelledWallet (others : List String) {rest : RehearsalWallet}
    (encrypted : rest.isEncrypted = true) (password : rest.password = "old") :
    (labelledWallet "old" (spelledKey "backup") rest).FoundedUnder
      (rehearsedEngine others).facilities RehearsalWallet.IsLocked (spelledKey "backup") "old" where
  created := ⟨"id", "name", rfl⟩
  entered := rfl
  locked := ⟨encrypted, fun other => by
    simp [rehearsedEngine, RehearsalWallet.facilities, RehearsalWallet.lock, labelledWallet,
      password, eq_comm]⟩
  filed := WalletSummary.read_write_of_ok _ _ _ (write_rooted _)
  stored := .inl read_payments_labelledSummary

theorem ordinary_labelledWallet (rest : RehearsalWallet) :
    (labelledWallet "old" (spelledKey "backup") rest).HasOrdinaryDates labelCipher where
  booked := .empty
  stored := (PaymentsFile.isSound_of_missing read_payments_labelledSummary).ordinary

end PaymentVault
