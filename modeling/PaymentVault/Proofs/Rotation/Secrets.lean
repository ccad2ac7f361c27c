import PaymentVault.Proofs.Rotation.Calls
import PaymentVault.Proofs.Vault.Cipher

/-!
# The secrets of a new summary

A cipher is truthful if the keys that it derives and the texts that it opens are the right ones.
It may fail at any call, and may seal what it likes: a preparation that goes through has opened
both secrets again.
-/
namespace PaymentVault

/-- A cipher that gives the keys and the texts of another whenever it gives any. -/
structure ChangingCipher.Truthful {σ : Type} (cipher : ChangingCipher σ)
    (sound : KeyCipher) : Prop where
  deriveKey : ∀ {credential s key}, (cipher.deriveKey credential s).1 = .ok key →
    sound.deriveKey credential = .ok key
  decrypt : ∀ {key container s text}, (cipher.decrypt key container s).1 = .ok text →
    sound.decrypt key container = .ok text

theorem KeyCipher.steady_truthful (cipher : KeyCipher) (σ : Type) :
    (cipher.steady σ).Truthful cipher where
  deriveKey := id
  decrypt := id

namespace Rotation

/-- A call does not give a wrong key or text. -/
def Call.IsTruthful (cipher : KeyCipher) : Call → Prop
  | deriveKey credential (.ok key) => cipher.deriveKey credential = .ok key
  | openText key container (.ok text) => cipher.decrypt key container = .ok text
  | _ => True

theorem Parties.Run.isTruthful {σ ω : Type} {parties : Parties σ ω} {sound : KeyCipher}
    (truthful : parties.cipher.Truthful sound) {state final : σ × Surroundings ω}
    {calls : List Call} (run : parties.Run state calls final) :
    ∀ call ∈ calls, call.IsTruthful sound := by
  induction run with
  | nil => exact fun _ member => absurd member List.not_mem_nil
  | cons answered _ ih =>
    rw [List.forall_mem_cons]
    refine ⟨?_, ih⟩
    cases answered with
    | @deriveKey _ answer _ _ _ h =>
      rcases answer with cause | key
      · trivial
      · exact truthful.deriveKey (congrArg Prod.fst h)
    | @openText _ _ answer _ _ _ h =>
      rcases answer with cause | text
      · trivial
      · exact truthful.decrypt (congrArg Prod.fst h)
    | sealText | decryptKeys | encryptKeys | writeSummary | reseal => trivial

variable {cipher : KeyCipher} {backupKey newKey : WalletKey} {old new : String} {calls : List Call}

theorem Wrapping.opens {wrap : Bytes} (wraps : Wrapping backupKey newKey calls (.ok wrap))
    (truth : ∀ call ∈ calls, call.IsTruthful cipher) :
    cipher.decrypt newKey wrap = .ok backupKey.bytes := by
  cases wraps
  exact truth (.openText newKey wrap (.ok backupKey.bytes)) (by simp)

theorem Enclosing.opens {container : Bytes}
    (encloses : Enclosing backupKey new calls (.ok container))
    (truth : ∀ call ∈ calls, call.IsTruthful cipher) :
    ∃ padded, cipher.decrypt backupKey container = .ok padded ∧
      Padding.unpad padded = .ok (.ofText new) := by
  cases encloses with
  | done container padded unpadded =>
    exact ⟨padded, truth (.openText backupKey container (.ok padded)) (by simp), unpadded⟩

/-- Either secret of a summary can be got at by way of a key of the credential. -/
theorem Preparation.opens {summary updated : WalletSummary}
    (prepared : Preparation summary old new calls (.ok updated))
    (truth : ∀ call ∈ calls, call.IsTruthful cipher) :
    (∃ oldKey newKey backupKey, cipher.deriveKey old = .ok oldKey ∧
      cipher.deriveKey new = .ok newKey ∧
      summary.backupKey cipher oldKey = .ok backupKey ∧
      updated.backupKey cipher newKey = .ok backupKey ∧
      updated.credential cipher backupKey = .ok new) ∧
      updated.walletId = summary.walletId ∧ updated.name = summary.name ∧
        updated.notes = summary.notes := by
  cases prepared with
  | @ready oldKey backupKey newKey wrapping wrap enclosing container wraps encloses =>
    simp only [List.cons_append, List.nil_append, List.forall_mem_cons, List.forall_mem_append,
      Call.IsTruthful] at truth
    obtain ⟨oldDerived, unwrapped, newDerived, wrapTruth, encloseTruth⟩ := truth
    have rewrapped := wraps.opens wrapTruth
    obtain ⟨padded, opened, unpadded⟩ := encloses.opens encloseTruth
    exact ⟨⟨oldKey, newKey, backupKey, oldDerived, newDerived,
      WalletSummary.backupKey_eq_ok_iff.2 unwrapped, WalletSummary.backupKey_eq_ok_iff.2 rewrapped,
      WalletSummary.credential_of_unpad opened unpadded⟩, rfl, rfl, rfl⟩

/-- A summary that goes with the old credential is followed by one that goes with the new. -/
theorem Preparation.secures {summary updated : WalletSummary}
    (prepared : Preparation summary old new calls (.ok updated))
    (truth : ∀ call ∈ calls, call.IsTruthful cipher)
    (secured : summary.Secures cipher old backupKey) : updated.Secures cipher new backupKey := by
  obtain ⟨⟨oldKey, newKey, found, oldDerived, newDerived, unwrapped, rewrapped, opened⟩, -⟩ :=
    prepared.opens truth
  obtain ⟨⟨key, derived, original⟩, -⟩ := secured
  obtain rfl : key = oldKey := Except.ok.inj (derived.symm.trans oldDerived)
  obtain rfl : backupKey = found := Except.ok.inj (original.symm.trans unwrapped)
  exact ⟨⟨newKey, newDerived, rewrapped⟩, opened⟩

end Rotation
end PaymentVault
