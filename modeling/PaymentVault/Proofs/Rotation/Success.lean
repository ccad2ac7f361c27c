import PaymentVault.Proofs.Rotation.RollBack
import PaymentVault.Proofs.Rotation.Secrets

/-!
# When a rotation goes through

A rotation goes through unless the credential is not accepted, a call fails or a secret is lost
(`Ending.ok_iff`).
-/
namespace PaymentVault.Rotation

/-- Whether a call was answered without a failure. -/
def Call.succeeded : Call → Bool
  | deriveKey _ answer => answer.isOk
  | sealText _ _ answer => answer.isOk
  | openText _ _ answer => answer.isOk
  | decryptKeys _ answer => answer.isOk
  | encryptKeys _ answer => answer.isOk
  | writeSummary _ answer => answer.isOk
  | reseal _ _ answer => answer.isOk

variable {backupKey newKey : WalletKey} {old new : String} {calls : List Call} {fault : WalletFault}
  {summary updated : WalletSummary}

/-! ## Preparations -/

theorem Wrapping.succeeded {wrap : Bytes} (wraps : Wrapping backupKey newKey calls (.ok wrap)) :
    ∀ call ∈ calls, call.succeeded = true := by
  cases wraps
  simp [Call.succeeded, Except.isOk, Except.toBool]

theorem Wrapping.failed (wraps : Wrapping backupKey newKey calls (.error fault)) :
    (∃ call ∈ calls, call.succeeded = false) ∨ ∃ detail, fault = .irreversible detail := by
  cases wraps with
  | notSealed => exact .inl ⟨_, List.mem_singleton_self _, rfl⟩
  | notOpened => exact .inr ⟨_, rfl⟩
  | changed => exact .inr ⟨_, rfl⟩

theorem Enclosing.succeeded {container : Bytes}
    (encloses : Enclosing backupKey new calls (.ok container)) :
    ∀ call ∈ calls, call.succeeded = true := by
  cases encloses
  simp [Call.succeeded, Except.isOk, Except.toBool]

theorem Enclosing.failed (encloses : Enclosing backupKey new calls (.error fault)) :
    (∃ call ∈ calls, call.succeeded = false) ∨ ∃ detail, fault = .irreversible detail := by
  cases encloses with
  | notSealed => exact .inl ⟨_, List.mem_singleton_self _, rfl⟩
  | notOpened => exact .inr ⟨_, rfl⟩
  | notPadded => exact .inr ⟨_, rfl⟩
  | changed => exact .inr ⟨_, rfl⟩

theorem Preparation.succeeded (prepared : Preparation summary old new calls (.ok updated)) :
    ∀ call ∈ calls, call.succeeded = true := by
  cases prepared with
  | ready _ wraps encloses =>
    rw [List.forall_mem_append, List.forall_mem_append]
    refine ⟨⟨?_, wraps.succeeded⟩, encloses.succeeded⟩
    simp [Call.succeeded, Except.isOk, Except.toBool]

/-- A summary that can be opened is prepared anew unless a call fails or a secret is lost. -/
theorem Preparation.failed {cipher : KeyCipher}
    (prepared : Preparation summary old new calls (.error fault))
    (truth : ∀ call ∈ calls, call.IsTruthful cipher)
    (secured : summary.Secures cipher old backupKey) :
    (∃ call ∈ calls, call.succeeded = false) ∨ ∃ detail, fault = .irreversible detail := by
  cases prepared with
  | noOldKey => exact .inl ⟨_, List.mem_singleton_self _, rfl⟩
  | notOpened oldKey cause =>
    exact .inl ⟨.openText oldKey summary.sealedBackupKey (.error cause), by simp, rfl⟩
  | noBackupKey oldKey bytes cause bad =>
    -- The cipher opens the backup key under this key, and that has the length of one.
    obtain ⟨⟨key, derived, original⟩, -⟩ := secured
    simp only [List.forall_mem_cons, Call.IsTruthful] at truth
    obtain ⟨oldDerived, opened, -⟩ := truth
    obtain rfl : key = oldKey := Except.ok.inj (derived.symm.trans oldDerived)
    rw [WalletSummary.backupKey_eq_ok_iff] at original
    obtain rfl : backupKey.bytes = bytes := Except.ok.inj (original.symm.trans opened)
    rw [WalletKey.ofBytes_bytes] at bad
    cases bad
  | noNewKey oldKey backupKey cause => exact .inl ⟨.deriveKey new (.error cause), by simp, rfl⟩
  | notWrapped _ wraps =>
    rcases wraps.failed with ⟨call, member, failed⟩ | lost
    · exact .inl ⟨call, List.mem_append_right _ member, failed⟩
    · exact .inr lost
  | notEnclosed _ _ encloses =>
    rcases encloses.failed with ⟨call, member, failed⟩ | lost
    · exact .inl ⟨call, List.mem_append_right _ member, failed⟩
    · exact .inr lost

/-! ## Exchanges -/

theorem lt_of_getElem?_compliant {count i : Nat} {answer : Except RotationStop Unit}
    (there : (compliant count)[i]? = some answer) : i < count := by
  have within := (List.getElem?_eq_some_iff.1 there).1
  rwa [compliant, List.length_replicate] at within

/-- Stores that do as they are told do not fail. -/
theorem succeeded_resealings {credential : String} {position count : Nat} :
    ∀ call ∈ resealings credential position (compliant count), call.succeeded = true := by
  intro call member
  obtain ⟨i, answer, there, rfl⟩ := mem_resealings.1 member
  have ok : answer = .ok () := by
    rw [getElem?_compliant (lt_of_getElem?_compliant there)] at there
    exact (Option.some.inj there).symm
  rw [ok]
  rfl

/-- A commit that fails has a call that does. -/
theorem Commit.exists_failed {size count : Nat} {breach : Breach}
    {result : Except RotationStop Unit}
    (committing : Commit updated new size (some breach) calls count result) :
    ∃ call ∈ calls, call.succeeded = false := by
  cases committing with
  | notWritten cause => exact ⟨.writeSummary updated (.error cause), by simp, rfl⟩
  | notResealed _ stop => exact ⟨.reseal count new (.error stop), by simp, rfl⟩
  | notEncrypted cause => exact ⟨.encryptKeys new (.error cause), by simp, rfl⟩

theorem Exchange.succeeded {former filed : WalletSummary} {size : Nat}
    (exchanging : Exchange former updated old new size calls (.ok filed)) :
    ∀ call ∈ calls, call.succeeded = true := by
  cases exchanging with
  | committed committing =>
    cases committing with
    | done =>
      rw [List.forall_mem_cons, List.forall_mem_append, List.forall_mem_singleton]
      exact ⟨rfl, succeeded_resealings, rfl⟩

theorem Exchange.failed {former : WalletSummary} {size : Nat} {stop : RotationStop}
    (exchanging : Exchange former updated old new size calls (.error stop)) :
    ∃ call ∈ calls, call.succeeded = false := by
  cases exchanging with
  | brokenOff committing => exact committing.exists_failed
  | rolledBack committing =>
    obtain ⟨call, member, failed⟩ := committing.exists_failed
    exact ⟨call, List.mem_append_left _ member, failed⟩
  | rollBackBrokenOff committing =>
    obtain ⟨call, member, failed⟩ := committing.exists_failed
    exact ⟨call, List.mem_append_left _ member, failed⟩

/-! ## Whole rotations -/

theorem Ending.succeeded {size : Nat} {accepted : Bool}
    (ends : Ending summary old new size accepted calls (.ok updated)) :
    ∀ call ∈ calls, call.succeeded = true := by
  cases ends with
  | exchanged prepared exchanging =>
    rw [List.forall_mem_append, List.forall_mem_cons]
    exact ⟨prepared.succeeded, rfl, exchanging.succeeded⟩

theorem Ending.prepared {size : Nat} {accepted : Bool}
    (ends : Ending summary old new size accepted calls (.ok updated)) :
    accepted = true ∧ ∃ before, (∀ call ∈ before, call ∈ calls) ∧
      Preparation summary old new before (.ok updated) := by
  cases ends with
  | exchanged prepared exchanging =>
    cases exchanging with
    | committed => exact ⟨rfl, _, fun call member => List.mem_append_left _ member, prepared⟩

/-- Nothing stops a rotation but a wrong credential, a call that fails, or a secret that is lost. -/
theorem Ending.ok_iff {size : Nat} {accepted : Bool} {ending : Except RotationStop WalletSummary}
    {cipher : KeyCipher} (ends : Ending summary old new size accepted calls ending)
    (truth : ∀ call ∈ calls, call.IsTruthful cipher)
    (secured : accepted = true → summary.Secures cipher old backupKey) :
    (∃ updated, ending = .ok updated) ↔
      accepted = true ∧ (∀ call ∈ calls, call.succeeded = true) ∧
        ∀ detail, ending ≠ .error (.failed (.irreversible detail)) := by
  have contradiction (failed : ∃ call ∈ calls, call.succeeded = false)
      (all : ∀ call ∈ calls, call.succeeded = true) : False := by
    obtain ⟨call, member, failed⟩ := failed
    rw [all call member] at failed
    cases failed
  constructor
  · rintro ⟨updated, rfl⟩
    have all := ends.succeeded
    cases ends with
    | exchanged => exact ⟨rfl, all, fun detail => by simp⟩
  · rintro ⟨rfl, all, kept⟩
    cases ends with
    | unprepared prepared =>
      rcases prepared.failed truth (secured rfl) with failed | ⟨detail, rfl⟩
      · exact (contradiction failed all).elim
      · exact absurd rfl (kept detail)
    | refused prepared cause =>
      exact (contradiction ⟨.decryptKeys old (.error cause), by simp, rfl⟩ all).elim
    | exchanged prepared exchanging =>
      rcases ending with stop | updated
      · obtain ⟨call, member, failed⟩ := exchanging.failed
        exact (contradiction ⟨call, List.mem_append_right _ (List.mem_cons_of_mem _ member), failed⟩
          all).elim
      · exact ⟨updated, rfl⟩

end PaymentVault.Rotation
