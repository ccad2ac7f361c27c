import PaymentVault.Proofs.Rotation.Effects
import PaymentVault.Proofs.Rotation.Secrets
import PaymentVault.Rehearsal.Cipher
import PaymentVault.Rehearsal.Rotation

/-!
# Reversibility

A rotation takes nothing on trust from its cipher. What it seals it opens again and compares, so
a rotation that goes through has kept both secrets, and one that would have lost a secret says
so (`rotate_reversible`).
-/
namespace PaymentVault.Rotation

/-- A call to a cipher gets the answer of that cipher. -/
def Call.IsAnsweredBy (cipher : KeyCipher) : Call → Prop
  | deriveKey credential answer => cipher.deriveKey credential = answer
  | sealText key text answer => cipher.encrypt key text = answer
  | openText key container answer => cipher.decrypt key container = answer
  | decryptKeys _ _ | encryptKeys _ _ | writeSummary _ _ | reseal _ _ _ => True

/-- A cipher that never changes gives its own answers throughout. -/
theorem Parties.Run.isAnsweredBy {σ ω : Type} {cipher : KeyCipher} {parties : Parties σ ω}
    (steady : parties.cipher = cipher.steady σ) {state final : σ × Surroundings ω}
    {calls : List Call} (run : parties.Run state calls final) :
    ∀ call ∈ calls, call.IsAnsweredBy cipher := by
  induction run with
  | nil => exact fun _ member => absurd member List.not_mem_nil
  | cons answered _ ih =>
    rw [List.forall_mem_cons]
    refine ⟨?_, ih⟩
    cases answered with
    | deriveKey h | sealText h | openText h =>
      rw [steady] at h
      exact congrArg Prod.fst h
    | decryptKeys | encryptKeys | writeSummary | reseal => trivial

section preparation

variable {cipher : KeyCipher} {backupKey newKey : WalletKey} {new : String} {calls : List Call}

/-- A backup key that comes back changed, or not at all, is told. -/
theorem Wrapping.irreversible {wrap : Bytes} {result : Except WalletFault Bytes}
    (wraps : Wrapping backupKey newKey calls result)
    (truth : ∀ call ∈ calls, call.IsAnsweredBy cipher)
    (seals : cipher.encrypt newKey backupKey.bytes = .ok wrap) :
    result = .ok wrap ∧ cipher.decrypt newKey wrap = .ok backupKey.bytes ∨
      ∃ detail, result = .error (.irreversible detail) := by
  cases wraps with
  | notSealed cause => simp [Call.IsAnsweredBy, seals] at truth
  | notOpened => exact .inr ⟨_, rfl⟩
  | changed => exact .inr ⟨_, rfl⟩
  | done other =>
    simp only [List.forall_mem_cons, Call.IsAnsweredBy, seals] at truth
    obtain ⟨same, opened, -⟩ := truth
    cases same
    exact .inl ⟨rfl, opened⟩

/-- So is a credential. -/
theorem Enclosing.irreversible {container : Bytes} {result : Except WalletFault Bytes}
    (encloses : Enclosing backupKey new calls result)
    (truth : ∀ call ∈ calls, call.IsAnsweredBy cipher)
    (seals : cipher.encrypt backupKey (Padding.pad (.ofText new)) = .ok container) :
    result = .ok container ∧
        (∃ padded, cipher.decrypt backupKey container = .ok padded ∧
          Padding.unpad padded = .ok (.ofText new)) ∨
      ∃ detail, result = .error (.irreversible detail) := by
  cases encloses with
  | notSealed cause => simp [Call.IsAnsweredBy, seals] at truth
  | notOpened => exact .inr ⟨_, rfl⟩
  | notPadded => exact .inr ⟨_, rfl⟩
  | changed => exact .inr ⟨_, rfl⟩
  | done other padded unpadded =>
    simp only [List.forall_mem_cons, Call.IsAnsweredBy, seals] at truth
    obtain ⟨same, opened, -⟩ := truth
    cases same
    exact .inl ⟨rfl, padded, opened, unpadded⟩

variable {summary : WalletSummary} {old : String}

/-- The keys in the calls are those that the cipher gives. -/
theorem keys_eq {oldKey oldKey' newKey' backupKey' : WalletKey}
    (truth : ∀ call ∈ [Call.deriveKey old (.ok oldKey'),
        .openText oldKey' summary.sealedBackupKey (.ok backupKey'.bytes),
        .deriveKey new (.ok newKey')],
      call.IsAnsweredBy cipher)
    (oldDerived : cipher.deriveKey old = .ok oldKey)
    (unwrapped : cipher.decrypt oldKey summary.sealedBackupKey = .ok backupKey.bytes)
    (newDerived : cipher.deriveKey new = .ok newKey) :
    backupKey' = backupKey ∧ newKey' = newKey := by
  simp only [List.forall_mem_cons, Call.IsAnsweredBy] at truth
  obtain ⟨oldSame, opened, newSame, -⟩ := truth
  obtain rfl : oldKey = oldKey' := Except.ok.inj (oldDerived.symm.trans oldSame)
  obtain rfl : newKey = newKey' := Except.ok.inj (newDerived.symm.trans newSame)
  exact ⟨WalletKey.ext (Except.ok.inj (opened.symm.trans unwrapped)), rfl⟩

/-- A preparation whose calls but the openings go well opens both secrets, or tells that one is
lost. -/
theorem Preparation.irreversible {oldKey : WalletKey} {wrap container : Bytes}
    {result : Except WalletFault WalletSummary}
    (prepared : Preparation summary old new calls result)
    (truth : ∀ call ∈ calls, call.IsAnsweredBy cipher)
    (oldDerived : cipher.deriveKey old = .ok oldKey)
    (unwrapped : summary.backupKey cipher oldKey = .ok backupKey)
    (newDerived : cipher.deriveKey new = .ok newKey)
    (wrapped : cipher.encrypt newKey backupKey.bytes = .ok wrap)
    (enclosed : cipher.encrypt backupKey (Padding.pad (.ofText new)) = .ok container) :
    cipher.decrypt newKey wrap = .ok backupKey.bytes ∧
        (∃ padded, cipher.decrypt backupKey container = .ok padded ∧
          Padding.unpad padded = .ok (.ofText new)) ∨
      ∃ detail, result = .error (.irreversible detail) := by
  rw [WalletSummary.backupKey_eq_ok_iff] at unwrapped
  -- Up to the new key every answer is known, so that the preparation is one of the last three.
  cases prepared with
  | noOldKey => simp [Call.IsAnsweredBy, oldDerived] at truth
  | notOpened => simp_all [Call.IsAnsweredBy]
  | noBackupKey => simp_all [Call.IsAnsweredBy]
  | noNewKey => simp_all [Call.IsAnsweredBy]
  | notWrapped _ wraps =>
    obtain ⟨keyTruth, wrapTruth⟩ := List.forall_mem_append.1 truth
    obtain ⟨rfl, rfl⟩ := keys_eq keyTruth oldDerived unwrapped newDerived
    rcases wraps.irreversible wrapTruth wrapped with ⟨same, -⟩ | ⟨detail, told⟩
    · cases same
    · cases told
      exact .inr ⟨detail, rfl⟩
  | notEnclosed _ wraps encloses =>
    obtain ⟨wrapTruth, encloseTruth⟩ := List.forall_mem_append.1 truth
    obtain ⟨keyTruth, wrapTruth⟩ := List.forall_mem_append.1 wrapTruth
    obtain ⟨rfl, rfl⟩ := keys_eq keyTruth oldDerived unwrapped newDerived
    rcases encloses.irreversible encloseTruth enclosed with ⟨same, -⟩ | ⟨detail, told⟩
    · cases same
    · cases told
      exact .inr ⟨detail, rfl⟩
  | ready _ wraps encloses =>
    obtain ⟨wrapTruth, encloseTruth⟩ := List.forall_mem_append.1 truth
    obtain ⟨keyTruth, wrapTruth⟩ := List.forall_mem_append.1 wrapTruth
    obtain ⟨rfl, rfl⟩ := keys_eq keyTruth oldDerived unwrapped newDerived
    rcases wraps.irreversible wrapTruth wrapped with ⟨-, reopened⟩ | ⟨_, told⟩
    · rcases encloses.irreversible encloseTruth enclosed with ⟨-, opened⟩ | ⟨_, told⟩
      · exact .inl ⟨reopened, opened⟩
      · cases told
    · cases told

/-- So does a rotation that is accepted. -/
theorem Ending.irreversible {size : Nat} {ending : Except RotationStop WalletSummary}
    {oldKey : WalletKey} {wrap container : Bytes}
    (ends : Ending summary old new size true calls ending)
    (truth : ∀ call ∈ calls, call.IsAnsweredBy cipher)
    (oldDerived : cipher.deriveKey old = .ok oldKey)
    (unwrapped : summary.backupKey cipher oldKey = .ok backupKey)
    (newDerived : cipher.deriveKey new = .ok newKey)
    (wrapped : cipher.encrypt newKey backupKey.bytes = .ok wrap)
    (enclosed : cipher.encrypt backupKey (Padding.pad (.ofText new)) = .ok container) :
    cipher.decrypt newKey wrap = .ok backupKey.bytes ∧
        (∃ padded, cipher.decrypt backupKey container = .ok padded ∧
          Padding.unpad padded = .ok (.ofText new)) ∨
      ∃ detail, ending = .error (.failed (.irreversible detail)) := by
  cases ends with
  | unprepared preparation =>
    rcases preparation.irreversible truth oldDerived unwrapped newDerived wrapped enclosed with
      opens | ⟨detail, told⟩
    · exact .inl opens
    · cases told
      exact .inr ⟨detail, rfl⟩
  | refused preparation | exchanged preparation =>
    rcases preparation.irreversible (List.forall_mem_append.1 truth).1 oldDerived unwrapped
      newDerived wrapped enclosed with opens | ⟨_, told⟩
    · exact .inl opens
    · cases told

end preparation

/-- The summary that a commit puts in force is in the file. -/
theorem Commit.filed {updated : WalletSummary} {new : String} {size count : Nat} {calls : List Call}
    (committing : Commit updated new size none calls count (.ok ()))
    (start : Option WalletSummary) :
    lastly Call.filing start calls = some updated := by
  cases committing with
  | done =>
    rw [lastly, lastly_append, lastly_filing_resealings]
    rfl

/-- A rotation that goes through has kept both secrets, whatever its cipher does. One whose
cipher seals what it cannot open again ends with that. -/
theorem rotate_reversible {ω : Type} (lock : Lock ω) (cipher : KeyCipher)
    (stores : List (BoundStore ω)) (old new : String) (wallet wallet' : OpenWallet ω)
    (result : Except RotationStop Unit)
    (rotated : rotate lock (cipher.steady Unit) stores old new wallet () = (result, wallet', ()))
    (leave : LeaveSummary stores wallet.summaryPath) :
    (result = .ok () →
      WalletSummary.read wallet'.summaryPath wallet'.around.disk = .ok wallet'.summary ∧
      (∃ oldKey newKey backupKey, cipher.deriveKey old = .ok oldKey ∧
        cipher.deriveKey new = .ok newKey ∧
        wallet.summary.backupKey cipher oldKey = .ok backupKey ∧
        wallet'.summary.backupKey cipher newKey = .ok backupKey ∧
        wallet'.summary.credential cipher backupKey = .ok new) ∧
      wallet'.summary.walletId = wallet.summary.walletId ∧
      wallet'.summary.name = wallet.summary.name ∧
        wallet'.summary.notes = wallet.summary.notes) ∧
    ∀ oldKey backupKey newKey wrap container, lock.accepts old wallet.around.rest →
      cipher.deriveKey old = .ok oldKey → wallet.summary.backupKey cipher oldKey = .ok backupKey →
      cipher.deriveKey new = .ok newKey → cipher.encrypt newKey backupKey.bytes = .ok wrap →
      cipher.encrypt backupKey (Padding.pad (.ofText new)) = .ok container →
      (cipher.decrypt newKey wrap ≠ .ok backupKey.bytes ∨
        ∀ padded, cipher.decrypt backupKey container = .ok padded →
          Padding.unpad padded ≠ .ok (.ofText new)) →
      ∃ detail, result = .error (.failed (.irreversible detail)) := by
  obtain ⟨calls, ending, _, around, run, ends, same⟩ :=
    exists_makes lock (cipher.steady Unit) stores old new wallet ()
  have truth := run.isAnsweredBy rfl
  rw [rotated] at same
  obtain ⟨rfl, rfl⟩ : result = ending.map (fun _ => ()) ∧
      wallet' = settledWith wallet new around ending := by
    simpa using same
  constructor
  · intro succeeded
    obtain ⟨updated, rfl⟩ : ∃ updated, ending = .ok updated := by
      cases ending with
      | error => cases succeeded
      | ok updated => exact ⟨updated, rfl⟩
    generalize lock.accepts old wallet.around.rest = accepted at ends
    cases ends with
    | @exchanged _ prepared exchanges _ preparation exchanging =>
      cases exchanging with
      | committed committing =>
        have unknown : IsFiled wallet.summaryPath none wallet.around := fun _ known => nomatch known
        have filed := run.tracks (Parties.tracks_filing leave) unknown
        rw [lastly_append, lastly, committing.filed] at filed
        have opens := preparation.opens
          (List.forall_mem_append.1 (run.isTruthful (cipher.steady_truthful Unit))).1
        exact ⟨filed updated rfl, opens⟩
  · intro oldKey backupKey newKey wrap container accepted oldDerived unwrapped newDerived
      wrapped enclosed bad
    rw [accepted] at ends
    rcases ends.irreversible truth oldDerived unwrapped newDerived wrapped enclosed with
      ⟨reopened, padded, opened, unpadded⟩ | ⟨detail, rfl⟩
    · rcases bad with changed | lost
      · exact absurd reopened changed
      · exact absurd unpadded (lost padded opened)
    · exact ⟨detail, rfl⟩

/-- A cipher that forgets every text it seals under a new key. -/
def forgetfulCipher : KeyCipher := { labelCipher with encrypt := fun key _ => .ok key.bytes }

/-- One rotation keeps its secrets, and the same with a forgetful cipher is found out. -/
theorem rotate_reversible_of_label :
    (∀ kind, LeaveSummary [StoreKind.store kind] rehearsedWallet.summaryPath) ∧
      (∃ wallet' : OpenWallet RehearsalWallet,
        WalletSummary.read wallet'.summaryPath wallet'.around.disk = .ok wallet'.summary ∧
          wallet'.summary.backupKey labelCipher (spelledKey "new") = .ok (spelledKey "backup") ∧
          wallet'.summary.credential labelCipher (spelledKey "backup") = .ok "new") ∧
      ∃ detail, (rotate RehearsalWallet.lock (forgetfulCipher.steady Unit)
        [StoreKind.recording.store] "old" "new"
        rehearsedWallet ()).1 = .error (.failed (.irreversible detail)) := by
  have leave (kind : StoreKind) : LeaveSummary [kind.store] rehearsedWallet.summaryPath := by
    intro store member credential around summary filed
    obtain rfl := List.mem_singleton.1 member
    exact filed
  refine ⟨leave, ?_, ?_⟩
  · obtain ⟨kept, -⟩ :=
      rotate_reversible RehearsalWallet.lock labelCipher [StoreKind.recording.store] "old" "new"
      rehearsedWallet _ (.ok ()) rfl (leave _)
    obtain ⟨filed, ⟨oldKey, newKey, backupKey, oldDerived, newDerived, unwrapped, rewrapped,
      opened⟩, -⟩ := kept rfl
    cases oldDerived
    cases newDerived
    have same : rehearsedWallet.summary.backupKey labelCipher (spelledKey "old") =
      .ok (spelledKey "backup") := rfl
    obtain rfl := Except.ok.inj (same.symm.trans unwrapped)
    exact ⟨_, filed, rewrapped, opened⟩
  · have forgotten : forgetfulCipher.decrypt (spelledKey "new") (spelledKey "new").bytes ≠
        .ok (spelledKey "backup").bytes := by
      intro same
      have empty : [] = (spelledKey "backup").bytes := Except.ok.inj same
      exact absurd empty (by decide)
    obtain ⟨-, told⟩ :=
      rotate_reversible RehearsalWallet.lock forgetfulCipher [StoreKind.recording.store] "old" "new"
      rehearsedWallet _ _ rfl (leave _)
    exact told (spelledKey "old") (spelledKey "backup") (spelledKey "new") _ _ rfl
      rfl rfl rfl rfl rfl (.inl forgotten)

end PaymentVault.Rotation
