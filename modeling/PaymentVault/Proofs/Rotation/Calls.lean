import PaymentVault.Wallet.Rotation

/-!
# The calls of a rotation

A rotation reaches what is around it by calls only: to the cipher, to the lock of the wallet, to
the bound stores and to the summary file. Every rotation is a run of such calls that ends in one
of a few ways (`exists_makes`), and what the parties do at a call is all that decides which.
-/
namespace PaymentVault.Rotation

/-- A call that a rotation makes, with its answer. -/
inductive Call where
  | deriveKey (credential : String) (answer : Except VaultError WalletKey)
  | sealText (key : WalletKey) (text : Bytes) (answer : Except VaultError Bytes)
  | openText (key : WalletKey) (container : Bytes) (answer : Except VaultError Bytes)
  | decryptKeys (credential : String) (answer : Except LedgerError Unit)
  | encryptKeys (credential : String) (answer : Except LedgerError Unit)
  | writeSummary (summary : WalletSummary) (answer : Except VaultError Unit)
  /-- The store at a position reseals its file. -/
  | reseal (position : Nat) (credential : String) (answer : Except RotationStop Unit)

/-- Whether a call goes to the cipher. -/
def Call.isOfCipher : Call → Bool
  | deriveKey _ _ | sealText _ _ _ | openText _ _ _ => true
  | decryptKeys _ _ | encryptKeys _ _ | writeSummary _ _ | reseal _ _ _ => false

theorem decryptKeys_notMem {credential : String} {answer : Except LedgerError Unit}
    {calls : List Call} (ofCipher : calls.all Call.isOfCipher) :
    .decryptKeys credential answer ∉ calls := fun member =>
  absurd (List.all_eq_true.1 ofCipher _ member) (by simp [Call.isOfCipher])

/-- Those that a rotation calls on. -/
structure Parties (σ ω : Type) where
  cipher : ChangingCipher σ
  lock : Lock ω
  stores : List (BoundStore ω)
  summaryPath : FilePath

namespace Parties

variable {σ ω : Type} (parties : Parties σ ω)

/-- A call gets its answer and leads from one state of the cipher and the surroundings to
another. -/
inductive Answers : Call → σ × Surroundings ω → σ × Surroundings ω → Prop where
  | deriveKey {credential answer s s' around}
      (h : parties.cipher.deriveKey credential s = (answer, s')) :
    Answers (.deriveKey credential answer) (s, around) (s', around)
  | sealText {key text answer s s' around} (h : parties.cipher.encrypt key text s = (answer, s')) :
    Answers (.sealText key text answer) (s, around) (s', around)
  | openText {key container answer s s' around}
      (h : parties.cipher.decrypt key container s = (answer, s')) :
    Answers (.openText key container answer) (s, around) (s', around)
  | decryptKeys {credential answer s around rest}
      (h : parties.lock.decrypt credential around.rest = (answer, rest)) :
    Answers (.decryptKeys credential answer) (s, around) (s, { around with rest })
  | encryptKeys {credential answer s around rest}
      (h : parties.lock.encrypt credential around.rest = (answer, rest)) :
    Answers (.encryptKeys credential answer) (s, around) (s, { around with rest })
  | writeSummary {summary answer s around disk}
      (h : summary.write parties.summaryPath around.disk = (answer, disk)) :
    Answers (.writeSummary summary answer) (s, around) (s, { around with disk })
  | reseal {position store credential answer s around around'}
      (there : parties.stores[position]? = some store)
      (h : store.reseal credential around = (answer, around')) :
    Answers (.reseal position credential answer) (s, around) (s, around')

/-- Calls made one after another. -/
inductive Run : σ × Surroundings ω → List Call → σ × Surroundings ω → Prop where
  | nil (state) : Run state [] state
  | cons {state middle final call calls} (answered : parties.Answers call state middle)
      (rest : Run middle calls final) : Run state (call :: calls) final

variable {parties} {state middle final : σ × Surroundings ω} {call : Call} {calls later : List Call}

theorem Run.single (answered : parties.Answers call state final) : parties.Run state [call] final :=
  .cons answered (.nil final)

theorem Run.append (first : parties.Run state calls middle)
    (second : parties.Run middle later final) :
    parties.Run state (calls ++ later) final := by
  induction first with
  | nil => exact second
  | cons answered _ ih => exact .cons answered (ih second)

@[simp] theorem run_nil_iff : parties.Run state [] final ↔ final = state := by
  constructor
  · rintro ⟨⟩
    rfl
  · rintro rfl
    exact .nil _

theorem run_cons_iff :
    parties.Run state (call :: calls) final ↔
      ∃ middle, parties.Answers call state middle ∧ parties.Run middle calls final := by
  constructor
  · rintro (_ | ⟨answered, rest⟩)
    exact ⟨_, answered, rest⟩
  · rintro ⟨middle, answered, rest⟩
    exact .cons answered rest

theorem run_append_iff :
    parties.Run state (calls ++ later) final ↔
      ∃ middle, parties.Run state calls middle ∧ parties.Run middle later final := by
  constructor
  · intro run
    induction calls generalizing state with
    | nil => exact ⟨state, .nil state, run⟩
    | cons call calls ih =>
      obtain ⟨next, answered, rest⟩ := run_cons_iff.1 run
      obtain ⟨middle, before, after⟩ := ih rest
      exact ⟨middle, .cons answered before, after⟩
  · rintro ⟨middle, before, after⟩
    exact before.append after

/-- Calls to the cipher change nothing else. -/
theorem Run.around_eq (run : parties.Run state calls final) (ofCipher : calls.all Call.isOfCipher) :
    final.2 = state.2 := by
  induction run with
  | nil => rfl
  | cons answered _ ih =>
    rw [List.all_cons, Bool.and_eq_true] at ofCipher
    rw [ih ofCipher.2]
    cases answered with
    | deriveKey => rfl
    | sealText => rfl
    | openText => rfl
    | decryptKeys | encryptKeys | writeSummary | reseal =>
      exact absurd ofCipher.1 (by simp [Call.isOfCipher])

end Parties

/-! ## Before the commit -/

/-- The calls that seal the backup key under the new key and get it back, and what comes of them. -/
inductive Wrapping (backupKey newKey : WalletKey) :
    List Call → Except WalletFault Bytes → Prop where
  | notSealed (cause) :
    Wrapping backupKey newKey [.sealText newKey backupKey.bytes (.error cause)]
      (.error (.saveFailure cause))
  | notOpened (wrap cause) :
    Wrapping backupKey newKey
      [.sealText newKey backupKey.bytes (.ok wrap), .openText newKey wrap (.error cause)]
      (.error (lost "backup key" cause))
  | changed (wrap reborn) (other : reborn ≠ backupKey.bytes) :
    Wrapping backupKey newKey
      [.sealText newKey backupKey.bytes (.ok wrap), .openText newKey wrap (.ok reborn)]
      (.error (differs "backup key"))
  | done (wrap) :
    Wrapping backupKey newKey
      [.sealText newKey backupKey.bytes (.ok wrap), .openText newKey wrap (.ok backupKey.bytes)]
        (.ok wrap)

/-- The calls that seal the new credential under the backup key and get it back, and what comes
of them. -/
inductive Enclosing (backupKey : WalletKey) (new : String) :
    List Call → Except WalletFault Bytes → Prop where
  | notSealed (cause) :
    Enclosing backupKey new [.sealText backupKey (Padding.pad (.ofText new)) (.error cause)]
      (.error (.saveFailure cause))
  | notOpened (container cause) :
    Enclosing backupKey new
      [.sealText backupKey (Padding.pad (.ofText new)) (.ok container),
        .openText backupKey container (.error cause)]
      (.error (lost "credential" cause))
  | notPadded (container padded cause) (bad : Padding.unpad padded = .error cause) :
    Enclosing backupKey new
      [.sealText backupKey (Padding.pad (.ofText new)) (.ok container),
        .openText backupKey container (.ok padded)]
      (.error (lost "credential" (.malformed cause)))
  | changed (container padded reborn) (unpadded : Padding.unpad padded = .ok reborn)
      (other : reborn ≠ .ofText new) :
    Enclosing backupKey new
      [.sealText backupKey (Padding.pad (.ofText new)) (.ok container),
        .openText backupKey container (.ok padded)]
      (.error (differs "credential"))
  | done (container padded) (unpadded : Padding.unpad padded = .ok (.ofText new)) :
    Enclosing backupKey new
      [.sealText backupKey (Padding.pad (.ofText new)) (.ok container),
        .openText backupKey container (.ok padded)]
      (.ok container)

/-- The calls that prepare a new summary, and what comes of them. -/
inductive Preparation (summary : WalletSummary) (old new : String) :
    List Call → Except WalletFault WalletSummary → Prop where
  | noOldKey (cause) : Preparation summary old new [.deriveKey old (.error cause)]
      (.error (.loadFailure cause))
  | notOpened (oldKey cause) :
    Preparation summary old new
      [.deriveKey old (.ok oldKey), .openText oldKey summary.sealedBackupKey (.error cause)]
      (.error (.loadFailure cause))
  | noBackupKey (oldKey bytes cause) (bad : WalletKey.ofBytes bytes = .error cause) :
    Preparation summary old new
      [.deriveKey old (.ok oldKey), .openText oldKey summary.sealedBackupKey (.ok bytes)]
      (.error (.loadFailure cause))
  | noNewKey (oldKey backupKey : WalletKey) (cause) :
    Preparation summary old new
      [.deriveKey old (.ok oldKey), .openText oldKey summary.sealedBackupKey (.ok backupKey.bytes),
        .deriveKey new (.error cause)]
      (.error (.saveFailure cause))
  | notWrapped (oldKey) {backupKey newKey wrapping fault}
      (wraps : Wrapping backupKey newKey wrapping (.error fault)) :
    Preparation summary old new
      ([.deriveKey old (.ok oldKey), .openText oldKey summary.sealedBackupKey (.ok backupKey.bytes),
        .deriveKey new (.ok newKey)] ++ wrapping)
      (.error fault)
  | notEnclosed (oldKey) {backupKey newKey wrapping wrap enclosing fault}
      (wraps : Wrapping backupKey newKey wrapping (.ok wrap))
      (encloses : Enclosing backupKey new enclosing (.error fault)) :
    Preparation summary old new
      ([.deriveKey old (.ok oldKey), .openText oldKey summary.sealedBackupKey (.ok backupKey.bytes),
        .deriveKey new (.ok newKey)] ++ wrapping ++ enclosing)
      (.error fault)
  | ready (oldKey) {backupKey newKey wrapping sealedBackupKey enclosing sealedCredential}
      (wraps : Wrapping backupKey newKey wrapping (.ok sealedBackupKey))
      (encloses : Enclosing backupKey new enclosing (.ok sealedCredential)) :
    Preparation summary old new
      ([.deriveKey old (.ok oldKey), .openText oldKey summary.sealedBackupKey (.ok backupKey.bytes),
        .deriveKey new (.ok newKey)] ++ wrapping ++ enclosing)
      (.ok { summary with sealedBackupKey, sealedCredential })

theorem Wrapping.ofCipher {backupKey newKey : WalletKey} {calls : List Call}
    {result : Except WalletFault Bytes} (wraps : Wrapping backupKey newKey calls result) :
    calls.all Call.isOfCipher := by
  cases wraps <;> rfl

theorem Enclosing.ofCipher {backupKey : WalletKey} {new : String} {calls : List Call}
    {result : Except WalletFault Bytes} (encloses : Enclosing backupKey new calls result) :
    calls.all Call.isOfCipher := by
  cases encloses <;> rfl

/-- A preparation calls on the cipher only. -/
theorem Preparation.ofCipher {summary : WalletSummary} {old new : String} {calls : List Call}
    {result : Except WalletFault WalletSummary}
    (prepared : Preparation summary old new calls result) :
    calls.all Call.isOfCipher := by
  cases prepared with
  | noOldKey => rfl
  | notOpened => rfl
  | noBackupKey => rfl
  | noNewKey => rfl
  | notWrapped _ wraps => simp [Call.isOfCipher, wraps.ofCipher]
  | notEnclosed _ wraps encloses => simp [Call.isOfCipher, wraps.ofCipher, encloses.ofCipher]
  | ready _ wraps encloses => simp [Call.isOfCipher, wraps.ofCipher, encloses.ofCipher]

section preparation

variable {σ ω : Type} (parties : Parties σ ω) (around : Surroundings ω) (s : σ)

theorem resealBackupKey_run (backupKey newKey : WalletKey) :
    ∃ calls, parties.Run (s, around) calls
      ((resealBackupKey parties.cipher backupKey newKey s).2, around) ∧
      Wrapping backupKey newKey calls (resealBackupKey parties.cipher backupKey newKey s).1 := by
  unfold resealBackupKey
  rcases sealed : parties.cipher.encrypt newKey backupKey.bytes s with ⟨cause | wrap, s₁⟩
  · exact ⟨_, .single (.sealText sealed), .notSealed cause⟩
  rw [andThen_ok]
  rcases opened : parties.cipher.decrypt newKey wrap s₁ with ⟨cause | reborn, s₂⟩
  · exact ⟨_, .cons (.sealText sealed) (.single (.openText opened)), .notOpened wrap cause⟩
  rw [andThen_ok]
  by_cases same : reborn = backupKey.bytes
  · rw [if_pos same]
    subst same
    exact ⟨_, .cons (.sealText sealed) (.single (.openText opened)), .done wrap⟩
  · rw [if_neg same]
    exact ⟨_, .cons (.sealText sealed) (.single (.openText opened)), .changed wrap reborn same⟩

theorem resealCredential_run (backupKey : WalletKey) (new : String) :
    ∃ calls,
      parties.Run (s, around) calls ((resealCredential parties.cipher backupKey new s).2, around) ∧
      Enclosing backupKey new calls (resealCredential parties.cipher backupKey new s).1 := by
  unfold resealCredential
  rcases sealed : parties.cipher.encrypt backupKey (Padding.pad (.ofText new)) s with
    ⟨cause | container, s₁⟩
  · exact ⟨_, .single (.sealText sealed), .notSealed cause⟩
  rw [andThen_ok]
  rcases opened : parties.cipher.decrypt backupKey container s₁ with ⟨cause | padded, s₂⟩
  · exact ⟨_, .cons (.sealText sealed) (.single (.openText opened)), .notOpened container cause⟩
  rw [andThen_ok]
  rcases unpadded : Padding.unpad padded with cause | reborn
  · exact ⟨_, .cons (.sealText sealed) (.single (.openText opened)),
      .notPadded container padded cause unpadded⟩
  change ∃ calls, parties.Run _ calls ((andThen _ (Except.ok reborn, s₂) _).2, around) ∧
    Enclosing backupKey new calls (andThen _ (Except.ok reborn, s₂) _).1
  rw [andThen_ok]
  by_cases same : reborn = .ofText new
  · rw [if_pos same]
    subst same
    exact ⟨_, .cons (.sealText sealed) (.single (.openText opened)),
      .done container padded unpadded⟩
  · rw [if_neg same]
    exact ⟨_, .cons (.sealText sealed) (.single (.openText opened)),
      .changed container padded reborn unpadded same⟩

theorem prepare_run {summary : WalletSummary} {old new : String} {s' : σ}
    {result : Except WalletFault WalletSummary}
    (h : prepare parties.cipher summary old new s = (result, s')) :
    ∃ calls, parties.Run (s, around) calls (s', around) ∧
      Preparation summary old new calls result := by
  obtain ⟨rfl, rfl⟩ := Prod.ext_iff.1 h
  unfold prepare
  rcases derived : parties.cipher.deriveKey old s with ⟨cause | oldKey, s₁⟩
  · exact ⟨_, .single (.deriveKey derived), .noOldKey cause⟩
  rw [andThen_ok]
  rcases opened : parties.cipher.decrypt oldKey summary.sealedBackupKey s₁ with ⟨cause | bytes, s₂⟩
  · exact ⟨_, .cons (.deriveKey derived) (.single (.openText opened)), .notOpened oldKey cause⟩
  rw [andThen_ok]
  rcases sized : WalletKey.ofBytes bytes with cause | backupKey
  · exact ⟨_, .cons (.deriveKey derived) (.single (.openText opened)),
      .noBackupKey oldKey bytes cause sized⟩
  obtain rfl := WalletKey.ofBytes_eq_ok_iff.1 sized
  rw [andThen_ok]
  rcases renewed : parties.cipher.deriveKey new s₂ with ⟨cause | newKey, s₃⟩
  · exact ⟨_, .cons (.deriveKey derived) (.cons (.openText opened) (.single (.deriveKey renewed))),
      .noNewKey oldKey backupKey cause⟩
  rw [andThen_ok]
  have start : parties.Run (s, around)
      [.deriveKey old (.ok oldKey), .openText oldKey summary.sealedBackupKey (.ok backupKey.bytes),
        .deriveKey new (.ok newKey)] (s₃, around) :=
    .cons (.deriveKey derived) (.cons (.openText opened) (.single (.deriveKey renewed)))
  obtain ⟨wrapping, wrapRun, wraps⟩ := resealBackupKey_run parties around s₃ backupKey newKey
  rcases wrapped : resealBackupKey parties.cipher backupKey newKey s₃ with ⟨fault | wrap, s₄⟩
  · rw [wrapped] at wrapRun wraps
    exact ⟨_, start.append wrapRun, .notWrapped oldKey wraps⟩
  rw [wrapped] at wrapRun wraps
  dsimp only
  obtain ⟨enclosing, encloseRun, encloses⟩ := resealCredential_run parties around s₄ backupKey new
  rcases enclosed : resealCredential parties.cipher backupKey new s₄ with ⟨fault | container, s₅⟩
  · rw [enclosed] at encloseRun encloses
    exact ⟨_, (start.append wrapRun).append encloseRun, .notEnclosed oldKey wraps encloses⟩
  · rw [enclosed] at encloseRun encloses
    exact ⟨_, (start.append wrapRun).append encloseRun, .ready oldKey wraps encloses⟩

end preparation

/-! ## The commit and the roll-back -/

/-- Calls to the stores from a position on to reseal their files, one for each answer. -/
def resealings (credential : String) : Nat → List (Except RotationStop Unit) → List Call
  | _, [] => []
  | position, answer :: answers =>
    .reseal position credential answer :: resealings credential (position + 1) answers

/-- So many stores that do as they are told. -/
def compliant (count : Nat) : List (Except RotationStop Unit) := List.replicate count (.ok ())

/-- Where a commit can fail. -/
inductive Breach where
  | summary
  | store (position : Nat)
  | lock

/-- The calls of a commit to so many stores, at its breach if there is one, and what comes of
them. The number of stores that were resealed goes with it. -/
inductive Commit (updated : WalletSummary) (new : String) (size : Nat) :
    Option Breach → List Call → Nat → Except RotationStop Unit → Prop where
  | notWritten (cause) :
    Commit updated new size (some .summary) [.writeSummary updated (.error cause)] 0
      (.error (.failed (.saveFailure cause)))
  | notResealed (count stop) (within : count < size) :
    Commit updated new size (some (.store count))
      (.writeSummary updated (.ok ()) ::
        (resealings new 0 (compliant count) ++ [.reseal count new (.error stop)]))
      count (.error stop)
  | notEncrypted (cause) :
    Commit updated new size (some .lock)
      (.writeSummary updated (.ok ()) ::
        (resealings new 0 (compliant size) ++ [.encryptKeys new (.error cause)]))
      size (.error (.failed (.ledger cause)))
  | done :
    Commit updated new size none
      (.writeSummary updated (.ok ()) ::
        (resealings new 0 (compliant size) ++ [.encryptKeys new (.ok ())]))
      size (.ok ())

/-- The calls of a roll-back after so many stores were resealed, and whether it came to the end. -/
inductive RollBack (former : WalletSummary) (old : String) (count : Nat) :
    List Call → Bool → Prop where
  | complete (written answers locked) (each : answers.length = count)
      (returned : .error .aborted ∉ answers) :
    RollBack former old count
      (.writeSummary former written :: (resealings old 0 answers ++ [.encryptKeys old locked])) true
  | brokenOff (written answers) (within : answers.length < count) :
    RollBack former old count
      (.writeSummary former written :: resealings old 0 (answers ++ [.error .aborted])) false

section drop

variable {α : Type} {position : Nat} {first : α} {all rest : List α}
  (here : all.drop position = first :: rest)
include here

theorem getElem?_of_drop_cons : all[position]? = some first := by
  rw [← List.head?_drop, here, List.head?_cons]

theorem drop_succ_of_drop_cons : all.drop (position + 1) = rest := by
  rw [← List.tail_drop, here, List.tail_cons]

end drop

section commit

variable {σ ω : Type} (parties : Parties σ ω) (s : σ)

theorem resealAll_run (credential : String) (stores : List (BoundStore ω)) (position : Nat)
    (here : parties.stores.drop position = stores) (around : Surroundings ω) :
    ∃ count, (resealAll credential stores around).2.1 = stores.take count ∧
      ((resealAll credential stores around).1 = .ok () ∧ count = stores.length ∧
          parties.Run (s, around) (resealings credential position (compliant count))
            (s, (resealAll credential stores around).2.2) ∨
        ∃ stop, (resealAll credential stores around).1 = .error stop ∧ count < stores.length ∧
          parties.Run (s, around)
            (resealings credential position (compliant count) ++
              [.reseal (position + count) credential (.error stop)])
            (s, (resealAll credential stores around).2.2)) := by
  induction stores generalizing position around with
  | nil => exact ⟨0, rfl, .inl ⟨rfl, rfl, .nil _⟩⟩
  | cons store rest ih =>
    have there : parties.stores[position]? = some store := getElem?_of_drop_cons here
    have further : parties.stores.drop (position + 1) = rest := drop_succ_of_drop_cons here
    rcases resealed : store.reseal credential around with ⟨stop | ⟨⟩, around'⟩
    · simp only [resealAll, resealed]
      exact ⟨0, rfl, .inr ⟨stop, rfl, Nat.succ_pos _, .single (.reseal there resealed)⟩⟩
    · obtain ⟨count, taken, ending⟩ := ih (position + 1) further around'
      simp only [resealAll, resealed]
      refine ⟨count + 1, by rw [taken, List.take_succ_cons], ?_⟩
      rcases ending with ⟨ok, all, run⟩ | ⟨stop, stopped, within, run⟩
      · exact .inl ⟨ok, by rw [all, List.length_cons], .cons (.reseal there resealed) run⟩
      · refine .inr ⟨stop, stopped, by
          rw [List.length_cons]; omega, .cons (.reseal there resealed) ?_⟩
        rw [show position + (count + 1) = position + 1 + count by omega]
        exact run

theorem restoreAll_run (credential : String) (stores : List (BoundStore ω)) (position : Nat)
    (here : stores <+: parties.stores.drop position) (around : Surroundings ω) :
    ∃ answers : List (Except RotationStop Unit),
      ((restoreAll credential stores around).1 = true ∧ answers.length = stores.length ∧
        .error .aborted ∉ answers ∧
          parties.Run (s, around) (resealings credential position answers)
            (s, (restoreAll credential stores around).2)) ∨
        ((restoreAll credential stores around).1 = false ∧ answers.length < stores.length ∧
          parties.Run (s, around) (resealings credential position (answers ++ [.error .aborted]))
            (s, (restoreAll credential stores around).2)) := by
  induction stores generalizing position around with
  | nil => exact ⟨[], .inl ⟨rfl, rfl, List.not_mem_nil, .nil _⟩⟩
  | cons store rest ih =>
    obtain ⟨beyond, split⟩ := here
    have there : parties.stores[position]? = some store := getElem?_of_drop_cons split.symm
    have further : rest <+: parties.stores.drop (position + 1) :=
      ⟨beyond, (drop_succ_of_drop_cons split.symm).symm⟩
    rcases resealed : store.reseal credential around with ⟨answer, around'⟩
    by_cases broken : answer = .error .aborted
    · have breaks : restoreAll credential (store :: rest) around = (false, around') := by
        simp only [restoreAll, resealed, broken]
      rw [breaks]
      subst broken
      exact ⟨[], .inr ⟨rfl, Nat.succ_pos _, .single (.reseal there resealed)⟩⟩
    · have goesOn : restoreAll credential (store :: rest) around =
          restoreAll credential rest around' := by
        rcases answer with (fault | _) | ⟨⟩
        · simp only [restoreAll, resealed]
        · exact absurd rfl broken
        · simp only [restoreAll, resealed]
      obtain ⟨answers, ending⟩ := ih (position + 1) further around'
      rw [goesOn]
      refine ⟨answer :: answers, ?_⟩
      rcases ending with ⟨ended, each, returned, run⟩ | ⟨ended, within, run⟩
      · refine .inl ⟨ended, by rw [List.length_cons, each, List.length_cons], ?_,
          .cons (.reseal there resealed) run⟩
        simp [Ne.symm broken, returned]
      · exact .inr ⟨ended, by simpa using within, .cons (.reseal there resealed) run⟩

theorem commit_run {updated : WalletSummary} {new : String} {around around' : Surroundings ω}
    {result : Except RotationStop Unit} {resealed : List (BoundStore ω)}
    (h : commit parties.lock parties.stores parties.summaryPath updated new around =
      (result, resealed, around')) :
    ∃ breach calls count, Commit updated new parties.stores.length breach calls count result ∧
      resealed = parties.stores.take count ∧ parties.Run (s, around) calls (s, around') := by
  rcases written : updated.write parties.summaryPath around.disk with ⟨cause | ⟨⟩, disk⟩
  · simp only [commit, writeSummary, written, mapError_error] at h
    cases h
    exact ⟨_, _, 0, .notWritten cause, rfl, .single (.writeSummary written)⟩
  obtain ⟨count, taken, ending⟩ :=
    resealAll_run parties s new parties.stores 0 rfl { around with disk }
  rcases told : resealAll new parties.stores { around with disk } with ⟨result, sealed, around₁⟩
  rw [told] at taken ending
  rcases ending with ⟨rfl, rfl, run⟩ | ⟨stop, rfl, within, run⟩
  · rcases encrypted : parties.lock.encrypt new around₁.rest with ⟨cause | ⟨⟩, rest⟩
    · simp only [commit, writeSummary, written, mapError_ok, mapError_error, told,
        encryptKeys, encrypted] at h
      cases h
      exact ⟨_, _, _, .notEncrypted cause, taken,
        .cons (.writeSummary written) (run.append (.single (.encryptKeys encrypted)))⟩
    · simp only [commit, writeSummary, written, mapError_ok, told, encryptKeys, encrypted] at h
      cases h
      exact ⟨_, _, _, .done, taken,
        .cons (.writeSummary written) (run.append (.single (.encryptKeys encrypted)))⟩
  · simp only [commit, writeSummary, written, mapError_ok, told] at h
    cases h
    rw [Nat.zero_add] at run
    exact ⟨_, _, count, .notResealed count stop within, taken, .cons (.writeSummary written) run⟩

theorem rollBack_run {former : WalletSummary} {old : String} {count : Nat}
    (within : count ≤ parties.stores.length) {around around' : Surroundings ω} {ended : Bool}
    (h : rollBack parties.lock (parties.stores.take count) parties.summaryPath former old around =
      (ended, around')) :
    ∃ calls, RollBack former old count calls ended ∧
      parties.Run (s, around) calls (s, around') := by
  rcases written : former.write parties.summaryPath around.disk with ⟨answer, disk⟩
  obtain ⟨answers, ending⟩ :=
    restoreAll_run parties s old (parties.stores.take count) 0 (List.take_prefix _ _)
      { around with disk }
  rcases restored : restoreAll old (parties.stores.take count) { around with disk } with
    ⟨returned, around₁⟩
  rw [restored, List.length_take, Nat.min_eq_left within] at ending
  rcases ending with ⟨rfl, each, sound, run⟩ | ⟨rfl, short, run⟩
  · rcases encrypted : parties.lock.encrypt old around₁.rest with ⟨locked, rest⟩
    simp only [rollBack, writeSummary, written, restored, encryptKeys, encrypted] at h
    cases h
    exact ⟨_, .complete answer answers locked each sound,
      .cons (.writeSummary written) (run.append (.single (.encryptKeys encrypted)))⟩
  · simp only [rollBack, writeSummary, written, restored] at h
    cases h
    exact ⟨_, .brokenOff answer answers short, .cons (.writeSummary written) run⟩

end commit

/-! ## Whole rotations -/

/-- The calls that put a new summary in force, or fail to and restore the former one. -/
inductive Exchange (former updated : WalletSummary) (old new : String) (size : Nat) :
    List Call → Except RotationStop WalletSummary → Prop where
  | committed {calls count} (committing : Commit updated new size none calls count (.ok ())) :
    Exchange former updated old new size calls (.ok updated)
  | brokenOff {breach calls count}
      (committing : Commit updated new size (some breach) calls count (.error .aborted)) :
    Exchange former updated old new size calls (.error .aborted)
  | rolledBack {breach calls count fault restores}
      (committing : Commit updated new size (some breach) calls count (.error (.failed fault)))
      (restoring : RollBack former old count restores true) :
    Exchange former updated old new size (calls ++ restores) (.error (.failed fault))
  | rollBackBrokenOff {breach calls count fault restores}
      (committing : Commit updated new size (some breach) calls count (.error (.failed fault)))
      (restoring : RollBack former old count restores false) :
    Exchange former updated old new size (calls ++ restores) (.error .aborted)

/-- The calls of a rotation after the check of the old credential, and what comes of them: the
new summary if it goes through. -/
inductive Ending (summary : WalletSummary) (old new : String) (size : Nat) :
    Bool → List Call → Except RotationStop WalletSummary → Prop where
  | mismatch : Ending summary old new size false [] (.error (.failed .credentialMismatch))
  | unprepared {calls fault} (prepared : Preparation summary old new calls (.error fault)) :
    Ending summary old new size true calls (.error (.failed fault))
  | refused {calls updated} (prepared : Preparation summary old new calls (.ok updated)) (cause) :
    Ending summary old new size true (calls ++ [.decryptKeys old (.error cause)])
      (.error (.failed (.ledger cause)))
  | exchanged {calls updated exchanges result}
      (prepared : Preparation summary old new calls (.ok updated))
      (exchanging : Exchange summary updated old new size exchanges result) :
    Ending summary old new size true (calls ++ .decryptKeys old (.ok ()) :: exchanges) result

/-- The wallet after a rotation. -/
def settledWith {ω : Type} (wallet : OpenWallet ω) (new : String) (around : Surroundings ω) :
    Except RotationStop WalletSummary → OpenWallet ω
  | .ok updated => { wallet with summary := updated, credential := new, around }
  | .error _ => { wallet with around }

theorem Commit.count_le {updated : WalletSummary} {new : String} {size count : Nat}
    {breach : Option Breach} {calls : List Call} {result : Except RotationStop Unit}
    (committing : Commit updated new size breach calls count result) : count ≤ size := by
  cases committing with
  | notWritten => exact Nat.zero_le _
  | notResealed _ _ within => exact Nat.le_of_lt within
  | notEncrypted => exact Nat.le_refl _
  | done => exact Nat.le_refl _

/-- A commit fails at its breach and nowhere else. -/
theorem Commit.breach_eq_none_iff {updated : WalletSummary} {new : String} {size count : Nat}
    {breach : Option Breach} {calls : List Call} {result : Except RotationStop Unit}
    (committing : Commit updated new size breach calls count result) :
    breach = none ↔ result = .ok () := by
  cases committing <;> simp

theorem Commit.exists_breach {updated : WalletSummary} {new : String} {size count : Nat}
    {breach : Option Breach} {calls : List Call} {stop : RotationStop}
    (committing : Commit updated new size breach calls count (.error stop)) :
    ∃ point, breach = some point := by
  rw [← Option.ne_none_iff_exists', Ne, committing.breach_eq_none_iff]
  simp

section rotation

variable {σ ω : Type} (lock : Lock ω) (cipher : ChangingCipher σ) (stores : List (BoundStore ω))
  (old new : String) (wallet : OpenWallet ω) (s : σ)

/-- A commit that fails is rolled back, to the end unless a store breaks down. -/
theorem exchange_run_of_failed {updated : WalletSummary} {fault : WalletFault}
    {resealed : List (BoundStore ω)} {middle : Surroundings ω}
    (committed : commit lock stores wallet.summaryPath updated new wallet.around =
      (.error (.failed fault), resealed, middle)) :
    ∃ breach commits count restores ended around,
      Commit updated new stores.length (some breach) commits count (.error (.failed fault)) ∧
        RollBack wallet.summary old count restores ended ∧
        (Parties.mk cipher lock stores wallet.summaryPath).Run (s, wallet.around)
          (commits ++ restores) (s, around) ∧
        exchange lock stores updated old new wallet =
          (.error (if ended then .failed fault else .aborted), { wallet with around }) := by
  obtain ⟨breach, commits, count, committing, rfl, run⟩ :=
    commit_run (Parties.mk cipher lock stores wallet.summaryPath) s committed
  obtain ⟨breach, rfl⟩ := committing.exists_breach
  rcases rolled : rollBack lock (stores.take count) wallet.summaryPath wallet.summary old middle
    with ⟨ended, around⟩
  obtain ⟨restores, restoring, restoreRun⟩ :=
    rollBack_run (Parties.mk cipher lock stores wallet.summaryPath) s committing.count_le rolled
  refine ⟨breach, commits, count, restores, ended, around, committing, restoring,
    run.append restoreRun, ?_⟩
  cases ended with
  | true => simp only [exchange, committed, rolled, if_true]
  | false => simp only [exchange, committed, rolled, Bool.false_eq_true, if_false]

theorem exchange_run (updated : WalletSummary) :
    ∃ calls result around,
      (Parties.mk cipher lock stores wallet.summaryPath).Run (s, wallet.around) calls (s, around) ∧
        Exchange wallet.summary updated old new stores.length calls result ∧
        exchange lock stores updated old new wallet =
          (result.map fun _ => (), settledWith wallet new around result) := by
  rcases committed : commit lock stores wallet.summaryPath updated new wallet.around with
    ⟨(fault | _) | ⟨⟩, resealed, around⟩
  · obtain ⟨_, _, _, _, ended, final, committing, restoring, run, exchanged⟩ :=
      exchange_run_of_failed lock cipher stores old new wallet s committed
    cases ended with
    | true => exact ⟨_, _, final, run, .rolledBack committing restoring, exchanged⟩
    | false => exact ⟨_, _, final, run, .rollBackBrokenOff committing restoring, exchanged⟩
  · obtain ⟨breach, calls, count, committing, -, run⟩ :=
      commit_run (Parties.mk cipher lock stores wallet.summaryPath) s committed
    obtain ⟨breach, rfl⟩ := committing.exists_breach
    refine ⟨_, _, around, run, .brokenOff committing, ?_⟩
    simp only [exchange, committed, settledWith, Except.map]
  · obtain ⟨breach, calls, count, committing, -, run⟩ :=
      commit_run (Parties.mk cipher lock stores wallet.summaryPath) s committed
    obtain rfl : breach = none := committing.breach_eq_none_iff.2 rfl
    refine ⟨_, _, around, run, .committed committing, ?_⟩
    simp only [exchange, committed, settledWith, Except.map]

/-- The calls of a rotation, and what comes of them. -/
def Makes (lock : Lock ω) (cipher : ChangingCipher σ) (stores : List (BoundStore ω))
    (old new : String) (wallet : OpenWallet ω) (s : σ) (calls : List Call)
    (ending : Except RotationStop WalletSummary) : Prop :=
  ∃ s' around,
    (Parties.mk cipher lock stores wallet.summaryPath).Run (s, wallet.around) calls (s', around) ∧
      Ending wallet.summary old new stores.length
        (lock.accepts old wallet.around.rest) calls ending ∧
      rotate lock cipher stores old new wallet s =
        (ending.map fun _ => (), settledWith wallet new around ending, s')

variable {lock stores old new wallet cipher s}

theorem makes_of_rejected (rejected : lock.accepts old wallet.around.rest = false) :
    Makes lock cipher stores old new wallet s [] (.error (.failed .credentialMismatch)) := by
  refine ⟨s, wallet.around, .nil _, by rw [rejected]; exact .mismatch, ?_⟩
  simp [rotate, rejected, settledWith, Except.map]

section accepted

variable (accepted : lock.accepts old wallet.around.rest = true) {s₁ : σ}
include accepted

theorem makes_of_unprepared {fault : WalletFault}
    (preparation : prepare cipher wallet.summary old new s = (.error fault, s₁)) :
    ∃ calls, Preparation wallet.summary old new calls (.error fault) ∧
      Makes lock cipher stores old new wallet s calls (.error (.failed fault)) := by
  obtain ⟨calls, run, prepared⟩ :=
    prepare_run (Parties.mk cipher lock stores wallet.summaryPath) wallet.around s preparation
  refine ⟨calls, prepared, s₁, wallet.around, run, by rw [accepted]; exact .unprepared prepared, ?_⟩
  simp [rotate, accepted, preparation, settledWith, Except.map]

variable {updated : WalletSummary}
  (preparation : prepare cipher wallet.summary old new s = (.ok updated, s₁)) {rest : ω}
include preparation

theorem makes_of_refused {cause : LedgerError}
    (refused : lock.decrypt old wallet.around.rest = (.error cause, rest)) :
    ∃ calls, Preparation wallet.summary old new calls (.ok updated) ∧
      Makes lock cipher stores old new wallet s (calls ++ [.decryptKeys old (.error cause)])
        (.error (.failed (.ledger cause))) := by
  obtain ⟨calls, run, prepared⟩ :=
    prepare_run (Parties.mk cipher lock stores wallet.summaryPath) wallet.around s preparation
  refine ⟨calls, prepared, s₁, _, run.append (.single (.decryptKeys refused)),
    by rw [accepted]; exact .refused prepared cause, ?_⟩
  simp [rotate, accepted, preparation, refused, settledWith, Except.map]

/-- A rotation goes on as the exchange does that it comes to. -/
theorem makes_of_exchange (decrypted : lock.decrypt old wallet.around.rest = (.ok (), rest))
    {exchanges : List Call} {ending : Except RotationStop WalletSummary} {around : Surroundings ω}
    (exchangeRun : (Parties.mk cipher lock stores wallet.summaryPath).Run
      (s₁, { wallet.around with rest }) exchanges (s₁, around))
    (exchanging : Exchange wallet.summary updated old new stores.length exchanges ending)
    (exchanged : exchange lock stores updated old new
        { wallet with around := { wallet.around with rest } } =
      (ending.map fun _ => (), settledWith wallet new around ending)) :
    ∃ before, Preparation wallet.summary old new before (.ok updated) ∧
      Makes lock cipher stores old new wallet s
        (before ++ .decryptKeys old (.ok ()) :: exchanges) ending := by
  obtain ⟨before, run, prepared⟩ :=
    prepare_run (Parties.mk cipher lock stores wallet.summaryPath) wallet.around s preparation
  refine ⟨before, prepared, s₁, around, run.append (.cons (.decryptKeys decrypted) exchangeRun),
    by rw [accepted]; exact .exchanged prepared exchanging, ?_⟩
  simp only [rotate, accepted, preparation, decrypted, exchanged, Bool.not_true,
    Bool.false_eq_true, if_false]

theorem makes_of_decrypted (decrypted : lock.decrypt old wallet.around.rest = (.ok (), rest)) :
    ∃ before exchanges ending, Preparation wallet.summary old new before (.ok updated) ∧
      Makes lock cipher stores old new wallet s
        (before ++ .decryptKeys old (.ok ()) :: exchanges) ending := by
  obtain ⟨exchanges, ending, around, exchangeRun, exchanging, exchanged⟩ :=
    exchange_run lock cipher stores old new { wallet with around := { wallet.around with rest } }
      s₁ updated
  have settled : settledWith { wallet with around := { wallet.around with rest } } new around
      ending = settledWith wallet new around ending := by
    cases ending <;> rfl
  rw [settled] at exchanged
  obtain ⟨before, prepared, makes⟩ :=
    makes_of_exchange accepted preparation decrypted exchangeRun exchanging exchanged
  exact ⟨before, exchanges, ending, prepared, makes⟩

end accepted

variable (lock cipher stores old new wallet s)

/-- Every rotation is a run of calls that comes to one of the endings. -/
theorem exists_makes : ∃ calls ending, Makes lock cipher stores old new wallet s calls ending := by
  cases accepted : lock.accepts old wallet.around.rest with
  | false => exact ⟨[], _, makes_of_rejected accepted⟩
  | true =>
    rcases preparation : prepare cipher wallet.summary old new s with ⟨fault | updated, s₁⟩
    · obtain ⟨calls, -, makes⟩ := makes_of_unprepared accepted preparation
      exact ⟨calls, _, makes⟩
    rcases decrypted : lock.decrypt old wallet.around.rest with ⟨cause | ⟨⟩, rest⟩
    · obtain ⟨calls, -, makes⟩ := makes_of_refused accepted preparation decrypted
      exact ⟨_, _, makes⟩
    · obtain ⟨before, exchanges, ending, -, makes⟩ :=
        makes_of_decrypted accepted preparation decrypted
      exact ⟨_, ending, makes⟩

end rotation

end PaymentVault.Rotation
