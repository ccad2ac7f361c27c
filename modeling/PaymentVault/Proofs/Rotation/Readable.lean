import PaymentVault.Proofs.Rotation.Success
import PaymentVault.Proofs.Wallet.Readable

/-!
# Rotations of readable wallets

A rotation of a readable wallet leaves it readable, under the new credential if it goes through
and under the old one if not. For the latter the roll-back must not fail in its turn.
-/
namespace PaymentVault.Rotation

namespace Call

/-- The calls that a roll-back depends on, given the positions of the payments among the stores. -/
def IsVital (isPayments : Nat → Prop) : Call → Prop
  | writeSummary _ _ | encryptKeys _ _ => True
  | reseal position _ _ => isPayments position
  | deriveKey _ _ | sealText _ _ _ | openText _ _ _ | decryptKeys _ _ => False

/-- The credential that a call leaves the stores at some positions sealed under. -/
def sealingAt (marked : Nat → Prop) [DecidablePred marked] : Call → Option String
  | reseal position credential (.ok ()) => if marked position then some credential else none
  | _ => none

end Call

/-- Once a call has failed no call fails that a roll-back depends on, and no store breaks down. -/
structure Recovers (isPayments : Nat → Prop) (calls : List Call) : Prop where
  returns : ∀ position credential, .reseal position credential (.error .aborted) ∉ calls
  restores : calls.Pairwise fun earlier later =>
    earlier.succeeded = false → later.IsVital isPayments → later.succeeded = true

/-- Calls that all succeed leave nothing to roll back. -/
theorem Recovers.of_succeeded {isPayments : Nat → Prop} {calls : List Call}
    (all : ∀ call ∈ calls, call.succeeded = true) : Recovers isPayments calls where
  returns := by
    intro position credential member
    have ok := all _ member
    cases ok
  restores := List.pairwise_of_forall_mem_list fun _ _ later member _ _ => all later member

/-- So do calls to the cipher and the decryption of the keys. -/
theorem Recovers.of_uncommitted {isPayments : Nat → Prop} {calls : List Call}
    (early : ∀ call ∈ calls,
      call.isOfCipher ∨ ∃ credential answer, call = .decryptKeys credential answer) :
    Recovers isPayments calls where
  returns := by
    intro position credential member
    rcases early _ member with ofCipher | ⟨_, _, same⟩
    · cases ofCipher
    · cases same
  restores := by
    refine List.pairwise_of_forall_mem_list fun _ _ later member _ vital => ?_
    rcases early later member with ofCipher | ⟨_, _, rfl⟩
    · cases later with
      | deriveKey | sealText | openText => exact vital.elim
      | decryptKeys | encryptKeys | writeSummary | reseal => cases ofCipher
    · exact vital.elim

/-- After a commit has failed the calls succeed that the roll-back depends on. -/
theorem Recovers.restored {isPayments : Nat → Prop} {updated : WalletSummary} {old new : String}
    {size count : Nat} {breach : Breach} {result : Except RotationStop Unit}
    {before commits restores : List Call}
    (recovers : Recovers isPayments (before ++ .decryptKeys old (.ok ()) :: (commits ++ restores)))
    (committing : Commit updated new size (some breach) commits count result) :
    ∀ call ∈ restores, call.IsVital isPayments → call.succeeded = true := by
  intro call member vital
  obtain ⟨failing, inside, failed⟩ := committing.exists_failed
  have exchanging := (List.pairwise_append.1 recovers.restores).2.1
  have after := (List.pairwise_append.1 (List.pairwise_cons.1 exchanging).2).2.2
  exact after failing inside call member failed vital

variable {σ ω : Type}

/-- A store leaves the files of a wallet and its lock alone. -/
def IsBystander (lock : Lock ω) (IsEncrypted : ω → Prop) (directory : FilePath)
    (store : BoundStore ω) : Prop :=
  ∀ credential around,
    LeavesAlone lock IsEncrypted directory around (store.reseal credential around).2

/-- The payments are among the stores, and all other stores are bystanders. -/
structure BindsPayments (facilities : Facilities ω) (IsEncrypted : ω → Prop) (wallet : OpenWallet ω)
    (stores : List (BoundStore ω)) : Prop where
  payments : paymentsStore facilities.cipher wallet ∈ stores
  others : ∀ store ∈ stores, store ≠ paymentsStore facilities.cipher wallet →
    IsBystander facilities.lock IsEncrypted wallet.directory store

/-- Where the payments are among the stores. -/
def PaymentsAt (cipher : KeyCipher) (wallet : OpenWallet ω) (stores : List (BoundStore ω))
    (position : Nat) : Prop :=
  stores[position]? = some (paymentsStore cipher wallet)

/-! ## What the files and the lock go by during a rotation -/

/-- The summary in the file, the credential of the payments file, and that of the lock unless
the keys are not encrypted. -/
structure Standing (facilities : Facilities ω) (IsEncrypted : ω → Prop) (wallet : OpenWallet ω)
    (filed : Option WalletSummary) (sealedUnder : String) (lockedUnder : Option String)
    (around : Surroundings ω) :
    Prop where
  filed : ∃ summary, filed = some summary ∧
    WalletSummary.read wallet.summaryPath around.disk = .ok summary
  stored : wallet.paymentsFile.IsSound facilities.cipher sealedUnder around.disk
  locked : ∀ credential, lockedUnder = some credential →
    facilities.lock.IsUnder IsEncrypted credential around.rest

section standing

variable {facilities : Facilities ω} {IsEncrypted : ω → Prop} {wallet : OpenWallet ω}
  {cipher : ChangingCipher σ} {stores : List (BoundStore ω)} (faithful : facilities.cipher.Faithful)
  (lawful : facilities.lock.Lawful IsEncrypted) (ordinary : wallet.books.snapshot.HasOrdinaryDates)
  (bound : BindsPayments facilities IsEncrypted wallet stores)
  [DecidablePred (PaymentsAt facilities.cipher wallet stores)] {filed : Option WalletSummary}
  {sealedUnder : String} {lockedUnder : Option String}

include faithful ordinary in
/-- Resealing the payments puts them under the credential, or leaves everything as it was. -/
theorem Standing.payments {around : Surroundings ω}
    (stands : Standing facilities IsEncrypted wallet filed sealedUnder lockedUnder around)
    (credential : String) :
    Standing facilities IsEncrypted wallet filed
      (match ((paymentsStore facilities.cipher wallet).reseal credential around).1 with
        | .ok () => credential
        | .error _ => sealedUnder)
      lockedUnder ((paymentsStore facilities.cipher wallet).reseal credential around).2 := by
  obtain ⟨⟨summary, known, read⟩, stored, locked⟩ := stands
  have kept : WalletSummary.read wallet.summaryPath
      (wallet.paymentsFile.save facilities.cipher credential wallet.books.snapshot around.disk).2 =
        .ok summary :=
    PaymentsFile.read_summary_save read
  rcases saved : wallet.paymentsFile.save facilities.cipher credential wallet.books.snapshot
    around.disk with
    ⟨cause | ⟨⟩, disk⟩
  · obtain ⟨place, leads⟩ := PaymentsFile.leadsTo_of_filed read
    have same : (wallet.paymentsFile.save facilities.cipher credential wallet.books.snapshot
        around.disk).2.read wallet.paymentsFile.path = around.disk.read wallet.paymentsFile.path :=
      PaymentsFile.read_save_of_error leads (congrArg Prod.fst saved)
    rw [saved] at kept same
    simp only [paymentsStore, Books.save, saved, mapError_error]
    exact ⟨⟨summary, known, kept⟩, stored.congr same, locked⟩
  · have sound := PaymentsFile.isSound_save faithful ordinary (congrArg Prod.fst saved)
    rw [saved] at kept sound
    simp only [paymentsStore, Books.save, saved, mapError_ok]
    exact ⟨⟨summary, known, kept⟩, sound, locked⟩

/-- Writing a summary puts it into the file, or leaves everything as it was. -/
theorem Standing.summary {summary : WalletSummary} {answer : Except VaultError Unit}
    {around : Surroundings ω} {disk : Disk}
    (h : summary.write wallet.summaryPath around.disk = (answer, disk))
    (stands : Standing facilities IsEncrypted wallet filed sealedUnder lockedUnder around) :
    Standing facilities IsEncrypted wallet ((Call.writeSummary summary answer).filing.getD filed)
      sealedUnder lockedUnder { around with disk } := by
  obtain ⟨⟨former, known, read⟩, stored, locked⟩ := stands
  have payments : (summary.write wallet.summaryPath around.disk).2.read wallet.paymentsFile.path =
      around.disk.read wallet.paymentsFile.path := PaymentsFile.read_writeSummary
  rw [h] at payments
  rcases answer with cause | ⟨⟩
  · have kept := WalletSummary.read_write_of_error summary wallet.summaryPath around.disk
      (congrArg Prod.fst h)
    rw [h] at kept
    exact ⟨⟨former, known, kept.trans read⟩, stored.congr payments, locked⟩
  · have written :=
      WalletSummary.read_write_of_ok summary wallet.summaryPath around.disk (congrArg Prod.fst h)
    rw [h] at written
    exact ⟨⟨summary, rfl, written⟩, stored.congr payments, locked⟩

/-- A bystander changes nothing of it. -/
theorem Standing.leftAlone {around later : Surroundings ω}
    (stands : Standing facilities IsEncrypted wallet filed sealedUnder lockedUnder around)
    (alone : LeavesAlone facilities.lock IsEncrypted wallet.directory around later) :
    Standing facilities IsEncrypted wallet filed sealedUnder lockedUnder later := by
  obtain ⟨⟨summary, known, read⟩, stored, locked⟩ := stands
  exact ⟨⟨summary, known, (WalletSummary.read_congr alone.summary).trans read⟩,
    stored.congr alone.payments, fun former same => alone.lock former (locked former same)⟩

include faithful lawful ordinary bound in
/-- What a call makes of it. -/
theorem Standing.answer {call : Call} {state state' : σ × Surroundings ω}
    (answered : (Parties.mk cipher facilities.lock stores wallet.summaryPath).Answers
      call state state')
    (stands : Standing facilities IsEncrypted wallet filed sealedUnder lockedUnder state.2) :
    Standing facilities IsEncrypted wallet (call.filing.getD filed)
      ((call.sealingAt (PaymentsAt facilities.cipher wallet stores)).getD sealedUnder)
        (call.locking.getD lockedUnder)
      state'.2 := by
  cases answered with
  | deriveKey | sealText | openText => exact stands
  | @decryptKeys credential answer _ around rest h =>
    rcases answer with cause | ⟨⟩
    · exact ⟨stands.filed, stands.stored, fun former same =>
        lawful.decrypt_error h (stands.locked former same)⟩
    · exact ⟨stands.filed, stands.stored, fun _ same => nomatch same⟩
  | @encryptKeys credential answer _ around rest h =>
    rcases answer with cause | ⟨⟩
    · exact ⟨stands.filed, stands.stored, fun former same =>
        lawful.encrypt_error h (stands.locked former same)⟩
    · refine ⟨stands.filed, stands.stored, ?_⟩
      rintro _ ⟨⟩
      exact lawful.encrypt_ok h
  | writeSummary h => exact stands.summary h
  | @reseal position store credential answer _ around around' there h =>
    by_cases payments : PaymentsAt facilities.cipher wallet stores position
    · obtain rfl : paymentsStore facilities.cipher wallet = store :=
        Option.some.inj (payments.symm.trans there)
      have resealed := stands.payments faithful ordinary credential
      rw [h] at resealed
      rcases answer with stop | ⟨⟩
      · exact resealed
      · have sealing : (Call.reseal position credential (.ok ())).sealingAt
            (PaymentsAt facilities.cipher wallet stores) = some credential := if_pos payments
        rw [sealing]
        exact resealed
    · have other : store ≠ paymentsStore facilities.cipher wallet :=
        fun same => payments (by rw [PaymentsAt, there, same])
      have alone := bound.others store (List.mem_of_getElem? there) other credential around
      rw [h] at alone
      have unsealed : (Call.reseal position credential answer).sealingAt
          (PaymentsAt facilities.cipher wallet stores) = none := by
        rcases answer with stop | ⟨⟩
        · rfl
        · exact if_neg payments
      rw [unsealed]
      exact stands.leftAlone alone

include faithful lawful ordinary bound in
theorem Standing.run {calls : List Call} {state final : σ × Surroundings ω}
    (run : (Parties.mk cipher facilities.lock stores wallet.summaryPath).Run state calls final)
    (stands : Standing facilities IsEncrypted wallet filed sealedUnder lockedUnder state.2) :
    Standing facilities IsEncrypted wallet (lastly Call.filing filed calls)
      (lastly (Call.sealingAt (PaymentsAt facilities.cipher wallet stores)) sealedUnder calls)
      (lastly Call.locking lockedUnder calls) final.2 := by
  induction run generalizing filed sealedUnder lockedUnder with
  | nil => exact stands
  | cons answered _ ih => exact ih (stands.answer faithful lawful ordinary bound answered)

end standing

/-! ## What a rotation leaves them at -/

section effects

variable (marked : Nat → Prop) [DecidablePred marked]

/-- Marked stores that could be resealed are sealed under the credential; without any, nothing
changes. -/
theorem lastly_sealingAt_resealings (start credential : String) (position : Nat)
    (answers : List (Except RotationStop Unit)) :
    let sealed := lastly (Call.sealingAt marked) start (resealings credential position answers)
    (sealed = credential ∧ ∃ i, answers[i]? = some (.ok ()) ∧ marked (position + i)) ∨
      sealed = start ∧ ∀ i, answers[i]? = some (.ok ()) → ¬marked (position + i) := by
  induction answers generalizing start position with
  | nil => exact .inr ⟨rfl, fun i there => nomatch there⟩
  | cons answer answers ih =>
    have next : ∀ i, position + 1 + i = position + (i + 1) := by omega
    have rest :=
      ih (((Call.reseal position credential answer).sealingAt marked).getD start) (position + 1)
    simp only [next] at rest
    by_cases resealed : answer = .ok () ∧ marked position
    · obtain ⟨rfl, here⟩ := resealed
      have effect : ((Call.reseal position credential (.ok ())).sealingAt marked).getD start =
          credential := by
        simp [Call.sealingAt, here]
      refine .inl ⟨?_, 0, rfl, here⟩
      rw [effect] at rest
      rw [resealings, lastly, effect]
      rcases rest with ⟨same, -⟩ | ⟨same, -⟩
      · exact same
      · exact same
    · have effect : ((Call.reseal position credential answer).sealingAt marked).getD start =
          start := by
        rcases answer with stop | ⟨⟩
        · rfl
        · simp [Call.sealingAt, show ¬marked position from fun here => resealed ⟨rfl, here⟩]
      rw [effect] at rest
      rw [resealings, lastly, effect]
      rcases rest with ⟨same, i, there, here⟩ | ⟨same, none⟩
      · exact .inl ⟨same, i + 1, there, here⟩
      · refine .inr ⟨same, fun i there here => ?_⟩
        cases i with
        | zero => exact resealed ⟨Option.some.inj there, here⟩
        | succ i => exact none i there here

/-- Stores that all do as they are told are sealed under the credential, the marked ones among
them. -/
theorem lastly_sealingAt_compliant (start credential : String) (count : Nat) :
    let sealed := lastly (Call.sealingAt marked) start (resealings credential 0 (compliant count))
    (sealed = credential ∧ ∃ i < count, marked i) ∨ sealed = start ∧ ∀ i < count, ¬marked i := by
  rcases lastly_sealingAt_resealings marked start credential 0 (compliant count) with
    ⟨same, i, there, here⟩ | ⟨same, none⟩
  · rw [Nat.zero_add] at here
    exact .inl ⟨same, i, lt_of_getElem?_compliant there, here⟩
  · refine .inr ⟨same, fun i within here => none i (getElem?_compliant within) ?_⟩
    rwa [Nat.zero_add]

variable {updated : WalletSummary} {old new : String} {size count : Nat} {calls : List Call}
  {breach : Breach} {result : Except RotationStop Unit}

theorem Commit.sealingAt (committing : Commit updated new size (some breach) calls count result)
    (start : String) :
    let sealed := lastly (Call.sealingAt marked) start calls
    (sealed = new ∧ ∃ i < count, marked i) ∨ sealed = start ∧ ∀ i < count, ¬marked i := by
  have told := lastly_sealingAt_compliant marked start new count
  cases committing with
  | notWritten => exact .inr ⟨rfl, fun i within => absurd within (Nat.not_lt_zero i)⟩
  | notResealed =>
    simp only [lastly, lastly_append]
    exact told
  | notEncrypted =>
    simp only [lastly, lastly_append]
    exact told

variable {marked} {summary : WalletSummary} {accepted : Bool}

/-- Calls without effects leave everything as it was. -/
theorem lastly_of_effectless {filed : Option WalletSummary} {sealedUnder : String}
    {lockedUnder : Option String}
    (effectless : ∀ call ∈ calls,
      call.filing = none ∧ call.sealingAt marked = none ∧ call.locking = none) :
    lastly Call.filing filed calls = filed ∧
      lastly (Call.sealingAt marked) sealedUnder calls = sealedUnder ∧
      lastly Call.locking lockedUnder calls = lockedUnder :=
  ⟨lastly_of_none _ _ fun call member => (effectless call member).1,
    lastly_of_none _ _ fun call member => (effectless call member).2.1,
    lastly_of_none _ _ fun call member => (effectless call member).2.2⟩

theorem Call.effectless {call : Call} (ofCipher : call.isOfCipher) :
    call.filing = none ∧ call.sealingAt marked = none ∧ call.locking = none := by
  cases call with
  | deriveKey | sealText | openText => exact ⟨rfl, rfl, rfl⟩
  | decryptKeys | encryptKeys | writeSummary | reseal =>
    exact absurd ofCipher (by simp [isOfCipher])

/-- Marked stores go back to the old credential if those that were resealed do as they are told. -/
theorem sealingAt_whole {before commits : List Call} {written : Except VaultError Unit}
    {answers : List (Except RotationStop Unit)} {locked : Except LedgerError Unit}
    (ofCipher : before.all Call.isOfCipher)
    (committing : Commit updated new size (some breach) commits answers.length result)
    (resealed : ∀ i answer, answers[i]? = some answer → marked i → answer = .ok ()) :
    lastly (Call.sealingAt marked) old (before ++ .decryptKeys old (.ok ()) :: (commits ++
      .writeSummary summary written :: (resealings old 0 answers ++ [.encryptKeys old locked]))) =
      old := by
  have quiet : lastly (Call.sealingAt marked) old before = old :=
    lastly_of_none _ _ fun call member =>
      (Call.effectless (List.all_eq_true.1 ofCipher call member)).2.1
  rw [lastly_append, quiet, lastly, lastly_append, lastly, lastly_append]
  change lastly (Call.sealingAt marked) (lastly (Call.sealingAt marked) old commits)
    (resealings old 0 answers) = old
  rcases lastly_sealingAt_resealings marked (lastly (Call.sealingAt marked) old commits)
    old 0 answers with ⟨same, -⟩ | ⟨same, none⟩
  · exact same
  · rw [same]
    rcases committing.sealingAt marked old with ⟨-, i, within, here⟩ | ⟨kept, -⟩
    · have there : answers[i]? = some answers[i] := List.getElem?_eq_getElem within
      rw [resealed i _ there here] at there
      have position : marked (0 + i) := by rwa [Nat.zero_add]
      exact absurd position (none i there)
    · exact kept

/-- A rotation that fails leaves everything under the former credential. -/
theorem Ending.restored {stop : RotationStop} {credential : String}
    (ends : Ending summary old new size accepted calls (.error stop))
    (same : accepted = true → old = credential) (recovers : Recovers marked calls) :
    lastly Call.filing (some summary) calls = some summary ∧
      lastly (Call.sealingAt marked) credential calls = credential ∧
      lastly Call.locking (some credential) calls = some credential := by
  cases ends with
  | mismatch => exact ⟨rfl, rfl, rfl⟩
  | unprepared prepared =>
    exact lastly_of_effectless fun call member =>
      Call.effectless (List.all_eq_true.1 prepared.ofCipher call member)
  | refused prepared cause =>
    refine lastly_of_effectless fun call member => ?_
    rcases List.mem_append.1 member with before | last
    · exact Call.effectless (List.all_eq_true.1 prepared.ofCipher call before)
    · obtain rfl := List.mem_singleton.1 last
      exact ⟨rfl, rfl, rfl⟩
  | exchanged prepared exchanging =>
    obtain rfl := same rfl
    obtain ⟨before, commits, breach, count, updated, fault, written, answers, locked, ofCipher,
        shape, committing, each, -⟩ :=
      (Ending.exchanged prepared exchanging).rolledBack (by simp) recovers.returns
    rw [shape] at recovers ⊢
    subst each
    have restored := recovers.restored committing
    obtain rfl : written = .ok () := by
      have ok := restored (.writeSummary summary written) (by simp) trivial
      rcases written with cause | ⟨⟩
      · cases ok
      · rfl
    obtain rfl : locked = .ok () := by
      have ok := restored (.encryptKeys old locked) (by simp) trivial
      rcases locked with cause | ⟨⟩
      · cases ok
      · rfl
    refine ⟨filing_whole ofCipher .., sealingAt_whole ofCipher committing ?_,
      locking_whole ofCipher ..⟩
    intro i answer there here
    have resealing : .reseal (0 + i) old answer ∈ resealings old 0 answers :=
      mem_resealings.2 ⟨i, answer, there, rfl⟩
    have ok := restored _ (List.mem_cons_of_mem _ (List.mem_append_left _ resealing))
      (by rwa [Call.IsVital, Nat.zero_add])
    rcases answer with stop | ⟨⟩
    · cases ok
    · rfl

/-- A rotation that goes through puts everything under the new credential. -/
theorem Ending.renewed {updated : WalletSummary}
    (ends : Ending summary old new size accepted calls (.ok updated)) (among : ∃ i < size, marked i)
    (filed : Option WalletSummary) (sealedUnder : String) (lockedUnder : Option String) :
    lastly Call.filing filed calls = some updated ∧
      lastly (Call.sealingAt marked) sealedUnder calls = new ∧
      lastly Call.locking lockedUnder calls = some new := by
  cases ends with
  | exchanged prepared exchanging =>
    cases exchanging with
    | committed committing =>
      cases committing with
      | done =>
        refine ⟨?_, ?_, ?_⟩
        · rw [lastly_append, lastly, lastly, lastly_append, lastly_filing_resealings]
          rfl
        · rw [lastly_append, lastly, lastly, lastly_append, lastly]
          rcases lastly_sealingAt_compliant marked
              (lastly (Call.sealingAt marked) sealedUnder _) new size with ⟨same, -⟩ | ⟨-, none⟩
          · exact same
          · obtain ⟨i, within, here⟩ := among
            exact absurd here (none i within)
        · rw [lastly_append, lastly, lastly, lastly_append]
          rfl

end effects

/-! ## Whole rotations -/

section whole

variable {σ ω : Type}

/-- The credential in force after a rotation. -/
def inForce {α : Type} (credential new : String) : Except RotationStop α → String
  | .ok _ => new
  | .error _ => credential

variable {facilities : Facilities ω} {IsEncrypted : ω → Prop} {wallet : OpenWallet ω}
  {cipher : ChangingCipher σ} {stores : List (BoundStore ω)} {backupKey : WalletKey}
  {credential old new : String} {s : σ} {calls : List Call}
  {ending : Except RotationStop WalletSummary}
  (stands : wallet.StandsUnder facilities IsEncrypted backupKey credential)
  (truthful : cipher.Truthful facilities.cipher)
  (makes : Makes facilities.lock cipher stores old new wallet s calls ending)
include stands truthful makes

/-- A rotation goes through if the old credential is the one in force, no call fails and no
secret is lost. -/
theorem rotate_eq_ok_iff :
    (rotate facilities.lock cipher stores old new wallet s).1 = .ok () ↔
      old = credential ∧ (∀ call ∈ calls, call.succeeded = true) ∧
        ∀ detail, (rotate facilities.lock cipher stores old new wallet s).1 ≠
          .error (.failed (.irreversible detail)) := by
  obtain ⟨s', around, run, ends, same⟩ := makes
  have secured (accepted : facilities.lock.accepts old wallet.around.rest = true) :
      wallet.summary.Secures facilities.cipher old backupKey := by
    rw [(stands.locked.2 old).1 accepted]
    exact stands.secured
  have known := ends.ok_iff (run.isTruthful truthful) secured
  rw [stands.locked.2 old] at known
  rw [same]
  cases ending with
  | ok updated => simpa [Except.map] using known
  | error stop => simpa [Except.map] using known

/-- A readable wallet is readable after a rotation, under the new credential if it goes through. -/
theorem rotate_stands (faithful : facilities.cipher.Faithful)
    (lawful : facilities.lock.Lawful IsEncrypted)
    (bound : BindsPayments facilities IsEncrypted wallet stores)
    (recovers : Recovers (PaymentsAt facilities.cipher wallet stores) calls) :
    (rotate facilities.lock cipher stores old new wallet s).2.1.StandsUnder facilities
      IsEncrypted backupKey
      (inForce credential new (rotate facilities.lock cipher stores old new wallet s).1) := by
  classical
  obtain ⟨s', around, run, ends, same⟩ := makes
  have start : Standing facilities IsEncrypted wallet (some wallet.summary) credential
      (some credential) wallet.around := by
    refine ⟨⟨wallet.summary, rfl, stands.filed⟩, stands.stored, ?_⟩
    rintro _ ⟨⟩
    exact stands.locked
  have final := start.run faithful lawful stands.snapshot bound run
  rw [same]
  cases ending with
  | error stop =>
    obtain ⟨filed, sealed, locked⟩ :=
      ends.restored (fun accepted => (stands.locked.2 old).1 accepted) recovers
    rw [filed, sealed, locked] at final
    obtain ⟨⟨summary, ⟨⟩, read⟩, stored, locked⟩ := final
    exact ⟨stands.entered, locked credential rfl, read, stands.secured, stored, stands.ordinary⟩
  | ok updated =>
    obtain ⟨position, there⟩ := List.mem_iff_getElem?.1 bound.payments
    have marked : ∃ i < stores.length, PaymentsAt facilities.cipher wallet stores i :=
      ⟨position, (List.getElem?_eq_some_iff.1 there).1, there⟩
    obtain ⟨accepted, before, among, prepared⟩ := ends.prepared
    have secured : wallet.summary.Secures facilities.cipher old backupKey := by
      rw [(stands.locked.2 old).1 accepted]
      exact stands.secured
    obtain ⟨filed, sealed, locked⟩ :=
      ends.renewed marked (some wallet.summary) credential (some credential)
    rw [filed, sealed, locked] at final
    obtain ⟨⟨summary, ⟨⟩, read⟩, stored, locked⟩ := final
    exact ⟨rfl, locked new rfl, read,
      prepared.secures (fun call member => run.isTruthful truthful call (among call member))
        secured, stored,
      stands.ordinary⟩

end whole

end PaymentVault.Rotation
