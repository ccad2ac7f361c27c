import PaymentVault.Proofs.Rotation.Effects
import PaymentVault.Rehearsal.Cipher

/-!
# Rolling back

A commit that fails is undone as far as that goes: whichever steps of the roll-back fail in
turn, each store, the summary file and the lock are as the rotation found them unless the step
that was to restore them failed (`rotate_rolled_back`).
-/
namespace PaymentVault.Rotation

/-! ## What the stores are told -/

/-- What a call tells the store at a position, and the answer. -/
def Call.telling (position : Nat) : Call → Option (String × Except RotationStop Unit)
  | reseal other credential answer => if other = position then some (credential, answer) else none
  | _ => none

/-- What the store at a position was told, with its answers. -/
def received (position : Nat) (calls : List Call) : List (String × Except RotationStop Unit) :=
  calls.filterMap (Call.telling position)

theorem received_append (position : Nat) (calls later : List Call) :
    received position (calls ++ later) = received position calls ++ received position later :=
  List.filterMap_append

theorem received_cons_of_none {position : Nat} {call : Call} (none : call.telling position = none)
    (calls : List Call) :
    received position (call :: calls) = received position calls :=
  List.filterMap_cons_none none

theorem received_of_cipher (position : Nat) {calls : List Call}
    (ofCipher : calls.all Call.isOfCipher) :
    received position calls = [] := by
  rw [received, List.filterMap_eq_nil_iff]
  intro call member
  have asked := List.all_eq_true.1 ofCipher call member
  cases call with
  | deriveKey | sealText | openText => rfl
  | decryptKeys | encryptKeys | writeSummary | reseal =>
    exact absurd asked (by simp [Call.isOfCipher])

theorem received_resealings_before (credential : String) {position other : Nat}
    (before : other < position) (answers : List (Except RotationStop Unit)) :
    received other (resealings credential position answers) = [] := by
  rw [received, List.filterMap_eq_nil_iff]
  intro call member
  obtain ⟨i, answer, _, rfl⟩ := mem_resealings.1 member
  exact if_neg (by omega)

/-- Each store is told once. -/
theorem received_resealings (credential : String) (position i : Nat)
    (answers : List (Except RotationStop Unit)) :
    received (position + i) (resealings credential position answers) =
      answers[i]?.toList.map fun answer => (credential, answer) := by
  induction answers generalizing position i with
  | nil => rfl
  | cons answer answers ih =>
    cases i with
    | zero =>
      have told : Call.telling (position + 0) (.reseal position credential answer) =
        some (credential, answer) := if_pos rfl
      have after : received (position + 0) (resealings credential (position + 1) answers) = [] :=
        received_resealings_before credential (Nat.lt_succ_self _) answers
      rw [received] at after
      rw [resealings, received, List.filterMap_cons_some told, after]
      rfl
    | succ i =>
      have passed : Call.telling (position + (i + 1)) (.reseal position credential answer) = none :=
        if_neg (by omega)
      have further := ih (position + 1) i
      rw [resealings, received_cons_of_none passed, List.getElem?_cons_succ, ← further,
        Nat.add_assoc, Nat.add_comm 1]

/-! ## What a failed commit leaves -/

section commit

variable {updated : WalletSummary} {new : String} {size count : Nat} {breach : Breach}
  {calls : List Call} {result : Except RotationStop Unit}

theorem getElem?_compliant {i : Nat} (within : i < count) :
    (compliant count)[i]? = some (.ok ()) := by
  simp [compliant, within]

theorem getElem?_compliant_of_le {i : Nat} (beyond : count ≤ i) : (compliant count)[i]? = none := by
  simp [compliant, beyond]

theorem Commit.received_resealed
    (committing : Commit updated new size (some breach) calls count result) {i : Nat}
    (within : i < count) : received i calls = [(new, .ok ())] := by
  have told := received_resealings new 0 i (compliant count)
  rw [Nat.zero_add, getElem?_compliant within] at told
  cases committing with
  | notWritten => exact absurd within (Nat.not_lt_zero _)
  | notResealed _ stop _ =>
    have passed : Call.telling i (.reseal count new (.error stop)) = none := if_neg (by omega)
    rw [received_cons_of_none rfl, received_append, told, received_cons_of_none passed]
    rfl
  | notEncrypted =>
    rw [received_cons_of_none rfl, received_append, told]
    rfl

theorem Commit.received_failed {i : Nat}
    (committing : Commit updated new size (some (.store i)) calls count result) :
    received i calls = [(new, result)] := by
  cases committing with
  | notResealed _ stop _ =>
    have nothing := received_resealings new 0 count (compliant count)
    rw [Nat.zero_add, getElem?_compliant_of_le (Nat.le_refl count)] at nothing
    have told : Call.telling count (.reseal count new (.error stop)) = some (new, .error stop) :=
      if_pos rfl
    rw [received_cons_of_none rfl, received_append, nothing, received,
      List.filterMap_cons_some told]
    rfl

theorem Commit.received_later
    (committing : Commit updated new size (some breach) calls count result) {i : Nat}
    (beyond : count ≤ i) (other : breach ≠ .store i) : received i calls = [] := by
  have nothing := received_resealings new 0 i (compliant count)
  rw [Nat.zero_add, getElem?_compliant_of_le beyond] at nothing
  cases committing with
  | notWritten => rfl
  | notResealed _ stop _ =>
    have passed : Call.telling i (.reseal count new (.error stop)) = none :=
      if_neg fun same => other (congrArg Breach.store same)
    rw [received_cons_of_none rfl, received_append, nothing, received_cons_of_none passed]
    rfl
  | notEncrypted =>
    rw [received_cons_of_none rfl, received_append, nothing]
    rfl

theorem Commit.sealing_resealed
    (committing : Commit updated new size (some breach) calls count result) {i : Nat}
    (within : i < count) (start : String) : lastly (Call.sealing i) start calls = new := by
  have told := lastly_sealing_resealings start new 0 i (compliant count)
  rw [Nat.zero_add, getElem?_compliant within] at told
  cases committing with
  | notWritten => exact absurd within (Nat.not_lt_zero _)
  | notResealed => exact (lastly_append ..).trans told
  | notEncrypted => exact (lastly_append ..).trans told

theorem Commit.sealing_later (committing : Commit updated new size (some breach) calls count result)
    {i : Nat} (beyond : count ≤ i) (start : String) :
    lastly (Call.sealing i) start calls = start := by
  have told := lastly_sealing_resealings start new 0 i (compliant count)
  rw [Nat.zero_add, getElem?_compliant_of_le beyond] at told
  cases committing with
  | notWritten => rfl
  | notResealed => exact (lastly_append ..).trans told
  | notEncrypted => exact (lastly_append ..).trans told

theorem Commit.filing_unwritten
    (committing : Commit updated new size (some .summary) calls count result)
    (start : Option WalletSummary) : lastly Call.filing start calls = start := by
  cases committing with
  | notWritten => rfl

theorem Commit.filing_written
    (committing : Commit updated new size (some breach) calls count result)
    (written : breach ≠ .summary) (start : Option WalletSummary) :
    lastly Call.filing start calls = some updated := by
  have kept := lastly_filing_resealings (some updated) new 0 (compliant count)
  cases committing with
  | notWritten => exact absurd rfl written
  | notResealed => exact (lastly_append ..).trans kept
  | notEncrypted => exact (lastly_append ..).trans kept

theorem Commit.locking (committing : Commit updated new size (some breach) calls count result)
    (start : Option String) : lastly Call.locking start calls = start := by
  have kept := lastly_locking_resealings start new 0 (compliant count)
  cases committing with
  | notWritten => rfl
  | notResealed => exact (lastly_append ..).trans kept
  | notEncrypted => exact (lastly_append ..).trans kept

end commit

/-! ## What a rotation leaves that was rolled back -/

/-- No store breaks down altogether. -/
def NoneBreaksDown {ω : Type} (stores : List (BoundStore ω)) : Prop :=
  ∀ store ∈ stores, ∀ credential around, (store.reseal credential around).1 ≠ .error .aborted

theorem Parties.Run.returns {σ ω : Type} {parties : Parties σ ω} {state final : σ × Surroundings ω}
    {calls : List Call} (run : parties.Run state calls final)
    (sound : NoneBreaksDown parties.stores) (position : Nat) (credential : String) :
    .reseal position credential (.error .aborted) ∉ calls := by
  induction run with
  | nil => exact List.not_mem_nil
  | cons answered _ ih =>
    rw [List.mem_cons]
    rintro (rfl | later)
    · cases answered with
      | reseal there h => exact sound _ (List.mem_of_getElem? there) _ _ (congrArg Prod.fst h)
    · exact ih later

/-- A roll-back is broken off by a store that breaks down. -/
theorem RollBack.exists_aborted {former : WalletSummary} {old : String} {count : Nat}
    {calls : List Call} (restoring : RollBack former old count calls false) :
    ∃ position, .reseal position old (.error .aborted) ∈ calls := by
  cases restoring with
  | brokenOff written answers =>
    refine ⟨0 + answers.length, List.mem_cons_of_mem _ (mem_resealings.2 ?_)⟩
    exact ⟨answers.length, _, List.getElem?_concat_length, rfl⟩

/-- An exchange in which every store returns is committed, or rolled back from the first step to
the last. -/
theorem Exchange.cases_of_returns {former updated : WalletSummary} {old new : String} {size : Nat}
    {calls : List Call} {result : Except RotationStop WalletSummary}
    (exchanging : Exchange former updated old new size calls result)
    (returns : ∀ position credential, .reseal position credential (.error .aborted) ∉ calls) :
    (result = .ok updated ∧ ∃ count, Commit updated new size none calls count (.ok ())) ∨
      ∃ commits restores breach count fault, calls = commits ++ restores ∧
        result = .error (.failed fault) ∧
        Commit updated new size (some breach) commits count (.error (.failed fault)) ∧
        RollBack former old count restores true := by
  cases exchanging with
  | committed committing => exact .inl ⟨rfl, _, committing⟩
  | @brokenOff _ _ count committing =>
    cases committing with
    | notResealed => exact absurd (by simp) (returns count new)
  | rolledBack committing restoring =>
    exact .inr ⟨_, _, _, _, _, rfl, rfl, committing, restoring⟩
  | rollBackBrokenOff committing restoring =>
    obtain ⟨position, member⟩ := restoring.exists_aborted
    exact absurd (List.mem_append_right _ member) (returns position old)

/-- A rotation that decrypted the keys and then failed, in a place where every store returns,
was rolled back. -/
theorem Ending.rolledBack {summary : WalletSummary} {old new : String} {size : Nat}
    {accepted : Bool} {calls : List Call} {stop : RotationStop}
    (ends : Ending summary old new size accepted calls (.error stop))
    (unlocked : .decryptKeys old (.ok ()) ∈ calls)
    (returns : ∀ position credential, .reseal position credential (.error .aborted) ∉ calls) :
    ∃ before commits breach count updated fault written answers locked,
      before.all Call.isOfCipher ∧
        calls = before ++ .decryptKeys old (.ok ()) :: (commits ++
          .writeSummary summary written ::
            (resealings old 0 answers ++ [.encryptKeys old locked])) ∧
        Commit updated new size (some breach) commits count (.error (.failed fault)) ∧
        answers.length = count ∧ stop = .failed fault := by
  cases ends with
  | mismatch => exact absurd unlocked List.not_mem_nil
  | unprepared prepared => exact absurd unlocked (decryptKeys_notMem prepared.ofCipher)
  | refused prepared cause =>
    rcases List.mem_append.1 unlocked with member | last
    · exact absurd member (decryptKeys_notMem prepared.ofCipher)
    · cases List.mem_singleton.1 last
  | exchanged prepared exchanging =>
    rcases exchanging.cases_of_returns fun position credential member =>
        returns position credential (List.mem_append_right _ (List.mem_cons_of_mem _ member)) with
      ⟨committed, -⟩ |
        ⟨commits, restores, breach, count, fault, rfl, stopped, committing, restoring⟩
    · cases committed
    · cases stopped
      cases restoring with
      | complete written answers locked each =>
        exact ⟨_, _, _, _, _, _, written, answers, locked, prepared.ofCipher, rfl, committing, each,
          rfl⟩

section whole

variable {before commits : List Call} (ofCipher : before.all Call.isOfCipher) (old : String)
  (summary : WalletSummary) (written : Except VaultError Unit)
  (answers : List (Except RotationStop Unit)) (locked : Except LedgerError Unit)
include ofCipher

theorem received_whole (i : Nat) :
    received i (before ++ .decryptKeys old (.ok ()) :: (commits ++
        .writeSummary summary written :: (resealings old 0 answers ++ [.encryptKeys old locked]))) =
      received i commits ++ answers[i]?.toList.map fun answer => (old, answer) := by
  have restored := received_resealings old 0 i answers
  rw [Nat.zero_add] at restored
  rw [received_append, received_of_cipher i ofCipher, List.nil_append, received_cons_of_none rfl,
    received_append, received_cons_of_none rfl, received_append, restored,
    received_cons_of_none rfl]
  exact congrArg _ (List.append_nil _)

theorem sealing_whole (i : Nat) (start : String) :
    lastly (Call.sealing i) start (before ++ .decryptKeys old (.ok ()) :: (commits ++
        .writeSummary summary written :: (resealings old 0 answers ++ [.encryptKeys old locked]))) =
      match answers[i]? with
      | some (.ok ()) => old
      | _ => lastly (Call.sealing i) start commits := by
  have quiet : lastly (Call.sealing i) start before = start :=
    lastly_of_none _ _ fun call member =>
      (Call.effectless_of_cipher (List.all_eq_true.1 ofCipher call member)).2.1 i
  have restored := lastly_sealing_resealings (lastly (Call.sealing i) start commits) old 0 i answers
  rw [Nat.zero_add] at restored
  have passed (start : String) : ((Call.writeSummary summary written).sealing i).getD start =
    start := rfl
  rw [lastly_append, quiet, lastly, lastly_append, lastly, passed, lastly_append]
  exact restored

theorem filing_whole (start : Option WalletSummary) :
    lastly Call.filing start (before ++ .decryptKeys old (.ok ()) :: (commits ++
        .writeSummary summary written :: (resealings old 0 answers ++ [.encryptKeys old locked]))) =
      match written with
      | .ok () => some summary
      | .error _ => lastly Call.filing start commits := by
  have quiet : lastly Call.filing start before = start :=
    lastly_of_none _ _ fun call member =>
      (Call.effectless_of_cipher (List.all_eq_true.1 ofCipher call member)).1
  rw [lastly_append, quiet, lastly, lastly_append, lastly, lastly_append, lastly_filing_resealings]
  rcases written with cause | ⟨⟩
  · rfl
  · rfl

theorem locking_whole (start : Option String) :
    lastly Call.locking start (before ++ .decryptKeys old (.ok ()) :: (commits ++
        .writeSummary summary written :: (resealings old 0 answers ++ [.encryptKeys old locked]))) =
      match locked with
      | .ok () => some old
      | .error _ => lastly Call.locking none commits := by
  have quiet : lastly Call.locking start before = start :=
    lastly_of_none _ _ fun call member =>
      (Call.effectless_of_cipher (List.all_eq_true.1 ofCipher call member)).2.2
  rw [lastly_append, quiet, lastly, lastly_append, lastly, lastly_append, lastly_locking_resealings]
  rcases locked with cause | ⟨⟩
  · rfl
  · rfl

end whole

/-- What a roll-back leaves of a failed commit: the answers of the stores that were resealed,
when they were told to go back, and what each store, the file and the lock came to. -/
structure RolledBack {ω : Type} (SealedUnder : Nat → String → Surroundings ω → Prop)
    (LockedUnder : Option String → Surroundings ω → Prop) (old new : String) (wallet : OpenWallet ω)
    (updated : WalletSummary) (size : Nat) (breach : Breach) (fault : WalletFault)
    (calls : List Call) (written : Except VaultError Unit)
    (answers : List (Except RotationStop Unit)) (locked : Except LedgerError Unit)
    (around : Surroundings ω) : Prop where
  /-- The stores before the breach are told to go forth and back, -/
  told : ∀ i answer, answers[i]? = some answer → received i calls = [(new, .ok ()), (old, answer)]
  /-- the one that failed to go forth only, -/
  failed : ∀ i, breach = .store i → i = answers.length ∧
    received i calls = [(new, .error (.failed fault))]
  /-- and no others. -/
  untold : ∀ i, answers.length ≤ i → breach ≠ .store i → received i calls = []
  sealed : ∀ i < size, (∀ stop, answers[i]? ≠ some (.error stop)) → SealedUnder i old around
  unrestored : ∀ i stop, answers[i]? = some (.error stop) → SealedUnder i new around
  filed : breach = .summary ∨ written = .ok () →
    WalletSummary.read wallet.summaryPath around.disk = .ok wallet.summary
  unfiled : ∀ cause, breach ≠ .summary → written = .error cause →
    WalletSummary.read wallet.summaryPath around.disk = .ok updated
  lockedAgain : locked = .ok () → LockedUnder (some old) around
  unlocked : ∀ cause, locked = .error cause → LockedUnder none around

/-- That is what it leaves if each of them came to what the calls have set last. -/
theorem RolledBack.of_effects {ω : Type} {SealedUnder : Nat → String → Surroundings ω → Prop}
    {LockedUnder : Option String → Surroundings ω → Prop} {old new : String} {wallet : OpenWallet ω}
    {updated : WalletSummary} {size : Nat} {breach : Breach} {fault : WalletFault}
    {before commits : List Call} {written : Except VaultError Unit}
    {answers : List (Except RotationStop Unit)} {locked : Except LedgerError Unit}
    {calls : List Call} {around : Surroundings ω} (ofCipher : before.all Call.isOfCipher)
    (whole : calls = before ++ .decryptKeys old (.ok ()) :: (commits ++
      .writeSummary wallet.summary written ::
        (resealings old 0 answers ++ [.encryptKeys old locked])))
    (committing : Commit updated new size (some breach) commits answers.length
      (.error (.failed fault)))
    (stores : ∀ i < size, SealedUnder i (lastly (Call.sealing i) old calls) around)
    (file : IsFiled wallet.summaryPath (lastly Call.filing (some wallet.summary) calls) around)
    (lock : LockedUnder (lastly Call.locking none calls) around) :
    RolledBack SealedUnder LockedUnder old new wallet updated size breach fault calls written
      answers locked around := by
  subst whole
  rw [filing_whole ofCipher] at file
  rw [locking_whole ofCipher, committing.locking] at lock
  have within {i : Nat} {answer : Except RotationStop Unit}
      (there : answers[i]? = some answer) : i < answers.length :=
    (List.getElem?_eq_some_iff.1 there).1
  constructor
  case told =>
    intro i answer there
    rw [received_whole ofCipher, committing.received_resealed (within there), there]
    rfl
  case failed =>
    rintro i rfl
    have here : i = answers.length := by
      cases committing
      rfl
    refine ⟨here, ?_⟩
    rw [received_whole ofCipher, committing.received_failed,
      List.getElem?_eq_none (Nat.le_of_eq here.symm)]
    rfl
  case untold =>
    intro i beyond other
    rw [received_whole ofCipher, committing.received_later beyond other,
      List.getElem?_eq_none beyond]
    rfl
  case sealed =>
    intro i inside restored
    have final := stores i inside
    rw [sealing_whole ofCipher] at final
    rcases there : answers[i]? with _ | (stop | ⟨⟩)
    · rw [there, committing.sealing_later (List.getElem?_eq_none_iff.1 there)] at final
      exact final
    · exact absurd there (restored stop)
    · rw [there] at final
      exact final
  case unrestored =>
    intro i stop there
    have final := stores i (Nat.lt_of_lt_of_le (within there) committing.count_le)
    rw [sealing_whole ofCipher, there] at final
    rw [committing.sealing_resealed (within there)] at final
    exact final
  case filed =>
    rintro (rfl | rfl)
    · rw [committing.filing_unwritten] at file
      rcases written with cause | ⟨⟩
      · exact file _ rfl
      · exact file _ rfl
    · exact file _ rfl
  case unfiled =>
    rintro cause other rfl
    rw [committing.filing_written other] at file
    exact file _ rfl
  case lockedAgain =>
    rintro rfl
    exact lock
  case unlocked =>
    rintro cause rfl
    exact lock

/-- The lock is known from its decryption on. -/
theorem Parties.Run.locked {σ ω : Type} {parties : Parties σ ω} {state final : σ × Surroundings ω}
    {before after : List Call} {old : String} {LockedUnder : Option String → Surroundings ω → Prop}
    (run : parties.Run state (before ++ .decryptKeys old (.ok ()) :: after) final)
    (ofCipher : before.all Call.isOfCipher) (locking : parties.Tracks Call.locking LockedUnder) :
    LockedUnder (lastly Call.locking none (before ++ .decryptKeys old (.ok ()) :: after))
      final.2 := by
  obtain ⟨middle, -, decrypting⟩ := Parties.run_append_iff.1 run
  obtain ⟨unlocked, answered, rest⟩ := Parties.run_cons_iff.1 decrypting
  have quiet : lastly Call.locking none before = none :=
    lastly_of_none _ _ fun call member =>
      (Call.effectless_of_cipher (List.all_eq_true.1 ofCipher call member)).2.2
  rw [lastly_append, quiet, lastly]
  exact rest.tracks locking (locking.sets answered rfl)

/-- A rotation whose commit fails ends with the failure of the commit, unless a store breaks down.
It has then made the calls of the commit up to the breach and after them every call of the
roll-back, and leaves the summary and the credential of the wallet as they were, and everything
else as those calls could restore it. -/
theorem rotate_rolled_back {σ ω : Type} (lock : Lock ω) (cipher : ChangingCipher σ)
    (stores : List (BoundStore ω)) (old new : String) (wallet wallet' : OpenWallet ω) (s s' : σ)
    (rest : ω) (updated : WalletSummary) (fault : WalletFault) (result : Except RotationStop Unit)
    (SealedUnder : Nat → String → Surroundings ω → Prop)
    (LockedUnder : Option String → Surroundings ω → Prop)
    (rotated : rotate lock cipher stores old new wallet s = (result, wallet', s'))
    (accepted : lock.accepts old wallet.around.rest = true)
    (prepared : (prepare cipher wallet.summary old new s).1 = .ok updated)
    (decrypted : lock.decrypt old wallet.around.rest = (.ok (), rest))
    (failed : (commit lock stores wallet.summaryPath updated new { wallet.around with rest }).1 =
      .error (.failed fault))
    (sealing : ∀ i,
      (Parties.mk cipher lock stores wallet.summaryPath).Tracks (Call.sealing i) (SealedUnder i))
    (locking : (Parties.mk cipher lock stores wallet.summaryPath).Tracks Call.locking LockedUnder)
    (leave : LeaveSummary stores wallet.summaryPath)
    (sealed : ∀ i < stores.length, SealedUnder i old wallet.around)
    (filed : WalletSummary.read wallet.summaryPath wallet.around.disk = .ok wallet.summary) :
    (NoneBreaksDown stores → result ≠ .error .aborted) ∧
      (result ≠ .error .aborted →
        result = .error (.failed fault) ∧ wallet'.summary = wallet.summary ∧
          wallet'.credential = wallet.credential ∧
          ∃ calls before breach commits written answers locked,
            Makes lock cipher stores old new wallet s calls (.error (.failed fault)) ∧
              calls = before ++ .decryptKeys old (.ok ()) :: (commits ++
                .writeSummary wallet.summary written ::
                  (resealings old 0 answers ++ [.encryptKeys old locked])) ∧
              Preparation wallet.summary old new before (.ok updated) ∧
              Commit updated new stores.length (some breach) commits answers.length
                (.error (.failed fault)) ∧
              RolledBack SealedUnder LockedUnder old new wallet updated stores.length breach fault
                calls written answers locked wallet'.around) := by
  obtain ⟨s₁, preparation⟩ : ∃ s₁, prepare cipher wallet.summary old new s = (.ok updated, s₁) :=
    ⟨_, Prod.ext prepared rfl⟩
  obtain ⟨⟨resealed, middle⟩, committed⟩ : ∃ left, commit lock stores wallet.summaryPath updated new
      { wallet.around with rest } = (.error (.failed fault), left) :=
    ⟨_, Prod.ext failed rfl⟩
  obtain ⟨breach, commits, count, restores, ended, around, committing, restoring, exchangeRun,
      exchanged⟩ :=
    exchange_run_of_failed lock cipher stores old new
      { wallet with around := { wallet.around with rest } } s₁ committed
  cases ended with
  | false =>
    obtain ⟨before, -, s₂, final, run, -, same⟩ :=
      makes_of_exchange accepted preparation decrypted exchangeRun
        (.rollBackBrokenOff committing restoring) exchanged
    obtain ⟨rfl, -⟩ := Prod.mk.inj (rotated.symm.trans same)
    refine ⟨fun sound => ?_, fun returned => absurd rfl returned⟩
    obtain ⟨position, member⟩ := restoring.exists_aborted
    refine absurd ?_ (run.returns sound position old)
    exact List.mem_append_right _ (List.mem_cons_of_mem _ (List.mem_append_right _ member))
  | true =>
    cases restoring with
    | complete written answers locked each sound =>
      subst each
      obtain ⟨before, prepares, makes⟩ :=
        makes_of_exchange accepted preparation decrypted exchangeRun
          (.rolledBack committing (.complete written answers locked rfl sound)) exchanged
      obtain ⟨s₂, final, run, ends, same⟩ := id makes
      obtain ⟨rfl, rfl, rfl⟩ : result = _ ∧ wallet' = _ ∧ s' = _ := by
        simpa using rotated.symm.trans same
      refine ⟨fun _ => by simp [Except.map], fun _ => ⟨rfl, rfl, rfl, ?_⟩⟩
      have known : IsFiled wallet.summaryPath (some wallet.summary) wallet.around := by
        rintro _ ⟨⟩
        exact filed
      have file := run.tracks (Parties.tracks_filing leave) known
      have keys := run.locked prepares.ofCipher locking
      refine ⟨_, before, breach, commits, written, answers, locked, makes, rfl, prepares,
        committing, ?_⟩
      exact .of_effects prepares.ofCipher rfl committing
        (fun i inside => run.tracks (sealing i) (sealed i inside)) file keys

section shelf

variable {cipher : ChangingCipher Unit} {count : Nat} {path : FilePath}

/-- What a call makes of a shelf. -/
theorem shelf_answers {call : Call} {state state' : Unit × Surroundings Shelf}
    (answered : (Parties.mk cipher Shelf.lock (Shelf.stores count) path).Answers
      call state state') :
    (∀ i, state'.2.rest.seals i = (call.sealing i).getD (state.2.rest.seals i)) ∧
      state'.2.rest.lockedUnder = call.locking.getD state.2.rest.lockedUnder := by
  cases answered with
  | deriveKey | sealText | openText | writeSummary => exact ⟨fun _ => rfl, rfl⟩
  | @decryptKeys credential answer _ around rest h =>
    by_cases accepted : around.rest.lockedUnder = some credential
    · simp only [Shelf.lock, if_pos accepted] at h
      cases h
      exact ⟨fun _ => rfl, rfl⟩
    · simp only [Shelf.lock, if_neg accepted] at h
      cases h
      exact ⟨fun _ => rfl, rfl⟩
  | @encryptKeys credential answer _ around rest h =>
    rcases Shelf.encrypt_eq credential around.rest with done | ⟨cause, refused⟩
    · cases done.symm.trans h
      exact ⟨fun _ => rfl, rfl⟩
    · cases refused.symm.trans h
      exact ⟨fun _ => rfl, rfl⟩
  | @reseal position store credential answer _ around around' there h =>
    obtain rfl := Shelf.getElem?_stores there
    rcases Shelf.reseal_eq position credential around with done | ⟨stop, refused⟩
    · cases done.symm.trans h
      refine ⟨fun i => ?_, rfl⟩
      by_cases here : position = i
      · simp [Call.sealing, here]
      · simp [Call.sealing, here, Ne.symm here]
    · cases refused.symm.trans h
      exact ⟨fun _ => rfl, rfl⟩

theorem shelf_tracks_sealing (i : Nat) :
    (Parties.mk cipher Shelf.lock (Shelf.stores count) path).Tracks (Call.sealing i)
      fun credential around => around.rest.seals i = credential where
  sets answered effective := by rw [(shelf_answers answered).1, effective, Option.getD_some]
  keeps answered effective holds := by
    rw [(shelf_answers answered).1, effective, Option.getD_none, holds]

theorem shelf_tracks_locking :
    (Parties.mk cipher Shelf.lock (Shelf.stores count) path).Tracks Call.locking
      fun lockedUnder around => around.rest.lockedUnder = lockedUnder where
  sets answered effective := by rw [(shelf_answers answered).2, effective, Option.getD_some]
  keeps answered effective holds := by
    rw [(shelf_answers answered).2, effective, Option.getD_none, holds]

theorem shelf_leaveSummary : LeaveSummary (Shelf.stores count) path := by
  intro store member credential around summary filed
  obtain ⟨position, -, rfl⟩ := List.mem_map.1 member
  rcases Shelf.reseal_eq position credential around with done | ⟨stop, refused⟩
  · rw [done]
    exact filed
  · rw [refused]
    exact filed

theorem shelf_noneBreaksDown : NoneBreaksDown (Shelf.stores count) := by
  intro store member credential around
  obtain ⟨position, -, rfl⟩ := List.mem_map.1 member
  rcases Shelf.reseal_eq position credential around with done | ⟨stop, refused⟩
  · simp [done]
  · simp [refused]

end shelf

/-- A shelf whose third store refuses the new credential, whose first will not go back to the
old one, and whose lock stays open. -/
def stubbornWallet : OpenWallet Shelf := shelvedWallet [false, false, true, true, false, true]

def stubbornRotation : Except RotationStop Unit × OpenWallet Shelf × Unit :=
  rotate Shelf.lock (labelCipher.steady Unit) (Shelf.stores 3) "old" "new" stubbornWallet ()

theorem rotate_rolled_back_stubborn :
    stubbornRotation.1 = .error (.failed (.saveFailure (.io "refused"))) ∧
      (List.range 3).map stubbornRotation.2.1.around.rest.seals = ["new", "old", "old"] ∧
      ∃ calls before breach commits written answers locked,
        Makes Shelf.lock (labelCipher.steady Unit) (Shelf.stores 3) "old" "new" stubbornWallet ()
          calls (.error (.failed (.saveFailure (.io "refused")))) ∧
        calls = before ++ .decryptKeys "old" (.ok ()) :: (commits ++
          .writeSummary stubbornWallet.summary written ::
            (resealings "old" 0 answers ++ [.encryptKeys "old" locked])) ∧
        Commit (labelledSummary "new" (spelledKey "backup")) "new" 3 (some breach) commits
          answers.length (.error (.failed (.saveFailure (.io "refused")))) ∧
        RolledBack (fun i credential around => around.rest.seals i = credential)
          (fun lockedUnder around => around.rest.lockedUnder = lockedUnder) "old" "new"
            stubbornWallet (labelledSummary "new" (spelledKey "backup")) 3 breach
            (.saveFailure (.io "refused")) calls written answers locked
              stubbornRotation.2.1.around := by
  have filed : WalletSummary.read stubbornWallet.summaryPath stubbornWallet.around.disk =
      .ok stubbornWallet.summary :=
    WalletSummary.read_write_of_ok _ _ _ (write_rooted _)
  have prepared : (prepare (labelCipher.steady Unit) stubbornWallet.summary "old" "new" ()).1 =
      .ok (labelledSummary "new" (spelledKey "backup")) := by rfl
  have decrypted : Shelf.lock.decrypt "old" stubbornWallet.around.rest =
      (.ok (), { stubbornWallet.around.rest with lockedUnder := none }) := by rfl
  have failed : (commit Shelf.lock (Shelf.stores 3) stubbornWallet.summaryPath
      (labelledSummary "new" (spelledKey "backup")) "new"
      { stubbornWallet.around with
        rest := { stubbornWallet.around.rest with lockedUnder := none } }).1 =
        .error (.failed (.saveFailure (.io "refused"))) := by rfl
  obtain ⟨returns, rolledBack⟩ :=
    rotate_rolled_back Shelf.lock (labelCipher.steady Unit) (Shelf.stores 3) "old" "new"
      stubbornWallet _ () _ _ _ _ _ _ _ rfl (by rfl) prepared decrypted failed
      shelf_tracks_sealing shelf_tracks_locking shelf_leaveSummary (fun _ _ => rfl) filed
  obtain ⟨stopped, -, -, calls, before, breach, commits, written, answers, locked, makes, whole, -,
      committing, left⟩ := rolledBack (returns shelf_noneBreaksDown)
  exact ⟨stopped, by rfl, calls, before, breach, commits, written, answers, locked, makes, whole,
    committing, left⟩

end PaymentVault.Rotation
