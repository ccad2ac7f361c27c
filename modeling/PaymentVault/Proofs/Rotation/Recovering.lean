import PaymentVault.Proofs.Rotation.Readable

/-!
# Rotations that recover

A rotation recovers if no store breaks down and if, should its commit fail, every step of the
roll-back goes through (`Makes.recovers`). For that the calls of a commit and of a roll-back are
compared with what those come to.
-/
namespace PaymentVault.Rotation

variable {σ ω : Type}

section converse

variable {parties : Parties σ ω} {s s' : σ} {around around' : Surroundings ω}

section cons

variable {later : List Call} {final : σ × Surroundings ω}

theorem Parties.Run.writeSummary_cons {summary : WalletSummary} {answer : Except VaultError Unit}
    (run : parties.Run (s, around) (.writeSummary summary answer :: later) final) :
    ∃ disk, summary.write parties.summaryPath around.disk = (answer, disk) ∧
      parties.Run (s, { around with disk }) later final := by
  obtain ⟨_, answered, further⟩ := Parties.run_cons_iff.1 run
  cases answered with
  | writeSummary h => exact ⟨_, h, further⟩

theorem Parties.Run.encryptKeys_cons {credential : String} {answer : Except LedgerError Unit}
    (run : parties.Run (s, around) (.encryptKeys credential answer :: later) final) :
    ∃ rest, parties.lock.encrypt credential around.rest = (answer, rest) ∧
      parties.Run (s, { around with rest }) later final := by
  obtain ⟨_, answered, further⟩ := Parties.run_cons_iff.1 run
  cases answered with
  | encryptKeys h => exact ⟨_, h, further⟩

/-- A call to a store is one to the first of those that are left. -/
theorem Parties.Run.reseal_cons {position : Nat} {credential : String}
    {answer : Except RotationStop Unit} {store : BoundStore ω} {rest : List (BoundStore ω)}
    (run : parties.Run (s, around) (.reseal position credential answer :: later) final)
    (here : parties.stores.drop position = store :: rest) :
    ∃ around₁, store.reseal credential around = (answer, around₁) ∧
      parties.Run (s, around₁) later final := by
  obtain ⟨_, answered, further⟩ := Parties.run_cons_iff.1 run
  cases answered with
  | @reseal _ found _ _ _ _ around₁ there h =>
    obtain rfl : store = found := Option.some.inj ((getElem?_of_drop_cons here).symm.trans there)
    exact ⟨around₁, h, further⟩

end cons

/-- Stores that did as they were told are resealed, and it goes on with the others. -/
theorem resealAll_of_run {credential : String} {count position : Nat}
    {stores : List (BoundStore ω)} (here : parties.stores.drop position = stores)
    (within : count ≤ stores.length)
    (run : parties.Run (s, around) (resealings credential position (compliant count))
      (s', around')) :
    resealAll credential stores around =
      ((resealAll credential (stores.drop count) around').1,
        stores.take count ++ (resealAll credential (stores.drop count) around').2.1,
        (resealAll credential (stores.drop count) around').2.2) := by
  induction count generalizing position stores around with
  | zero =>
    obtain ⟨-, rfl⟩ := Prod.mk.inj (Parties.run_nil_iff.1 run)
    rfl
  | succ count ih =>
    rcases stores with _ | ⟨store, rest⟩
    · exact absurd within (Nat.not_succ_le_zero count)
    · obtain ⟨around₁, resealed, further⟩ := run.reseal_cons here
      have next := ih (drop_succ_of_drop_cons here) (Nat.le_of_succ_le_succ within) further
      simp only [resealAll, resealed, next, List.drop_succ_cons, List.take_succ_cons,
        List.cons_append]

/-- The calls of a commit that failed tell what it came to. -/
theorem Parties.Run.commit_eq {updated : WalletSummary} {new : String} {count : Nat}
    {breach : Breach} {calls : List Call} {stop : RotationStop}
    (run : parties.Run (s, around) calls (s', around'))
    (committing :
      Commit updated new parties.stores.length (some breach) calls count (.error stop)) :
    commit parties.lock parties.stores parties.summaryPath updated new around =
      (.error stop, parties.stores.take count, around') := by
  cases committing with
  | notWritten cause =>
    obtain ⟨disk, written, done⟩ := run.writeSummary_cons
    obtain ⟨-, rfl⟩ := Prod.mk.inj (Parties.run_nil_iff.1 done)
    simp only [commit, writeSummary, written, mapError_error, List.take_zero]
  | notResealed count stop within =>
    obtain ⟨disk, written, further⟩ := run.writeSummary_cons
    obtain ⟨⟨s₁, around₁⟩, resealed, last⟩ := Parties.run_append_iff.1 further
    obtain ⟨around₂, failed, done⟩ := last.reseal_cons (List.drop_eq_getElem_cons within)
    obtain ⟨-, rfl⟩ := Prod.mk.inj (Parties.run_nil_iff.1 done)
    have told := resealAll_of_run List.drop_zero (Nat.le_of_lt within) resealed
    rw [List.drop_eq_getElem_cons within] at told
    simp only [resealAll, failed, List.append_nil] at told
    simp only [commit, writeSummary, written, mapError_ok, told]
  | notEncrypted cause =>
    obtain ⟨disk, written, further⟩ := run.writeSummary_cons
    obtain ⟨⟨s₁, around₁⟩, resealed, last⟩ := Parties.run_append_iff.1 further
    obtain ⟨rest, encrypted, done⟩ := last.encryptKeys_cons
    obtain ⟨-, rfl⟩ := Prod.mk.inj (Parties.run_nil_iff.1 done)
    have told := resealAll_of_run List.drop_zero (Nat.le_refl _) resealed
    rw [List.drop_length] at told
    simp only [resealAll, List.append_nil] at told
    simp only [commit, writeSummary, written, mapError_ok, told, encryptKeys, encrypted,
      mapError_error]

/-- Stores that could be resealed one after another all do as they are told. -/
theorem compliant_of_resealAll {credential : String} {position : Nat}
    {stores sealed : List (BoundStore ω)} {answers : List (Except RotationStop Unit)}
    {final : Surroundings ω} (here : stores <+: parties.stores.drop position)
    (each : answers.length = stores.length)
    (ok : resealAll credential stores around = (.ok (), sealed, final))
    (run : parties.Run (s, around) (resealings credential position answers) (s', around')) :
    answers = compliant stores.length ∧ around' = final := by
  induction stores generalizing position answers around sealed with
  | nil =>
    obtain rfl := List.eq_nil_of_length_eq_zero each
    obtain ⟨-, rfl⟩ := Prod.mk.inj (Parties.run_nil_iff.1 run)
    exact ⟨rfl, congrArg (·.2.2) ok⟩
  | cons store rest ih =>
    rcases answers with _ | ⟨answer, answers⟩
    · cases each
    obtain ⟨beyond, split⟩ := here
    obtain ⟨around₁, resealed, further⟩ := run.reseal_cons split.symm
    rcases answer with stop | ⟨⟩
    · simp only [resealAll, resealed] at ok
      cases ok
    · rcases left : resealAll credential rest around₁ with ⟨result, taken, around₂⟩
      simp only [resealAll, resealed, left] at ok
      cases ok
      obtain ⟨rfl, rfl⟩ := ih ⟨beyond, (drop_succ_of_drop_cons split.symm).symm⟩
        (Nat.succ.inj each) left further
      exact ⟨rfl, rfl⟩

end converse

/-- Every step of a roll-back goes through. -/
def RollsBack (lock : Lock ω) (resealed : List (BoundStore ω)) (path : FilePath)
    (former : WalletSummary) (old : String) (around : Surroundings ω) : Prop :=
  ∃ disk around' rest sealed, former.write path around.disk = (.ok (), disk) ∧
    resealAll old resealed { around with disk } = (.ok (), sealed, around') ∧
    lock.encrypt old around'.rest = (.ok (), rest)

theorem Parties.Run.succeeded_of_rollsBack {parties : Parties σ ω} {former : WalletSummary}
    {old : String} {count : Nat} {calls : List Call} {s : σ} {around : Surroundings ω}
    {final : σ × Surroundings ω} (run : parties.Run (s, around) calls final)
    (restoring : RollBack former old count calls true) (within : count ≤ parties.stores.length)
    (restored : RollsBack parties.lock (parties.stores.take count) parties.summaryPath former old
      around) :
    ∀ call ∈ calls, call.succeeded = true := by
  obtain ⟨disk, around', rest, sealed, filed, resealed, encrypted⟩ := restored
  cases restoring with
  | complete written answers locked each =>
    obtain ⟨_, written, further⟩ := run.writeSummary_cons
    obtain ⟨rfl, rfl⟩ := Prod.mk.inj (filed.symm.trans written)
    obtain ⟨⟨s₁, around₁⟩, resealing, last⟩ := Parties.run_append_iff.1 further
    obtain ⟨same, rfl⟩ := compliant_of_resealAll (List.take_prefix _ _)
      (each.trans (List.length_take_of_le within).symm) resealed resealing
    obtain ⟨_, relocked, -⟩ := last.encryptKeys_cons
    obtain ⟨rfl, -⟩ := Prod.mk.inj (encrypted.symm.trans relocked)
    rw [same, List.forall_mem_cons, List.forall_mem_append, List.forall_mem_singleton]
    exact ⟨rfl, succeeded_resealings, rfl⟩

/-- Only the last call of a commit fails. -/
theorem Commit.eq_concat {updated : WalletSummary} {new : String} {size count : Nat}
    {breach : Breach} {calls : List Call} {result : Except RotationStop Unit}
    (committing : Commit updated new size (some breach) calls count result) :
    ∃ front last, calls = front ++ [last] ∧ ∀ call ∈ front, call.succeeded = true := by
  cases committing with
  | notWritten => exact ⟨[], _, rfl, fun _ member => absurd member List.not_mem_nil⟩
  | notResealed | notEncrypted =>
    exact ⟨_ :: _, _, rfl, List.forall_mem_cons.2 ⟨rfl, succeeded_resealings⟩⟩

/-- One call may fail if all others go through. -/
theorem Recovers.of_one_failed {isPayments : Nat → Prop} {before later : List Call} {call : Call}
    (returns : ∀ position credential,
      .reseal position credential (.error .aborted) ∉ before ++ call :: later)
    (earlier : ∀ call ∈ before, call.succeeded = true)
    (after : ∀ call ∈ later, call.succeeded = true) :
    Recovers isPayments (before ++ call :: later) where
  returns := returns
  restores := by
    rw [List.pairwise_append, List.pairwise_cons]
    refine ⟨?_, ⟨fun last member _ _ => after last member, ?_⟩, ?_⟩
    · refine List.pairwise_of_forall_mem_list fun first member _ _ failed => ?_
      cases failed.symm.trans (earlier first member)
    · exact List.pairwise_of_forall_mem_list fun _ _ last member _ _ => after last member
    · intro first member _ _ failed
      cases failed.symm.trans (earlier first member)

/-- A rotation recovers if no store breaks down, and if all of the roll-back goes through should
its commit fail. -/
theorem Makes.recovers {lock : Lock ω} {cipher : ChangingCipher σ} {stores : List (BoundStore ω)}
    {old new : String} {wallet : OpenWallet ω} {s : σ} {calls : List Call}
    {ending : Except RotationStop WalletSummary} {isPayments : Nat → Prop}
    (makes : Makes lock cipher stores old new wallet s calls ending) (sound : NoneBreaksDown stores)
    (restored : ∀ rest, lock.decrypt old wallet.around.rest = (.ok (), rest) →
      ∀ updated fault resealed around,
        commit lock stores wallet.summaryPath updated new { wallet.around with rest } =
          (.error (.failed fault), resealed, around) →
        RollsBack lock resealed wallet.summaryPath wallet.summary old around) :
    Recovers isPayments calls := by
  obtain ⟨s', final, run, ends, -⟩ := makes
  have returns := run.returns sound
  generalize lock.accepts old wallet.around.rest = accepted at ends
  cases ends with
  | mismatch => exact .of_uncommitted fun _ member => absurd member List.not_mem_nil
  | unprepared prepared =>
    exact .of_uncommitted fun call member => .inl (List.all_eq_true.1 prepared.ofCipher call member)
  | refused prepared =>
    refine .of_uncommitted (List.forall_mem_append.2 ⟨fun call member => ?_, ?_⟩)
    · exact .inl (List.all_eq_true.1 prepared.ofCipher call member)
    · exact List.forall_mem_singleton.2 (.inr ⟨_, _, rfl⟩)
  | exchanged prepared exchanging =>
    obtain ⟨⟨s₁, unchanged⟩, first, after⟩ := Parties.run_append_iff.1 run
    obtain rfl : unchanged = wallet.around := first.around_eq prepared.ofCipher
    obtain ⟨_, answered, exchangeRun⟩ := Parties.run_cons_iff.1 after
    cases answered with
    | decryptKeys decrypted =>
      rcases exchanging.cases_of_returns fun position credential member =>
          returns position credential (List.mem_append_right _ (List.mem_cons_of_mem _ member)) with
        ⟨rfl, -⟩ | ⟨commits, restores, breach, count, fault, rfl, rfl, committing, restoring⟩
      · exact .of_succeeded (Ending.exchanged prepared exchanging).succeeded
      · obtain ⟨⟨s₂, middle⟩, commitRun, restoreRun⟩ := Parties.run_append_iff.1 exchangeRun
        have steps := restored _ decrypted _ _ _ _ (commitRun.commit_eq committing)
        have each := restoreRun.succeeded_of_rollsBack restoring committing.count_le steps
        obtain ⟨front, last, rfl, told⟩ := committing.eq_concat
        rw [List.append_assoc, ← List.cons_append, ← List.append_assoc] at returns ⊢
        refine .of_one_failed returns ?_ each
        exact List.forall_mem_append.2 ⟨prepared.succeeded, List.forall_mem_cons.2 ⟨rfl, told⟩⟩

end PaymentVault.Rotation
