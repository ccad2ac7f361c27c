import PaymentVault.Proofs.Rotation.Success
import PaymentVault.Rehearsal.Rotation

/-!
# Before the commit

Up to the decryption of the wallet a rotation calls on its cipher only, whatever that answers, and
for a credential that is not accepted not even on that. So a rotation that stops earlier leaves
everything as it was, and the last call it made decides the reason it gives
(`rotate_before_commit`).
-/
namespace PaymentVault.Rotation

/-- The reason to be given if the call at a place of a preparation is its last: the old secrets
come first, then the new key and what is sealed, and each sealed secret is taken out again. -/
def reasons : List RotationReason :=
  [.loadFailure, .loadFailure, .saveFailure, .saveFailure, .irreversible,
    .saveFailure, .irreversible]

/-- How a rotation stops before the commit: whether the old credential was accepted, the calls,
and the failure. -/
inductive EarlyStop (summary : WalletSummary) (old new : String) :
    Bool → List Call → WalletFault → Prop where
  | mismatch : EarlyStop summary old new false [] .credentialMismatch
  | unprepared {calls fault} (prepared : Preparation summary old new calls (.error fault))
      (asked : calls.all Call.isOfCipher)
      (reason : reasons[calls.length - 1]? = some (.ofFault fault)) :
    EarlyStop summary old new true calls fault
  | refused {calls updated} (prepared : Preparation summary old new calls (.ok updated))
      (asked : calls.all Call.isOfCipher) (cause) :
    EarlyStop summary old new true (calls ++ [.decryptKeys old (.error cause)]) (.ledger cause)

variable {backupKey newKey : WalletKey} {new : String} {calls : List Call} {fault : WalletFault}

theorem Wrapping.length_of_ok {wrap : Bytes} (wraps : Wrapping backupKey newKey calls (.ok wrap)) :
    calls.length = 2 := by
  cases wraps
  rfl

/-- A backup key that cannot be sealed is no fault of the credential, and one that is lost again
is not saved. -/
theorem Wrapping.reason (wraps : Wrapping backupKey newKey calls (.error fault)) :
    reasons[calls.length + 2]? = some (.ofFault fault) := by
  cases wraps <;> rfl

theorem Enclosing.reason (encloses : Enclosing backupKey new calls (.error fault)) :
    reasons[calls.length + 4]? = some (.ofFault fault) := by
  cases encloses <;> rfl

variable {summary : WalletSummary} {old : String}

theorem Preparation.reason (prepared : Preparation summary old new calls (.error fault)) :
    reasons[calls.length - 1]? = some (.ofFault fault) := by
  cases prepared with
  | noOldKey => rfl
  | notOpened => rfl
  | noBackupKey => rfl
  | noNewKey => rfl
  | notWrapped _ wraps =>
    rw [← wraps.reason]
    simp only [List.length_append, List.length_cons, List.length_nil]
    congr 1
    omega
  | notEnclosed _ wraps encloses =>
    rw [← encloses.reason]
    simp only [List.length_append, List.length_cons, List.length_nil, wraps.length_of_ok]
    congr 1
    omega

/-! ## Calls to the cipher that fail -/

theorem Wrapping.succeeded_dropLast {result : Except WalletFault Bytes}
    (wraps : Wrapping backupKey newKey calls result) :
    ∀ call ∈ calls.dropLast, call.succeeded = true := by
  cases wraps <;> simp [Call.succeeded, Except.isOk, Except.toBool]

theorem Enclosing.succeeded_dropLast {result : Except WalletFault Bytes}
    (encloses : Enclosing backupKey new calls result) :
    ∀ call ∈ calls.dropLast, call.succeeded = true := by
  cases encloses <;> simp [Call.succeeded, Except.isOk, Except.toBool]

theorem mem_or_of_mem_dropLast_append {call : Call} {earlier later : List Call}
    (member : call ∈ (earlier ++ later).dropLast) : call ∈ earlier ∨ call ∈ later.dropLast := by
  rw [List.dropLast_append] at member
  split at member
  · exact .inl (List.dropLast_subset _ member)
  · exact List.mem_append.1 member

/-- A preparation goes on from a call only if that has not failed. -/
theorem Preparation.succeeded_dropLast {result : Except WalletFault WalletSummary}
    (prepared : Preparation summary old new calls result) :
    ∀ call ∈ calls.dropLast, call.succeeded = true := by
  have start (oldKey newKey : WalletKey) (bytes : Bytes) :
      ∀ call ∈ [Call.deriveKey old (.ok oldKey),
        .openText oldKey summary.sealedBackupKey (.ok bytes), .deriveKey new (.ok newKey)],
      call.succeeded = true := by
    simp [Call.succeeded, Except.isOk, Except.toBool]
  cases prepared with
  | noOldKey | notOpened | noBackupKey | noNewKey =>
    simp [Call.succeeded, Except.isOk, Except.toBool]
  | notWrapped oldKey wraps =>
    intro call member
    rcases mem_or_of_mem_dropLast_append member with first | second
    · exact start _ _ _ call first
    · exact wraps.succeeded_dropLast call second
  | notEnclosed oldKey wraps encloses | ready oldKey wraps encloses =>
    intro call member
    rcases mem_or_of_mem_dropLast_append member with earlier | third
    · rcases List.mem_append.1 earlier with first | second
      · exact start _ _ _ call first
      · exact wraps.succeeded call second
    · exact encloses.succeeded_dropLast call third

/-- A call of a preparation that fails is its last, and decides the reason. -/
theorem Preparation.last_of_failed {result : Except WalletFault WalletSummary}
    {before after : List Call} {call : Call}
    (prepared : Preparation summary old new (before ++ call :: after) result)
    (failed : call.succeeded = false) :
    after = [] ∧ ∃ fault, result = .error fault ∧
      reasons[before.length]? = some (.ofFault fault) := by
  rcases after with _ | ⟨next, later⟩
  · refine ⟨rfl, ?_⟩
    rcases result with fault | updated
    · refine ⟨fault, rfl, ?_⟩
      have reason := prepared.reason
      rwa [List.length_append, List.length_singleton, Nat.add_sub_cancel] at reason
    · rw [prepared.succeeded call (by simp)] at failed
      cases failed
  · have earlier : call ∈ (before ++ call :: next :: later).dropLast := by
      rw [List.dropLast_append_of_ne_nil (by simp), List.dropLast_cons_cons]
      simp
    rw [prepared.succeeded_dropLast call earlier] at failed
    cases failed

theorem notOfCipher_resealings {credential : String} {position : Nat}
    {answers : List (Except RotationStop Unit)} :
    ∀ call ∈ resealings credential position answers, call.isOfCipher = false := by
  intro call member
  obtain ⟨i, answer, -, rfl⟩ := mem_resealings.1 member
  rfl

theorem Commit.notOfCipher {updated : WalletSummary} {size count : Nat} {breach : Option Breach}
    {result : Except RotationStop Unit}
    (committing : Commit updated new size breach calls count result) :
    ∀ call ∈ calls, call.isOfCipher = false := by
  cases committing with
  | notWritten => exact List.forall_mem_singleton.2 rfl
  | notResealed | notEncrypted | done =>
    rw [List.forall_mem_cons, List.forall_mem_append, List.forall_mem_singleton]
    exact ⟨rfl, notOfCipher_resealings, rfl⟩

theorem RollBack.notOfCipher {former : WalletSummary} {count : Nat} {ended : Bool}
    (restoring : RollBack former old count calls ended) :
    ∀ call ∈ calls, call.isOfCipher = false := by
  cases restoring with
  | complete =>
    rw [List.forall_mem_cons, List.forall_mem_append, List.forall_mem_singleton]
    exact ⟨rfl, notOfCipher_resealings, rfl⟩
  | brokenOff => exact List.forall_mem_cons.2 ⟨rfl, notOfCipher_resealings⟩

/-- Neither a commit nor a roll-back calls on the cipher. -/
theorem Exchange.notOfCipher {former updated : WalletSummary} {size : Nat}
    {result : Except RotationStop WalletSummary}
    (exchanging : Exchange former updated old new size calls result) :
    ∀ call ∈ calls, call.isOfCipher = false := by
  cases exchanging with
  | committed committing | brokenOff committing => exact committing.notOfCipher
  | rolledBack committing restoring | rollBackBrokenOff committing restoring =>
    exact List.forall_mem_append.2 ⟨committing.notOfCipher, restoring.notOfCipher⟩

/-- A call to the cipher that fails ends a rotation that has called on nothing else yet, and
decides the reason. -/
theorem Ending.last_of_failed {size : Nat} {accepted : Bool}
    {ending : Except RotationStop WalletSummary} {before after : List Call} {call : Call}
    (ends : Ending summary old new size accepted (before ++ call :: after) ending)
    (ofCipher : call.isOfCipher) (failed : call.succeeded = false) :
    after = [] ∧ (before ++ call :: after).all Call.isOfCipher ∧
      ∃ fault, ending = .error (.failed fault) ∧
        reasons[before.length]? = some (.ofFault fault) := by
  -- Once a summary is prepared no call to the cipher can fail.
  have later {earlier rest : List Call} {updated : WalletSummary}
      (prepared : Preparation summary old new earlier (.ok updated))
      (quiet : ∀ call ∈ rest, call.isOfCipher = false) : call ∉ earlier ++ rest := by
    intro member
    rcases List.mem_append.1 member with first | second
    · rw [prepared.succeeded call first] at failed
      cases failed
    · rw [quiet call second] at ofCipher
      cases ofCipher
  have member : call ∈ before ++ call :: after := by simp
  generalize whole : before ++ call :: after = made at ends member
  cases ends with
  | mismatch => exact absurd member List.not_mem_nil
  | unprepared prepared =>
    subst whole
    obtain ⟨last, fault, same, reason⟩ := prepared.last_of_failed failed
    cases same
    exact ⟨last, prepared.ofCipher, _, rfl, reason⟩
  | refused prepared => exact absurd member (later prepared (List.forall_mem_singleton.2 rfl))
  | exchanged prepared exchanging =>
    exact absurd member (later prepared (List.forall_mem_cons.2 ⟨rfl, exchanging.notOfCipher⟩))

section makes

variable {σ ω : Type} {lock : Lock ω} {cipher : ChangingCipher σ} {stores : List (BoundStore ω)}
  {wallet wallet' : OpenWallet ω} {s s' : σ} {result : Except RotationStop Unit}
  {ending : Except RotationStop WalletSummary}
  (makes : Makes lock cipher stores old new wallet s calls ending)
  (rotated : rotate lock cipher stores old new wallet s = (result, wallet', s'))
include makes rotated

theorem Makes.result_eq : result = ending.map fun _ => () := by
  obtain ⟨s₁, around, -, -, same⟩ := makes
  exact (Prod.mk.inj (rotated.symm.trans same)).1

/-- Calls to the cipher leave the wallet as it was. -/
theorem Makes.unchanged (ofCipher : calls.all Call.isOfCipher) (failed : result ≠ .ok ()) :
    wallet' = wallet := by
  have told := makes.result_eq rotated
  obtain ⟨s₁, around, run, -, same⟩ := makes
  obtain rfl : around = wallet.around := run.around_eq ofCipher
  obtain ⟨-, rfl, -⟩ : result = _ ∧ wallet' = _ ∧ s' = _ := by simpa using rotated.symm.trans same
  cases ending with
  | error stop => rfl
  | ok updated => exact absurd told failed

theorem Makes.last_of_failed (before : List Call) (call : Call) (after : List Call)
    (whole : calls = before ++ call :: after) (ofCipher : call.isOfCipher)
    (failed : call.succeeded = false) :
    after = [] ∧ calls.all Call.isOfCipher ∧ ∃ fault, result = .error (.failed fault) ∧
      reasons[before.length]? = some (.ofFault fault) := by
  subst whole
  have told := makes.result_eq rotated
  obtain ⟨s₁, around, -, ends, -⟩ := makes
  obtain ⟨last, asked, fault, rfl, reason⟩ := ends.last_of_failed ofCipher failed
  exact ⟨last, asked, fault, told, reason⟩

end makes

/-- A rotation stops before it decrypts the keys, or it has been accepted, has prepared a summary
and decrypts them then. If it stops it has called on nothing but its cipher and, last, on a lock
that refused, and leaves the wallet and all around it as they were. For a credential that is not
accepted it makes no call at all, and a call to the cipher that fails is the last, with nothing but
such calls before it. -/
theorem rotate_before_commit {σ ω : Type} (lock : Lock ω) (cipher : ChangingCipher σ)
    (stores : List (BoundStore ω)) (old new : String) (wallet wallet' : OpenWallet ω) (s s' : σ)
    (result : Except RotationStop Unit)
    (rotated : rotate lock cipher stores old new wallet s = (result, wallet', s'))
    (refusing : ∀ cause rest, lock.decrypt old wallet.around.rest = (.error cause, rest) →
      rest = wallet.around.rest) :
    ∃ calls ending, Makes lock cipher stores old new wallet s calls ending ∧
      (lock.accepts old wallet.around.rest = false →
        calls = [] ∧ result = .error (.failed .credentialMismatch)) ∧
      (∀ before call after, calls = before ++ call :: after → call.isOfCipher →
        call.succeeded = false →
        after = [] ∧ calls.all Call.isOfCipher ∧ ∃ fault, result = .error (.failed fault) ∧
          reasons[before.length]? = some (.ofFault fault)) ∧
      (.decryptKeys old (.ok ()) ∉ calls ∧ wallet' = wallet ∧
          (∃ fault, result = .error (.failed fault) ∧
            EarlyStop wallet.summary old new (lock.accepts old wallet.around.rest) calls fault) ∨
        lock.accepts old wallet.around.rest = true ∧
          (lock.decrypt old wallet.around.rest).1 = .ok () ∧
          ∃ before updated exchanges, (prepare cipher wallet.summary old new s).1 = .ok updated ∧
            Preparation wallet.summary old new before (.ok updated) ∧
            calls = before ++ .decryptKeys old (.ok ()) :: exchanges) := by
  cases accepted : lock.accepts old wallet.around.rest with
  | false =>
    have makes : Makes lock cipher stores old new wallet s [] _ := makes_of_rejected accepted
    obtain rfl := makes.result_eq rotated
    exact ⟨[], _, makes, fun _ => ⟨rfl, rfl⟩, makes.last_of_failed rotated,
      .inl ⟨List.not_mem_nil, makes.unchanged rotated rfl (by simp [Except.map]), _, rfl,
        .mismatch⟩⟩
  | true =>
    rcases preparation : prepare cipher wallet.summary old new s with ⟨fault | updated, s₁⟩
    · obtain ⟨calls, prepared, makes⟩ := makes_of_unprepared accepted preparation
      obtain rfl := makes.result_eq rotated
      exact ⟨calls, _, makes, nofun, makes.last_of_failed rotated,
        .inl ⟨decryptKeys_notMem prepared.ofCipher,
          makes.unchanged rotated prepared.ofCipher (by simp [Except.map]), fault, rfl,
          .unprepared prepared prepared.ofCipher prepared.reason⟩⟩
    rcases decrypted : lock.decrypt old wallet.around.rest with ⟨cause | ⟨⟩, rest⟩
    · obtain ⟨calls, prepared, makes⟩ := makes_of_refused accepted preparation decrypted
      obtain rfl := makes.result_eq rotated
      refine ⟨_, _, makes, nofun, makes.last_of_failed rotated,
        .inl ⟨?_, ?_, .ledger cause, rfl, .refused prepared prepared.ofCipher cause⟩⟩
      · rw [List.mem_append, List.mem_singleton]
        rintro (member | same)
        · exact decryptKeys_notMem prepared.ofCipher member
        · cases same
      · obtain rfl := refusing cause rest decrypted
        simp only [rotate, accepted, preparation, decrypted] at rotated
        cases rotated
        rfl
    · obtain ⟨before, exchanges, ending, prepared, makes⟩ :=
        makes_of_decrypted accepted preparation decrypted
      exact ⟨_, ending, makes, nofun, makes.last_of_failed rotated,
        .inr ⟨rfl, rfl, before, updated, exchanges, rfl, prepared, rfl⟩⟩

/-- A cipher that seals another backup key than it was given is found out. -/
theorem rotate_before_commit_of_swap :
    (rotate RehearsalWallet.lock (CipherFaults.cipher { swap := 1 } labelCipher) [] "old" "new"
      rehearsedWallet {}).1 =
        .error (.failed (differs "backup key")) ∧
      (∀ cause rest, RehearsalWallet.lock.decrypt "old" rehearsedWallet.around.rest =
        (.error cause, rest) →
        rest = rehearsedWallet.around.rest) ∧
      ∃ calls ending,
        Makes RehearsalWallet.lock (CipherFaults.cipher { swap := 1 } labelCipher) [] "old" "new"
          rehearsedWallet {} calls ending ∧
        .decryptKeys "old" (.ok ()) ∉ calls ∧
        EarlyStop rehearsedWallet.summary "old" "new" true calls (differs "backup key") := by
  have refusing : ∀ cause rest, RehearsalWallet.lock.decrypt "old" rehearsedWallet.around.rest =
      (.error cause, rest) →
      rest = rehearsedWallet.around.rest := by
    rintro _ _ ⟨⟩
  have unprepared : (prepare (CipherFaults.cipher { swap := 1 } labelCipher)
      rehearsedWallet.summary "old" "new" {}).1 = .error (differs "backup key") := by rfl
  refine ⟨rfl, refusing, ?_⟩
  obtain ⟨calls, ending, makes, -, -, early | ⟨-, -, before, updated, exchanges, prepared, -⟩⟩ :=
    rotate_before_commit RehearsalWallet.lock
      (CipherFaults.cipher { swap := 1 } labelCipher) [] "old" "new" rehearsedWallet _ {} _
      (.error (.failed (differs "backup key"))) rfl refusing
  · obtain ⟨locked, -, fault, same, stop⟩ := early
    cases same
    exact ⟨calls, ending, makes, locked, stop⟩
  · cases unprepared.symm.trans prepared

end PaymentVault.Rotation
