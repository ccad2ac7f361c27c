import PaymentVault.Proofs.Rotation.Calls
import PaymentVault.Proofs.Vault.SummaryFile

/-!
# What the calls of a rotation leave behind

A property of the surroundings that some calls set and all others keep is, after a run, as the
last of those calls has set it (`Parties.Run.tracks`). The summary in the file, the credential
that a store is sealed under and the state of the lock are such properties.
-/
namespace PaymentVault.Rotation

section tracks

variable {α : Type} (effect : Call → Option α)

/-- The value that the last call with an effect has set. -/
def lastly (start : α) : List Call → α
  | [] => start
  | call :: calls => lastly ((effect call).getD start) calls

theorem lastly_append (start : α) (calls later : List Call) :
    lastly effect start (calls ++ later) = lastly effect (lastly effect start calls) later := by
  induction calls generalizing start with
  | nil => rfl
  | cons call calls ih => exact ih _

theorem lastly_of_none (start : α) {calls : List Call}
    (none : ∀ call ∈ calls, effect call = .none) :
    lastly effect start calls = start := by
  induction calls with
  | nil => rfl
  | cons call calls ih =>
    rw [lastly, none call (List.mem_cons_self ..), Option.getD_none]
    exact ih fun later member => none later (List.mem_cons_of_mem _ member)

variable {σ ω : Type} {parties : Parties σ ω} {effect} {Holds : α → Surroundings ω → Prop}

/-- A call with an effect sets a property of the surroundings, and any other call keeps it. -/
structure Parties.Tracks (parties : Parties σ ω) (effect : Call → Option α)
    (Holds : α → Surroundings ω → Prop) :
    Prop where
  sets : ∀ {call state state' a}, parties.Answers call state state' → effect call = some a →
    Holds a state'.2
  keeps : ∀ {call state state' a}, parties.Answers call state state' → effect call = none →
    Holds a state.2 →
    Holds a state'.2

theorem Parties.Run.tracks {state final : σ × Surroundings ω} {calls : List Call} {start : α}
    (run : parties.Run state calls final) (tracks : parties.Tracks effect Holds)
    (holds : Holds start state.2) :
    Holds (lastly effect start calls) final.2 := by
  induction run generalizing start with
  | nil => exact holds
  | @cons _ _ _ call _ answered _ ih =>
    refine ih ?_
    cases effective : effect call with
    | none => exact tracks.keeps answered effective holds
    | some a => exact tracks.sets answered effective

end tracks

namespace Call

/-- The summary that a call leaves in the file, which is then known. -/
def filing : Call → Option (Option WalletSummary)
  | writeSummary summary (.ok ()) => some (some summary)
  | _ => none

/-- The credential that a call leaves the store at a position sealed under. -/
def sealing (position : Nat) : Call → Option String
  | reseal other credential (.ok ()) => if other = position then some credential else none
  | _ => none

/-- The credential that a call leaves the keys of the wallet encrypted under, if it leaves them
so. -/
def locking : Call → Option (Option String)
  | decryptKeys _ (.ok ()) => some none
  | encryptKeys credential (.ok ()) => some (some credential)
  | _ => none

end Call

/-- No store changes the summary that is read. -/
def LeaveSummary {ω : Type} (stores : List (BoundStore ω)) (path : FilePath) : Prop :=
  ∀ store ∈ stores, ∀ credential around summary, WalletSummary.read path around.disk = .ok summary →
    WalletSummary.read path (store.reseal credential around).2.disk = .ok summary

/-- A summary is read from the file if it is known. -/
def IsFiled {ω : Type} (path : FilePath) (filed : Option WalletSummary) (around : Surroundings ω) :
    Prop :=
  ∀ summary, filed = some summary → WalletSummary.read path around.disk = .ok summary

/-- The summary that is read is the one that was written last. -/
theorem Parties.tracks_filing {σ ω : Type} {parties : Parties σ ω}
    (leave : LeaveSummary parties.stores parties.summaryPath) :
    parties.Tracks Call.filing (IsFiled parties.summaryPath) where
  sets := by
    intro call state state' filed answered effective
    cases answered with
    | @writeSummary summary answer _ _ _ h =>
      rcases answer with cause | ⟨⟩
      · cases effective
      · cases effective
        rintro _ ⟨⟩
        have written :=
          WalletSummary.read_write_of_ok summary parties.summaryPath _ (congrArg Prod.fst h)
        rwa [h] at written
    | deriveKey | sealText | openText | decryptKeys | encryptKeys | reseal => cases effective
  keeps := by
    intro call state state' filed answered effective holds summary known
    have before := holds summary known
    cases answered with
    | @writeSummary summary answer _ _ _ h =>
      rcases answer with cause | ⟨⟩
      · have kept :=
          WalletSummary.read_write_of_error summary parties.summaryPath _ (congrArg Prod.fst h)
        rw [h] at kept
        exact kept.trans before
      · cases effective
    | @reseal _ _ credential _ _ around _ there h =>
      have kept := leave _ (List.mem_of_getElem? there) credential around _ before
      rwa [h] at kept
    | deriveKey | sealText | openText | decryptKeys | encryptKeys => exact before

/-! ## The effects of the parts of a rotation -/

theorem Call.effectless_of_cipher {call : Call} (ofCipher : call.isOfCipher) :
    call.filing = none ∧ (∀ position, call.sealing position = none) ∧ call.locking = none := by
  cases call with
  | deriveKey | sealText | openText => exact ⟨rfl, fun _ => rfl, rfl⟩
  | decryptKeys | encryptKeys | writeSummary | reseal =>
    exact absurd ofCipher (by simp [isOfCipher])

theorem mem_resealings {credential : String} {position : Nat}
    {answers : List (Except RotationStop Unit)} {call : Call} :
    call ∈ resealings credential position answers ↔
      ∃ i answer, answers[i]? = some answer ∧ call = .reseal (position + i) credential answer := by
  induction answers generalizing position with
  | nil => simp [resealings]
  | cons first answers ih =>
    rw [resealings, List.mem_cons, ih]
    constructor
    · rintro (rfl | ⟨i, answer, there, rfl⟩)
      · exact ⟨0, first, rfl, rfl⟩
      · exact ⟨i + 1, answer, there, by rw [Nat.add_assoc, Nat.add_comm 1]⟩
    · rintro ⟨i, answer, there, rfl⟩
      cases i with
      | zero =>
        cases there
        exact .inl rfl
      | succ i => exact .inr ⟨i, answer, there, by rw [Nat.add_assoc, Nat.add_comm 1]⟩

theorem lastly_filing_resealings (start : Option WalletSummary) (credential : String)
    (position : Nat) (answers : List (Except RotationStop Unit)) :
    lastly Call.filing start (resealings credential position answers) = start := by
  refine lastly_of_none _ _ fun call member => ?_
  obtain ⟨i, answer, _, rfl⟩ := mem_resealings.1 member
  rfl

theorem lastly_locking_resealings (start : Option String) (credential : String) (position : Nat)
    (answers : List (Except RotationStop Unit)) :
    lastly Call.locking start (resealings credential position answers) = start := by
  refine lastly_of_none _ _ fun call member => ?_
  obtain ⟨i, answer, _, rfl⟩ := mem_resealings.1 member
  rfl

/-- Stores outside the resealed ones are passed over. -/
theorem lastly_sealing_beyond (start credential : String) {position other : Nat}
    (answers : List (Except RotationStop Unit))
    (beyond : other < position ∨ position + answers.length ≤ other) :
    lastly (Call.sealing other) start (resealings credential position answers) = start := by
  refine lastly_of_none _ _ fun call member => ?_
  obtain ⟨i, answer, there, rfl⟩ := mem_resealings.1 member
  have within : i < answers.length := (List.getElem?_eq_some_iff.1 there).1
  have different : position + i ≠ other := by omega
  rcases answer with stop | ⟨⟩
  · rfl
  · exact if_neg different

/-- A store is sealed under the credential if it could be resealed, and as before if not. -/
theorem lastly_sealing_resealings (start credential : String) (position i : Nat)
    (answers : List (Except RotationStop Unit)) :
    lastly (Call.sealing (position + i)) start (resealings credential position answers) =
      match answers[i]? with
      | some (.ok ()) => credential
      | _ => start := by
  induction answers generalizing position i with
  | nil => rfl
  | cons answer answers ih =>
    rw [resealings, lastly]
    cases i with
    | zero =>
      rw [lastly_sealing_beyond _ _ _ (.inl (Nat.lt_succ_self _)),
        List.getElem?_cons_zero, Nat.add_zero]
      rcases answer with stop | ⟨⟩
      · rfl
      · simp [Call.sealing]
    | succ i =>
      have different : position ≠ position + (i + 1) := by omega
      have passed : Call.sealing (position + (i + 1)) (.reseal position credential answer) =
          none := by
        rcases answer with stop | ⟨⟩
        · rfl
        · exact if_neg different
      have further := ih (position + 1) i
      rw [passed, Option.getD_none, List.getElem?_cons_succ, ← further,
        Nat.add_assoc, Nat.add_comm 1]

end PaymentVault.Rotation
