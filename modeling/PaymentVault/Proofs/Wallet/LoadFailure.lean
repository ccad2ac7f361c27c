import Mathlib.Data.List.Induction
import PaymentVault.Proofs.Wallet.Loading

/-!
# Failures that are told later

Opening a wallet whose payments file cannot be read succeeds, and the failure is kept to be told
once. Opening it again replaces the failure if the file cannot be read this time either, and leaves
it alone otherwise. So what is told is the failure of the last opening that could not read the
file, be it the last one or not (`takeLoadFailure_of_run`): if a failure was not told before the
file was repaired, it is told after the file was read (`failure_outlives_reading`).
-/
namespace PaymentVault

/-- A call that may change the payments of a wallet, or a change of what is around it. Anything
may change there, the summary, the credential and the files too. -/
inductive PaymentsCall (ω : Type) where
  | initialise
  | takeLoadFailure
  | load
  | save
  | shutdown
  | addRequest (request : PaymentRequest)
  | addMemo (memo : Memo)
  | deleteRequest (address : String)
  | undoDelete
  | adapt (tx : LedgerTransaction)
  | noteSeen (hash : String) (amount : Int64)
  | list
  | elsewhere (summary : WalletSummary) (credential : String) (around : Surroundings ω)

namespace OpenWallet

variable {ω : Type} (facilities : Facilities ω) {wallet : OpenWallet ω}

/-- Why opening a wallet leaves it with empty books, if it gets as far as the payments file and
cannot read it. -/
def openingFault (wallet : OpenWallet ω) : Option WalletFault :=
  match wallet.around.disk.ensureDirectory wallet.paymentsFile.directory with
  | (.error _, _) => none
  | (.ok (), disk) =>
    match (wallet.withDisk disk).finds facilities with
    | .ok _ => none
    | .error cause => some (.loadFailure cause)

variable {facilities}

/-- Opening that cannot read the file replaces the failure that was kept; any other opening leaves
it. -/
theorem loadFailure_initialise (wallet : OpenWallet ω) :
    (wallet.initialise facilities).2.desk.loadFailure =
      (wallet.openingFault facilities).or wallet.desk.loadFailure := by
  unfold OpenWallet.initialise openingFault
  rcases wallet.around.disk.ensureDirectory wallet.paymentsFile.directory with
    ⟨cause | ⟨⟩, disk⟩
  · rfl
  · dsimp only
    cases found : (wallet.withDisk disk).finds facilities with
    | error cause =>
      rw [load_eq_of_error found]
      rfl
    | ok snapshot =>
      rw [load_eq_of_ok found]
      rfl

/-- In a wallet whose directory is there, the failure is about the file as it was. -/
theorem openingFault_of_initialise {after : OpenWallet ω} (housed : wallet.IsHoused)
    (opened : wallet.initialise facilities = (.ok (), after)) :
    wallet.openingFault facilities =
      match wallet.finds facilities with
      | .ok _ => none
      | .error cause => some (.loadFailure cause) := by
  obtain ⟨disk, ensured⟩ := exists_ensureDirectory_of_initialise opened
  rw [openingFault, ensured]
  dsimp only
  rw [housed.finds_withDisk ensured]

/-! ## Calls that keep the failure -/

theorem loadFailure_load :
    (wallet.load facilities).2.desk.loadFailure = wallet.desk.loadFailure := by
  unfold OpenWallet.load
  split <;> rfl

theorem loadFailure_addRequest (request : PaymentRequest) :
    (wallet.addRequest request).2.desk.loadFailure = wallet.desk.loadFailure := by
  unfold OpenWallet.addRequest
  split <;> rfl

theorem loadFailure_addMemo (memo : Memo) :
    (wallet.addMemo memo).2.desk.loadFailure = wallet.desk.loadFailure := by
  unfold OpenWallet.addMemo
  split <;> rfl

theorem loadFailure_list :
    (wallet.list facilities).2.desk.loadFailure = wallet.desk.loadFailure := by
  unfold OpenWallet.list
  dsimp only
  split <;> rfl

end OpenWallet

namespace PaymentsCall

variable {ω : Type} (facilities : Facilities ω)

def perform : PaymentsCall ω → OpenWallet ω → OpenWallet ω
  | initialise, wallet => (wallet.initialise facilities).2
  | takeLoadFailure, wallet => wallet.takeLoadFailure.2
  | load, wallet => (wallet.load facilities).2
  | save, wallet => (wallet.save facilities).2
  | shutdown, wallet => wallet.shutdown facilities
  | addRequest request, wallet => (wallet.addRequest request).2
  | addMemo memo, wallet => (wallet.addMemo memo).2
  | deleteRequest address, wallet => (wallet.deleteRequest facilities address).2
  | undoDelete, wallet => (wallet.undoDelete facilities).2
  | adapt tx, wallet => (wallet.adapt facilities tx).2
  | noteSeen hash amount, wallet => (wallet.noteSeen facilities hash amount).2
  | list, wallet => (wallet.list facilities).2
  | elsewhere summary credential around, wallet => { wallet with summary, credential, around }

/-- The wallet after calls one after another. -/
def run (calls : List (PaymentsCall ω)) (wallet : OpenWallet ω) : OpenWallet ω :=
  calls.foldl (fun wallet call => call.perform facilities wallet) wallet

variable {facilities}

theorem run_append (earlier later : List (PaymentsCall ω)) (wallet : OpenWallet ω) :
    run facilities (earlier ++ later) wallet =
      run facilities later (run facilities earlier wallet) :=
  List.foldl_append

/-- No call but opening and telling touches the failure that is kept. -/
theorem loadFailure_perform_of_ne {call : PaymentsCall ω} (opens : call ≠ .initialise)
    (tells : call ≠ .takeLoadFailure) (wallet : OpenWallet ω) :
    (call.perform facilities wallet).desk.loadFailure = wallet.desk.loadFailure := by
  cases call with
  | initialise => exact absurd rfl opens
  | takeLoadFailure => exact absurd rfl tells
  | save | shutdown | adapt | noteSeen | elsewhere => rfl
  | load => exact OpenWallet.loadFailure_load
  | addRequest request => exact OpenWallet.loadFailure_addRequest request
  | addMemo memo => exact OpenWallet.loadFailure_addMemo memo
  | deleteRequest address =>
    rw [perform, OpenWallet.deleteRequest, OpenWallet.desk_saveAfter]
    rfl
  | undoDelete =>
    rw [perform, OpenWallet.undoDelete, OpenWallet.desk_saveAfter]
    rfl
  | list => exact OpenWallet.loadFailure_list

variable {wallet : OpenWallet ω} {fault : WalletFault}

/-- A failure is kept after a call if the call came upon it, or if it was kept before and the call
neither told it nor came upon another. -/
theorem loadFailure_perform_eq_some_iff {call : PaymentsCall ω} :
    (call.perform facilities wallet).desk.loadFailure = some fault ↔
      (call = .initialise ∧ wallet.openingFault facilities = some fault) ∨
        (wallet.desk.loadFailure = some fault ∧ call ≠ .takeLoadFailure ∧
          (call = .initialise → wallet.openingFault facilities = none)) := by
  by_cases opens : call = .initialise
  · subst opens
    rw [perform, OpenWallet.loadFailure_initialise]
    cases wallet.openingFault facilities <;> simp
  by_cases tells : call = .takeLoadFailure
  · subst tells
    simp [perform, OpenWallet.takeLoadFailure]
  · simp [loadFailure_perform_of_ne opens tells, opens, tells]

variable (facilities) in
/-- The opening between two runs came upon a failure, which was not told since, and no opening
since came upon another. -/
structure Lasts (start : OpenWallet ω) (fault : WalletFault)
    (before since : List (PaymentsCall ω)) : Prop where
  failed : (run facilities before start).openingFault facilities = some fault
  untold : .takeLoadFailure ∉ since
  read : ∀ mid rest, since = mid ++ .initialise :: rest →
    (run facilities (before ++ .initialise :: mid) start).openingFault facilities = none

variable {start : OpenWallet ω}

theorem lasts_nil_iff {before : List (PaymentsCall ω)} :
    Lasts facilities start fault before [] ↔
      (run facilities before start).openingFault facilities = some fault := by
  constructor
  · exact Lasts.failed
  · intro failed
    exact ⟨failed, List.not_mem_nil, fun mid rest split => by simp at split⟩

theorem lasts_concat_iff {before since : List (PaymentsCall ω)} {last : PaymentsCall ω} :
    Lasts facilities start fault before (since ++ [last]) ↔
      Lasts facilities start fault before since ∧ last ≠ .takeLoadFailure ∧
        (last = .initialise →
          (run facilities (before ++ .initialise :: since) start).openingFault facilities =
            none) := by
  constructor
  · rintro ⟨failed, untold, read⟩
    rw [List.mem_append, List.mem_singleton, not_or] at untold
    refine ⟨⟨failed, untold.1, fun mid rest split => ?_⟩, Ne.symm untold.2, ?_⟩
    · exact read mid (rest ++ [last]) (by simp [split])
    · rintro rfl
      exact read since [] rfl
  · rintro ⟨⟨failed, untold, read⟩, quiet, readLast⟩
    refine ⟨failed, ?_, fun mid rest split => ?_⟩
    · simp [untold, Ne.symm quiet]
    -- An opening since is the last call, or it was among the calls before that.
    · rcases List.eq_nil_or_concat' rest with rfl | ⟨rest, other, rfl⟩
      · obtain ⟨rfl, same⟩ := List.append_inj' split rfl
        exact readLast (List.cons.inj same).1
      · rw [← List.cons_append, ← List.append_assoc] at split
        exact read mid rest (List.append_inj' split rfl).1

/-- What lasts to the end of a longer run: the last call came upon it, or it has lasted and the
last call lets it. -/
theorem exists_lasts_concat_iff {earlier : List (PaymentsCall ω)} {last : PaymentsCall ω} :
    (∃ before since, earlier ++ [last] = before ++ .initialise :: since ∧
        Lasts facilities start fault before since) ↔
      (last = .initialise ∧
          (run facilities earlier start).openingFault facilities = some fault) ∨
        ((∃ before since, earlier = before ++ .initialise :: since ∧
            Lasts facilities start fault before since) ∧ last ≠ .takeLoadFailure ∧
          (last = .initialise →
            (run facilities earlier start).openingFault facilities = none)) := by
  constructor
  · rintro ⟨before, since, split, lasts⟩
    rcases List.eq_nil_or_concat' since with rfl | ⟨since, other, rfl⟩
    · obtain ⟨rfl, same⟩ := List.append_inj' split rfl
      exact .inl ⟨(List.cons.inj same).1, lasts.failed⟩
    · rw [← List.cons_append, ← List.append_assoc] at split
      obtain ⟨rfl, same⟩ := List.append_inj' split rfl
      obtain rfl := (List.cons.inj same).1
      obtain ⟨lasts, quiet, read⟩ := lasts_concat_iff.1 lasts
      exact .inr ⟨⟨before, since, rfl, lasts⟩, quiet, read⟩
  · rintro (⟨rfl, failed⟩ | ⟨⟨before, since, rfl, lasts⟩, quiet, read⟩)
    · exact ⟨earlier, [], rfl, lasts_nil_iff.2 failed⟩
    · exact ⟨before, since ++ [last], by simp, lasts_concat_iff.2 ⟨lasts, quiet, read⟩⟩

/-- The failure that is kept after a run lasts from one of its openings. -/
theorem loadFailure_run_eq_some_iff (fresh : start.desk.loadFailure = none)
    (calls : List (PaymentsCall ω)) :
    (run facilities calls start).desk.loadFailure = some fault ↔
      ∃ before since, calls = before ++ .initialise :: since ∧
        Lasts facilities start fault before since := by
  -- From the end of the run, for it is the later calls that let a failure last.
  induction calls using List.reverseRecOn with
  | nil => simp [run, fresh]
  | append_singleton earlier last ih =>
    rw [exists_lasts_concat_iff, ← ih, run_append]
    exact loadFailure_perform_eq_some_iff

theorem loadFailure_run_of_not_mem {calls : List (PaymentsCall ω)}
    (opens : .initialise ∉ calls) (tells : .takeLoadFailure ∉ calls) (wallet : OpenWallet ω) :
    (run facilities calls wallet).desk.loadFailure = wallet.desk.loadFailure := by
  induction calls generalizing wallet with
  | nil => rfl
  | cons call rest ih =>
    rw [List.mem_cons, not_or] at opens tells
    have kept : (call.perform facilities wallet).desk.loadFailure = wallet.desk.loadFailure :=
      loadFailure_perform_of_ne (Ne.symm opens.1) (Ne.symm tells.1) wallet
    exact (ih opens.2 tells.2 _).trans kept

end PaymentsCall

namespace OpenWallet

open PaymentsCall

variable {ω : Type} {facilities : Facilities ω}

/-- After any calls on a wallet that was opened anew, and whatever happened around it meanwhile:
the failure that is told is that of the last opening which could not read the file, if it was not
told since. So after an opening that could not, its own failure is told, and after any other
whatever would have been told before it. In a wallet whose directory is there, it is the file as it
was before the opening that could be read or not. -/
theorem takeLoadFailure_of_run (start : OpenWallet ω) (calls : List (PaymentsCall ω)) :
    let reached calls := run facilities calls start.reopened
    (∀ fault, (reached calls).takeLoadFailure.1 = some fault ↔
      ∃ before since, calls = before ++ .initialise :: since ∧
        Lasts facilities start.reopened fault before since) ∧
      (∀ before since, calls = before ++ .initialise :: since → .initialise ∉ since →
        .takeLoadFailure ∉ since →
          (reached calls).takeLoadFailure.1 =
            ((reached before).openingFault facilities).or (reached before).takeLoadFailure.1) ∧
      ((reached calls).IsHoused → ∀ after,
        (reached calls).initialise facilities = (.ok (), after) →
          (reached calls).openingFault facilities =
            match (reached calls).finds facilities with
            | .ok _ => none
            | .error cause => some (.loadFailure cause)) := by
  intro reached
  refine ⟨?_, ?_, ?_⟩
  · intro fault
    exact loadFailure_run_eq_some_iff rfl calls
  · rintro before since rfl opens tells
    have split : reached (before ++ .initialise :: since) =
        run facilities since (((reached before).initialise facilities).2) := run_append _ _ _
    rw [split]
    exact (loadFailure_run_of_not_mem opens tells _).trans (loadFailure_initialise _)
  · intro housed after opened
    exact openingFault_of_initialise housed opened

/-- A failure that was not told is told after the file was repaired, the wallet was opened again and
its books were read. -/
theorem failure_outlives_reading :
    let facilities := RehearsalWallet.facilities labelCipher false
    let repair := .elsewhere strandedWallet.summary strandedWallet.credential storedWallet.around
    let reached calls := run facilities calls strandedWallet.reopened
    (reached [.initialise, repair]).finds facilities =
        .ok (some busyWallet.books.snapshot.settled) ∧
      ((reached [.initialise, repair]).initialise facilities).1 = .ok () ∧
      (reached [.initialise, repair, .initialise]).books.memos.entries =
        busyWallet.books.memos.entries ∧
      (reached [.initialise, repair, .initialise]).takeLoadFailure.1 =
        some (.loadFailure (.decryption "other label")) := by
  refine ⟨?_, ?_, ?_, ?_⟩
  all_goals rfl

end OpenWallet
end PaymentVault
