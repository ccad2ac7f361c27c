import PaymentVault.Proofs.Rehearsal.Engine
import PaymentVault.Proofs.Rotation.Recovering

/-!
# Courses of actions

However rotations and operations on the payments follow each other, a wallet stays readable
under one credential, which only a rotation that goes through replaces (`readable_of_course`).
It takes that no rotation fails beyond repair, and that no request is from a leap second.
-/
namespace PaymentVault

open Rotation

variable {σ ω : Type}

namespace Engine

section course

variable {engine : Engine σ ω} {IsEncrypted : ω → Prop} (sound : engine.Sound IsEncrypted)
  {backupKey : WalletKey}
include sound

/-- A mild action leaves a readable wallet readable. -/
theorem Sound.stands_perform {action : Action ω} {state : OpenWallet ω × σ} {credential : String}
    (stands : state.1.StandsUnder engine.facilities IsEncrypted backupKey credential)
    (mild : engine.IsMild IsEncrypted action state) :
    (engine.perform action state).1.StandsUnder engine.facilities IsEncrypted backupKey
      (engine.credentialAfter credential action state) := by
  obtain ⟨wallet, s⟩ := state
  cases action with
  | rotate old new =>
    obtain ⟨calls, ending, makes⟩ :=
      exists_makes engine.facilities.lock engine.cipher (engine.stores wallet) old new wallet s
    exact rotate_stands stands sound.truthful makes sound.faithful sound.lawful
      (sound.bound wallet) (mild calls ending makes)
  | addRequest request => exact stands.addRequest mild
  | addMemo memo => exact stands.addMemo memo
  | adapt tx => exact stands.adapt tx
  | list => exact stands.list
  | noteSeen hash amount => exact stands.noteSeen hash amount
  | deleteRequest address => exact stands.deleteRequest sound.faithful address
  | undoDelete => exact stands.undoDelete sound.faithful
  | save => exact stands.save sound.faithful
  | load => exact stands.load
  | shutdown => exact stands.save sound.faithful
  | wait around => exact stands.withAround mild

theorem Sound.stands_of_course {actions : List (Action ω)} {start final : OpenWallet ω × σ}
    (course : engine.Course IsEncrypted start actions final) {credential : String}
    (stands : start.1.StandsUnder engine.facilities IsEncrypted backupKey credential) :
    ∃ credential, final.1.StandsUnder engine.facilities IsEncrypted backupKey credential := by
  induction course generalizing credential with
  | nil => exact ⟨credential, stands⟩
  | cons mild _ ih => exact ih (sound.stands_perform stands mild)

end course

/-! ## Rehearsals -/

section mild

variable {engine : Engine σ ω} {IsEncrypted : ω → Prop} {wallet : OpenWallet ω}
  {s : σ} {old : String}

/-- A rotation that goes through is mild. -/
theorem isMild_rotate_of_ok {new : String}
    (goes : (rotate engine.facilities.lock engine.cipher (engine.stores wallet) old new
      wallet s).1 = .ok ()) :
    engine.IsMild IsEncrypted (.rotate old new) (wallet, s) := by
  intro calls ending makes
  obtain ⟨s', around, -, ends, same⟩ := makes
  rw [same] at goes
  rcases ending with stop | updated
  · cases goes
  · exact .of_succeeded ends.succeeded

/-- So is one that is rolled back without loss should its commit fail. -/
theorem isMild_rotate_of_rollsBack {new : String} (sound : NoneBreaksDown (engine.stores wallet))
    (restored : ∀ rest, engine.facilities.lock.decrypt old wallet.around.rest = (.ok (), rest) →
      ∀ updated fault resealed around,
        commit engine.facilities.lock (engine.stores wallet) wallet.summaryPath updated new
            { wallet.around with rest } = (.error (.failed fault), resealed, around) →
        RollsBack engine.facilities.lock resealed wallet.summaryPath wallet.summary old around) :
    engine.IsMild IsEncrypted (.rotate old new) (wallet, s) :=
  fun _ _ makes => makes.recovers sound restored

/-- So is one for which the lock does not decrypt the keys. -/
theorem isMild_rotate_of_refusal (new : String) (sound : NoneBreaksDown (engine.stores wallet))
    {cause : LedgerError}
    (refuses : (engine.facilities.lock.decrypt old wallet.around.rest).1 = .error cause) :
    engine.IsMild IsEncrypted (.rotate old new) (wallet, s) := by
  refine isMild_rotate_of_rollsBack sound fun rest decrypted => ?_
  rw [decrypted] at refuses
  cases refuses

end mild

def rehearsedStart : OpenWallet RehearsalWallet × CipherCalls :=
  (labelledWallet "old" (spelledKey "backup") { password := "old" }, {})

/-- What is around that wallet while its lock refuses to decrypt. -/
def refusingAround : Surroundings RehearsalWallet :=
  { rehearsedStart.1.around with rest := { password := "old", refusesDecrypt := true } }

/-- What is around it while its disk takes one more file and refuses the next. -/
def fullAround : Surroundings RehearsalWallet where
  disk := { rehearsedStart.1.around.disk with refusals := [false, true] }
  rest := { password := "old" }

/-- The credential is not changed while the lock refuses to decrypt, and a change is rolled back
when the disk refuses the payments. Then a request is added and stored, and the credential is
changed twice and once in vain. -/
def rehearsedActions : List (Action RehearsalWallet) :=
  [.wait refusingAround, .rotate "old" "new", .wait fullAround, .rotate "old" "new",
    .addRequest { address := "address", amount := 5, date := .epoch }, .rotate "old" "new", .save,
    .rotate "old" "other", .rotate "new" "newer", .load]

def rehearsedEnd : OpenWallet RehearsalWallet × CipherCalls :=
  rehearsedActions.foldl (fun state action => (rehearsedEngine ["recording"]).perform action state)
    rehearsedStart

/-- A disk that takes the new summary and refuses the payments takes the old summary back. -/
theorem isMild_rotate_full (s : CipherCalls) :
    (rehearsedEngine ["recording"]).IsMild RehearsalWallet.IsLocked (.rotate "old" "new")
      ({ rehearsedStart.1 with around := fullAround }, s) := by
  refine isMild_rotate_of_rollsBack (noneBreaksDown_rehearsalStores (by decide) _) ?_
  intro _ decrypted updated fault resealed around committed
  cases decrypted
  cases committed
  exact ⟨_, _, _, _, rfl, rfl, rfl⟩

/-- A request from the leap second at the end of the first minute. -/
def leapRequest : PaymentRequest :=
  { address := "address", amount := 5,
    date := ⟨59, 1000000000, by decide, by decide, by decide, by decide⟩ }

def leapEnd : OpenWallet RehearsalWallet × CipherCalls :=
  [.addRequest leapRequest, .save].foldl (fun state action =>
    (rehearsedEngine []).perform action state) rehearsedStart

end Engine
end PaymentVault
