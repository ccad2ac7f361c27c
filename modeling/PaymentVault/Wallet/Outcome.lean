import PaymentVault.Json.Format
import PaymentVault.Wallet.Rotation

/-!
# Outcomes of rotations

Every request for a rotation ends in one outcome. Requests wait in a queue for a worker that
takes them one by one; once it has stopped, no more are taken.
-/
namespace PaymentVault

/-- Why a rotation ended as it did. -/
inductive RotationReason where
  | success
  | wrongOldCredential
  | irreversible
  | loadFailure
  | saveFailure
  | precondition
  | ledger
  | aborted
  deriving DecidableEq

structure RotationOutcome where
  isSuccess : Bool
  reason : RotationReason
  detail : Option String
  deriving DecidableEq

open Json Json.Format

namespace RotationReason

def form : Format RotationReason :=
  named
    [(success, "Success"), (wrongOldCredential, "WrongOldPassword"),
      (irreversible, "ReversibilityFailure"), (loadFailure, "LoadFailure"),
      (saveFailure, "SaveFailure"), (precondition, "PreconditionViolation"), (ledger, "Ledger"),
      (aborted, "Error")]

def ofFault : WalletFault → RotationReason
  | .credentialMismatch => wrongOldCredential
  | .irreversible _ => irreversible
  | .loadFailure _ => loadFailure
  | .saveFailure _ => saveFailure
  | .precondition _ => precondition
  | .ledger _ => ledger

end RotationReason

namespace RotationOutcome

def form : Format RotationOutcome :=
  (Members.required "success" bool <|
    .required "reason" RotationReason.form <|
    .nullable "detail" string .done).format.imap
    (fun (isSuccess, reason, detail, _) => { isSuccess, reason, detail })
    (fun o => (o.isSuccess, o.reason, o.detail, ()))

/-- The outcome of a rotation; a wrong old credential needs no detail. -/
def ofResult : Except RotationStop Unit → RotationOutcome
  | .ok () => ⟨true, .success, none⟩
  | .error (.failed .credentialMismatch) => ⟨false, .wrongOldCredential, none⟩
  | .error (.failed fault) => ⟨false, .ofFault fault, some fault.message⟩
  | .error .aborted => ⟨false, .aborted, some "<aborted>"⟩

end RotationOutcome

/-- A request to change the credential from `old` to `new`. -/
structure RotationRequest where
  old : String
  new : String

/-- Requests that wait for a worker. -/
structure RotationQueue where
  waiting : List RotationRequest := []
  isStopped : Bool := false

namespace RotationQueue

variable {σ ω : Type}

/-- Puts a request in line. -/
def send (request : RotationRequest) (queue : RotationQueue) : Except WalletFault RotationQueue :=
  if queue.isStopped then .error (.precondition "Rotation worker has stopped")
  else .ok { queue with waiting := queue.waiting ++ [request] }

/-- Carries out requests in order. -/
def carryOut (lock : Lock ω) (cipher : ChangingCipher σ)
    (stores : OpenWallet ω → List (BoundStore ω)) :
    List RotationRequest → OpenWallet ω → σ → List RotationOutcome × OpenWallet ω × σ
  | [], wallet, s => ([], wallet, s)
  | request :: rest, wallet, s =>
    let (result, wallet, s) :=
      Rotation.rotate lock cipher (stores wallet) request.old request.new wallet s
    let (outcomes, wallet, s) := carryOut lock cipher stores rest wallet s
    (.ofResult result :: outcomes, wallet, s)

end RotationQueue
end PaymentVault
