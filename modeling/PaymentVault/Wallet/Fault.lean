import PaymentVault.Ledger.Error
import PaymentVault.Vault.Error

/-!
# Failures of an open wallet
-/
namespace PaymentVault

inductive WalletFault where
  /-- Something stored could not be read, opened or understood. -/
  | loadFailure (cause : VaultError)
  /-- Sealing or writing failed. -/
  | saveFailure (cause : VaultError)
  /-- The credential does not unlock the wallet. -/
  | credentialMismatch
  /-- A secret sealed anew did not come back as it was. -/
  | irreversible (detail : String)
  /-- The operation was not allowed at this time. -/
  | precondition (detail : String)
  | ledger (cause : LedgerError)
  deriving DecidableEq

namespace WalletFault

def message : WalletFault → String
  | loadFailure cause => "Failed to load payments: " ++ cause.message
  | saveFailure cause => "Failed to save: " ++ cause.message
  | credentialMismatch => "Credential does not match the wallet"
  | irreversible detail => "Reversibility check failed: " ++ detail
  | precondition detail => "Precondition violated: " ++ detail
  | ledger cause => "Ledger error: " ++ cause.message

/-- A failure of the ledger side, where a broken precondition is one of the wallet as well. -/
def ofLedger : LedgerError → WalletFault
  | .precondition detail => precondition detail
  | cause => ledger cause

end WalletFault
end PaymentVault
