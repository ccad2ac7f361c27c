/-!
# Failures of the ledger side

Each failure carries a text of whoever raised it and belongs to one of three categories.
-/
namespace PaymentVault

/-- Why the ledger side refused something. -/
inductive LedgerError where
  | unresolvedAddress (detail : String)
  | precondition (detail : String)
  | wallet (detail : String)
  deriving DecidableEq

/-- What a failure is about. -/
inductive ErrorCategory where
  | address
  | internal
  | wallet
  deriving DecidableEq

namespace LedgerError

def message : LedgerError → String
  | unresolvedAddress detail => "Address resolution failed: " ++ detail
  | precondition detail => "Precondition violated: " ++ detail
  | wallet detail => "Wallet error: " ++ detail

def category : LedgerError → ErrorCategory
  | unresolvedAddress _ => .address
  | precondition _ => .internal
  | wallet _ => .wallet

end LedgerError

namespace ErrorCategory

def name : ErrorCategory → String
  | address => "Address"
  | internal => "Internal"
  | wallet => "Wallet"

end ErrorCategory
end PaymentVault
