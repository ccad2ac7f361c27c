import PaymentVault.Ledger.Error
import PaymentVault.Payment.Fiat

/-!
# Memos of transactions

A memo keeps what the ledger does not know about a transaction: a note, the fees, and what its
amount was worth when it was first seen.
-/
namespace PaymentVault

structure Memo where
  hash : String
  note : Option String := none
  fiat : FiatValue := {}
  minerFee : Option UInt64 := none
  clientFee : Option UInt64 := none
  deriving DecidableEq

namespace Memo

/-- A memo must have the hash it is kept under. -/
def validate (memo : Memo) : Except LedgerError Unit :=
  if memo.hash = "" then .error (.precondition "Transaction annotation must have a hash")
  else .ok ()

/-- The same memo, no zero in it with a sign. -/
def settled (memo : Memo) : Memo := { memo with fiat := memo.fiat.settled }

end Memo
end PaymentVault
