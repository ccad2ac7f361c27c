import PaymentVault.Bytes.Basic
import PaymentVault.Ledger.Error
import PaymentVault.Payment.Fiat
import PaymentVault.Payment.Status
import PaymentVault.Time.Instant

/-!
# The ledger as the wallet sees it

A wallet knows transactions, what each is worth to it and which outputs are its own. An output
is locked by a script; whom it pays is found by resolving the script to an address.
-/
namespace PaymentVault

structure TxOutput where
  value : UInt64
  script : Bytes
  deriving DecidableEq

/-- A transaction as the ledger reports it. -/
structure LedgerTransaction where
  hash : String
  updateTime : Instant
  confidence : Option Confidence
  outputs : List TxOutput
  isCoinbase : Bool
  raw : Bytes
  deriving DecidableEq

/-- What an open wallet tells about the ledger. -/
structure WalletView where
  transactions : List LedgerTransaction
  /-- The net value of a transaction to this wallet. -/
  valueOf : LedgerTransaction → Int64
  isMine : TxOutput → Bool

/-- Finds the address that a script pays. -/
abbrev AddressResolver := Bytes → Except LedgerError String

namespace AddressResolver

/-- Scripts that spell their address. -/
def spelled : AddressResolver := fun script =>
  if script = [] then .error (.unresolvedAddress "empty script")
  else
    match script.toText? with
    | some address => .ok address
    | none => .error (.unresolvedAddress "script is not UTF-8")

end AddressResolver
end PaymentVault
