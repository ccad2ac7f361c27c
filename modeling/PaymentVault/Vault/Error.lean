import PaymentVault.Json.Reader

/-!
# Failures of the vault

What can go wrong between the books and the disk, from a missing file to a container that does
not open.
-/
namespace PaymentVault

/-- What is wrong with the structure of some data. -/
inductive Malformation where
  | notFields
  | unsupportedFormat (version : Nat)
  | requestWithoutAddress
  | requestWithoutDate (address : String)
  | memoWithoutHash
  | keyLength (length : Nat)
  | shortContainer
  | containerVersion (version : Nat)
  | containerAlgorithm (algorithm : Nat)
  | credentialPadding
  | credentialText
  | reported (detail : String)
  deriving DecidableEq

namespace Malformation

def message : Malformation → String
  | notFields => "failed to decode Protobuf message"
  | unsupportedFormat version => "Unsupported payments format version: " ++ toString version
  | requestWithoutAddress => "Payment request without address"
  | requestWithoutDate address => "Payment request " ++ address ++ " without date"
  | memoWithoutHash => "Transaction annotation without hash"
  | keyLength length => "Invalid key length: " ++ toString length
  | shortContainer => "Container too short"
  | containerVersion version => "Unsupported container version: " ++ toString version
  | containerAlgorithm algorithm =>
    "Algorithm mismatch: expected AES-GCM (0), got " ++ toString algorithm
  | credentialPadding => "Invalid credential padding"
  | credentialText => "Credential is not UTF-8"
  | reported detail => detail

end Malformation

inductive VaultError where
  | missing (path : String)
  | decryption (detail : String)
  | malformed (what : Malformation)
  | encryption (detail : String)
  | keyDerivation (detail : String)
  | io (detail : String)
  | json (fault : JsonFault)
  deriving DecidableEq

namespace VaultError

def message : VaultError → String
  | missing path => "File not found: " ++ path
  | decryption detail => "Decryption failed: " ++ detail
  | malformed what => "Malformed data: " ++ what.message
  | encryption detail => "Encryption error: " ++ detail
  | keyDerivation detail => "Key derivation error: " ++ detail
  | io detail => "I/O error: " ++ detail
  | json _ => "Serialization error"

/-- Whether the file was not there. -/
def isMissing : VaultError → Bool
  | missing _ => true
  | _ => false

end VaultError

section outcomes

variable {ε ε' α : Type} (wrap : ε → ε')

theorem mapError_ok (a : α) : (Except.ok a : Except ε α).mapError wrap = .ok a := rfl

theorem mapError_error (cause : ε) :
    (Except.error cause : Except ε α).mapError wrap = .error (wrap cause) := rfl

end outcomes
end PaymentVault
