import PaymentVault.Bytes.Basic
import PaymentVault.Vault.Error

/-!
# Padding of credentials

Before it is sealed a credential is filled up to whole blocks of 32 bytes, a whole block being
added to one that fits exactly. Each added byte tells how many were added, so that the padding
can be taken off again.
-/
namespace PaymentVault.Padding

def blockLength : Nat := 32

/-- The number of bytes added to so many. -/
def added (length : Nat) : Nat := blockLength - length % blockLength

def pad (bytes : Bytes) : Bytes :=
  bytes ++ List.replicate (added bytes.length) (UInt8.ofNat (added bytes.length))

/-- Takes the padding off; anything but whole blocks with good padding is refused. -/
def unpad (padded : Bytes) : Except Malformation Bytes :=
  match padded.getLast? with
  | none => .error .credentialPadding
  | some last =>
    let body := padded.take (padded.length - last.toNat)
    let tail := padded.drop (padded.length - last.toNat)
    if padded.length % blockLength ≠ 0 ∨ last = 0 ∨ blockLength < last.toNat ∨
      tail.any (· ≠ last) then
      .error .credentialPadding
    else .ok body

end PaymentVault.Padding
