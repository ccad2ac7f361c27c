import PaymentVault.Crypto.Argon2
import PaymentVault.Crypto.Gcm
import PaymentVault.Json.Format
import PaymentVault.Vault.Key

/-!
# Sealed containers

A container is a version byte, an algorithm byte, a nonce of twelve bytes, and the sealed text.
The files of a wallet share one nonce and one salt, but a reader takes the nonce from the
container. Under one key a container opens exactly to the text that seals to it with its nonce.
-/
namespace PaymentVault

namespace Container

/-- The version that is written. -/
def version : UInt8 := 1

/-- The mark of AES-256-GCM. -/
def algorithm : UInt8 := 0

def nonceLength : Nat := 12

def headerLength : Nat := 2 + nonceLength

/-- Seals a text under a key and a nonce. -/
def pack (key : WalletKey) (nonce text : Bytes) : Except VaultError Bytes :=
  match Gcm.seal? key.bytes nonce text with
  | some hidden => .ok (version :: algorithm :: nonce ++ hidden)
  | none => .error (.encryption "aead::Error")

/-- Opens a container. -/
def unpack (key : WalletKey) (bytes : Bytes) : Except VaultError Bytes :=
  match bytes with
  | writtenVersion :: writtenAlgorithm :: rest =>
    if rest.length < nonceLength then .error (.malformed .shortContainer)
    else if writtenVersion ≠ version then
      .error (.malformed (.containerVersion writtenVersion.toNat))
    else if writtenAlgorithm ≠ algorithm then
      .error (.malformed (.containerAlgorithm writtenAlgorithm.toNat))
    else
      match Gcm.open? key.bytes (rest.take nonceLength) (rest.drop nonceLength) with
      | some text => .ok text
      | none => .error (.decryption "aead::Error")
  | _ => .error (.malformed .shortContainer)

end Container

/-! ## The cipher of wallet files -/

/-- The cost of a key unless told otherwise. -/
def defaultKdf : Argon2.Params := ⟨65536, 3, 4⟩

namespace Argon2.Params

open Json Json.Format

def form : Format Argon2.Params :=
  (Members.defaulted "memory_kib" uint32 defaultKdf.memoryKib <|
    .defaulted "iterations" uint32 defaultKdf.iterations <|
    .defaulted "parallelism" uint32 defaultKdf.parallelism .done).format.imap
    (fun (memoryKib, iterations, parallelism, _) => { memoryKib, iterations, parallelism })
    (fun p => (p.memoryKib, p.iterations, p.parallelism, ()))

end Argon2.Params

/-- The salt of every wallet file. -/
def walletSalt : Bytes :=
  [0x35, 0x51, 0x03, 0x80, 0x75, 0xa3, 0xb0, 0xc5, 0x2f, 0x9e, 0x47, 0x11, 0xd4, 0x6b, 0x8a, 0x27]

/-- The nonce of every wallet file. -/
def walletNonce : Bytes := [0xa3, 0x44, 0x39, 0x1f, 0x53, 0x83, 0x11, 0xb3, 0x29, 0x54, 0x86, 0x16]

/-- Derives a key from a credential. A salt of fewer than sixteen bytes is refused. -/
def deriveKeyWith (kdf : Argon2.Params) (salt : Bytes) (credential : String) :
    Except VaultError WalletKey :=
  if salt.length < 16 then .error (.keyDerivation "Salt too short")
  else
    match Argon2.derive kdf 32 (.ofText credential) salt with
    | .ok bytes => WalletKey.ofBytes bytes
    | .error fault => .error (.keyDerivation fault.message)

/-- The cipher of wallet files at some cost. -/
def walletCipher (kdf : Argon2.Params) : KeyCipher where
  deriveKey := deriveKeyWith kdf walletSalt
  encrypt key := Container.pack key walletNonce
  decrypt := Container.unpack

end PaymentVault
