import PaymentVault.Bytes.Basic
import PaymentVault.Vault.Error

/-!
# Keys and ciphers

A key is 32 bytes. A cipher turns credentials into keys, seals bytes under a key and opens what
was sealed; any of the three may fail. A cipher need not behave the same at every call, so there
is also the form of a cipher that carries a state along.
-/
namespace PaymentVault

/-- A key of 256 bits. -/
structure WalletKey where
  bytes : Bytes
  length_eq : bytes.length = 32

namespace WalletKey

@[ext] theorem ext {a b : WalletKey} (h : a.bytes = b.bytes) : a = b := by
  cases a
  cases b
  simp_all

instance : DecidableEq WalletKey := fun a b =>
  if h : a.bytes = b.bytes then .isTrue (ext h) else .isFalse fun same => h (same ▸ rfl)

/-- The key of 32 bytes; any other number of them is refused. -/
def ofBytes (bytes : Bytes) : Except VaultError WalletKey :=
  if h : bytes.length = 32 then .ok ⟨bytes, h⟩ else .error (.malformed (.keyLength bytes.length))

@[simp] theorem ofBytes_bytes (key : WalletKey) : ofBytes key.bytes = .ok key := by
  rw [ofBytes, dif_pos key.length_eq]

theorem ofBytes_eq_ok_iff {bytes : Bytes} {key : WalletKey} :
    ofBytes bytes = .ok key ↔ bytes = key.bytes := by
  constructor
  · intro made
    unfold ofBytes at made
    split at made
    · cases made
      rfl
    · cases made
  · rintro rfl
    exact ofBytes_bytes key

end WalletKey

/-- Key derivation and sealing. -/
structure KeyCipher where
  deriveKey : String → Except VaultError WalletKey
  encrypt : WalletKey → Bytes → Except VaultError Bytes
  decrypt : WalletKey → Bytes → Except VaultError Bytes

/-- A cipher whose answers may depend on a state that changes with every call. -/
structure ChangingCipher (σ : Type) where
  deriveKey : String → σ → Except VaultError WalletKey × σ
  encrypt : WalletKey → Bytes → σ → Except VaultError Bytes × σ
  decrypt : WalletKey → Bytes → σ → Except VaultError Bytes × σ

namespace KeyCipher

/-- The cipher as one that never changes. -/
def steady (cipher : KeyCipher) (σ : Type) : ChangingCipher σ where
  deriveKey credential s := (cipher.deriveKey credential, s)
  encrypt key bytes s := (cipher.encrypt key bytes, s)
  decrypt key bytes s := (cipher.decrypt key bytes, s)

end KeyCipher
end PaymentVault
