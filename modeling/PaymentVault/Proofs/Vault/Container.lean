import PaymentVault.Vault.Container

/-!
# What opens and what was sealed

A container carries the nonce that it was sealed with. It opens under a key to a text exactly if
sealing that text under the key with that nonce gives the container byte for byte
(`unpack_exactly_pack`). A container without a proper header is malformed whatever the key is;
everything else that does not open was not sealed under the key.
-/
namespace PaymentVault.Container

/-- The nonce that a container carries. -/
def nonceOf (data : Bytes) : Bytes := (data.drop 2).take nonceLength

/-- Long enough for a header, which starts with the two marks that are written. -/
structure HasHeader (data : Bytes) : Prop where
  long : headerLength ≤ data.length
  version : data[0]? = some version
  algorithm : data[1]? = some algorithm

variable {key : WalletKey} {nonce nonce' text text' hidden data container : Bytes}

theorem pack_eq_ok_iff :
    pack key nonce text = .ok container ↔
      ∃ hidden, Gcm.seal? key.bytes nonce text = some hidden ∧
        container = version :: algorithm :: (nonce ++ hidden) := by
  unfold pack
  cases sealed : Gcm.seal? key.bytes nonce text with
  | none => simp
  | some hidden => simp [eq_comm]

/-- Every text within the limit is sealed. -/
theorem exists_pack (key : WalletKey) (nonce : Bytes) (fits : text.length ≤ Gcm.maxLength) :
    ∃ container, pack key nonce text = .ok container := by
  unfold pack Gcm.seal?
  rw [if_pos fits]
  exact ⟨_, rfl⟩

/-! ## Headers -/

theorem nonceOf_header (fits : nonce.length = nonceLength) :
    nonceOf (version :: algorithm :: (nonce ++ hidden)) = nonce := by
  simp [nonceOf, ← fits]

/-- Behind a header there is a nonce and the rest. -/
theorem hasHeader_iff :
    HasHeader data ↔
      ∃ nonce hidden, nonce.length = nonceLength ∧
        data = version :: algorithm :: (nonce ++ hidden) := by
  constructor
  · intro header
    obtain ⟨long, first, second⟩ := header
    match data with
    | [] => simp at first
    | [_] => simp at second
    | a :: b :: rest =>
      obtain rfl : a = version := by simpa using first
      obtain rfl : b = algorithm := by simpa using second
      have room : nonceLength ≤ rest.length := by
        simp only [headerLength, List.length_cons] at long
        omega
      refine ⟨rest.take nonceLength, rest.drop nonceLength, ?_, ?_⟩
      · rw [List.length_take, Nat.min_eq_left room]
      · rw [List.take_append_drop]
  · rintro ⟨nonce, hidden, fits, rfl⟩
    refine ⟨?_, rfl, rfl⟩
    simp only [headerLength, List.length_cons, List.length_append, fits]
    omega

/-- A container carries the nonce it was sealed with. -/
theorem nonceOf_pack (fits : nonce.length = nonceLength)
    (packed : pack key nonce text = .ok container) : nonceOf container = nonce := by
  obtain ⟨hidden, -, rfl⟩ := pack_eq_ok_iff.1 packed
  exact nonceOf_header fits

/-! ## Opening -/

/-- Behind a header, what counts is whether the rest opens with the nonce. -/
theorem unpack_header (fits : nonce.length = nonceLength) :
    unpack key (version :: algorithm :: (nonce ++ hidden)) =
      match Gcm.open? key.bytes nonce hidden with
      | some text => .ok text
      | none => .error (.decryption "aead::Error") := by
  have long : ¬(nonce ++ hidden).length < nonceLength := by
    rw [List.length_append, fits]
    omega
  have front : (nonce ++ hidden).take nonceLength = nonce := by rw [← fits, List.take_left]
  have rest : (nonce ++ hidden).drop nonceLength = hidden := by rw [← fits, List.drop_left]
  cases opened : Gcm.open? key.bytes nonce hidden <;>
    simp only [unpack, if_neg long, ne_eq, not_true_eq_false, if_false, front, rest, opened]

/-- Without a header a container is malformed, for the same reason under every key. -/
theorem unpack_of_not_hasHeader (bare : ¬HasHeader data) :
    ∃ what, ∀ key, unpack key data = .error (.malformed what) := by
  match data with
  | [] => exact ⟨_, fun _ => rfl⟩
  | [_] => exact ⟨_, fun _ => rfl⟩
  | a :: b :: rest =>
    by_cases short : rest.length < nonceLength
    · exact ⟨.shortContainer, fun key => by simp only [unpack, if_pos short]⟩
    by_cases versioned : a = version
    · by_cases marked : b = algorithm
      · refine absurd ⟨?_, by simp [versioned], by simp [marked]⟩ bare
        simp only [headerLength, List.length_cons]
        omega
      · exact ⟨.containerAlgorithm b.toNat, fun key => by
          simp only [unpack, if_neg short, versioned, ne_eq, not_true_eq_false, if_false, marked,
            not_false_eq_true, if_true]⟩
    · exact ⟨.containerVersion a.toNat, fun key => by
        simp only [unpack, if_neg short, ne_eq, versioned, not_false_eq_true, if_true]⟩

theorem hasHeader_of_unpack (opened : unpack key data = .ok text) : HasHeader data := by
  by_cases header : HasHeader data
  · exact header
  · obtain ⟨what, fails⟩ := unpack_of_not_hasHeader header
    rw [fails key] at opened
    cases opened

/-- What is packed with a nonce of the right length can be unpacked. -/
theorem unpack_pack (fits : nonce.length = nonceLength)
    (packed : pack key nonce text = .ok container) :
    unpack key container = .ok text := by
  obtain ⟨hidden, sealed, rfl⟩ := pack_eq_ok_iff.1 packed
  rw [unpack_header fits, Gcm.open?_eq_some_iff.2 sealed]

/-- What can be unpacked is packed again to the same bytes. -/
theorem pack_of_unpack (opened : unpack key data = .ok text) :
    pack key (nonceOf data) text = .ok data := by
  obtain ⟨nonce, hidden, fits, rfl⟩ := hasHeader_iff.1 (hasHeader_of_unpack opened)
  rw [unpack_header fits] at opened
  rw [nonceOf_header fits]
  cases found : Gcm.open? key.bytes nonce hidden with
  | none =>
    rw [found] at opened
    cases opened
  | some plain =>
    rw [found] at opened
    cases opened
    exact pack_eq_ok_iff.2 ⟨hidden, Gcm.open?_eq_some_iff.1 found, rfl⟩

/-- A container with a header fails to open for one reason only. -/
theorem unpack_eq_error_of_hasHeader (header : HasHeader data) {cause : VaultError}
    (failed : unpack key data = .error cause) : ∃ detail, cause = .decryption detail := by
  obtain ⟨nonce, hidden, fits, rfl⟩ := hasHeader_iff.1 header
  rw [unpack_header fits] at failed
  split at failed
  · cases failed
  · cases failed
    exact ⟨_, rfl⟩

/-- A container opens to a text exactly if the text seals to it with the nonce it carries. So
every text within the limit comes back from its container, with any nonce, and no container holds
two texts. What does not open is malformed if its header is missing, under every key, and
otherwise undecryptable. -/
theorem unpack_exactly_pack (key : WalletKey) :
    (∀ data text, unpack key data = .ok text ↔
      headerLength ≤ data.length ∧ pack key (nonceOf data) text = .ok data) ∧
    (∀ nonce text, nonce.length = nonceLength → text.length ≤ Gcm.maxLength →
      ∃ data, pack key nonce text = .ok data ∧ nonceOf data = nonce ∧
        unpack key data = .ok text) ∧
    (∀ nonce nonce' text text' data, nonce.length = nonceLength → nonce'.length = nonceLength →
      pack key nonce text = .ok data → pack key nonce' text' = .ok data → text = text') ∧
    (∀ data, data.length < headerLength ∨ data[0]? ≠ some version ∨ data[1]? ≠ some algorithm →
      ∃ what, ∀ key, unpack key data = .error (.malformed what)) ∧
    ∀ data, headerLength ≤ data.length → data[0]? = some version → data[1]? = some algorithm →
      ∀ cause, unpack key data = .error cause → ∃ detail, cause = .decryption detail := by
  refine ⟨?_, ?_, ?_, ?_, ?_⟩
  · intro data text
    constructor
    · intro opened
      exact ⟨(hasHeader_of_unpack opened).long, pack_of_unpack opened⟩
    · rintro ⟨long, packed⟩
      refine unpack_pack ?_ packed
      simp only [headerLength] at long
      rw [nonceOf, List.length_take, List.length_drop]
      omega
  · intro nonce text fits short
    obtain ⟨data, packed⟩ := exists_pack key nonce short
    exact ⟨data, packed, nonceOf_pack fits packed, unpack_pack fits packed⟩
  · intro nonce nonce' text text' data fits fits' packed packed'
    have opened := unpack_pack fits packed
    rw [unpack_pack fits' packed'] at opened
    exact (Except.ok.inj opened).symm
  · intro data broken
    refine unpack_of_not_hasHeader fun header => ?_
    rcases broken with short | versioned | marked
    · exact Nat.not_lt.2 header.long short
    · exact versioned header.version
    · exact marked header.algorithm
  · intro data long versioned marked cause failed
    exact unpack_eq_error_of_hasHeader ⟨long, versioned, marked⟩ failed

/-- An empty text under a key of zeros, and a container that ends in its header. -/
theorem unpack_exactly_pack_empty :
    let key : WalletKey := ⟨List.replicate 32 0, by decide⟩
    (∃ data, pack key walletNonce [] = .ok data ∧ nonceOf data = walletNonce ∧
      unpack key data = .ok []) ∧
      ∃ what, unpack key [version, algorithm, 3] = .error (.malformed what) := by
  intro key
  obtain ⟨-, opens, -, malformed, -⟩ := unpack_exactly_pack key
  obtain ⟨what, fails⟩ := malformed [version, algorithm, 3] (.inl (by decide))
  exact ⟨opens walletNonce [] rfl (Nat.zero_le _), what, fails key⟩

end PaymentVault.Container
