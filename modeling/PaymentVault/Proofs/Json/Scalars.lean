import PaymentVault.Number.Decimal.Form
import PaymentVault.Proofs.Json.RoundTrip
import PaymentVault.Proofs.Number.DecimalText
import PaymentVault.Proofs.Time.DateText
import PaymentVault.Time.Form

/-!
# Reading numbers, words and dates

Integers of 32 and 64 bits, truth values and dates are read back, and of a decimal all but the sign
of a zero.
-/
namespace PaymentVault.Json

/-! ## Numbers -/

theorem exists_toDigits (n : Nat) :
    ∃ c others, Nat.toDigits 10 n = c :: others ∧ c.isDigit := by
  obtain ⟨c, others, same⟩ := List.exists_cons_of_ne_nil (Nat.toDigits_ne_nil (n := n) (b := 10))
  have member : c ∈ Nat.toDigits 10 n := same ▸ List.mem_cons_self
  exact ⟨c, others, same, Nat.isDigit_of_mem_toDigits (by decide) (by decide) member⟩

/-- A positive number is written without a zero in front. -/
theorem ne_zero_of_toDigits {n : Nat} (positive : 0 < n) {c : Char} {others : List Char}
    (same : Nat.toDigits 10 n = c :: others) : c ≠ '0' := by
  induction n using Nat.strongRecOn generalizing others with
  | ind n ih =>
    rw [Nat.toDigits_eq_if (by decide)] at same
    split at same
    · cases same
      simp
      omega
    · next long =>
      obtain ⟨first, digits, start, -⟩ := exists_toDigits (n / 10)
      rw [start, List.cons_append] at same
      cases same
      exact ih (n / 10) (by omega) (by omega) start

section numerals

variable {digits : List Char} {rest : List Glyph}

theorem spanDigits_append (each : ∀ c ∈ digits, c.isDigit) (closes : Closes rest) :
    spanDigits (digits.map some ++ rest) = (digits.map fun c => c.toNat - '0'.toNat, rest) := by
  induction digits with
  | nil =>
    cases rest with
    | nil => rfl
    | cons c rest =>
      obtain ⟨noDigit, -⟩ := closes c rfl
      simp [spanDigits, noDigit]
  | cons c digits ih =>
    obtain ⟨digit, others⟩ := List.forall_mem_cons.1 each
    have value : Glyph.digit? (some c) = some (c.toNat - '0'.toNat) := digitValue?_of_isDigit digit
    simp only [List.map_cons, List.cons_append, spanDigits, value, ih others]

/-- Digits are taken in as long as what they come to fits. -/
theorem absorb_digits {start : Nat} (fits : Nat.ofDigitChars 10 digits start < 2 ^ 64) :
    absorb start (digits.map fun c => c.toNat - '0'.toNat) =
      (Nat.ofDigitChars 10 digits start, []) := by
  induction digits generalizing start with
  | nil => rfl
  | cons c digits ih =>
    rw [Nat.ofDigitChars_cons, Nat.mul_comm] at fits ⊢
    have next : start * 10 + (c.toNat - '0'.toNat) < 2 ^ 64 :=
      Nat.lt_of_le_of_lt (le_ofDigitChars digits _) fits
    rw [List.map_cons, absorb, if_pos next, ih fits]

theorem values_toDigits (n : Nat) :
    ∃ first others, (Nat.toDigits 10 n).map (fun c => c.toNat - '0'.toNat) = first :: others ∧
      (first = 0 → others = []) := by
  rcases Nat.eq_zero_or_pos n with rfl | positive
  · exact ⟨0, [], rfl, fun _ => rfl⟩
  · obtain ⟨c, others, same, digit⟩ := exists_toDigits n
    have other := ne_zero_of_toDigits positive same
    refine ⟨c.toNat - '0'.toNat, _, by rw [same, List.map_cons], fun zero => absurd ?_ other⟩
    have bounds : 48 ≤ c.toNat ∧ c.toNat ≤ 57 := by
      simpa [Char.isDigit, UInt32.le_iff_toNat_le] using digit
    have code : '0'.toNat = 48 := rfl
    refine Char.toNat_inj.1 ?_
    omega

/-- A whole number of 64 bits is read from its digits. -/
theorem numeral_toDigits (isNegative : Bool) {n : Nat} (fits : n < 2 ^ 64) (closes : Closes rest) :
    numeral isNegative ((Nat.toDigits 10 n).map some ++ rest) =
      if !isNegative then .ok (.natural n, rest)
      else if 1 ≤ n ∧ n ≤ 2 ^ 63 then .ok (.negative n, rest)
      else realNumeral true n 0 rest := by
  have each : ∀ c ∈ Nat.toDigits 10 n, c.isDigit :=
    fun c => Nat.isDigit_of_mem_toDigits (by decide) (by decide)
  have spanned := spanDigits_append each closes
  have value : Nat.ofDigitChars 10 (Nat.toDigits 10 n) 0 = n := Nat.ofDigitChars_ten_toDigits
  have absorbed := absorb_digits (value.symm ▸ fits)
  obtain ⟨first, others, values, lead⟩ := values_toDigits n
  rw [values] at spanned absorbed
  rw [value] at absorbed
  simp only [numeral, spanned]
  split
  · next same => cases same
  · next same => cases same
  · next same =>
    cases same
    exact absurd (lead rfl) (List.cons_ne_nil _ _)
  · next found left same =>
    cases same
    rw [absorbed]
    dsimp only
    split
    · exact absurd rfl (closes _ rfl).2.1
    · exact absurd rfl (closes _ rfl).2.2.1
    · exact absurd rfl (closes _ rfl).2.2.2
    · rfl

end numerals

theorem isToken_of_isDigit {c : Char} (digit : c.isDigit) : IsToken c := by
  simp only [IsToken, List.mem_cons, List.not_mem_nil, or_false, not_or, decide_eq_true_eq]
  refine ⟨?_, ?_, ?_, ?_⟩ <;> rintro rfl <;> exact absurd digit (by decide)

theorem readNumeral_integerDigits {n : Int} (least : -2 ^ 63 ≤ n) (most : n < 2 ^ 64)
    {gap rest : List Glyph} (isGap : IsGap gap) (closes : Closes rest) :
    Format.readNumeral (gap ++ ((integerDigits n).map some ++ rest)) =
      .ok (if n < 0 then .negative n.natAbs else .natural n.natAbs, rest) := by
  have fits : n.natAbs < 2 ^ 64 := by omega
  unfold integerDigits
  by_cases negative : n < 0
  · have read := numeral_toDigits true fits closes
    have small : 1 ≤ n.natAbs ∧ n.natAbs ≤ 2 ^ 63 := by omega
    simp only [if_pos negative, List.cons_append, List.nil_append, List.map_cons,
      Format.readNumeral, skipSpace_token isGap (show IsToken '-' by decide), read,
      Bool.not_true, Bool.false_eq_true, if_false, if_pos small]
  · have read := numeral_toDigits false fits closes
    obtain ⟨c, others, digits, digit⟩ := exists_toDigits n.natAbs
    have value : Glyph.digit? (some c) = some (c.toNat - '0'.toNat) := digitValue?_of_isDigit digit
    rw [digits, List.map_cons, List.cons_append] at read
    rw [if_neg negative, if_neg negative, List.nil_append, digits, List.map_cons, List.cons_append,
      Format.readNumeral, skipSpace_token isGap (isToken_of_isDigit digit)]
    split
    · next same => cases same
    · next same =>
      cases same
      exact absurd digit (by decide)
    · next first left _ same =>
      cases same
      rw [value, Option.isSome_some, if_pos rfl, read]
      rfl

theorem reads_integer {n : Int} (least : -2 ^ 63 ≤ n) (most : n < 2 ^ 64) :
    Reads Format.integer.read (.number n) n := by
  intro gap layout rest isGap closes
  have read := readNumeral_integerDigits least most isGap closes
  have written : render layout (.number n) = integerDigits n := by simp [render]
  rw [written, List.append_assoc]
  by_cases negative : n < 0
  · have same : -(n.natAbs : Int) = n := by omega
    simp only [Format.integer, read, if_pos negative, bind, Except.bind, same]
    rfl
  · have same : (n.natAbs : Int) = n := by omega
    simp only [Format.integer, read, if_neg negative, bind, Except.bind, same]
    rfl

namespace Format

theorem uint64_readsBack : uint64.ReadsBack := by
  intro n
  have fits := n.toNat_lt
  have reads : Reads integer.read (.number n.toNat) n.toNat :=
    reads_integer (by omega) (by omega)
  have whole : 0 ≤ (n.toNat : Int) ∧ (n.toNat : Int) < 2 ^ 64 := by omega
  refine reads.refine ?_ _
  simp only [if_pos whole, Int.toNat_natCast, UInt64.ofNat_toNat]

theorem uint32_readsBack : uint32.ReadsBack := by
  intro n
  have fits := n.toNat_lt
  have reads : Reads integer.read (.number n.toNat) n.toNat :=
    reads_integer (by omega) (by omega)
  have whole : 0 ≤ (n.toNat : Int) ∧ (n.toNat : Int) < 2 ^ 32 := by omega
  refine reads.refine ?_ _
  simp only [if_pos whole, Int.toNat_natCast, UInt32.ofNat_toNat]

theorem int64_readsBack : int64.ReadsBack := by
  intro n
  have least := n.le_toInt
  have most := n.toInt_lt
  refine (reads_integer (by omega) (by omega)).refine ?_ _
  have whole : -2 ^ 63 ≤ n.toInt ∧ n.toInt < 2 ^ 63 := ⟨least, most⟩
  simp only [if_pos whole, Int64.ofInt_toInt]

/-! ## Words -/

theorem passWord_append (word : List Char) (rest : List Glyph) :
    passWord word (word.map some ++ rest) = .ok rest := by
  induction word with
  | nil => rfl
  | cons letter word ih =>
    rw [List.map_cons, List.cons_append, passWord, if_pos rfl, ih]

theorem bool_readsBack : bool.ReadsBack := by
  intro value gap layout rest isGap _
  rw [List.append_assoc]
  cases value with
  | true =>
    have written : (render layout (bool.write true)).map some ++ rest =
        some 't' :: (['r', 'u', 'e'].map some ++ rest) := by simp [bool, render]
    rw [written]
    simp only [bool, skipSpace_token isGap (show IsToken 't' by decide), passWord_append]
    rfl
  | false =>
    have written : (render layout (bool.write false)).map some ++ rest =
        some 'f' :: (['a', 'l', 's', 'e'].map some ++ rest) := by simp [bool, render]
    rw [written]
    simp only [bool, skipSpace_token isGap (show IsToken 'f' by decide), passWord_append]
    rfl

/-! ## Dates and decimals -/

theorem instant_readsBack : instant.ReadsBack := string_readsBack.refine Instant.ofText?_toText

theorem decimal_yields (d : Decimal) : decimal.Yields d d.settled := by
  intro gap layout rest isGap _
  simp only [decimal, skipSpace_string isGap, openString_escaped, bind, Except.bind,
    Decimal.ofText?_toText]
  rfl

end Format
end PaymentVault.Json
