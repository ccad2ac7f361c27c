import PaymentVault.Number.Decimal.Text

/-!
# Reading written decimals

The decimal that was written is the decimal that is read, with its scale; only the sign of a
zero is lost (`ofText?_toText`). The written digits are read one at a time, so what they come to
is followed from any coefficient on.
-/
namespace PaymentVault

theorem digitValue?_of_isDigit {c : Char} (digit : c.isDigit) :
    digitValue? c = some (c.toNat - '0'.toNat) := by
  have bounds : '0' ≤ c ∧ c ≤ '9' := by
    simpa [Char.isDigit, Char.le_def] using digit
  rw [digitValue?, if_pos bounds]

theorem digitValue?_of_not_isDigit {c : Char} (other : c.isDigit = false) :
    digitValue? c = none := by
  have bounds : ¬('0' ≤ c ∧ c ≤ '9') := by
    simpa [Char.isDigit, Char.le_def] using other
  rw [digitValue?, if_neg bounds]

/-- Further digits only make a number larger. -/
theorem le_ofDigitChars (digits : List Char) (start : Nat) :
    start ≤ Nat.ofDigitChars 10 digits start := by
  induction digits generalizing start with
  | nil => simp
  | cons c digits ih =>
    rw [Nat.ofDigitChars_cons]
    have rest := ih (10 * start + (c.toNat - '0'.toNat))
    omega

namespace Decimal

/-! ## What is written -/

theorem isDigit_of_mem_padded {width n : Nat} {c : Char} (member : c ∈ padded width n) :
    c.isDigit := by
  rw [padded, List.mem_append] at member
  rcases member with zero | digit
  · rw [List.eq_of_mem_replicate zero]
    rfl
  · exact Nat.isDigit_of_mem_toDigits (by decide) (by decide) digit

@[simp] theorem ofDigitChars_padded (width n : Nat) : Nat.ofDigitChars 10 (padded width n) 0 = n := by
  simp [padded, Nat.ofDigitChars_append]

theorem length_padded (width n : Nat) :
    (padded width n).length = max width (Nat.toDigits 10 n).length := by
  rw [padded, List.length_append, List.length_replicate]
  omega

/-- A number that fits is written in exactly so many digits. -/
theorem length_padded_of_lt {width n : Nat} (positive : 0 < width) (fits : n < 10 ^ width) :
    (padded width n).length = width := by
  have short : (Nat.toDigits 10 n).length ≤ width :=
    (Nat.length_toDigits_le_iff (by decide) positive).2 fits
  rw [length_padded]
  omega

theorem exists_padded {width : Nat} (positive : 0 < width) (n : Nat) :
    ∃ c rest, padded width n = c :: rest ∧ c.isDigit := by
  have size := length_padded width n
  cases same : padded width n with
  | nil =>
    rw [same, List.length_nil] at size
    omega
  | cons c rest => exact ⟨c, rest, rfl, isDigit_of_mem_padded (same ▸ List.mem_cons_self)⟩

/-! ## What is read -/

/-- Whole digits are read as long as what they come to fits. -/
theorem scan_whole {digits : List Char} (each : ∀ c ∈ digits, c.isDigit) {coefficient : Nat}
    (scale : Nat) (started : Bool) (rest : List Char)
    (fits : Nat.ofDigitChars 10 digits coefficient < 2 ^ 96) :
    scan coefficient scale started false (digits ++ rest) =
      scan (Nat.ofDigitChars 10 digits coefficient) scale (started || !digits.isEmpty) false rest := by
  induction digits generalizing coefficient started with
  | nil => simp
  | cons c digits ih =>
    obtain ⟨digit, others⟩ := List.forall_mem_cons.1 each
    rw [Nat.ofDigitChars_cons, Nat.mul_comm] at fits
    have next : coefficient * 10 + (c.toNat - '0'.toNat) < 2 ^ 96 :=
      Nat.lt_of_le_of_lt (le_ofDigitChars digits _) fits
    rw [List.cons_append, scan, Nat.ofDigitChars_cons, Nat.mul_comm 10]
    simp only [digitValue?_of_isDigit digit, Bool.false_and, Bool.false_eq_true, if_false,
      if_pos next]
    rw [ih others _ fits]
    simp

/-- So are fraction digits, as long as there is a place for each. -/
theorem scan_fraction {digits : List Char} (each : ∀ c ∈ digits, c.isDigit) {coefficient : Nat}
    (scale : Nat) (fits : Nat.ofDigitChars 10 digits coefficient < 2 ^ 96) (room : scale + digits.length ≤ 28) :
    scan coefficient scale true true digits =
      some (Nat.ofDigitChars 10 digits coefficient, scale + digits.length) := by
  induction digits generalizing coefficient scale with
  | nil => simp [scan]
  | cons c digits ih =>
    obtain ⟨digit, others⟩ := List.forall_mem_cons.1 each
    rw [Nat.ofDigitChars_cons, Nat.mul_comm] at fits
    have next : coefficient * 10 + (c.toNat - '0'.toNat) < 2 ^ 96 :=
      Nat.lt_of_le_of_lt (le_ofDigitChars digits _) fits
    rw [List.length_cons] at room ⊢
    have place : ¬scale = 28 := by omega
    rw [scan, Nat.ofDigitChars_cons, Nat.mul_comm 10]
    simp only [digitValue?_of_isDigit digit, Bool.true_and, beq_iff_eq, place, if_false, if_pos next]
    rw [if_pos trivial, ih others _ fits (by omega)]
    simp only [Option.some.injEq, Prod.mk.injEq, true_and]
    omega

/-- Digits with a point among them, but not before the first. -/
theorem scan_point {whole fraction : List Char} (filled : whole ≠ [])
    (each : ∀ c ∈ whole ++ fraction, c.isDigit)
    (fits : Nat.ofDigitChars 10 (whole ++ fraction) 0 < 2 ^ 96) (room : fraction.length ≤ 28) :
    scan 0 0 false false (whole ++ '.' :: fraction) =
      some (Nat.ofDigitChars 10 (whole ++ fraction) 0, fraction.length) := by
  obtain ⟨wholeDigits, fractionDigits⟩ := List.forall_mem_append.1 each
  rw [Nat.ofDigitChars_append] at fits ⊢
  have wholeFits : Nat.ofDigitChars 10 whole 0 < 2 ^ 96 :=
    Nat.lt_of_le_of_lt (le_ofDigitChars fraction _) fits
  have begun : whole.isEmpty = false := List.isEmpty_eq_false_iff.2 filled
  have read := scan_fraction fractionDigits 0 fits (by omega)
  rw [Nat.zero_add] at read
  rw [scan_whole wholeDigits 0 false _ wholeFits, begun]
  exact read

/-- The digits of an unsigned decimal are read as they were written. -/
theorem scan_plainDigits {coefficient scale : Nat} (fits : coefficient < 2 ^ 96)
    (places : scale ≤ 28) :
    scan 0 0 false false (plainDigits coefficient scale) = some (coefficient, scale) := by
  have size := length_padded (scale + 1) coefficient
  have value := ofDigitChars_padded (scale + 1) coefficient
  have each : ∀ c ∈ padded (scale + 1) coefficient, c.isDigit := fun c => isDigit_of_mem_padded
  have filled : padded (scale + 1) coefficient ≠ [] := by
    rw [← List.length_pos_iff]
    omega
  unfold plainDigits
  generalize padded (scale + 1) coefficient = digits at *
  split
  · next integer =>
    have read := scan_whole each 0 false [] (value ▸ fits)
    rw [List.append_nil, value, List.isEmpty_eq_false_iff.2 filled] at read
    rw [read, integer]
    rfl
  · have kept := List.take_append_drop (digits.length - scale) digits
    have whole : digits.take (digits.length - scale) ≠ [] := by
      rw [← List.length_pos_iff, List.length_take]
      omega
    have behind : (digits.drop (digits.length - scale)).length = scale := by
      rw [List.length_drop]
      omega
    have read := scan_point whole (kept.symm ▸ each) (by rw [kept, value]; exact fits)
      (behind.symm ▸ places)
    rw [read, kept, value, behind]

/-! ## Signs -/

/-- A digit in front is no sign. -/
theorem splitSign_of_isDigit {text : List Char} (digit : ∀ c ∈ text.head?, c.isDigit) :
    splitSign text = (false, text) := by
  unfold splitSign
  split
  · exact absurd (digit '-' rfl) (by decide)
  · exact absurd (digit '+' rfl) (by decide)
  · rfl

/-- A decimal starts with a digit, if not with its sign. -/
theorem isDigit_of_head?_plainDigits {coefficient scale : Nat} {c : Char}
    (first : c ∈ (plainDigits coefficient scale).head?) : c.isDigit := by
  have size := length_padded (scale + 1) coefficient
  unfold plainDigits at first
  split at first
  · exact isDigit_of_mem_padded (List.mem_of_mem_head? first)
  · have filled : (padded (scale + 1) coefficient).take
        ((padded (scale + 1) coefficient).length - scale) ≠ [] := by
      rw [← List.length_pos_iff, List.length_take]
      omega
    rw [List.head?_append, Option.or_of_isSome (List.isSome_head?.2 filled)] at first
    exact isDigit_of_mem_padded (List.mem_of_mem_take (List.mem_of_mem_head? first))

theorem splitSign_digits (d : Decimal) :
    splitSign d.digits = (d.isNegative, plainDigits d.coefficient d.scale) := by
  unfold digits
  cases d.isNegative with
  | true => rfl
  | false =>
    rw [if_neg Bool.false_ne_true, List.nil_append]
    exact splitSign_of_isDigit fun c first => isDigit_of_head?_plainDigits first

theorem ofDigits?_digits (d : Decimal) : ofDigits? d.digits = some d.settled := by
  simp only [ofDigits?, splitSign_digits, scan_plainDigits d.coefficient_lt d.scale_le,
    Option.bind_some, ofParts?_self]

/-- The decimal that was written is read, without a sign if it is zero. -/
@[simp] theorem ofText?_toText (d : Decimal) : ofText? d.toText = some d.settled := by
  simp [ofText?, toText, ofDigits?_digits]

end Decimal
end PaymentVault
