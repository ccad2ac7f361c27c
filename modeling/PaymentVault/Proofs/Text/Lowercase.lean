import Mathlib.Data.List.TakeWhile
import PaymentVault.Text.Lowercase.Basic

/-!
# Lowercase forms of parts of a text

The lowercase form of a text is made part by part (`lowercase_append`), but the form of a part is
not always the one that it has alone: a capital sigma looks at the letters around it. Only the first
one and the last one of a part can look beyond it, and the part has the form that it has alone
just if neither of them turns (`mapBetween_eq_iff`).
-/
namespace PaymentVault.Lowercase

/-! ## The nearest letter -/

theorem startsCased_append_of_ignorable {front : List Char} (skipped : ∀ c ∈ front, isIgnorable c)
    (text : List Char) : startsCased (front ++ text) = startsCased text := by
  rw [startsCased, List.dropWhile_append, List.dropWhile_eq_nil_iff.2 skipped]
  rfl

theorem startsCased_append_of_not_ignorable {front : List Char}
    (seen : ¬∀ c ∈ front, isIgnorable c) (text : List Char) :
    startsCased (front ++ text) = startsCased front := by
  rw [← List.dropWhile_eq_nil_iff] at seen
  obtain ⟨c, rest, found⟩ := List.exists_cons_of_ne_nil seen
  simp [startsCased, List.dropWhile_append, found]

theorem startsCased_of_ignorable {text : List Char} (skipped : ∀ c ∈ text, isIgnorable c) :
    startsCased text = false := by
  rw [← List.append_nil text, startsCased_append_of_ignorable skipped]
  rfl

/-! ## Parts -/

/-- The lowercase form of a text between two others, the one before told from its end. -/
def mapBetween (before : List Char) : List Char → List Char → List Char
  | [], _ => []
  | c :: rest, after => mapped before c (rest ++ after) ++ mapBetween (c :: before) rest after

theorem mapFrom_append (before text after : List Char) :
    mapFrom before (text ++ after) =
      mapBetween before text after ++ mapFrom (text.reverse ++ before) after := by
  induction text generalizing before with
  | nil => rfl
  | cons c rest ih => simp [mapFrom, mapBetween, ih]

theorem lowercase_append (before text after : List Char) :
    lowercase (before ++ text ++ after) =
      mapBetween [] before (text ++ after) ++ mapBetween before.reverse text after ++
        mapFrom (text.reverse ++ before.reverse) after := by
  simp [lowercase, mapFrom_append]

/-- A capital sigma has its final form. -/
def endsWord (before after : List Char) : Bool := startsCased before && !startsCased after

theorem mapped_sigma (before after : List Char) :
    mapped before 'Σ' after = [if endsWord before after then 'ς' else 'σ'] := rfl

theorem mapped_of_ne {c : Char} (other : c ≠ 'Σ') (before after before' after' : List Char) :
    mapped before c after = mapped before' c after' := by
  rw [mapped, mapped, if_neg other, if_neg other]

/-- Only a capital sigma looks around, and both its forms have the same length. -/
theorem mapped_append_eq_iff {c : Char} {before after before' after' rest rest' : List Char} :
    mapped before c after ++ rest = mapped before' c after' ++ rest' ↔
      (c = 'Σ' → endsWord before after = endsWord before' after') ∧ rest = rest' := by
  by_cases sigma : c = 'Σ'
  · subst sigma
    rw [mapped_sigma, mapped_sigma]
    cases endsWord before after <;> cases endsWord before' after' <;> simp
  · rw [mapped_of_ne sigma before after before' after', List.append_cancel_left_eq]
    simp [sigma]

/-- A capital sigma of a text is the first character, or it is in the rest. -/
theorem forall_place_cons_iff {c : Char} {rest : List Char} {P : List Char → List Char → Prop} :
    (∀ left right, c :: rest = left ++ 'Σ' :: right → P left right) ↔
      (c = 'Σ' → P [] rest) ∧ ∀ left right, rest = left ++ 'Σ' :: right → P (c :: left) right := by
  constructor
  · intro all
    constructor
    · rintro rfl
      exact all [] rest rfl
    · rintro left right rfl
      exact all (c :: left) right rfl
  · rintro ⟨first, others⟩ left right place
    rcases List.cons_eq_append_iff.1 place with ⟨rfl, split⟩ | ⟨left, rfl, split⟩
    · obtain ⟨sigma, rfl⟩ := List.cons.inj split
      exact first sigma.symm
    · exact others left right split

/-- A part of a text has the form that it has without what is around it just if each of its capital
sigmas has. -/
theorem mapBetween_append_eq_iff (seen before text after : List Char) :
    mapBetween (seen ++ before) text after = mapFrom seen text ↔
      ∀ left right, text = left ++ 'Σ' :: right →
        endsWord (left.reverse ++ (seen ++ before)) (right ++ after) =
          endsWord (left.reverse ++ seen) right := by
  induction text generalizing seen with
  | nil => simp [mapBetween, mapFrom]
  | cons c rest ih =>
    have later := ih (c :: seen)
    rw [List.cons_append] at later
    rw [mapBetween, mapFrom, mapped_append_eq_iff, forall_place_cons_iff, later]
    simp

/-! ## When the form of a part changes -/

/-- A capital sigma of a text ends a word if the text stands alone, but not between two others, or
it does so between them but not alone. The text before is told from its end. -/
inductive Turns (before text after : List Char) : Prop
  | goesOn {left right : List Char} (place : text = left ++ 'Σ' :: right)
    (word : startsCased left.reverse) (last : ∀ c ∈ right, isIgnorable c)
    (letter : startsCased after)
  | ends {left right : List Char} (place : text = left ++ 'Σ' :: right)
    (first : ∀ c ∈ left, isIgnorable c) (word : startsCased before)
    (ended : startsCased (right ++ after) = false)

theorem endsWord_append_ne_iff {before left right after : List Char} :
    endsWord (left.reverse ++ before) (right ++ after) ≠ endsWord left.reverse right ↔
      (startsCased left.reverse ∧ (∀ c ∈ right, isIgnorable c) ∧ startsCased after) ∨
        (∀ c ∈ left, isIgnorable c) ∧ startsCased before ∧ startsCased (right ++ after) = false := by
  unfold endsWord
  by_cases skipped : ∀ c ∈ left, isIgnorable c
  · have reversed : ∀ c ∈ left.reverse, isIgnorable c := by simpa using skipped
    simp [startsCased_append_of_ignorable reversed, startsCased_of_ignorable reversed,
      eq_true skipped]
  · have reversed : ¬∀ c ∈ left.reverse, isIgnorable c := by simpa using skipped
    rw [startsCased_append_of_not_ignorable reversed]
    by_cases last : ∀ c ∈ right, isIgnorable c
    · simp [startsCased_append_of_ignorable last, startsCased_of_ignorable last, skipped,
        eq_true last]
    · simp [startsCased_append_of_not_ignorable last, skipped, last]

theorem turns_iff {before text after : List Char} :
    Turns before text after ↔ ∃ left right, text = left ++ 'Σ' :: right ∧
      endsWord (left.reverse ++ before) (right ++ after) ≠ endsWord left.reverse right := by
  simp only [endsWord_append_ne_iff]
  constructor
  · rintro (⟨place, word, last, letter⟩ | ⟨place, first, word, ended⟩)
    · exact ⟨_, _, place, .inl ⟨word, last, letter⟩⟩
    · exact ⟨_, _, place, .inr ⟨first, word, ended⟩⟩
  · rintro ⟨left, right, place, ⟨word, last, letter⟩ | ⟨first, word, ended⟩⟩
    · exact .goesOn place word last letter
    · exact .ends place first word ended

/-- A part of a text has the form that it has alone just if no capital sigma turns. -/
theorem mapBetween_eq_iff {before text after : List Char} :
    mapBetween before text after = lowercase text ↔ ¬Turns before text after := by
  have parts := mapBetween_append_eq_iff [] before text after
  rw [List.nil_append] at parts
  rw [lowercase, parts, turns_iff]
  simp only [List.append_nil, not_exists, not_and, ne_eq, not_not]

instance (before text after : List Char) : Decidable (Turns before text after) :=
  decidable_of_iff (mapBetween before text after ≠ lowercase text)
    ((not_congr mapBetween_eq_iff).trans Classical.not_not)

theorem Turns.sigma_mem {before text after : List Char} (turns : Turns before text after) :
    'Σ' ∈ text := by
  obtain ⟨left, right, rfl, -⟩ := turns_iff.1 turns
  simp

end PaymentVault.Lowercase
