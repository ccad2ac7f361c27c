import Mathlib.Data.List.Forall2
import Mathlib.Data.List.Pairwise
import Mathlib.Tactic.MkIffOfInductiveProp
import PaymentVault.Proofs.Wire.Fields

/-!
# The order of fields

A message has slots, one for each declared number, and a field goes into the slot of its number. So
only the order of the fields of one number counts, and fields of undeclared numbers do not count at
all. A message reads the same in any arrangement of its fields that respects this
(`IsMadeOf.foldlM_eq_of_arranges`).
-/
namespace PaymentVault.Wire

/-- The fields of one number, in their order. -/
def ofNumber (number : Nat) (fields : List Field) : List Field :=
  fields.filter fun field => field.number = number

theorem ofNumber_append (number : Nat) (front back : List Field) :
    ofNumber number (front ++ back) = ofNumber number front ++ ofNumber number back :=
  List.filter_append ..

theorem ofNumber_cons (field : Field) (fields : List Field) :
    ofNumber field.number (field :: fields) = field :: ofNumber field.number fields :=
  List.filter_cons_of_pos (by simp)

theorem ofNumber_cons_of_ne {number : Nat} {field : Field} (different : field.number ≠ number)
    (fields : List Field) : ofNumber number (field :: fields) = ofNumber number fields :=
  List.filter_cons_of_neg (by simpa using different)

/-- For each declared number the arrangement has alike fields in the same order. Where these are
among one another does not matter, nor does it matter what fields of other numbers are there. -/
def Arranges (declared : List Nat) (Alike : Field → Field → Prop)
    (fields arrangement : List Field) : Prop :=
  ∀ number ∈ declared,
    List.Forall₂ Alike (ofNumber number fields) (ofNumber number arrangement)

/-- The bytes spell the fields in an arrangement. -/
def Holds (declared : List Nat) (Alike : Field → Field → Prop) (fields : List Field)
    (bytes : Bytes) : Prop :=
  ∃ arrangement, SpellsFields bytes arrangement ∧ Arranges declared Alike fields arrangement

/-! ## Slots -/

/-- A slot of a message: the number of its fields, where it is, and what a field makes of it. -/
structure Slot (μ : Type) where
  number : Nat
  Content : Type
  get : μ → Content
  put : μ → Content → μ
  take : Content → Field → Option Content

namespace Slot

variable {μ : Type}

/-- Puts in what a field makes of the slot. -/
def absorb (slot : Slot μ) (m : μ) (field : Field) : Option μ :=
  (slot.take (slot.get m) field).map (slot.put m)

/-- Slots in different places. -/
@[mk_iff]
structure Apart (p q : Slot μ) : Prop where
  get_put : ∀ m content, p.get (q.put m content) = p.get m
  get_put' : ∀ m content, q.get (p.put m content) = q.get m
  put_put : ∀ m x y, p.put (q.put m y) x = q.put (p.put m x) y

instance : Std.Symm (@Apart μ) where
  symm _ _ apart := ⟨apart.get_put', apart.get_put, fun m x y => (apart.put_put m y x).symm⟩

theorem Apart.absorb_comm {p q : Slot μ} (apart : p.Apart q) (m : μ) (a b : Field) :
    (p.absorb m a).bind (q.absorb · b) = (q.absorb m b).bind (p.absorb · a) := by
  simp only [absorb, Option.bind_map, Function.comp_def, apart.get_put, apart.get_put']
  cases p.take (p.get m) a <;> cases q.take (q.get m) b <;> simp [apart.put_put]

end Slot

/-- Fields are taken in by the slots with their numbers; other fields change nothing. -/
structure IsMadeOf {μ : Type} (slots : List (Slot μ)) (absorb : μ → Field → Option μ) : Prop where
  apart : slots.Pairwise Slot.Apart
  takes : ∀ slot ∈ slots, ∀ m field, field.number = slot.number →
    absorb m field = slot.absorb m field
  passes : ∀ m field, field.number ∉ slots.map Slot.number → absorb m field = some m

namespace IsMadeOf

variable {μ : Type} {slots : List (Slot μ)} {absorb : μ → Field → Option μ}
  {Alike : Field → Field → Prop} {fields arrangement : List Field}
  (made : IsMadeOf slots absorb)

include made

theorem absorb_comm (m : μ) {a b : Field} (different : a.number ≠ b.number) :
    (absorb m a).bind (absorb · b) = (absorb m b).bind (absorb · a) := by
  by_cases knownA : a.number ∈ slots.map Slot.number
  · by_cases knownB : b.number ∈ slots.map Slot.number
    · obtain ⟨p, pThere, pNumber⟩ := List.mem_map.1 knownA
      obtain ⟨q, qThere, qNumber⟩ := List.mem_map.1 knownB
      have others : p ≠ q := by
        rintro rfl
        exact different (pNumber.symm.trans qNumber)
      have apart : p.Apart q := made.apart.forall pThere qThere others
      simp only [made.takes p pThere _ a pNumber.symm, made.takes q qThere _ b qNumber.symm,
        apart.absorb_comm]
    · simp only [made.passes _ b knownB, Option.bind_some, Option.bind_fun_some]
  · simp only [made.passes _ a knownA, Option.bind_some, Option.bind_fun_some]

theorem foldlM_of_undeclared
    (none : ∀ field ∈ fields, field.number ∉ slots.map Slot.number) (m : μ) :
    fields.foldlM absorb m = some m := by
  induction fields with
  | nil => rfl
  | cons field fields ih =>
    obtain ⟨first, others⟩ := List.forall_mem_cons.1 none
    rw [List.foldlM_cons, made.passes m field first, Option.bind_eq_bind, Option.bind_some,
      ih others]

/-- The first field of its number can be taken in before all others. -/
theorem foldlM_append_cons {front back : List Field} {field : Field}
    (first : ∀ other ∈ front, other.number ≠ field.number) (m : μ) :
    (front ++ field :: back).foldlM absorb m =
      (absorb m field).bind fun m => (front ++ back).foldlM absorb m := by
  induction front generalizing m with
  | nil => rw [List.nil_append, List.foldlM_cons, List.nil_append, Option.bind_eq_bind]
  | cons other front ih =>
    obtain ⟨different, others⟩ := List.forall_mem_cons.1 first
    calc (other :: (front ++ field :: back)).foldlM absorb m
        = ((absorb m other).bind (absorb · field)).bind
            fun m => (front ++ back).foldlM absorb m := by
          rw [List.foldlM_cons, Option.bind_eq_bind, Option.bind_assoc]
          exact congrArg _ (funext fun m => ih others m)
      _ = ((absorb m field).bind (absorb · other)).bind
            fun m => (front ++ back).foldlM absorb m := by
          rw [made.absorb_comm m different]
      _ = (absorb m field).bind fun m => (other :: (front ++ back)).foldlM absorb m := by
          rw [Option.bind_assoc]
          rfl

/-- A message reads the same in any arrangement of its fields. -/
theorem foldlM_eq_of_arranges (arranges : Arranges (slots.map Slot.number) Alike fields arrangement)
    (same : ∀ a ∈ fields, ∀ b, Alike a b → ∀ m, absorb m a = absorb m b) (m : μ) :
    arrangement.foldlM absorb m = fields.foldlM absorb m := by
  induction fields generalizing arrangement m with
  | nil =>
    refine made.foldlM_of_undeclared (fun field member known => ?_) m
    have none := List.forall₂_nil_left_iff.1 (arranges _ known)
    have there : field ∈ ofNumber field.number arrangement := by simp [ofNumber, member]
    rw [none] at there
    cases there
  | cons field fields ih =>
    obtain ⟨first, others⟩ := List.forall_mem_cons.1 same
    by_cases known : field.number ∈ slots.map Slot.number
    · -- The first of its number in the arrangement is alike and can be taken in before all others.
      have these := arranges _ known
      rw [ofNumber_cons, List.forall₂_cons_left_iff] at these
      obtain ⟨found, _, alike, later, split⟩ := these
      obtain ⟨front, back, rfl, before, number, rfl⟩ := List.filter_eq_cons_iff.1 split
      simp only [decide_eq_true_eq] at before number
      have remaining : Arranges (slots.map Slot.number) Alike fields (front ++ back) := by
        intro other declaredOther
        rw [ofNumber_append]
        by_cases here : other = field.number
        · have spent : ofNumber other front = [] := by simpa [ofNumber, here] using before
          rwa [spent, here]
        · have others := arranges other declaredOther
          rwa [ofNumber_cons_of_ne (Ne.symm here), ofNumber_append,
            ofNumber_cons_of_ne (number ▸ Ne.symm here)] at others
      rw [List.foldlM_cons, made.foldlM_append_cons (number ▸ before), ← first found alike,
        Option.bind_eq_bind]
      exact congrArg _ (funext fun m => ih remaining others m)
    · have remaining : Arranges (slots.map Slot.number) Alike fields arrangement := by
        intro number declaredNumber
        have others := arranges number declaredNumber
        have different : field.number ≠ number := by
          rintro rfl
          exact known declaredNumber
        rwa [ofNumber_cons_of_ne different] at others
      rw [List.foldlM_cons, made.passes m field known, Option.bind_eq_bind, Option.bind_some]
      exact ih remaining others m

/-- Reading bytes takes in the fields that they hold. -/
theorem foldlM_of_holds {bytes : Bytes}
    (holds : Holds (slots.map Slot.number) Alike fields bytes)
    (same : ∀ a ∈ fields, ∀ b, Alike a b → ∀ m, absorb m a = absorb m b) (depth : Nat) (m : μ) :
    ((readFields? depth bytes).bind fun fields => fields.foldlM absorb m) =
      fields.foldlM absorb m := by
  obtain ⟨arrangement, spelled, arranges⟩ := holds
  rw [readFields?_of_spells depth spelled, Option.bind_some,
    made.foldlM_eq_of_arranges arranges same]

end IsMadeOf
end PaymentVault.Wire
