import Mathlib.Algebra.GroupWithZero.Nat
import PaymentVault.Payment.Request

/-!
# Requests and what is credited to them

A request that is credited with some transactions lists those it did not list before, each once
and in the order they first came, and its paid amount grows by what each of them was worth when
it first came, up to the largest word. So the order of credits and their repetition make no
difference but to the order of the list (`creditedWith_agrees`).
-/
namespace PaymentVault

/-- A transaction that counts towards a request, with the value it is worth. -/
structure Credit where
  hash : String
  value : UInt64
  deriving DecidableEq

namespace Credit

/-- The hashes of credits that are not listed yet, in the order they first come. -/
def newHashes (listed : List String) (credits : List Credit) : List String :=
  ((credits.map hash).filter fun hash => !listed.contains hash).eraseDups

/-- The value with which a hash first comes. -/
def firstValue (credits : List Credit) (hash : String) : Nat :=
  ((credits.find? fun credit => credit.hash == hash).map fun credit => credit.value.toNat).getD 0

section lists

variable (listed : List String) (credit : Credit) (credits : List Credit) (hash : String)

theorem newHashes_nil : newHashes listed [] = [] := rfl

/-- A listed hash is not new. -/
theorem newHashes_cons_of_mem (there : credit.hash ∈ listed) :
    newHashes listed (credit :: credits) = newHashes listed credits := by
  simp [newHashes, there]

/-- A hash that comes for the first time is listed from then on. -/
theorem newHashes_cons_of_not_mem (fresh : credit.hash ∉ listed) :
    newHashes listed (credit :: credits) =
      credit.hash :: newHashes (listed ++ [credit.hash]) credits := by
  have later : (fun hash => !hash == credit.hash && !listed.contains hash) =
      fun hash => !(listed ++ [credit.hash]).contains hash := by
    funext hash
    by_cases same : hash = credit.hash
    · simp [same]
    · simp [same]
  unfold newHashes
  rw [List.map_cons, List.filter_cons_of_pos (by simpa using fresh), List.eraseDups_cons,
    List.filter_filter, later]

@[simp] theorem mem_newHashes :
    hash ∈ newHashes listed credits ↔ hash ∉ listed ∧ ∃ credit ∈ credits, credit.hash = hash := by
  simp [newHashes, and_comm]

theorem nodup_newHashes : (newHashes listed credits).Nodup := by
  induction credits generalizing listed with
  | nil => exact List.nodup_nil
  | cons credit credits ih =>
    by_cases there : credit.hash ∈ listed
    · rw [newHashes_cons_of_mem listed credit credits there]
      exact ih listed
    · rw [newHashes_cons_of_not_mem listed credit credits there, List.nodup_cons]
      constructor
      · simp
      · exact ih _

theorem firstValue_cons_self : firstValue (credit :: credits) credit.hash = credit.value.toNat := by
  simp [firstValue]

theorem firstValue_cons_of_ne (other : credit.hash ≠ hash) :
    firstValue (credit :: credits) hash = firstValue credits hash := by
  simp [firstValue, other]

/-- A credit in front does not change the values of hashes that are new where it is listed. -/
theorem map_firstValue_cons (there : credit.hash ∈ listed) :
    (newHashes listed credits).map (firstValue (credit :: credits)) =
      (newHashes listed credits).map (firstValue credits) := by
  apply List.map_congr_left
  intro hash member
  apply firstValue_cons_of_ne
  rintro rfl
  exact ((mem_newHashes listed credits _).1 member).1 there

/-- The values of new hashes, with a further credit in front. -/
theorem sum_firstValue_cons (fresh : credit.hash ∉ listed) :
    ((newHashes listed (credit :: credits)).map (firstValue (credit :: credits))).sum =
      credit.value.toNat +
        ((newHashes (listed ++ [credit.hash]) credits).map (firstValue credits)).sum := by
  have there : credit.hash ∈ listed ++ [credit.hash] := by simp
  rw [newHashes_cons_of_not_mem listed credit credits fresh, List.map_cons, List.sum_cons,
    firstValue_cons_self, map_firstValue_cons _ credit credits there]

theorem sum_firstValue_cons_of_mem (there : credit.hash ∈ listed) :
    ((newHashes listed (credit :: credits)).map (firstValue (credit :: credits))).sum =
      ((newHashes listed credits).map (firstValue credits)).sum := by
  rw [newHashes_cons_of_mem listed credit credits there,
    map_firstValue_cons listed credit credits there]

end lists

/-- Equal hashes mean equal credits. -/
def Consistent (credits : List Credit) : Prop :=
  ∀ a ∈ credits, ∀ b ∈ credits, a.hash = b.hash → a = b

theorem Consistent.firstValue_eq {credits : List Credit} (consistent : Consistent credits)
    {credit : Credit} (member : credit ∈ credits) :
    firstValue credits credit.hash = credit.value.toNat := by
  unfold firstValue
  cases found : credits.find? fun other => other.hash == credit.hash with
  | none =>
    have none := List.find?_eq_none.1 found credit member
    simp at none
  | some other =>
    have there := List.mem_of_find?_eq_some found
    have same : other.hash = credit.hash := by simpa using List.find?_some found
    rw [consistent other there credit member same]
    rfl

end Credit

namespace PaymentRequest

/-- The request after credits one after another. -/
def creditedWith (credits : List Credit) (r : PaymentRequest) : PaymentRequest :=
  credits.foldl (fun r credit => r.fundedBy credit.hash credit.value) r

@[simp] theorem creditedWith_nil (r : PaymentRequest) : r.creditedWith [] = r := rfl

theorem creditedWith_cons (credit : Credit) (credits : List Credit) (r : PaymentRequest) :
    r.creditedWith (credit :: credits) =
      (r.fundedBy credit.hash credit.value).creditedWith credits := rfl

theorem creditedWith_append (a b : List Credit) (r : PaymentRequest) :
    r.creditedWith (a ++ b) = (r.creditedWith a).creditedWith b := List.foldl_append

theorem fundedBy_of_mem {hash : String} (value : UInt64) {r : PaymentRequest}
    (listed : hash ∈ r.fundingHashes) : r.fundedBy hash value = r := if_pos listed

theorem fundingHashes_fundedBy_of_not_mem {hash : String} (value : UInt64) {r : PaymentRequest}
    (fresh : hash ∉ r.fundingHashes) :
    (r.fundedBy hash value).fundingHashes = r.fundingHashes ++ [hash] := by
  simp [fundedBy, fresh]

theorem paidAmount_fundedBy_of_not_mem {hash : String} (value : UInt64) {r : PaymentRequest}
    (fresh : hash ∉ r.fundingHashes) :
    (r.fundedBy hash value).paidAmount = saturatingAdd r.paidAmount value := by
  simp [fundedBy, fresh]

/-- All of a request but how far it is funded. -/
def unfunded (r : PaymentRequest) : PaymentRequest := { r with paidAmount := 0, fundingHashes := [] }

@[simp] theorem unfunded_fundedBy (hash : String) (value : UInt64) (r : PaymentRequest) :
    (r.fundedBy hash value).unfunded = r.unfunded := by
  by_cases listed : hash ∈ r.fundingHashes
  · rw [fundedBy_of_mem value listed]
  · simp [fundedBy, listed, unfunded]

theorem le_paidAmount_fundedBy (hash : String) (value : UInt64) (r : PaymentRequest) :
    r.paidAmount ≤ (r.fundedBy hash value).paidAmount := by
  by_cases listed : hash ∈ r.fundingHashes
  · rw [fundedBy_of_mem value listed]
    exact UInt64.le_refl _
  · rw [paidAmount_fundedBy_of_not_mem value listed]
    exact le_saturatingAdd _ _

@[simp] theorem unfunded_creditedWith (credits : List Credit) (r : PaymentRequest) :
    (r.creditedWith credits).unfunded = r.unfunded := by
  induction credits generalizing r with
  | nil => rfl
  | cons credit credits ih => rw [creditedWith_cons, ih, unfunded_fundedBy]

theorem le_paidAmount_creditedWith (credits : List Credit) (r : PaymentRequest) :
    r.paidAmount ≤ (r.creditedWith credits).paidAmount := by
  induction credits generalizing r with
  | nil => exact UInt64.le_refl _
  | cons credit credits ih =>
    have first := le_paidAmount_fundedBy credit.hash credit.value r
    rw [creditedWith_cons]
    exact UInt64.le_trans first (ih _)

/-- The transactions that a request lists after some credits. -/
theorem fundingHashes_creditedWith (credits : List Credit) (r : PaymentRequest) :
    (r.creditedWith credits).fundingHashes =
      r.fundingHashes ++ Credit.newHashes r.fundingHashes credits := by
  induction credits generalizing r with
  | nil => simp [Credit.newHashes_nil]
  | cons credit credits ih =>
    rw [creditedWith_cons, ih]
    by_cases listed : credit.hash ∈ r.fundingHashes
    · rw [fundedBy_of_mem _ listed, Credit.newHashes_cons_of_mem _ _ _ listed]
    · rw [fundingHashes_fundedBy_of_not_mem _ listed, Credit.newHashes_cons_of_not_mem _ _ _ listed,
        List.append_assoc]
      rfl

/-- The amount that is paid after some credits. -/
theorem toNat_paidAmount_creditedWith (credits : List Credit) (r : PaymentRequest) :
    (r.creditedWith credits).paidAmount.toNat = min (2 ^ 64 - 1) (r.paidAmount.toNat +
      ((Credit.newHashes r.fundingHashes credits).map (Credit.firstValue credits)).sum) := by
  induction credits generalizing r with
  | nil =>
    have small := r.paidAmount.toNat_lt
    simp only [creditedWith_nil, Credit.newHashes_nil, List.map_nil, List.sum_nil]
    omega
  | cons credit credits ih =>
    rw [creditedWith_cons, ih]
    by_cases listed : credit.hash ∈ r.fundingHashes
    · rw [fundedBy_of_mem _ listed, Credit.sum_firstValue_cons_of_mem _ _ _ listed]
    · rw [fundingHashes_fundedBy_of_not_mem _ listed, paidAmount_fundedBy_of_not_mem _ listed,
        toNat_saturatingAdd, Credit.sum_firstValue_cons _ _ _ listed]
      omega

/-- Requests that differ in the order of the listed transactions at most. -/
structure Agrees (a b : PaymentRequest) : Prop where
  fundingHashes : a.fundingHashes.Perm b.fundingHashes
  others : { a with fundingHashes := b.fundingHashes } = b

/-- Neither the order nor the repetition of credits makes a difference, as long as a transaction
always comes with one value. -/
theorem creditedWith_agrees {credits others : List Credit}
    (same : ∀ credit, credit ∈ credits ↔ credit ∈ others) (consistent : Credit.Consistent credits)
    (r : PaymentRequest) : (r.creditedWith credits).Agrees (r.creditedWith others) := by
  have consistentOthers : Credit.Consistent others := by
    intro a memberA b memberB
    exact consistent a ((same a).2 memberA) b ((same b).2 memberB)
  have perm : (Credit.newHashes r.fundingHashes credits).Perm
      (Credit.newHashes r.fundingHashes others) := by
    rw [List.perm_ext_iff_of_nodup (Credit.nodup_newHashes _ _) (Credit.nodup_newHashes _ _)]
    intro hash
    simp only [Credit.mem_newHashes, same]
  have values : (Credit.newHashes r.fundingHashes credits).map (Credit.firstValue credits) =
      (Credit.newHashes r.fundingHashes credits).map (Credit.firstValue others) := by
    apply List.map_congr_left
    intro hash member
    obtain ⟨-, credit, there, rfl⟩ := (Credit.mem_newHashes _ _ _).1 member
    rw [consistent.firstValue_eq there, consistentOthers.firstValue_eq ((same credit).1 there)]
  have paid : (r.creditedWith credits).paidAmount = (r.creditedWith others).paidAmount := by
    apply UInt64.toNat_inj.1
    rw [toNat_paidAmount_creditedWith, toNat_paidAmount_creditedWith, values,
      (perm.map (Credit.firstValue others)).sum_nat]
  constructor
  · rw [fundingHashes_creditedWith, fundingHashes_creditedWith]
    exact perm.append_left _
  · have left := unfunded_creditedWith credits r
    have right := unfunded_creditedWith others r
    rw [← right] at left
    generalize r.creditedWith credits = a at *
    generalize r.creditedWith others = b at *
    cases a
    cases b
    simp_all [unfunded]

end PaymentRequest
end PaymentVault
