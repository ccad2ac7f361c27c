import PaymentVault.Payment.Query

/-!
# The order of the payments list

Payments are listed from the newest to the oldest, and within one instant by their amounts. Any
two payments can be compared that way, so sorting puts every list into this order
(`pairwise_sorted`) and neither drops nor doubles an entry (`sorted_perm`). The order leaves open
only how entries that tie follow each other (`map_rank_eq_of_perm`). Sorting keeps them in the
order they came, and there is one such arrangement (`arranges_iff`).
-/
namespace PaymentVault

namespace Instant

/-- Earlier in time; a leap second comes after the second before it. -/
def IsBefore (a b : Instant) : Prop :=
  a.seconds < b.seconds ∨ a.seconds = b.seconds ∧ a.nanos < b.nanos

variable {a b c : Instant}

theorem compare_eq_lt_iff : a.compare b = .lt ↔ a.IsBefore b := by
  rw [Instant.compare, Ordering.then_eq_lt, Int.compare_eq_lt, Int.compare_eq_eq,
    Nat.compare_eq_lt, IsBefore]

theorem compare_eq_gt_iff : a.compare b = .gt ↔ b.IsBefore a := by
  rw [Instant.compare, Ordering.then_eq_gt, Int.compare_eq_gt, Int.compare_eq_eq,
    Nat.compare_eq_gt, IsBefore, eq_comm (a := a.seconds)]

theorem compare_eq_eq_iff : a.compare b = .eq ↔ a = b := by
  rw [Instant.compare, Ordering.then_eq_eq, Int.compare_eq_eq, Nat.compare_eq_eq]
  constructor
  · rintro ⟨seconds, nanos⟩
    exact Instant.ext seconds nanos
  · rintro rfl
    exact ⟨rfl, rfl⟩

theorem IsBefore.trans (first : a.IsBefore b) (second : b.IsBefore c) : a.IsBefore c := by
  unfold IsBefore at *
  omega

theorem not_isBefore_self (a : Instant) : ¬a.IsBefore a := by
  unfold IsBefore
  omega

theorem IsBefore.ne (before : a.IsBefore b) : a ≠ b := by
  rintro rfl
  exact a.not_isBefore_self before

theorem IsBefore.asymm (before : a.IsBefore b) : ¬b.IsBefore a := fun after =>
  a.not_isBefore_self (before.trans after)

/-- Of two instants one is earlier, unless they are the same. -/
theorem isBefore_or_eq (a b : Instant) : a.IsBefore b ∨ a = b ∨ b.IsBefore a := by
  cases order : a.compare b with
  | lt => exact .inl (compare_eq_lt_iff.1 order)
  | eq => exact .inr (.inl (compare_eq_eq_iff.1 order))
  | gt => exact .inr (.inr (compare_eq_gt_iff.1 order))

end Instant

namespace Payment

/-- Newer, or of the same instant and not larger. -/
def ListedBefore (a b : Payment) : Prop :=
  b.date.IsBefore a.date ∨ a.date = b.date ∧ a.amount ≤ b.amount

variable {a b c : Payment}

theorem precedes_iff : precedes a b ↔ a.ListedBefore b := by
  unfold precedes ListedBefore
  cases order : b.date.compare a.date with
  | lt => simp [Instant.compare_eq_lt_iff.1 order]
  | eq =>
    have same := Instant.compare_eq_eq_iff.1 order
    simp [same, Instant.not_isBefore_self]
  | gt =>
    have older := Instant.compare_eq_gt_iff.1 order
    simp [older.asymm, older.ne]

theorem ListedBefore.trans (first : a.ListedBefore b) (second : b.ListedBefore c) :
    a.ListedBefore c := by
  rcases first with newer | ⟨same, smaller⟩
  · rcases second with newer' | ⟨same', -⟩
    · exact .inl (newer'.trans newer)
    · exact .inl (same' ▸ newer)
  · rcases second with newer' | ⟨same', smaller'⟩
    · exact .inl (same ▸ newer')
    · exact .inr ⟨same.trans same', Int64.le_trans smaller smaller'⟩

theorem listedBefore_total (a b : Payment) : a.ListedBefore b ∨ b.ListedBefore a := by
  rcases a.date.isBefore_or_eq b.date with older | same | newer
  · exact .inr (.inl older)
  · rcases Int64.le_total a.amount b.amount with smaller | larger
    · exact .inl (.inr ⟨same, smaller⟩)
    · exact .inr (.inr ⟨same.symm, larger⟩)
  · exact .inl (.inl newer)

theorem sorted_perm (payments : List Payment) : (sorted payments).Perm payments :=
  List.mergeSort_perm payments precedes

theorem precedes_trans (a b c : Payment) (first : precedes a b) (second : precedes b c) :
    precedes a c :=
  precedes_iff.2 ((precedes_iff.1 first).trans (precedes_iff.1 second))

theorem precedes_total (a b : Payment) : precedes a b || precedes b a := by
  rw [Bool.or_eq_true, precedes_iff, precedes_iff]
  exact listedBefore_total a b

/-- Every entry of a sorted list may be listed before those that follow it. -/
theorem pairwise_sorted (payments : List Payment) : (sorted payments).Pairwise ListedBefore :=
  (List.pairwise_mergeSort precedes_trans precedes_total payments).imp precedes_iff.1

/-- What the place of a payment in the list depends on. -/
def rank (payment : Payment) : Instant × Int64 := (payment.date, payment.amount)

/-- Two sorted lists of the same payments have the same ranks at the same places. -/
theorem map_rank_eq_of_perm {payments others : List Payment} (same : payments.Perm others)
    (sorted : payments.Pairwise ListedBefore) (sorted' : others.Pairwise ListedBefore) :
    payments.map rank = others.map rank := by
  have ranked {payments : List Payment} (sorted : payments.Pairwise ListedBefore) :
      (payments.map rank).Pairwise fun a b => b.1.IsBefore a.1 ∨ a.1 = b.1 ∧ a.2 ≤ b.2 :=
    List.pairwise_map.2 sorted
  refine (same.map rank).eq_of_pairwise ?_ (ranked sorted) (ranked sorted')
  rintro a b - - (newer | ⟨date, smaller⟩) (newer' | ⟨date', smaller'⟩)
  · exact absurd newer' newer.asymm
  · exact absurd date' newer.ne
  · exact absurd date newer'.ne
  · exact Prod.ext date (Int64.le_antisymm smaller smaller')

/-! ## Entries that tie -/

/-- The payments of one rank, in the order they are listed. -/
def tied (place : Instant × Int64) (payments : List Payment) : List Payment :=
  payments.filter fun payment => payment.rank = place

/-- Payments in the order of the list, those that tie in the order they came. -/
structure Arranges (payments arranged : List Payment) : Prop where
  perm : arranged.Perm payments
  ordered : arranged.Pairwise ListedBefore
  ties : ∀ place, tied place arranged = tied place payments

theorem tied_sorted (place : Instant × Int64) (payments : List Payment) :
    tied place (sorted payments) = tied place payments := by
  have equal : (tied place payments).Pairwise fun a b => precedes a b := by
    apply List.pairwise_of_forall_mem_list
    intro a first b second
    have same : a.rank = b.rank := by
      rw [of_decide_eq_true (List.mem_filter.1 first).2,
        of_decide_eq_true (List.mem_filter.1 second).2]
    obtain ⟨date, amount⟩ := Prod.mk.inj same
    exact precedes_iff.2 (.inr ⟨date, Int64.le_of_eq amount⟩)
  -- Payments that tie are in order as they came, so sorting does not part them.
  have kept : (tied place payments).Sublist (sorted payments) :=
    List.sublist_mergeSort precedes_trans precedes_total equal List.filter_sublist
  have within := kept.filter fun payment => payment.rank = place
  have size : (tied place (sorted payments)).length = (tied place payments).length :=
    ((sorted_perm payments).filter _).length_eq
  have all : (tied place payments).filter (fun payment => payment.rank = place) =
      tied place payments := by simp [tied]
  rw [all] at within
  exact (within.eq_of_length size.symm).symm

theorem arranges_sorted (payments : List Payment) : Arranges payments (sorted payments) :=
  ⟨sorted_perm payments, pairwise_sorted payments, fun place => tied_sorted place payments⟩

/-- Two lists are the same if they have the same ranks at the same places and list the payments of
each rank in the same order. -/
theorem eq_of_map_rank_eq {payments others : List Payment}
    (ranks : payments.map rank = others.map rank)
    (ties : ∀ place, tied place payments = tied place others) : payments = others := by
  induction payments generalizing others with
  | nil => simpa using ranks.symm
  | cons a rest ih =>
    cases others with
    | nil => cases ranks
    | cons b rest' =>
      obtain ⟨first, later⟩ := List.cons.inj ranks
      have here := ties b.rank
      simp only [tied, first, List.filter_cons_of_pos, decide_true] at here
      obtain ⟨rfl, -⟩ := List.cons.inj here
      refine congrArg (a :: ·) (ih later fun place => ?_)
      have there := ties place
      by_cases same : a.rank = place
      · simpa [tied, same] using there
      · simpa [tied, same] using there

theorem Arranges.eq_sorted {payments arranged : List Payment}
    (arranges : Arranges payments arranged) : arranged = sorted payments := by
  have same : arranged.Perm (sorted payments) := arranges.perm.trans (sorted_perm payments).symm
  apply eq_of_map_rank_eq
  · exact map_rank_eq_of_perm same arranges.ordered (pairwise_sorted payments)
  · intro place
    rw [arranges.ties, tied_sorted]

/-- Sorting gives the one arrangement there is. -/
theorem arranges_iff {payments arranged : List Payment} :
    Arranges payments arranged ↔ arranged = sorted payments := by
  constructor
  · exact Arranges.eq_sorted
  · rintro rfl
    exact arranges_sorted payments

/-- What is in order already stays as it is. -/
theorem sorted_sorted (payments : List Payment) : sorted (sorted payments) = sorted payments :=
  List.mergeSort_of_pairwise ((pairwise_sorted payments).imp precedes_iff.2)

end Payment
end PaymentVault
