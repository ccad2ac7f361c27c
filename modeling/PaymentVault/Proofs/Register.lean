import PaymentVault.Register

/-!
# The entries of a register

An entry with a new key goes to the end, and one that is inserted twice counts the second time.
The register of a list depends on the entries and not on their order, if each key is there once.
-/
namespace PaymentVault.Register

variable {α κ : Type} {key : α → κ}

theorem ext_entries {r s : Register key} (same : r.entries = s.entries) : r = s := by
  cases r
  cases s
  simp_all

/-- Nothing changes if everything is wanted. -/
theorem retain_eq_self {isWanted : κ → Bool} {r : Register key}
    (all : ∀ a ∈ r.entries, isWanted (key a)) : r.retain isWanted = r :=
  ext_entries (List.filter_eq_self.2 all)

variable [DecidableEq κ]

theorem insertEntry_of_forall_ne {a : α} {l : List α} (fresh : ∀ b ∈ l, key b ≠ key a) :
    insertEntry key a l = l ++ [a] := by
  induction l with
  | nil => rfl
  | cons b rest ih =>
    rw [List.forall_mem_cons] at fresh
    rw [insertEntry, if_neg fresh.1, ih fresh.2, List.cons_append]

/-- An entry with a new key goes to the end. -/
theorem entries_insert_of_get?_eq_none {a : α} {r : Register key} (absent : r.get? (key a) = none) :
    (r.insert a).entries = r.entries ++ [a] := by
  apply insertEntry_of_forall_ne
  intro b member same
  have there := mem_entries_iff.1 member
  rw [same, absent] at there
  cases there

/-- The keys of a register are those at which something is found. -/
theorem mem_map_key_iff {r : Register key} {k : κ} :
    k ∈ r.entries.map key ↔ r.get? k ≠ none := by
  rw [List.mem_map, Option.ne_none_iff_exists']
  constructor
  · rintro ⟨a, member, rfl⟩
    exact ⟨a, mem_entries_iff.1 member⟩
  · rintro ⟨a, found⟩
    exact ⟨a, mem_of_get? found, key_of_get? found⟩

/-- A change that changes no entry changes nothing. -/
theorem modify_eq_self {k : κ} {change : α → α} {keeps : ∀ a, key (change a) = key a}
    {r : Register key} (same : ∀ a, r.get? k = some a → change a = a) :
    r.modify k change keeps = r := by
  have each : ∀ a ∈ r.entries, (if key a = k then change a else a) = a := by
    intro a member
    by_cases there : key a = k
    · rw [if_pos there]
      apply same
      rw [← there]
      exact mem_entries_iff.1 member
    · rw [if_neg there]
  apply ext_entries
  exact (List.map_congr_left each).trans (List.map_id' r.entries)

/-! ## Changes in a row -/

/-- Of two entries with one key that are inserted, the second stays. -/
theorem insert_insert {a b : α} (same : key a = key b) (r : Register key) :
    (r.insert a).insert b = r.insert b := by
  apply ext_entries
  change insertEntry key b (insertEntry key a r.entries) = insertEntry key b r.entries
  induction r.entries with
  | nil => simp [insertEntry, same]
  | cons c rest ih =>
    by_cases here : key c = key a
    · simp [insertEntry, here, same]
    · have other : key c ≠ key b := same ▸ here
      simp [insertEntry, here, other, ih]

/-- What is not wanted need not be inserted. -/
theorem retain_insert {isWanted : κ → Bool} {a : α} (unwanted : isWanted (key a) = false)
    (r : Register key) : (r.insert a).retain isWanted = r.retain isWanted := by
  apply ext_entries
  change (insertEntry key a r.entries).filter _ = r.entries.filter _
  induction r.entries with
  | nil => simp [insertEntry, unwanted]
  | cons b rest ih =>
    by_cases here : key b = key a
    · simp [insertEntry, here, unwanted]
    · simp only [insertEntry, here, if_false, List.filter_cons, ih]

/-! ## Registers of lists -/

/-- The entries of a register make the same register in every order. -/
theorem get?_ofList_of_perm {r : Register key} {l : List α} (same : l.Perm r.entries) (k : κ) :
    (ofList l : Register key).get? k = r.get? k := by
  have members := (List.reverse_perm l).trans same
  have nodup : (l.reverse.map key).Nodup := (members.map key).nodup_iff.2 r.nodup
  rw [get?_ofList]
  cases found : r.get? k with
  | none =>
    rw [List.find?_eq_none]
    intro a member
    exact List.find?_eq_none.1 found a (members.mem_iff.1 member)
  | some a =>
    obtain rfl := key_of_get? found
    exact find?_eq_some_of_mem nodup (members.mem_iff.2 (mem_of_get? found))

/-- So they do if each is changed in something other than its key. -/
theorem get?_ofList_map {r : Register key} {l : List α} (same : l.Perm r.entries) (change : α → α)
    (keeps : ∀ a, key (change a) = key a) (k : κ) :
    (ofList (l.map change) : Register key).get? k = (r.get? k).map change := by
  have found := get?_ofList_of_perm same k
  rw [get?_ofList] at found ⊢
  rw [← List.map_reverse, List.find?_map, ← found]
  simp only [Function.comp_def, keeps]

end PaymentVault.Register
