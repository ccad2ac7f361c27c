/-!
# Registers

A register keeps entries that carry their own key, at most one for each key, in the order in
which the keys first came. Every operation is described by what it does to the entry at a key
(`get?`).
-/
namespace PaymentVault

/-- Entries with distinct keys. -/
structure Register {α κ : Type} (key : α → κ) where
  entries : List α
  nodup : (entries.map key).Nodup

namespace Register

variable {α κ : Type} {key : α → κ}

def empty : Register key := ⟨[], List.nodup_nil⟩

instance : Inhabited (Register key) := ⟨empty⟩

variable [DecidableEq κ]

/-- The entry at a key. -/
def get? (r : Register key) (k : κ) : Option α := r.entries.find? fun a => key a == k

def contains (r : Register key) (k : κ) : Bool := (r.get? k).isSome

def size (r : Register key) : Nat := r.entries.length

def isEmpty (r : Register key) : Bool := r.entries.isEmpty

theorem key_of_get? {r : Register key} {k : κ} {a : α} (h : r.get? k = some a) : key a = k := by
  simpa using List.find?_some h

theorem mem_of_get? {r : Register key} {k : κ} {a : α} (h : r.get? k = some a) : a ∈ r.entries :=
  List.mem_of_find?_eq_some h

theorem find?_eq_some_of_mem {l : List α} (nodup : (l.map key).Nodup) {a : α} (h : a ∈ l) :
    l.find? (fun b => key b == key a) = some a := by
  induction l with
  | nil => simp at h
  | cons b rest ih =>
    rw [List.map_cons, List.nodup_cons] at nodup
    rcases List.mem_cons.1 h with rfl | inRest
    · simp
    · have differ : key b ≠ key a := fun same => nodup.1 (same ▸ List.mem_map_of_mem inRest)
      simp [differ, ih nodup.2 inRest]

/-- Entries are just what is found at their keys. -/
theorem mem_entries_iff {r : Register key} {a : α} : a ∈ r.entries ↔ r.get? (key a) = some a :=
  ⟨find?_eq_some_of_mem r.nodup, mem_of_get?⟩

/-! ## Insertion -/

/-- Puts an entry in the place of the one with its key, or at the end. -/
def insertEntry (key : α → κ) (a : α) : List α → List α
  | [] => [a]
  | b :: rest => if key b = key a then a :: rest else b :: insertEntry key a rest

theorem map_insertEntry (a : α) (l : List α) :
    (insertEntry key a l).map key =
      if key a ∈ l.map key then l.map key else l.map key ++ [key a] := by
  induction l with
  | nil => simp [insertEntry]
  | cons b rest ih =>
    by_cases same : key b = key a
    · simp [insertEntry, same]
    · simp only [insertEntry, same, if_false, List.map_cons, ih, List.mem_cons,
        Ne.symm same, false_or]
      split <;> simp

def insert (a : α) (r : Register key) : Register key where
  entries := insertEntry key a r.entries
  nodup := by
    rw [map_insertEntry]
    split
    · exact r.nodup
    · next fresh =>
      rw [List.nodup_append]
      exact ⟨r.nodup, by simp, fun x hx y hy => by
        rw [List.mem_singleton.1 hy]
        exact fun same => fresh (same ▸ hx)⟩

theorem find?_insertEntry (a : α) (l : List α) (k : κ) :
    (insertEntry key a l).find? (fun b => key b == k) =
      if key a = k then some a else l.find? fun b => key b == k := by
  induction l with
  | nil =>
    by_cases h : key a = k <;> simp [insertEntry, h]
  | cons b rest ih =>
    by_cases same : key b = key a
    · by_cases h : key a = k
      · simp [insertEntry, same, h]
      · have hb : key b ≠ k := same ▸ h
        simp [insertEntry, same, h]
    · by_cases hb : key b = k
      · have h : key a ≠ k := fun h => same (hb.trans h.symm)
        simp [insertEntry, hb, h, Ne.symm h]
      · simp [insertEntry, same, hb, ih]

@[simp] theorem get?_insert (a : α) (r : Register key) (k : κ) :
    (r.insert a).get? k = if key a = k then some a else r.get? k :=
  find?_insertEntry a r.entries k

/-! ## Removal -/

/-- The register without the entries at unwanted keys. -/
def retain (isWanted : κ → Bool) (r : Register key) : Register key where
  entries := r.entries.filter fun a => isWanted (key a)
  nodup := (List.filter_sublist.map key).nodup r.nodup

@[simp] theorem get?_retain (isWanted : κ → Bool) (r : Register key) (k : κ) :
    (r.retain isWanted).get? k = if isWanted k then r.get? k else none := by
  simp only [get?, retain, List.find?_filter]
  by_cases wanted : isWanted k
  · rw [if_pos wanted]
    congr 1
    funext a
    by_cases ha : key a = k
    · simp [ha, wanted]
    · simp [ha]
  · rw [if_neg wanted, List.find?_eq_none]
    intro a _
    by_cases ha : key a = k
    · simp [ha, wanted]
    · simp [ha]

def erase (k : κ) (r : Register key) : Register key := r.retain fun other => other != k

@[simp] theorem get?_erase (k : κ) (r : Register key) (k' : κ) :
    (r.erase k).get? k' = if k = k' then none else r.get? k' := by
  rw [erase, get?_retain]
  by_cases h : k = k'
  · simp [h]
  · simp [h, Ne.symm h]

/-! ## Change -/

/-- Changes the entry at a key; the change must leave its key alone. -/
def modify (k : κ) (change : α → α) (keeps : ∀ a, key (change a) = key a) (r : Register key) :
    Register key where
  entries := r.entries.map fun a => if key a = k then change a else a
  nodup := by
    have same : (fun a => key (if key a = k then change a else a)) = key := by
      funext a
      split <;> simp [keeps]
    rw [List.map_map, show key ∘ _ = key from same]
    exact r.nodup

@[simp] theorem get?_modify (k : κ) (change : α → α) (keeps : ∀ a, key (change a) = key a)
    (r : Register key) (k' : κ) :
    (r.modify k change keeps).get? k' = if k = k' then (r.get? k').map change else r.get? k' := by
  simp only [get?, modify, List.find?_map]
  have same : ((fun a => key a == k') ∘ fun a => if key a = k then change a else a) =
      fun a => key a == k' := by
    funext a
    simp only [Function.comp]
    split <;> simp [keeps]
  rw [same]
  cases found : r.entries.find? fun a => key a == k' with
  | none => simp
  | some a =>
    have : key a = k' := by simpa using List.find?_some found
    by_cases h : k = k'
    · simp [this, h]
    · simp [this, h, Ne.symm h]

/-! ## Lists of entries -/

/-- The register of a list; of several entries with one key the last counts. -/
def ofList (l : List α) : Register key := l.foldl (fun r a => r.insert a) empty

theorem get?_foldl_insert (l : List α) (r : Register key) (k : κ) :
    (l.foldl (fun r a => r.insert a) r).get? k =
      (l.reverse.find? fun a => key a == k).or (r.get? k) := by
  induction l generalizing r with
  | nil => simp
  | cons a rest ih =>
    rw [List.foldl_cons, ih, get?_insert, List.reverse_cons, List.find?_append]
    by_cases h : key a = k <;> simp [h]

theorem get?_ofList (l : List α) (k : κ) :
    (ofList l : Register key).get? k = l.reverse.find? fun a => key a == k := by
  rw [ofList, get?_foldl_insert]
  simp [get?, empty]

end Register
end PaymentVault
