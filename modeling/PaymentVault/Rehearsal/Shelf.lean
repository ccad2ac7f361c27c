import PaymentVault.Wallet.Rotation

/-!
# Stores and a lock for rehearsals

A shelf has a row of stores, each sealed under a credential, and a lock. Calls to the stores,
and calls to encrypt, may be refused, and then nothing changes.
-/
namespace PaymentVault

structure Shelf where
  /-- The credential that the store at a position is sealed under. -/
  seals : Nat → String
  /-- The credential that the keys are encrypted under; none if they are not. -/
  lockedUnder : Option String
  /-- For each call to come whether it is refused; what is not listed is not. -/
  refusals : List Bool := []

namespace Shelf

/-- Answers a call, and makes a change unless it is refused. -/
def attempt (shelf : Shelf) (change : Shelf → Shelf) : Bool × Shelf :=
  let later := { shelf with refusals := shelf.refusals.tail }
  if shelf.refusals.head? = some true then (false, later) else (true, change later)

def store (position : Nat) : BoundStore Shelf where
  name := "shelf"
  reseal credential around :=
    match around.rest.attempt fun shelf =>
      { shelf with
        seals := fun other => if other = position then credential else shelf.seals other } with
    | (true, rest) => (.ok (), { around with rest })
    | (false, rest) => (.error (.failed (.saveFailure (.io "refused"))), { around with rest })

/-- The first stores of the row. -/
def stores (count : Nat) : List (BoundStore Shelf) := (List.range count).map store

def lock : Lock Shelf where
  accepts credential shelf := shelf.lockedUnder = some credential
  decrypt credential shelf :=
    if shelf.lockedUnder = some credential then (.ok (), { shelf with lockedUnder := none })
    else (.error (.wallet "wrong password"), shelf)
  encrypt credential shelf :=
    match shelf.attempt fun shelf => { shelf with lockedUnder := some credential } with
    | (true, shelf) => (.ok (), shelf)
    | (false, shelf) => (.error (.wallet "encrypt refused"), shelf)

theorem attempt_eq (shelf : Shelf) (change : Shelf → Shelf) :
    shelf.attempt change = (true, change { shelf with refusals := shelf.refusals.tail }) ∨
      shelf.attempt change = (false, { shelf with refusals := shelf.refusals.tail }) := by
  unfold attempt
  split
  · exact .inr rfl
  · exact .inl rfl

/-- A store that is resealed is sealed under the credential, and nothing else changes. -/
theorem reseal_eq (position : Nat) (credential : String) (around : Surroundings Shelf) :
    (store position).reseal credential around =
        (.ok (), { around with rest := { around.rest with
          seals := fun other => if other = position then credential else around.rest.seals other
          refusals := around.rest.refusals.tail } }) ∨
      ∃ stop, (store position).reseal credential around =
        (.error (.failed stop),
          { around with rest := { around.rest with refusals := around.rest.refusals.tail } }) := by
  unfold store
  rcases around.rest.attempt_eq fun shelf =>
      { shelf with
        seals := fun other => if other = position then credential else shelf.seals other } with
    done | refused
  · exact .inl (by simp only [done])
  · exact .inr ⟨_, by simp only [refused]; rfl⟩

theorem encrypt_eq (credential : String) (shelf : Shelf) :
    lock.encrypt credential shelf =
        (.ok (), { shelf with lockedUnder := some credential, refusals := shelf.refusals.tail }) ∨
      ∃ cause, lock.encrypt credential shelf =
        (.error cause, { shelf with refusals := shelf.refusals.tail }) := by
  unfold lock
  rcases shelf.attempt_eq fun shelf => { shelf with lockedUnder := some credential } with
    done | refused
  · exact .inl (by simp only [done])
  · exact .inr ⟨_, by simp only [refused]; rfl⟩

theorem getElem?_stores {count position : Nat} {found : BoundStore Shelf}
    (there : (stores count)[position]? = some found) : found = store position := by
  rw [stores, List.getElem?_map, Option.map_eq_some_iff] at there
  obtain ⟨i, atPosition, rfl⟩ := there
  rw [List.getElem?_eq_some_iff] at atPosition
  obtain ⟨_, rfl⟩ := atPosition
  rw [List.getElem_range]

end Shelf
end PaymentVault
