import PaymentVault.Time.Calendar

/-!
# Instants

An instant is a second counted from 1970-01-01T00:00:00Z and nanoseconds within it. A leap
second has no number of its own: it is the second before it with a billion nanoseconds or more,
which only the last second of a minute may have. Years run from -262143 to 262142.
-/
namespace PaymentVault

/-- A moment in UTC, to the nanosecond. -/
structure Instant where
  seconds : Int
  nanos : Nat
  nanos_lt : nanos < 2000000000
  leap : 1000000000 ≤ nanos → seconds % 60 = 59
  first_le : -8334601228800 ≤ seconds
  le_last : seconds ≤ 8210266876799
  deriving DecidableEq

namespace Instant

example : Date.toDayNumber ⟨-262143, 1, 1⟩ * 86400 = -8334601228800 := by decide
example : Date.toDayNumber ⟨262143, 1, 1⟩ * 86400 - 1 = 8210266876799 := by decide

@[ext] theorem ext {a b : Instant} (hs : a.seconds = b.seconds) (hn : a.nanos = b.nanos) :
    a = b := by
  cases a
  cases b
  simp_all

def epoch : Instant := ⟨0, 0, by decide, by decide, by decide, by decide⟩

instance : Inhabited Instant := ⟨epoch⟩

/-- The instant of a second and nanoseconds, if there is one. -/
def of? (seconds : Int) (nanos : Nat) : Option Instant :=
  if h : nanos < 2000000000 ∧ (1000000000 ≤ nanos → seconds % 60 = 59) ∧
      -8334601228800 ≤ seconds ∧ seconds ≤ 8210266876799 then
    some ⟨seconds, nanos, h.1, h.2.1, h.2.2.1, h.2.2.2⟩
  else none

@[simp] theorem of?_self (t : Instant) : of? t.seconds t.nanos = some t := by
  have valid : t.nanos < 2000000000 ∧ (1000000000 ≤ t.nanos → t.seconds % 60 = 59) ∧
      -8334601228800 ≤ t.seconds ∧ t.seconds ≤ 8210266876799 :=
    ⟨t.nanos_lt, t.leap, t.first_le, t.le_last⟩
  rw [of?, dif_pos valid]

/-- Milliseconds from the epoch; those of a leap second run into the next second. -/
def millis (t : Instant) : Int := t.seconds * 1000 + t.nanos / 1000000

/-- The number of the day that the instant falls on. -/
def dayNumber (t : Instant) : Int := t.seconds / 86400

/-- The same time of another day. -/
def onDay? (day : Int) (t : Instant) : Option Instant :=
  of? (day * 86400 + t.seconds % 86400) t.nanos

/-- Earlier instants come first. -/
protected def compare (a b : Instant) : Ordering :=
  (compare a.seconds b.seconds).then (compare a.nanos b.nanos)

end Instant
end PaymentVault
