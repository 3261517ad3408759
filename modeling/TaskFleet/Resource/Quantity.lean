import TaskFleet.Text.Decimal

/-!
# Quantities

A measured amount of a resource, counted in thousandths of a unit, so that `500m` of a processor,
`128Mi` of memory and one device share one scale. A quantity is never negative and never above
`max64` thousandths: addition stops at that limit and subtraction at zero.
-/

namespace TaskFleet

open Text (max64)

/-- A measured amount: an unsigned 64-bit count of milli-units. -/
@[ext] structure Quantity where
  millis : Nat
  le_max : millis ≤ max64
deriving DecidableEq, Repr

namespace Quantity

instance : Ord Quantity := ⟨fun a b => compare a.millis b.millis⟩

instance : LE Quantity := ⟨fun a b => a.millis ≤ b.millis⟩

instance : LT Quantity := ⟨fun a b => a.millis < b.millis⟩

instance (a b : Quantity) : Decidable (a ≤ b) := inferInstanceAs (Decidable (a.millis ≤ b.millis))

instance (a b : Quantity) : Decidable (a < b) := inferInstanceAs (Decidable (a.millis < b.millis))

/-- The quantity of `n` milli-units, or the greatest one if there are too many. -/
def ofMillis (n : Nat) : Quantity :=
  ⟨min n max64, Nat.min_le_right ..⟩

/-- Nothing at all. -/
def zero : Quantity := ⟨0, Nat.zero_le _⟩

instance : Inhabited Quantity := ⟨zero⟩

/-- The quantity of `n` whole units, or the greatest one if there are too many. -/
def ofUnits (n : Nat) : Quantity :=
  ofMillis (n * 1000)

/-- The quantity of `n` times 2²⁰ whole units, or the greatest one if there are too many. -/
def ofMebibytes (n : Nat) : Quantity :=
  ofUnits (n * 0x100000)

/-- Whole units, rounded up. -/
def units (q : Quantity) : Nat :=
  (q.millis + 999) / 1000

/-- Whether there is nothing. -/
def isZero (q : Quantity) : Bool :=
  q.millis == 0

/-- The sum, or the greatest quantity if the sum is above it. -/
def add (a b : Quantity) : Quantity :=
  ofMillis (a.millis + b.millis)

/-- What remains after taking `b` away, and nothing if `b` is more. -/
def sub (a b : Quantity) : Quantity :=
  ⟨a.millis - b.millis, Nat.le_trans (Nat.sub_le ..) a.le_max⟩

/-- The sum of a list, from left to right. -/
def sum (l : List Quantity) : Quantity :=
  l.foldl add zero

@[simp] theorem millis_zero : zero.millis = 0 := rfl

@[simp] theorem millis_ofMillis (n : Nat) : (ofMillis n).millis = min n max64 := rfl

@[simp] theorem millis_add (a b : Quantity) :
    (a.add b).millis = min (a.millis + b.millis) max64 := rfl

@[simp] theorem millis_sub (a b : Quantity) : (a.sub b).millis = a.millis - b.millis := rfl

theorem le_iff {a b : Quantity} : a ≤ b ↔ a.millis ≤ b.millis := Iff.rfl

theorem lt_iff {a b : Quantity} : a < b ↔ a.millis < b.millis := Iff.rfl

theorem not_le {a b : Quantity} : ¬ a ≤ b ↔ b < a := Nat.not_le

theorem not_lt {a b : Quantity} : ¬ a < b ↔ b ≤ a := Nat.not_lt

end Quantity

end TaskFleet
