import TaskFleet.Ledger.Basic

/-!
# Utilization

How full an agent is, as the mean over the kinds that it offers of the reserved share of each.
These are the only computations in floating point.
-/

namespace TaskFleet

/-- The nearest floating-point number to a 64-bit count. -/
def floatOfCount (n : Nat) : Float := n.toUInt64.toFloat

/-- The share of `total` that `part` is, at most one; the share of nothing is zero. -/
def Quantity.shareOf (part total : Quantity) : Float :=
  if total.isZero then 0.0
  else
    let share := floatOfCount part.millis / floatOfCount total.millis
    if 1.0 < share then 1.0 else share

namespace Capacity

/-- The kinds that are offered, with their quantities. -/
def offered (c : Capacity) : List (ResourceKind × Quantity) :=
  c.allocatable.toList.filter fun e => !e.2.isZero

/-- The mean share of the offered kinds that is reserved. What offers nothing is full. -/
def utilization (c : Capacity) : Float :=
  let shares := c.offered.map fun e => (c.reserved.get e.1).shareOf e.2
  if shares.isEmpty then 1.0 else shares.foldl (· + ·) 0.0 / floatOfCount shares.length

/-- The utilization after reserving `extra` as well. -/
def utilizationWith (c : Capacity) (extra : ResourceSet) : Float :=
  { c with reserved := c.reserved.add extra }.utilization

end Capacity

end TaskFleet
