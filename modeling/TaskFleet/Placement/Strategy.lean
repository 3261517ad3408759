import TaskFleet.Ledger.Utilization
import TaskFleet.Task.Basic

/-!
# Scoring

How a task's candidates are valued. A score is kept as the bit pattern of a floating-point number,
because the order of candidates is an order of patterns: `Score.rank` maps them to natural numbers
in that order, with negative numbers below positive ones and zero below zero by its sign.
-/

namespace TaskFleet

/-- A score: the bits of a 64-bit floating-point number. -/
structure Score where
  bits : UInt64
deriving DecidableEq, Repr, Inhabited

namespace Score

/-- The score of a computed number. -/
def ofFloat (x : Float) : Score := ⟨x.toBits⟩

/-- Minus infinity. -/
def negInfinity : Score := ⟨0xFFF0000000000000⟩

/-- Whether the pattern stands for no number. -/
def isNaN (s : Score) : Bool :=
  0x7FF0000000000000 < (s.bits &&& 0x7FFFFFFFFFFFFFFF)

/-- The score by which a candidate is ranked: no number counts as minus infinity. -/
def ranked (s : Score) : Score :=
  if s.isNaN then negInfinity else s

/-- The place of a score in the total order of patterns. -/
def rank (s : Score) : Nat :=
  let n := s.bits.toNat
  if n < 0x8000000000000000 then n + 0x8000000000000000 else 0xFFFFFFFFFFFFFFFF - n

end Score

/-- A way to value a task's candidates; the higher the score, the better. -/
inductive Strategy where
  /-- All candidates are worth the same, so the names decide. -/
  | firstFeasible
  /-- Prefers the agent that will be fullest. -/
  | binPacking
  /-- Prefers the agent that will be emptiest. -/
  | spread
  /-- Spreads the tasks of at least the given priority and packs the others. -/
  | priority (threshold : Int)
  /-- Scores by name, with one score for all others. -/
  | custom (scores : Dict String Score) (otherwise : Score)
deriving Repr

namespace Strategy

/-- The name of a strategy. -/
def name : Strategy → String
  | .firstFeasible => "first-feasible"
  | .binPacking => "bin-packing"
  | .spread => "spread"
  | .priority _ => "priority"
  | .custom _ _ => "custom"

/-- A strategy name that nobody knows. -/
structure UnknownStrategy where
  name : String
deriving DecidableEq, Repr

def UnknownStrategy.message (e : UnknownStrategy) : String :=
  "unknown scoring strategy: " ++ e.name

/-- The strategy that a name in the configuration stands for. -/
def ofName (name : String) : Except UnknownStrategy Strategy :=
  if name = "first-feasible" ∨ name = "" then .ok .firstFeasible
  else if name = "bin-packing" then .ok .binPacking
  else if name = "spread" then .ok .spread
  else if name = "priority" ∨ name = "priority-aware" then .ok (.priority 1)
  else .error ⟨name⟩

/-- How full the agent would be with the task on it, out of a hundred. -/
def packed (task : Task) (agent : Snapshot) : Score :=
  .ofFloat (agent.capacity.utilizationWith task.requirement * 100.0)

/-- How much of the agent would be left with the task on it, out of a hundred. -/
def spare (task : Task) (agent : Snapshot) : Score :=
  .ofFloat ((1.0 - agent.capacity.utilizationWith task.requirement) * 100.0)

/-- The score of an agent for a task. -/
def score (s : Strategy) (task : Task) (agent : Snapshot) : Score :=
  match s with
  | .firstFeasible => ⟨0⟩
  | .binPacking => packed task agent
  | .spread => spare task agent
  | .priority threshold =>
    if threshold ≤ task.spec.priority then spare task agent else packed task agent
  | .custom scores otherwise => (scores.find? agent.name).getD otherwise

end Strategy

end TaskFleet
