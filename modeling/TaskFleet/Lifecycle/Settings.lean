import TaskFleet.Duration

/-!
# Delays of the lifecycle

After which delay a task is looked at again, by the reason for looking again.
-/

namespace TaskFleet

/-- The delay before the next pass over a task, by what the last pass found. -/
structure Delays where
  /-- Another task has not reached the phase it should have. -/
  dependency : Duration
  /-- No agent has room. -/
  capacity : Duration
  /-- The execution is under way. -/
  poll : Duration
  /-- A store or a substrate has failed. -/
  transient : Duration
  /-- A write or a reservation was lost to another one. -/
  conflict : Duration
deriving DecidableEq, Repr, Inhabited

/-- The delays that hold where nothing else is configured. -/
def Delays.default : Delays where
  dependency := .ofSecs 10
  capacity := .ofSecs 20
  poll := .ofSecs 10
  transient := .ofSecs 5
  conflict := .ofSecs 2

end TaskFleet
