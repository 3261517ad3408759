/-!
# Phases

The phases of a task's life. The last three are terminal: a task that has reached one stays there.
-/

namespace TaskFleet

/-- A phase of a task's life. -/
inductive Phase where
  | pending
  | scheduled
  | running
  | completed
  | failed
  | cancelled
deriving DecidableEq, Repr, Inhabited

namespace Phase

/-- Whether a phase ends a task's life. -/
def isTerminal : Phase → Bool
  | .completed | .failed | .cancelled => true
  | .pending | .scheduled | .running => false

/-- The name of a phase. -/
def name : Phase → String
  | .pending => "Pending"
  | .scheduled => "Scheduled"
  | .running => "Running"
  | .completed => "Completed"
  | .failed => "Failed"
  | .cancelled => "Cancelled"

/-- All phases. -/
def all : List Phase :=
  [.pending, .scheduled, .running, .completed, .failed, .cancelled]

/-- The phase of a name. -/
def ofName? (name : String) : Option Phase :=
  all.find? fun p => p.name = name

theorem ofName?_name (p : Phase) : ofName? p.name = some p := by
  cases p <;> decide

end Phase

end TaskFleet
