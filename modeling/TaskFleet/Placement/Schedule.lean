import TaskFleet.Ledger.Resync
import TaskFleet.Placement.Strategy

/-!
# Scheduling

Placing one task: the feasible agents are ranked, and the requirement is reserved on the best of
them. Nothing else is tried when that reservation fails, which can only happen if the ledger has
changed since the agents were listed (`Rival` is such a change).
-/

namespace TaskFleet

/-- Why a task could not be placed. -/
inductive ScheduleError where
  | noCapacity (task : TaskId) (requirement : ResourceSet)
  | ledger (e : LedgerError)
deriving DecidableEq, Repr

namespace ScheduleError

def message : ScheduleError → String
  | .noCapacity task requirement =>
    "no feasible agent for task " ++ task.key ++ " (requires " ++ requirement.render ++ ")"
  | .ledger e => "ledger error: " ++ e.message

/-- Whether a reservation lost to another one. -/
def isConflict : ScheduleError → Bool
  | .ledger (.conflict _ _) => true
  | _ => false

end ScheduleError

/-- A candidate with the score by which it is ranked. -/
structure Candidate where
  score : Score
  agent : Snapshot
deriving Repr, Inhabited

namespace Candidate

/-- Whether the first of two candidates comes before the second or level with it: by the higher
score, then by the smaller name. -/
def ahead (a b : Candidate) : Bool :=
  if a.score.rank = b.score.rank then !(b.agent.name < a.agent.name)
  else b.score.rank < a.score.rank

end Candidate

/-- The candidates in their order, best first. -/
def rankAgents (score : Snapshot → Score) (agents : List Snapshot) : List Candidate :=
  (agents.map fun a => ⟨(score a).ranked, a⟩).mergeSort Candidate.ahead

/-- Something that another party does to the ledger while a task is being placed. -/
inductive Rival where
  | book (b : Booking)
  | resync (observed : List Observation)
deriving DecidableEq, Repr

/-- The ledger after the rival, and whether a reservation was changed. -/
def Rival.apply (l : Ledger) : Rival → Ledger × Bool
  | .book b => match l.book b with
    | .ok l => (l, true)
    | .error _ => (l, false)
  | .resync observed => ((l.resync observed).1, false)

/-- The ledger after some rivals, one after the other, and how many reservations were changed. -/
def Ledger.afterRivals (l : Ledger) : List Rival → Ledger × Nat
  | [] => (l, 0)
  | rival :: rest =>
    let (l, raced) := rival.apply l
    let (l, changes) := l.afterRivals rest
    (l, raced.toNat + changes)

/-- What came of placing a task: the agent or the reason why there is none, the ledger afterwards,
and how many reservations were changed on the way. -/
structure Placement where
  result : Except ScheduleError String
  ledger : Ledger
  changes : Nat

namespace Ledger

/-- Places a task by a score, with rivals between choosing the agent and reserving on it. -/
def schedule (l : Ledger) (task : Task) (score : Snapshot → Score) (rivals : List Rival) :
    Placement :=
  match rankAgents score (l.feasible task.requirement) with
  | [] => ⟨.error (.noCapacity task.id task.requirement), l, 0⟩
  | best :: _ =>
    let (l, changes) := l.afterRivals rivals
    match l.reserve best.agent.name task.requirement with
    | .ok l => ⟨.ok best.agent.name, l, changes + 1⟩
    | .error e => ⟨.error (.ledger e), l, changes⟩

end Ledger

end TaskFleet
