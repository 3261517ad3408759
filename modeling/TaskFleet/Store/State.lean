import TaskFleet.Agent.Basic
import TaskFleet.Store.Error

/-!
# The database of records

Tasks under the text of their ids and agents under their names, each as a JSON record. A task is
written only by who has read its latest version; a record is decoded each time it is read, so one
that cannot be decoded fails every reading that meets it.
-/

namespace TaskFleet

/-- The records of tasks and agents. -/
structure StateStore where
  tasks : Dict String Json
  agents : Dict String Json
deriving Repr, Inhabited

/-- The next version of a task. Versions are counted in 64 bits. -/
def Task.bump (t : Task) : Task :=
  { t with version := (t.version + 1) % 0x10000000000000000 }

namespace StateStore

/-- The database without records. -/
def empty : StateStore := ⟨.empty, .empty⟩

/-- Decodes a stored record. -/
def readRecord {α : Type} (decode : Decoder α) (record : Json) : Except StateError α :=
  (decode .json record).mapError .unreadable

/-- Writes a task's record in place of the one it had. -/
def store (s : StateStore) (t : Task) : StateStore :=
  { s with tasks := s.tasks.insert t.id.key t.toJson }

/-- Stores a new task as version 1. -/
def createTask (s : StateStore) (t : Task) : Except StateError (StateStore × Task) :=
  if s.tasks.contains t.id.key then .error (.alreadyExists t.id.key)
  else
    let stored := { t with version := 1 }
    .ok (s.store stored, stored)

/-- Stores the next version of a task that was read in its latest version. -/
def putTask (s : StateStore) (t : Task) : Except StateError (StateStore × Task) := do
  let some record := s.tasks.find? t.id.key | throw (.notFound t.id.key)
  let current ← readRecord Task.decode record
  if current.version ≠ t.version then throw (.conflict t.id.key t.version current.version)
  return (s.store t.bump, t.bump)

/-- A stored task. -/
def getTask (s : StateStore) (id : TaskId) : Except StateError (Option Task) :=
  match s.tasks.find? id.key with
  | none => .ok none
  | some record => (readRecord Task.decode record).map some

/-- All stored tasks in the order of their keys. -/
def listTasks (s : StateStore) : Except StateError (List Task) :=
  s.tasks.values.mapM (readRecord Task.decode)

/-- The stored tasks whose life is not over. -/
def listActiveTasks (s : StateStore) : Except StateError (List Task) :=
  s.listTasks.map fun tasks => tasks.filter fun t => !t.isTerminal

/-- Registers an agent, or registers it anew. -/
def putAgent (s : StateStore) (r : AgentRecord) : StateStore :=
  { s with agents := s.agents.insert r.name r.toJson }

/-- A registered agent. -/
def getAgent (s : StateStore) (name : String) : Except StateError (Option AgentRecord) :=
  match s.agents.find? name with
  | none => .ok none
  | some record => (readRecord AgentRecord.decode record).map some

/-- The first registered agents in the order of their names. -/
def listAgents (s : StateStore) (limit : Nat) : Except StateError (List AgentRecord) :=
  (s.agents.values.take limit).mapM (readRecord AgentRecord.decode)

/-- Notes a heartbeat, and whether the agent is registered at all. -/
def heartbeat (s : StateStore) (name : String) (now : Nat) :
    Except StateError (StateStore × Bool) := do
  match ← s.getAgent name with
  | some r => return (s.putAgent { r with lastHeartbeat := now }, true)
  | none => return (s, false)

end StateStore

end TaskFleet
