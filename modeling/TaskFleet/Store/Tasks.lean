import TaskFleet.Store.State

/-!
# The task store

Where the lifecycle keeps tasks: in memory under their ids, or in the database of records under
the text of their ids. Both refuse to write a task that has changed since it was read.
-/

namespace TaskFleet

/-- A store of tasks. -/
inductive TaskStore where
  | memory (tasks : Dict TaskId Task)
  | durable (state : StateStore)
deriving Repr, Inhabited

namespace TaskStore

/-- A stored task. -/
def get (s : TaskStore) (id : TaskId) : Except StoreError Task :=
  match s with
  | .memory tasks => match tasks.find? id with
    | some t => .ok t
    | none => .error (.notFound id.key)
  | .durable state => match state.getTask id with
    | .ok (some t) => .ok t
    | .ok none => .error (.notFound id.key)
    | .error e => .error (.ofState e)

/-- Stores the next version of a task that was read in its latest version. -/
def put (s : TaskStore) (t : Task) : Except StoreError (TaskStore × Task) :=
  match s with
  | .memory tasks => match tasks.find? t.id with
    | none => .error (.notFound t.id.key)
    | some current =>
      if current.version = t.version then
        .ok (.memory (tasks.insert t.id t.bump), t.bump)
      else .error (.conflict t.id.key)
  | .durable state => match state.putTask t with
    | .ok (state, stored) => .ok (.durable state, stored)
    | .error e => .error (.ofState e)

/-- Stores a task as version 1. In memory it replaces a task of the same id; in the database it
must be new. -/
def insert (s : TaskStore) (t : Task) : Except StateError (TaskStore × Task) :=
  match s with
  | .memory tasks =>
    let stored := { t with version := 1 }
    .ok (.memory (tasks.insert t.id stored), stored)
  | .durable state => (state.createTask t).map fun r => (.durable r.1, r.2)

/-- All stored tasks, in the order of their ids in memory and of their keys in the database. -/
def list (s : TaskStore) : Except StateError (List Task) :=
  match s with
  | .memory tasks => .ok tasks.values
  | .durable state => state.listTasks

/-- The database, if tasks are kept in one. -/
def state? : TaskStore → Option StateStore
  | .memory _ => none
  | .durable state => some state

end TaskStore

end TaskFleet
