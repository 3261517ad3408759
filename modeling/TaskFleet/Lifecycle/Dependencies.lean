import TaskFleet.Lifecycle.Calls

/-!
# Dependencies

Whether the tasks that a task waits for have reached the phases it asks for. They are looked up in
the order of declaration; the first that is in another phase, or cannot be read, decides.
-/

namespace TaskFleet

/-- A task that others wait for could not be read. -/
structure DependencyError where
  task : TaskId
  cause : StoreError
deriving DecidableEq, Repr

def DependencyError.message (e : DependencyError) : String :=
  "failed to fetch dependency " ++ e.task.key ++ ": " ++ e.cause.message

namespace Fleet

/-- The phase of a stored task. -/
def getPhase (id : TaskId) : FleetM (Option (Except StoreError Phase)) := do
  return (← getTask id).map fun r => r.map Task.phase

/-- Checks the dependencies of the task `id` one after the other. -/
def checkAll (id : TaskId) : List Dependency → FleetM (Option (Except DependencyError Bool))
  | [] => return some (.ok true)
  | d :: rest => do
    match ← getPhase (id.resolve d.task) with
    | none => return none
    | some (.error cause) => return some (.error ⟨id.resolve d.task, cause⟩)
    | some (.ok phase) => if phase = d.phase then checkAll id rest else return some (.ok false)

/-- Whether all dependencies of a task are met. -/
def checkDependencies (t : Task) : FleetM (Option (Except DependencyError Bool)) :=
  checkAll t.id t.spec.dependencies

end Fleet

end TaskFleet
