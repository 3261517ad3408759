import TaskFleet.Task.Id
import TaskFleet.Task.Spec
import TaskFleet.Task.Status
import TaskFleet.Text.Blank

/-!
# Tasks

A unit of submitted work: what is asked for, what has become of it, and the number of its stored
version. `validate` finds the first thing that is wrong with what is asked for.
-/

namespace TaskFleet

/-- A unit of submitted work. -/
structure Task where
  id : TaskId
  spec : TaskSpec
  status : TaskStatus
  /-- Raised by the store with every write. -/
  version : Nat
  cancelRequested : Bool
  /-- Seconds since 1970. -/
  createdAt : Nat
deriving DecidableEq, Repr, Inhabited

/-- Why a task cannot be run. -/
inductive ValidationError where
  | emptyName
  | missingImage
  | requestExceedsLimit (kind : ResourceKind) (request limit : Quantity)
  | retryLimitTooHigh (limit : Nat)
  | selfDependency
  | emptyDependency
deriving DecidableEq, Repr

/-- The most repetitions that a task may ask for. -/
def maxRetryLimit : Nat := 100

def ValidationError.message : ValidationError → String
  | .emptyName => "task name is empty"
  | .missingImage => "imageRef is required"
  | .requestExceedsLimit kind request limit =>
    "request for " ++ kind.name ++ " (" ++ request.render ++ ") exceeds its limit (" ++
      limit.render ++ ")"
  | .retryLimitTooHigh limit =>
    "retry limit " ++ toString limit ++ " exceeds the maximum of " ++ toString maxRetryLimit
  | .selfDependency => "task depends on itself"
  | .emptyDependency => "dependency has an empty task id"

namespace Task

/-- A task as it is submitted. -/
def new (id : TaskId) (spec : TaskSpec) (now : Nat) : Task where
  id
  spec
  status := .initial
  version := 0
  cancelRequested := false
  createdAt := now

/-- The phase of a task. -/
def phase (t : Task) : Phase := t.status.phase

/-- Whether a task's life is over. -/
def isTerminal (t : Task) : Bool := t.phase.isTerminal

/-- What is reserved on an agent for the task. -/
def requirement (t : Task) : ResourceSet := t.spec.resources.effective

/-- The first request that is above its limit; without limits nothing is. -/
def checkLimits (r : Requirements) : Except ValidationError Unit :=
  if r.hasLimits then
    r.requests.toList.forM fun e =>
      if r.limits.get e.1 < e.2 then
        throw (.requestExceedsLimit e.1 e.2 (r.limits.get e.1))
      else return
  else return

/-- Refuses a dependency without a name and one on the task itself. -/
def checkDependency (id : TaskId) (d : Dependency) : Except ValidationError Unit := do
  if Text.isBlankText d.task then throw .emptyDependency
  if id.resolve d.task = id then throw .selfDependency

/-- Finds the first thing that is wrong with what a task asks for. -/
def validate (t : Task) : Except ValidationError Unit := do
  if Text.isBlankText t.id.name then throw .emptyName
  if Text.isBlankText t.spec.image then throw .missingImage
  checkLimits t.spec.resources
  if maxRetryLimit < t.spec.retry.limit then throw (.retryLimitTooHigh t.spec.retry.limit)
  t.spec.dependencies.forM (checkDependency t.id)

end Task

end TaskFleet
