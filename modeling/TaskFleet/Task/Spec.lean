import TaskFleet.Duration
import TaskFleet.Resource.Set
import TaskFleet.Task.Phase

/-!
# What a task asks for

The desired state of a task: what to run, on how much of each resource, how long, how often, and
after which other tasks.
-/

namespace TaskFleet

/-- Resources asked for and the most that may be used. -/
structure Requirements where
  requests : ResourceSet
  limits : ResourceSet
deriving DecidableEq, Repr, Inhabited

namespace Requirements

/-- Whether any limit is listed, be it zero. -/
def hasLimits (r : Requirements) : Bool :=
  0 < r.limits.size

/-- What a task reserves: its limits if it lists any, otherwise its requests. -/
def effective (r : Requirements) : ResourceSet :=
  if r.hasLimits then r.limits else r.requests

end Requirements

/-- How often a failed attempt may be repeated, and after which delay. -/
structure RetryPolicy where
  limit : Nat
  backoff : Duration
deriving DecidableEq, Repr, Inhabited

/-- Another task and the phase it must have reached before this one starts. -/
structure Dependency where
  /-- A name in the task's own namespace, or a namespace and a name. -/
  task : String
  phase : Phase
deriving DecidableEq, Repr

/-- The desired state of a task. -/
structure TaskSpec where
  description : String
  image : String
  command : List String
  args : List String
  env : Dict String String
  resources : Requirements
  /-- The higher, the more urgent. -/
  priority : Int
  /-- Zero means no timeout. -/
  timeout : Duration
  retry : RetryPolicy
  dependencies : List Dependency
  labels : Dict String String
deriving DecidableEq, Repr, Inhabited

end TaskFleet
