import TaskFleet.Task.Basic
import TaskFleet.Text.Blank

/-!
# Executions

What a substrate is asked to run and what it reports of a run. Progress and the places of results
come as annotations: pairs of texts that the running program prints.
-/

namespace TaskFleet

open Text

/-- All that a substrate needs to run a task. -/
structure ExecutionRequest where
  task : TaskId
  /-- The agent on which capacity is reserved for the task. -/
  agent : String
  image : String
  command : List String
  args : List String
  env : Dict String String
  resources : ResourceSet
  /-- Zero means no timeout. -/
  timeout : Duration
  retry : RetryPolicy
  labels : Dict String String
deriving DecidableEq, Repr, Inhabited

/-- The request to run a task on an agent. -/
def ExecutionRequest.ofTask (t : Task) (agent : String) : ExecutionRequest where
  task := t.id
  agent
  image := t.spec.image
  command := t.spec.command
  args := t.spec.args
  env := t.spec.env
  resources := t.requirement
  timeout := t.spec.timeout
  retry := t.spec.retry
  labels := t.spec.labels

/-- How far an execution has come. `failed` means that no attempt is left. -/
inductive ExecutionState where
  | pending
  | running
  | succeeded
  | failed
deriving DecidableEq, Repr, Inhabited

namespace ExecutionState

/-- The name of a state. -/
def name : ExecutionState → String
  | .pending => "Pending"
  | .running => "Running"
  | .succeeded => "Succeeded"
  | .failed => "Failed"

/-- The state of a name. -/
def ofName? (name : String) : Option ExecutionState :=
  [ExecutionState.pending, .running, .succeeded, .failed].find? fun s => s.name = name

/-- Whether an execution is over. -/
def isTerminal : ExecutionState → Bool
  | .succeeded | .failed => true
  | .pending | .running => false

end ExecutionState

/-- One observation of an execution. -/
structure ExecutionStatus where
  state : ExecutionState
  message : String := ""
  exitCode : Option Int := none
  /-- The attempts started so far. -/
  attempts : Nat := 0
  annotations : Dict String String := .empty
deriving DecidableEq, Repr, Inhabited

namespace ExecutionStatus

/-- What annotation keys begin with. -/
def annotationPrefix : String := "agentgrid.io/"

/-- The annotation that reports progress in percent. -/
def progressKey : String := "agentgrid.io/progress"

/-- The annotation that reports where the output is. -/
def outputKey : String := "agentgrid.io/output"

/-- The annotation that reports where the artifact is. -/
def artifactKey : String := "agentgrid.io/artifact"

/-- The percentage that a text reports, at most a hundred; a text that is no number reports
nothing done. -/
def progressOfText (text : String) : Nat :=
  match bounded? max64 (dropRightWhile (· == '%') (trim text.toList)) with
  | some n => min n 100
  | none => 0

/-- The percentage done. -/
def progress (s : ExecutionStatus) : Nat :=
  ((s.annotations.find? progressKey).map progressOfText).getD 0

/-- Where the output is. -/
def output (s : ExecutionStatus) : Option String :=
  s.annotations.find? outputKey

/-- Where the artifact is. -/
def artifact (s : ExecutionStatus) : Option String :=
  s.annotations.find? artifactKey

end ExecutionStatus

end TaskFleet
