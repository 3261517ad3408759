import TaskFleet.Execution.Basic

/-!
# Plans

What is run for a request: a program, its arguments and its environment. The command of the task is
the program with its first arguments; a task without a command names the program as its image.
-/

namespace TaskFleet

/-- What to run. -/
structure Plan where
  program : String
  args : List String
  env : Dict String String
deriving DecidableEq, Repr

/-- Why nothing could be run. -/
inductive ExecError where
  | emptyCommand
  | spawn (program cause : String)
deriving DecidableEq, Repr

def ExecError.message : ExecError → String
  | .emptyCommand => "task has neither a command nor an image reference to run"
  | .spawn program cause => "failed to spawn " ++ program ++ ": " ++ cause

namespace Plan

/-- The environment variable with the task's id. -/
def taskVariable : String := "AGENTGRID_TASK"

/-- The environment variable with the name of the agent. -/
def agentVariable : String := "AGENTGRID_AGENT"

/-- The environment variable with the number of the attempt. -/
def attemptVariable : String := "AGENTGRID_ATTEMPT"

/-- The plan for a request. -/
def ofRequest (r : ExecutionRequest) : Except ExecError Plan :=
  let env := (r.env.insert taskVariable r.task.key).insert agentVariable r.agent
  match r.command with
  | program :: args => .ok ⟨program, args ++ r.args, env⟩
  | [] =>
    if Text.isBlankText r.image then .error .emptyCommand
    else .ok ⟨r.image, r.args, env⟩

/-- The environment of an attempt. -/
def envOf (p : Plan) (attempt : Nat) : Dict String String :=
  p.env.insert attemptVariable (toString attempt)

/-- What the system says of a program that is not there. -/
def noSuchFile : String := "No such file or directory (os error 2)"

end Plan

end TaskFleet
