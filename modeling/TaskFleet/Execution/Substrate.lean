import TaskFleet.Execution.Basic

/-!
# Substrates

What runs executions, as far as the lifecycle can see it: a table of executions by handle. A
`Launch` says how handles are named, what a new execution reports, and whether a handle that is not
in the table is an error or an execution that has failed for good. An execution that goes on by
itself waits for its turn before it reports anything new.
-/

namespace TaskFleet

/-- What a new execution reports. -/
structure Course where
  /-- What it reports first. -/
  first : ExecutionStatus
  /-- What it reports when it has had its turn, if that is something else. -/
  final : Option ExecutionStatus := none
deriving DecidableEq, Repr

/-- The manners of a substrate. -/
structure Launch where
  /-- What a handle is made of, before its number. -/
  stem : String
  /-- What a new execution reports, or why it cannot be started. -/
  start : ExecutionRequest → Except String Course
  /-- Whether an unknown handle is reported as failed. -/
  forgetful : Bool

/-- The executions of a substrate. -/
structure Substrate where
  launch : Launch
  /-- The number of the last handle. -/
  issued : Nat := 0
  executions : Dict String ExecutionStatus := .empty
  /-- The executions that wait for their turn, and what they report after it, the latest last. -/
  waiting : List (String × ExecutionStatus) := []
  /-- All requests so far, the latest first. -/
  requests : List ExecutionRequest := []

namespace Substrate

/-- The handle of a number. -/
def handle (s : Substrate) (n : Nat) : String :=
  s.launch.stem ++ toString n

/-- Starts an execution under a new handle. -/
def submit (s : Substrate) (request : ExecutionRequest) : Except String (Substrate × String) :=
  (s.launch.start request).map fun course =>
    let handle := s.handle (s.issued + 1)
    ({ s with
        issued := s.issued + 1
        executions := s.executions.insert handle course.first
        waiting := s.waiting ++ course.final.toList.map fun status => (handle, status)
        requests := request :: s.requests }, handle)

/-- What a substrate says of a handle that it does not know. -/
def unknown (handle : String) : String :=
  "unknown execution " ++ handle

/-- What an execution reports. -/
def poll (s : Substrate) (handle : String) : Except String ExecutionStatus :=
  match s.executions.find? handle with
  | some status => .ok status
  | none =>
    if s.launch.forgetful then .ok { state := .failed, message := unknown handle }
    else .error (unknown handle)

/-- Drops an execution. -/
def forget (s : Substrate) (handle : String) : Substrate :=
  { s with executions := s.executions.erase handle }

/-- Sets what one execution reports, known before or not. -/
def setReport (s : Substrate) (handle : String) (status : ExecutionStatus) : Substrate :=
  { s with executions := s.executions.insert handle status }

/-- Gives an execution its turn, unless it has been dropped. -/
def settle (s : Substrate) (handle : String) (status : ExecutionStatus) : Substrate :=
  if s.executions.contains handle then s.setReport handle status else s

/-- Sets what every known execution reports. -/
def setReports (s : Substrate) (status : ExecutionStatus) : Substrate :=
  { s with executions := s.executions.map fun _ _ => status }

end Substrate

end TaskFleet
