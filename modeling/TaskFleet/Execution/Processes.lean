import TaskFleet.Execution.Program
import TaskFleet.Execution.Substrate

/-!
# Processes

The substrate of a single host: each execution is a job under supervision, known by a handle until
it is forgotten. Handles are numbered from one. Time passes when something is waited for, and it
passes for all jobs.
-/

namespace TaskFleet

/-- A job under supervision on a host. -/
structure Process where
  /-- The time of the submission, in nanoseconds from the start of the host. -/
  submitted : Nat
  supervisor : Supervisor

namespace Process

/-- The events of a job that are looked at while another one is waited for. -/
def maxEvents : Nat := 1000

/-- Lets time pass for a job. -/
def passUntil (time : Nat) (job : Process) : Process :=
  { job with supervisor := job.supervisor.runThrough (time - job.submitted) maxEvents }

end Process

/-- What the clock of a machine shows, in nanoseconds, when a host is started on it and nothing else
is said: an hour. -/
def Process.uptime : Nat := 3600 * 1000000000

/-- The supervised jobs of a host. -/
structure Processes where
  /-- The number of the last handle. -/
  issued : Nat := 0
  jobs : Dict String Process := .empty
  /-- The time in nanoseconds from the start of the host. -/
  clock : Nat := 0
  /-- What the clock of the machine showed at the start of the host. -/
  uptime : Nat := Process.uptime
  /-- Whether the host has been shut down. -/
  stopped : Bool := false

namespace Processes

/-- What handles begin with. -/
def stem : String := "proc-"

/-- Submits a job under a new handle. After a shutdown it is cancelled from the start. -/
def submit (p : Processes) (j : Job) : Processes × String :=
  let handle := stem ++ toString (p.issued + 1)
  let s := { Supervisor.submit (p.uptime + p.clock) j with cancelled := p.stopped }
  ({ p with issued := p.issued + 1, jobs := p.jobs.insert handle ⟨p.clock, s⟩ }, handle)

/-- What an execution reports; one that is not known has failed. -/
def poll (p : Processes) (handle : String) : ExecutionStatus :=
  match p.jobs.find? handle with
  | some job => job.supervisor.status
  | none => { state := .failed, message := Substrate.unknown handle }

/-- Lets a job go on until its status is as it is waited for, and the others meanwhile. If the
status is so already, no time passes. -/
def await (p : Processes) (handle : String) (ready : ExecutionStatus → Bool) : Processes :=
  match p.jobs.find? handle with
  | none => p
  | some job =>
    if ready job.supervisor.status then p
    else
      let s := job.supervisor.runUntil ready job.supervisor.maxEvents
      let clock := max p.clock (job.submitted + s.clock)
      let jobs := p.jobs.map fun _ other => other.passUntil clock
      { p with clock, jobs := jobs.insert handle { job with supervisor := s } }

/-- Cancels a job. -/
def cancel (p : Processes) (handle : String) : Processes :=
  match p.jobs.find? handle with
  | none => p
  | some job =>
    { p with jobs := p.jobs.insert handle { job with supervisor := job.supervisor.cancel } }

/-- Forgets a job. -/
def forget (p : Processes) (handle : String) : Processes :=
  { p with jobs := p.jobs.erase handle }

/-- The number of jobs that are not over. -/
def running (p : Processes) : Nat :=
  (p.jobs.values.filter fun job => !job.supervisor.isOver).length

/-- Ends all jobs and forgets them. -/
def shutdown (p : Processes) : Processes :=
  { p with jobs := .empty, stopped := true }

/-- The manners of this substrate, seen from the lifecycle: an execution waits for its turn and is
over when it has had it. The clock of the machine is taken to show the same for all of them. -/
def launch (uptime : Nat) : Launch where
  stem := stem
  start := fun r => ((r.job none).mapError ExecError.message).map fun j =>
    ⟨Supervisor.waiting, some (Supervisor.submit uptime j).run.status⟩
  forgetful := true

end Processes

end TaskFleet
