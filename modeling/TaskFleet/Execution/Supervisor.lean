import TaskFleet.Execution.Annotation
import TaskFleet.Execution.Plan

/-!
# Supervision

How a program is run until it succeeds, its retries are used up, its time is over, or it is
cancelled. `Supervisor.step` takes a supervisor to its next event and sets its clock to the time of
that event; `cancel` is the only thing that happens from outside. What the attempts do, and how long
each takes, is given with the job.
-/

namespace TaskFleet

/-- How an attempt ends by itself. -/
inductive Ending where
  | exited (code : Int)
  | signalled
deriving DecidableEq, Repr

/-- What an attempt does once it has started. -/
structure Attempt where
  /-- How long it takes, if it ends by itself. -/
  length : Option Duration
  ending : Ending
  stdout : Text.Bytes
  stderr : Text.Bytes
deriving DecidableEq, Repr

/-- Something to be run under supervision. -/
structure Job where
  /-- What comes of starting the attempt of a number, counted from one. -/
  attempts : Nat → Except ExecError Attempt
  retry : RetryPolicy
  /-- Zero means no timeout. -/
  timeout : Duration

namespace Job

/-- The most attempts that are made. -/
def maxAttempts (j : Job) : Nat :=
  min (j.retry.limit + 1) Text.max32

/-- The time after which nothing of the job goes on. -/
def deadline? (j : Job) : Option Nat :=
  if j.timeout.isZero then none else some j.timeout.nanos

/-- The seconds that the clock can count. -/
def maxSeconds : Nat := 0x7FFFFFFFFFFFFFFF

/-- Whether the clock cannot count up to the end of the job's time, which begins when it shows so many
nanoseconds. -/
def isBeyondClock (j : Job) (reading : Nat) : Bool :=
  j.deadline?.any fun deadline => (maxSeconds + 1) * 1000000000 ≤ reading + deadline

/-- The message of a job whose time is over. -/
def timeoutMessage (j : Job) : String :=
  "timed out after " ++ j.timeout.render

end Job

/-- What a supervisor is at. -/
inductive Stage where
  /-- The attempt of a number is to be started. -/
  | starting (number : Nat)
  /-- An attempt is running since a time. -/
  | running (number : Nat) (attempt : Attempt) (since : Nat)
  /-- The next attempt is to be started at a time. -/
  | resting (number : Nat) (wakes : Nat)
  | over
deriving DecidableEq, Repr

/-- An attempt that was started, or that was to be started and could not be. -/
structure Start where
  number : Nat
  time : Nat
deriving DecidableEq, Repr

/-- A job under supervision. Its clock counts nanoseconds from the submission, whatever the clock of
the machine showed then. -/
structure Supervisor where
  job : Job
  status : ExecutionStatus
  stage : Stage
  clock : Nat
  cancelled : Bool
  /-- The attempts so far, the latest first. -/
  starts : List Start := []

namespace Supervisor

/-- The status of a job that has not been started. -/
def waiting : ExecutionStatus := { state := .pending, message := "waiting to start" }

/-- A job that has just been submitted, while the clock of the machine shows so many nanoseconds. If
that clock cannot count up to the end of the job's time, it is never started and keeps its status. -/
def submit (reading : Nat) (j : Job) : Supervisor where
  job := j
  status := waiting
  stage := if j.isBeyondClock reading then .over else .starting 1
  clock := 0
  cancelled := false

/-- Ends the job in a state. -/
def finish (s : Supervisor) (state : ExecutionState) (message : String) (exitCode : Option Int) :
    Supervisor :=
  { s with status := { s.status with state, message, exitCode }, stage := .over }

/-- What a failed attempt says of its end. -/
def reason (a : Attempt) : String :=
  let ended := match a.ending with
    | .exited code => "exited with code " ++ toString code
    | .signalled => "terminated by signal"
  match Output.tail? a.stderr with
  | some tail => ended ++ ": " ++ tail
  | none => ended

/-- The exit code that an ending leaves. -/
def Ending.code? : Ending → Option Int
  | .exited code => some code
  | .signalled => none

/-- Starts an attempt. One that cannot be started ends the job, and so does a cancellation that
came before. -/
def start (s : Supervisor) (number : Nat) : Supervisor :=
  let s := { s with
    status := { s.status with
      state := .running
      attempts := number
      exitCode := none
      message := "attempt " ++ toString number ++ " of " ++ toString s.job.maxAttempts ++
        " running" }
    starts := ⟨number, s.clock⟩ :: s.starts }
  match s.job.attempts number with
  | .error e => s.finish .failed e.message none
  | .ok a =>
    if s.cancelled then s.finish .failed "cancelled" none
    else
      { s with
        status.annotations := Output.annotations s.status.annotations a.stdout
        stage := .running number a s.clock }

/-- What follows the end of an attempt: success, another attempt after a rest, or failure. The rest
does not outlast the job's time. -/
def conclude (s : Supervisor) (number : Nat) (a : Attempt) : Supervisor :=
  if a.ending = .exited 0 then s.finish .succeeded "exited with code 0" (some 0)
  else
    let code := Ending.code? a.ending
    if number = s.job.maxAttempts then s.finish .failed (reason a) code
    else
      let wakes := s.clock + s.job.retry.backoff.nanos
      { s with
        status := { s.status with
          state := .pending
          exitCode := code
          message := reason a ++ "; restarting in " ++ s.job.retry.backoff.render }
        stage := .resting number ((s.job.deadline?.map (min wakes)).getD wakes) }

/-- The time of the next event; `none` if nothing more happens by itself. -/
def nextEvent? (s : Supervisor) : Option Nat :=
  match s.stage with
  | .starting _ => some s.clock
  | .running _ a since =>
    match a.length.map fun d => since + d.nanos, s.job.deadline? with
    | some ends, some deadline => some (min ends deadline)
    | some ends, none => some ends
    | none, deadline => deadline
  | .resting _ wakes => some wakes
  | .over => none

/-- Whether the job's time is over. -/
def isExpired (s : Supervisor) : Bool :=
  (s.job.deadline?.map fun deadline => decide (deadline ≤ s.clock)).getD false

/-- What happens at the time of the next event. -/
def handle (s : Supervisor) : Supervisor :=
  match s.stage with
  | .starting number => s.start number
  | .running number a _ =>
    if s.isExpired then s.finish .failed s.job.timeoutMessage none else s.conclude number a
  | .resting number _ =>
    if s.isExpired then s.finish .failed s.job.timeoutMessage s.status.exitCode
    else s.start (number + 1)
  | .over => s

/-- Goes on to the next event. -/
def step (s : Supervisor) : Supervisor :=
  match s.nextEvent? with
  | none => s
  | some time => { s with clock := max s.clock time }.handle

/-- Cancels the job at its present time. -/
def cancel (s : Supervisor) : Supervisor :=
  match s.stage with
  | .starting _ => { s with cancelled := true }
  | .running _ _ _ => { s with cancelled := true }.finish .failed "cancelled" none
  | .resting _ _ => { s with cancelled := true }.finish .failed "cancelled" s.status.exitCode
  | .over => s

/-- Goes on, by at most so many events, until the status is as it is waited for or nothing more
happens. -/
def runUntil (p : ExecutionStatus → Bool) : Nat → Supervisor → Supervisor
  | 0, s => s
  | events + 1, s =>
    if p s.status || s.nextEvent?.isNone then s else runUntil p events s.step

/-- Goes on, by at most so many events, with everything that happens up to a time. -/
def runThrough (time : Nat) : Nat → Supervisor → Supervisor
  | 0, s => s
  | events + 1, s =>
    if s.nextEvent?.any fun next => next ≤ time then runThrough time events s.step else s

/-- The events that a job can have at most: the start, the end and the rest of each attempt. -/
def maxEvents (s : Supervisor) : Nat :=
  3 * s.job.maxAttempts + 1

/-- Whether the job is over. -/
def isOver (s : Supervisor) : Bool :=
  s.stage = .over

/-- Runs the job to its end, unless an attempt runs for ever. -/
def run (s : Supervisor) : Supervisor :=
  s.runUntil (fun status => status.state.isTerminal) s.maxEvents

end Supervisor

end TaskFleet
