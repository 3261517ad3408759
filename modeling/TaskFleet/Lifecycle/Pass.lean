import TaskFleet.Lifecycle.Dependencies

/-!
# Passes

One pass over a task: it is read, its next status is worked out, and the status is written if it
says something new. A task without an agent is checked, held back until its dependencies are met,
and placed; a placed task is handed to the substrate, watched, and finished. The reservation that
is taken when the task is placed is recorded in its status and given back when it ends.

A pass never fails for good: whatever goes wrong outside becomes a delay after which the task is
looked at again. A pass that is interrupted leaves nothing behind that is not recorded.
-/

namespace TaskFleet

/-- What comes of a pass. -/
inductive Outcome where
  /-- The task is over or gone. -/
  | done
  /-- The task is to be looked at again after a delay. -/
  | requeue (delay : Duration)
  /-- The token fired before the pass was through. -/
  | interrupted
deriving DecidableEq, Repr

/-- The second at which a task times out, if it has a timeout and has been handed off. A part of a
second counts as a whole one. The sum stops at the last second that 64 bits can count; the rounded
timeout itself is taken to fit in 64 bits, as it does for every timeout that was read. -/
def Task.deadline? (t : Task) : Option Nat :=
  if t.spec.timeout.isZero then none
  else t.status.startTime.map fun start => min (start + t.spec.timeout.secsCeil) Text.max64

/-- The repetitions that are left after a number of attempts. -/
def retriesRemaining (limit attempts : Nat) : Nat :=
  limit - (attempts - 1)

/-- The same task with another message. -/
def Task.withMessage (t : Task) (message : String) : Task :=
  { t with status.message := message }

/-- The same task after a change of phase. -/
def Task.transition (t : Task) (phase : Phase) (reason message : String) (now : Nat) : Task :=
  { t with status := t.status.transition phase reason message now }

/-- The message of an execution, or another one if it has none. -/
def ExecutionStatus.messageOr (s : ExecutionStatus) (fallback : String) : String :=
  if s.message.isEmpty then fallback else s.message

/-- The result that an execution leaves behind. -/
def ExecutionStatus.result (s : ExecutionStatus) (exitCode : Int) : TaskResult :=
  ⟨s.exitCode.getD exitCode, s.output, s.artifact⟩

/-- The message of a task whose last attempt has failed. -/
def failureMessage (t : Task) (s : ExecutionStatus) : String :=
  let remaining := if s.attempts = 0 then 0 else retriesRemaining t.spec.retry.limit s.attempts
  "ExecutionFailed: " ++ s.messageOr "execution failed" ++ " (attempt " ++
    toString (max s.attempts 1) ++ " of " ++ toString (min (t.spec.retry.limit + 1) Text.max32) ++
    "); " ++ toString remaining ++ " retries remaining"

/-- What a task's status becomes by what its execution reports. An execution that waits for its
next attempt counts as running once it has run. -/
def deriveStatus (t : Task) (s : ExecutionStatus) (now : Nat) : TaskStatus :=
  let status := { t.status with attempts := s.attempts }
  match s.state with
  | .pending =>
    status.transition (if status.phase = .running then .running else .scheduled)
      "ExecutionPending" (s.messageOr "waiting for execution to start") now
  | .running =>
    { status.transition .running "Started" (s.messageOr "running") now with
      progress := s.progress }
  | .succeeded =>
    { status.transition .completed "Succeeded" (s.messageOr "finished") now with
      progress := 100
      result := some (s.result 0) }
  | .failed =>
    { status.transition .failed "ExecutionFailed" (failureMessage t s) now with
      result := some (s.result 1) }

namespace Fleet

/-- What to do after the store has refused a write or a reading. -/
def outcomeOfStoreError (delays : Delays) : StoreError → Outcome
  | .conflict _ => .requeue delays.conflict
  | .notFound _ => .done
  | .unavailable _ => .requeue delays.transient

/-- Writes the next status if it says something new. -/
def write (current next : Task) (outcome : Outcome) : FleetM Outcome := do
  if next.status.same current.status then return outcome
  match ← interruptible (putTask next) with
  | none => return .interrupted
  | some (.ok _) => return outcome
  | some (.error e) => return outcomeOfStoreError (← get).delays e

/-- Gives back what a task holds once its end is recorded, or the task is gone. -/
def settle (t : Task) (agent : String) : FleetM Unit := do
  release agent t.status.resourcesUsed
  match t.status.execution with
  | some handle => forgetExecution handle
  | none => return

/-- Writes a task's end and gives back what it held. -/
def finish (current next : Task) (agent : String) : FleetM Outcome := do
  match ← interruptible (putTask next) with
  | none => return .interrupted
  | some (.ok _) =>
    settle current agent
    return .done
  | some (.error (.notFound _)) =>
    settle current agent
    return .done
  | some (.error e) => return outcomeOfStoreError (← get).delays e

/-- Ends a task whose cancellation was requested. -/
def cancelTask (t : Task) : FleetM Outcome := do
  if let some handle := t.status.execution then cancelExecution handle
  let next := t.transition .cancelled "Cancelled" "Cancelled: cancellation requested" (← get).now
  match t.status.agent with
  | some agent => finish t next agent
  | none => write t next .done

/-- Hands a placed task to the substrate. If the handle cannot be recorded the execution is
stopped, for nobody else could. A task whose agent has left goes back to be placed again. -/
def handOff (t : Task) (agent : String) : FleetM Outcome := do
  let f ← get
  if (f.ledger.capacity? agent).isNone then
    let next := { t with status.agent := none, status.resourcesUsed := ∅ }.transition .pending
      "AgentLost" ("agent " ++ agent ++ " left the fleet, rescheduling") f.now
    return ← write t next (.requeue f.delays.conflict)
  match ← interruptible (submit (.ofTask t agent)) with
  | none => return .interrupted
  | some (.error e) =>
    write t (t.withMessage ("TransientIOError: execution handoff failed: " ++ e))
      (.requeue f.delays.transient)
  | some (.ok handle) =>
    let next := { t with
      status.execution := some handle
      status.startTime := some f.now
      status.message := "execution " ++ handle ++ " submitted to agent " ++ agent }
    match ← interruptible (putTask next) with
    | some (.ok _) => return .requeue f.delays.poll
    | some (.error e) =>
      cancelExecution handle
      return outcomeOfStoreError f.delays e
    | none =>
      cancelExecution handle
      return .interrupted

/-- The message of a task that has run out of time. -/
def timeoutMessage (t : Task) : String :=
  "Timeout: task exceeded its " ++ t.spec.timeout.render ++ " timeout; " ++
    toString (retriesRemaining t.spec.retry.limit t.status.attempts) ++ " retries remaining"

/-- The delay until the next look at a running task: the poll interval, or what is left until the
deadline if that is less, but no less than a second. -/
def pollDelay (delays : Delays) (t : Task) (now : Nat) : Duration :=
  match t.deadline? with
  | none => delays.poll
  | some deadline => delays.poll.min (.ofSecs (max (deadline - now) 1))

/-- Looks after a task that has an execution. -/
def watch (t : Task) (agent handle : String) : FleetM Outcome := do
  let f ← get
  if (t.deadline?.map fun deadline => decide (deadline ≤ f.now)).getD false then
    cancelExecution handle
    return ← finish t (t.transition .failed "Timeout" (timeoutMessage t) f.now) agent
  match ← interruptible (poll handle) with
  | none => return .interrupted
  | some (.error e) =>
    write t (t.withMessage ("TransientIOError: status poll failed: " ++ e))
      (.requeue f.delays.transient)
  | some (.ok status) =>
    let next := { t with status := deriveStatus t status f.now }
    if next.isTerminal then finish t next agent
    else write t next (.requeue (pollDelay f.delays t f.now))

/-- Looks after a task that has an agent. -/
def drive (t : Task) (agent : String) : FleetM Outcome :=
  match t.status.execution with
  | some handle => watch t agent handle
  | none => handOff t agent

/-- Places a task and goes on with it. Until its status is written the reservation belongs to this
pass alone. -/
def place (t : Task) : FleetM Outcome := do
  let f ← get
  match ← schedule t with
  | .error e@(.noCapacity ..) =>
    write t (t.withMessage ("NoCapacity: " ++ e.message)) (.requeue f.delays.capacity)
  | .error e =>
    write t (t.withMessage ("Conflict: " ++ e.message)) (.requeue f.delays.conflict)
  | .ok agent =>
    let next := { t with
      status.agent := some agent
      status.resourcesUsed := t.requirement }.transition .scheduled "Scheduled"
        ("scheduled on agent " ++ agent) f.now
    match ← interruptible (putTask next) with
    | some (.ok stored) => drive stored agent
    | some (.error e) =>
      release agent t.requirement
      return outcomeOfStoreError f.delays e
    | none =>
      release agent t.requirement
      return .interrupted

/-- Checks a task without an agent, and places it if nothing holds it back. -/
def prepare (t : Task) : FleetM Outcome := do
  let f ← get
  match t.validate with
  | .error e =>
    write t (t.transition .failed "ValidationFailed"
      ("ValidationError: invalid spec: " ++ e.message) f.now) .done
  | .ok () =>
    match ← interruptible (checkDependencies t) with
    | none => return .interrupted
    | some (.ok true) => place t
    | some (.ok false) =>
      write t (t.withMessage "waiting for dependencies") (.requeue f.delays.dependency)
    | some (.error e) =>
      write t (t.withMessage ("FetchError: " ++ e.message)) (.requeue f.delays.transient)

/-- Takes a task that was read to its next status. -/
def advance (t : Task) : FleetM Outcome :=
  if t.isTerminal then return .done
  else if t.cancelRequested then cancelTask t
  else match t.status.agent with
    | none => prepare t
    | some agent => drive t agent

/-- One pass over a task. -/
def reconcile (id : TaskId) : FleetM Outcome := do
  note (.pass id)
  match ← interruptible (getTask id) with
  | none => return .interrupted
  | some (.ok t) => advance t
  | some (.error (.notFound _)) => return .done
  | some (.error _) => return .requeue (← get).delays.transient

end Fleet

end TaskFleet
