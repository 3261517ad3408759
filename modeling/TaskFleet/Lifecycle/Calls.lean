import TaskFleet.Lifecycle.Fleet

/-!
# Calls

Each call of the lifecycle to a collaborator, with the faults and the interrupt that may meet it.
A call that an interrupt stalls gives `none` and has no effect; a call that fails has no effect
either. `interruptible` makes a call unless the token has fired before.
-/

namespace TaskFleet.Fleet

/-- Lets the token meet a call, and tells whether the call stalls. -/
def meet (call : Call) : FleetM Bool := do
  let f ← get
  let (stalls, token) := f.token.meet call
  set { f with token }
  return stalls

/-- Makes a call unless the token has fired; `none` if it has, or if the call stalls. -/
def interruptible {α : Type} (call : FleetM (Option α)) : FleetM (Option α) := do
  if (← get).token.fired then return none else call

/-- Reads a task. -/
def getTask (id : TaskId) : FleetM (Option (Except StoreError Task)) := do
  if ← meet .get then return none
  let f ← get
  let (fault, rest) := Fault.next f.faults.get
  set { f with faults.get := rest }
  match fault with
  | some e => return some (.error e)
  | none => return some (f.store.get id)

/-- Writes a task. -/
def putTask (t : Task) : FleetM (Option (Except StoreError Task)) := do
  if ← meet .put then return none
  let f ← get
  let (fault, rest) := Fault.next f.faults.put
  let f := { f with faults.put := rest }
  match fault with
  | some e =>
    set f
    return some (.error e)
  | none => match f.store.put t with
    | .ok (store, stored) =>
      set { f with store, trail := .store stored :: f.trail }
      return some (.ok stored)
    | .error e =>
      set f
      return some (.error e)

/-- Starts an execution. -/
def submit (request : ExecutionRequest) : FleetM (Option (Except String String)) := do
  let f ← get
  note (.ask request f.ledger f.store)
  if ← meet .submit then return none
  let f ← get
  let (fault, rest) := Fault.next f.faults.submit
  let f := { f with faults.submit := rest }
  match fault with
  | some e =>
    set f
    return some (.error e)
  | none => match f.substrate.submit request with
    | .error e =>
      set f
      return some (.error e)
    | .ok (substrate, handle) =>
      set { f with substrate }
      log (.submitted handle request.task request.agent)
      note (.start handle request.task)
      return some (.ok handle)

/-- Asks what an execution reports. -/
def poll (handle : String) : FleetM (Option (Except String ExecutionStatus)) := do
  note (.poll handle)
  if ← meet .poll then return none
  log (.polled handle)
  let f ← get
  let (fault, rest) := Fault.next f.faults.poll
  set { f with faults.poll := rest }
  match fault with
  | some e => return some (.error e)
  | none => return some (f.substrate.poll handle)

/-- Asks the substrate to stop an execution. A failure is not followed up. -/
def cancelExecution (handle : String) : FleetM Unit := do
  log (.cancelled handle)
  note (.cancel handle)
  modify fun f => { f with faults.cancel := (Fault.next f.faults.cancel).2 }

/-- Asks the substrate to drop an execution. A failure is not followed up. -/
def forgetExecution (handle : String) : FleetM Unit := do
  log (.forgotten handle)
  note (.forget handle)
  let f ← get
  let (fault, rest) := Fault.next f.faults.forget
  match fault with
  | some _ => set { f with faults.forget := rest }
  | none => set { f with faults.forget := rest, substrate := f.substrate.forget handle }

/-- Gives a reservation back. An agent that is gone has nothing to give back to. -/
def release (agent : String) (amount : ResourceSet) : FleetM Unit := do
  let _ ← book (.release agent amount)

/-- Lists the agents of the source itself. Only a database has a registry, and listing it notes
heartbeats there, also when it fails in the end. -/
def observe (f : Fleet) (limit : Nat) : Fleet × Except String (List Observation) :=
  match f.source, f.store with
  | .fixed agents, _ => (f, .ok (agents.take limit))
  | .registry _ _, .memory _ => (f, .ok [])
  | .registry staleAfter hosted, .durable state =>
    let (state, observed) := state.observeAgents limit f.now staleAfter hosted
    ({ f with store := .durable state }, observed.mapError StateError.message)

/-- Makes the booking that waits for the agents to be listed. -/
def bookSlipIn : FleetM Unit := do
  match (← get).slipIn with
  | none => return
  | some b =>
    modify fun f => { f with slipIn := none }
    let result ← book b
    log (.slipped result.isOk)

/-- Lists at most `limit` agents. -/
def listAgents (limit : Nat) : FleetM (Except String (List Observation)) := do
  log (.listed limit)
  let f ← get
  let (fault, rest) := Fault.next f.faults.list
  let f := { f with faults.list := rest }
  match fault with
  | some e =>
    set f
    return .error e
  | none => match f.observe limit with
    | (f, .error e) =>
      set f
      return .error e
    | (f, .ok observed) =>
      set f
      bookSlipIn
      return .ok observed

/-- Rebuilds the ledger from the source; if the source fails the ledger stays as it is. -/
def resync (pageSize : Nat) : FleetM (Except LedgerError ResyncReport) := do
  match ← listAgents pageSize with
  | .error e => return .error (.source e)
  | .ok observed =>
    let f ← get
    let (ledger, report) := f.ledger.resync observed
    set { f with ledger }
    return .ok report

end TaskFleet.Fleet
