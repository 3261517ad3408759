import TaskFleet.Agent.Source
import TaskFleet.Execution.Substrate
import TaskFleet.Lifecycle.Settings
import TaskFleet.Placement.Schedule
import TaskFleet.Store.Tasks

/-!
# The fleet

All that a pass over a task can see and change: the clock, the ledger, the task store, the source
of agents and the substrate. Calls to the last three can fail (`Faults`) and a pass can be
interrupted at any of its calls (`Token`); both are part of the state, so what holds for every
state holds under every fault and every interrupt. `events` records the calls in their order;
`trail` records what passes do, the tasks that they store included.
-/

namespace TaskFleet

/-- A clock: the whole seconds it started with and the milliseconds that have passed since. -/
structure Clock where
  base : Int
  elapsed : Nat
deriving DecidableEq, Repr

namespace Clock

/-- Seconds since 1970; a time before counts as zero. -/
def now (c : Clock) : Nat :=
  (c.base + (c.elapsed / 1000 : Nat)).toNat

/-- Sets the second, keeping the part of a second that has passed. -/
def setNow (c : Clock) (now : Int) : Clock :=
  { c with base := now - (c.elapsed / 1000 : Nat) }

end Clock

/-- The calls of the lifecycle to its collaborators. -/
inductive Call where
  | get
  | put
  | submit
  | poll
  | cancel
  | forget
  | list
deriving DecidableEq, Repr

namespace Call

/-- The name of a call. -/
def name : Call → String
  | .get => "get"
  | .put => "put"
  | .submit => "submit"
  | .poll => "poll"
  | .cancel => "cancel"
  | .forget => "forget"
  | .list => "list"

/-- All calls. -/
def all : List Call := [.get, .put, .submit, .poll, .cancel, .forget, .list]

/-- The call of a name. -/
def ofName? (name : String) : Option Call :=
  all.find? fun c => c.name = name

end Call

/-- A failure that is due after a number of calls that succeed. -/
structure Fault (ε : Type) where
  skip : Nat
  error : ε
deriving DecidableEq, Repr

/-- What becomes of the next call under a queue of faults: its failure, if it fails, and the queue
after it. Only the first fault of the queue counts down. -/
def Fault.next {ε : Type} : List (Fault ε) → Option ε × List (Fault ε)
  | [] => (none, [])
  | ⟨0, e⟩ :: rest => (some e, rest)
  | ⟨n + 1, e⟩ :: rest => (none, ⟨n, e⟩ :: rest)

/-- The failures to come, by call. -/
structure Faults where
  get : List (Fault StoreError) := []
  put : List (Fault StoreError) := []
  submit : List (Fault String) := []
  poll : List (Fault String) := []
  cancel : List (Fault String) := []
  forget : List (Fault String) := []
  list : List (Fault String) := []
deriving DecidableEq, Repr

/-- An interrupt that strikes at a call of a pass, after a number of such calls. If it stalls the
call, the call has no effect; otherwise the call is made and the pass is interrupted later. -/
structure Gate where
  call : Call
  skip : Nat
  stalls : Bool
deriving DecidableEq, Repr

/-- The token that interrupts a pass: whether it has fired, and what will make it fire. -/
structure Token where
  fired : Bool := false
  gate : Option Gate := none
deriving DecidableEq, Repr

/-- The token when a call is about to be made, and whether the call stalls. -/
def Token.meet (t : Token) (call : Call) : Bool × Token :=
  match t.gate with
  | none => (false, t)
  | some g =>
    if g.call = call then
      match g.skip with
      | 0 => (g.stalls, ⟨true, none⟩)
      | n + 1 => (false, { t with gate := some { g with skip := n } })
    else (false, t)

/-- A call that was made, or a change that slipped in between. -/
inductive Event where
  | listed (limit : Nat)
  | slipped (succeeded : Bool)
  | submitted (handle : String) (task : TaskId) (agent : String)
  | polled (handle : String)
  | cancelled (handle : String)
  | forgotten (handle : String)
deriving DecidableEq, Repr

/-- An event as it is written in a log. -/
def Event.render : Event → String
  | .listed limit => "list " ++ toString limit
  | .slipped succeeded => if succeeded then "during ok" else "during error"
  | .submitted handle task agent => "submit " ++ handle ++ " " ++ task.key ++ " " ++ agent
  | .polled handle => "poll " ++ handle
  | .cancelled handle => "cancel " ++ handle
  | .forgotten handle => "forget " ++ handle

/-- A step of a pass that others can see. -/
inductive Deed where
  /-- A pass over a task begins. -/
  | pass (id : TaskId)
  /-- A task is stored. -/
  | store (t : Task)
  /-- The substrate is asked to run a task, in vain or not, and the ledger and the task store are
  these. -/
  | ask (request : ExecutionRequest) (ledger : Ledger) (store : TaskStore)
  /-- An execution is started for a task. -/
  | start (handle : String) (task : TaskId)
  | poll (handle : String)
  | cancel (handle : String)
  | forget (handle : String)

/-- The state that passes work on. -/
structure Fleet where
  clock : Clock
  ledger : Ledger
  /-- The requests for a resync that have not been taken up. -/
  signals : Nat := 0
  store : TaskStore
  source : AgentSource
  substrate : Substrate
  strategy : Strategy
  /-- What happens to the ledger the next time that agents are scored. -/
  rival : Option Rival := none
  delays : Delays
  faults : Faults := {}
  token : Token := {}
  /-- What is booked while the agents are listed the next time. -/
  slipIn : Option Booking := none
  /-- The calls so far, the latest first. -/
  events : List Event := []
  /-- What passes have done so far, the latest first. -/
  trail : List Deed := []

/-- Computations on the fleet. -/
abbrev FleetM := StateM Fleet

namespace Fleet

/-- The current second. -/
def now (f : Fleet) : Nat := f.clock.now

/-- Records an event. -/
def log (e : Event) : FleetM Unit :=
  modify fun f => { f with events := e :: f.events }

/-- Records what a pass does. -/
def note (d : Deed) : FleetM Unit :=
  modify fun f => { f with trail := d :: f.trail }

/-- Raises a number of requests for a resync. -/
def signal (count : Nat) : FleetM Unit :=
  modify fun f => { f with signals := f.signals + count }

/-- Takes the pending request for a resync, if there is one; many count as one. -/
def takeSignal : FleetM Bool := do
  let f ← get
  set { f with signals := 0 }
  return 0 < f.signals

/-- Changes an agent's reservations; each change asks for a resync. -/
def book (b : Booking) : FleetM (Except LedgerError Unit) := do
  let f ← get
  match f.ledger.book b with
  | .ok ledger =>
    set { f with ledger, signals := f.signals + 1 }
    return .ok ()
  | .error e => return .error e

/-- Places a task by a strategy. -/
def scheduleWith (strategy : Strategy) (rival : Option Rival) (t : Task) :
    FleetM (Except ScheduleError String) := do
  let f ← get
  let placed := f.ledger.schedule t (strategy.score t) rival.toList
  set { f with ledger := placed.ledger, signals := f.signals + placed.changes }
  return placed.result

/-- Places a task by the fleet's strategy. The rival, if there is one, strikes once, when the
first candidate is scored. -/
def schedule (t : Task) : FleetM (Except ScheduleError String) := do
  let f ← get
  let scored := !(f.ledger.feasible t.requirement).isEmpty
  let result ← scheduleWith f.strategy f.rival t
  if scored then modify fun f => { f with rival := none }
  return result

end Fleet

end TaskFleet
