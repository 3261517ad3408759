import TaskFleet.Lifecycle.Cancel
import TaskFleet.Spool.Basic

/-!
# The host

Who works on the fleet, and when: a worker for each task that is tracked, the loop that resyncs
the ledger, and the loop that scans the spool. Each has its turn, falls asleep for a time, and is
woken early by a cancellation or by a request for a resync. An execution that has been submitted
has one turn after those who can go on already. Those who can go on wait in a queue;
those whose sleep ends at the same time go on in the order in which they fell asleep. Time passes
only when everyone sleeps.
-/

namespace TaskFleet

/-- Someone who works on the fleet. -/
inductive Actor where
  /-- The worker of a number. -/
  | worker (serial : Nat)
  | resync
  | scan
  /-- An execution, and what it reports after its turn. -/
  | execution (handle : String) (status : ExecutionStatus)
deriving DecidableEq, Repr

/-- The worker of a task. -/
structure Worker where
  serial : Nat
  /-- Whether its work is not over. -/
  live : Bool
  /-- Whether it was woken before it fell asleep. -/
  woken : Bool
deriving DecidableEq, Repr

/-- Someone who sleeps, and the time in milliseconds at which the sleep ends. -/
structure Sleeper where
  due : Nat
  actor : Actor
deriving DecidableEq, Repr

/-- The spool that is scanned, and how often. A spool that is not there cannot be scanned. -/
structure SpoolWatch where
  directory : Option Directory
  interval : Duration
deriving Repr

/-- The fleet and all who work on it. -/
structure Host where
  fleet : Fleet
  workers : Dict TaskId Worker := .empty
  /-- The number of the last worker. -/
  hired : Nat := 0
  /-- Those who can go on, the next one first. -/
  ready : List Actor := []
  /-- Those who sleep, in the order in which they fell asleep. -/
  sleepers : List Sleeper := []
  /-- The settings of the resync loop while it runs. -/
  resyncLoop : Option ResyncSettings := none
  spool : Option SpoolWatch := none
  /-- Whether the workers have been told to stop for good. -/
  stopped : Bool := false

/-- Computations on the host. -/
abbrev HostM := StateM Host

namespace Host

/-- The milliseconds that have passed. -/
def elapsed (h : Host) : Nat := h.fleet.clock.elapsed

/-- A computation on the fleet as one on its host. -/
def onFleet {α : Type} (x : FleetM α) : HostM α :=
  modifyGet fun h => let (a, fleet) := x.run h.fleet; (a, { h with fleet })

/-- Puts someone at the end of the queue. -/
def enqueue (a : Actor) : HostM Unit :=
  modify fun h => { h with ready := h.ready ++ [a] }

/-- Gives someone the next turn. -/
def goOn (a : Actor) : HostM Unit :=
  modify fun h => { h with ready := a :: h.ready }

/-- Sends someone to sleep; who is not to sleep at all goes on. -/
def sleep (a : Actor) (d : Duration) : HostM Unit := do
  if d.millis = 0 then goOn a
  else modify fun h => { h with sleepers := h.sleepers ++ [⟨h.elapsed + d.millis, a⟩] }

/-- Whether someone sleeps. -/
def isAsleep (h : Host) (a : Actor) : Bool :=
  h.sleepers.any fun s => s.actor == a

/-- Wakes someone. -/
def wake (a : Actor) : HostM Unit := do
  modify fun h => { h with sleepers := h.sleepers.filter fun s => s.actor != a }
  enqueue a

/-- Forgets someone who will not go on. -/
def dismiss (a : Actor) : HostM Unit :=
  modify fun h => { h with
    sleepers := h.sleepers.filter fun s => s.actor != a
    ready := h.ready.filter fun b => b != a }

/-- Passes a request for a resync on to the resync loop, if it sleeps. -/
def deliverSignal : HostM Unit := do
  let h ← get
  if h.isAsleep .resync && 0 < h.fleet.signals then
    set { h with fleet.signals := h.fleet.signals - 1 }
    wake .resync

/-- The task of a worker, and the worker. -/
def workerOf? (h : Host) (serial : Nat) : Option (TaskId × Worker) :=
  h.workers.entries.find? fun e => e.2.serial = serial

/-- Changes what is known of a worker. -/
def setWorker (id : TaskId) (w : Worker) : HostM Unit :=
  modify fun h => { h with workers := h.workers.insert id w }

/-- A worker's turn: a pass over its task. -/
def workerTurn (id : TaskId) (w : Worker) : HostM Unit := do
  if (← get).stopped then setWorker id { w with live := false }
  else match ← onFleet (Fleet.reconcile id) with
    | .done | .interrupted => setWorker id { w with live := false }
    | .requeue d =>
      if w.woken then
        setWorker id { w with woken := false }
        goOn (.worker w.serial)
      else sleep (.worker w.serial) d

/-- The turn of the resync loop. A request that came while it was at work is met at once. -/
def resyncTurn (settings : ResyncSettings) : HostM Unit := do
  let _ ← onFleet (Fleet.resync settings.pageSize)
  if ← onFleet Fleet.takeSignal then
    let _ ← onFleet (Fleet.resync settings.pageSize)
  sleep .resync settings.interval

/-- Starts a worker for a task, unless one is at work on it. -/
def hire (id : TaskId) : HostM Unit := do
  let h ← get
  unless ((h.workers.find? id).map Worker.live).getD false do
    let serial := h.hired + 1
    set { h with hired := serial, workers := h.workers.insert id ⟨serial, true, false⟩ }
    enqueue (.worker serial)

/-- Makes the worker of a task go on at once; starts one if there is none. -/
def rouse (id : TaskId) : HostM Unit := do
  let h ← get
  match h.workers.find? id with
  | some ⟨serial, true, _⟩ =>
    if h.isAsleep (.worker serial) then wake (.worker serial)
    else setWorker id ⟨serial, true, true⟩
  | _ => hire id

/-- Requests the cancellation of a task and has it looked at. -/
def requestCancel (id : TaskId) : HostM (Except LifecycleError Unit) := do
  match ← onFleet (Fleet.requestCancel id) with
  | .error e => return .error e
  | .ok () =>
    rouse id
    return .ok ()

/-- Forgets the workers whose work is over, and counts them. -/
def prune : HostM Nat := do
  let h ← get
  let workers := h.workers.filter fun _ w => w.live
  set { h with workers }
  return h.workers.size - workers.size

/-- The directory of the spool after a change. -/
def setDirectory (d : Directory) : HostM Unit :=
  modify fun h => { h with spool := h.spool.map fun s => { s with directory := some d } }

/-- Creates the tasks of the manifests in the spool and starts their workers. -/
def importManifests (d : Directory) : HostM Directory := do
  let f := (← get).fleet
  let (d, state, created) := Spool.importAll d (f.store.state?.getD .empty) f.now
  onFleet (modify fun f => { f with store := .durable state })
  created.forM hire
  return d

/-- Requests the cancellations that the spool asks for. -/
def applyCancelMarkers (d : Directory) : HostM Directory := do
  let (d, requests) := Spool.cancelRequests d
  requests.foldlM (fun d (marker, id) => do
    match ← requestCancel id with
    | .ok () => return Spool.mark d marker "done"
    | .error _ => return Spool.mark d marker "rejected") d

/-- The turn of the loop that scans the spool. -/
def scanTurn (s : SpoolWatch) : HostM Unit := do
  if let some d := s.directory then
    setDirectory (← applyCancelMarkers (← importManifests d))
  let _ ← prune
  sleep .scan s.interval

/-- Someone's turn. -/
def turn (a : Actor) : HostM Unit := do
  let h ← get
  match a with
  | .worker serial => match h.workerOf? serial with
    | some (id, w) => if w.live then workerTurn id w else return
    | none => return
  | .resync => match h.resyncLoop with
    | some settings => resyncTurn settings
    | none => return
  | .scan => match h.spool with
    | some s => scanTurn s
    | none => return
  | .execution handle status =>
    onFleet (modify fun f => { f with substrate := f.substrate.settle handle status })

/-- Puts the executions that have been submitted at the end of the queue. -/
def enqueueExecutions : HostM Unit := do
  let waiting := (← get).fleet.substrate.waiting
  modify fun h => { h with fleet.substrate.waiting := [] }
  waiting.forM fun (handle, status) => enqueue (.execution handle status)

/-- Gives turns until everyone sleeps, at most so many. -/
def settleWithin : Nat → HostM Unit
  | 0 => return
  | turns + 1 => do
    deliverSignal
    let h ← get
    match h.ready with
    | [] => return
    | a :: rest =>
      set { h with ready := rest }
      turn a
      enqueueExecutions
      settleWithin turns

/-- The turns that are given while no time passes. -/
def maxTurns : Nat := 10000

/-- Gives turns until everyone sleeps. -/
def settle : HostM Unit := settleWithin maxTurns

/-- The earliest time at which a sleep ends. -/
def nextDue? (h : Host) : Option Nat :=
  (h.sleepers.map (·.due)).min?

/-- Lets time pass until `target`, waking the sleepers when their time has come. -/
def passUntil (target : Nat) : Nat → HostM Unit
  | 0 => modify fun h => { h with fleet.clock.elapsed := target }
  | steps + 1 => do
    let h ← get
    match h.nextDue? with
    | none => set { h with fleet.clock.elapsed := target }
    | some due =>
      if target < due then set { h with fleet.clock.elapsed := target }
      else
        let (dueNow, others) := h.sleepers.partition fun s => s.due = due
        set { h with
          fleet.clock.elapsed := max h.elapsed due
          sleepers := others
          ready := h.ready ++ dueNow.map Sleeper.actor }
        settle
        passUntil target steps

/-- Lets milliseconds pass. Sleeps last a millisecond at least, so that many wakings suffice. -/
def advance (ms : Nat) : HostM Unit := do
  settle
  passUntil ((← get).elapsed + ms) (ms + 1)

/-- Starts a worker for a task and gives turns. -/
def track (id : TaskId) : HostM Unit := do
  hire id
  settle

/-- Stops the worker of a task and gives turns. -/
def untrack (id : TaskId) : HostM Unit := do
  let h ← get
  if let some w := h.workers.find? id then
    set { h with workers := h.workers.erase id }
    dismiss (.worker w.serial)
  settle

/-- Requests the cancellation of a task and gives turns. -/
def cancel (id : TaskId) : HostM (Except LifecycleError Unit) := do
  let result ← requestCancel id
  settle
  return result

/-- The tasks with a worker at work. -/
def active (h : Host) : List TaskId :=
  (h.workers.filter fun _ w => w.live).keys

/-- Stops all workers for good. -/
def shutdown : HostM Unit := do
  let h ← get
  set { h with stopped := true, workers := .empty }
  h.workers.values.forM fun w => dismiss (.worker w.serial)

/-- Starts the resync loop, in place of one that runs, and gives turns. -/
def startResyncLoop (settings : ResyncSettings) : HostM Unit := do
  dismiss .resync
  modify fun h => { h with resyncLoop := some settings }
  enqueue .resync
  settle

/-- Stops the resync loop. -/
def stopResyncLoop : HostM Unit := do
  modify fun h => { h with resyncLoop := none }
  dismiss .resync

end Host

end TaskFleet
