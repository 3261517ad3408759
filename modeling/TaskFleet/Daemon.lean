import TaskFleet.Config.Basic
import TaskFleet.Execution.Processes
import TaskFleet.Lifecycle.Host

/-!
# The daemon

Everything on one host. At its start the daemon registers the configured agents, fills the ledger
from the registry, and takes up the reservations that the database says are held; then it starts a
worker for each task whose life is not over, the resync loop, and the loop that scans the spool.

The ledger is not stored. So a reservation that cannot be taken up again is forfeited in the
database as well: a task never gives back what the ledger does not hold for it.
-/

namespace TaskFleet

/-- Why the daemon did not start. -/
inductive DaemonError where
  | state (e : StateError)
  | ledger (e : LedgerError)
  | strategy (e : Strategy.UnknownStrategy)
  | duration (e : Duration.ParseError)
deriving DecidableEq, Repr

def DaemonError.message : DaemonError → String
  | .state e => e.message
  | .ledger e => e.message
  | .strategy e => e.message
  | .duration e => e.message

/-- What the daemon is told beside its configuration. -/
structure DaemonOptions where
  spool : Option SpoolWatch
  /-- The age in seconds at which an agent's record goes stale; zero for never. -/
  staleAfter : Nat

/-- Computations on the host that can fail, keeping what they have done. -/
abbrev BootM := ExceptT DaemonError HostM

/-- The same task without a reservation that nothing backs. A task that has not been handed off is
placed again; the others keep their agent and their execution. -/
def Task.forfeit (t : Task) (agent : String) (now : Nat) : Task :=
  let t := { t with status.resourcesUsed := ∅ }
  if t.status.execution.isSome then t
  else
    { t with status.agent := none }.transition .pending "ReservationLost"
      ("reservation on agent " ++ agent ++ " could not be restored, rescheduling") now

namespace Daemon

/-- A computation on the fleet that does not fail by itself. -/
def onFleet {α : Type} (x : FleetM α) : BootM α :=
  ExceptT.lift (Host.onFleet x)

/-- The database of the daemon. -/
def database : BootM StateStore := do
  return (← get).fleet.store.state?.getD .empty

/-- Goes on with another database, or fails. -/
def orFail {α : Type} (r : Except StateError α) : BootM α :=
  match r with
  | .ok a => return a
  | .error e => throw (.state e)

/-- Changes the database of the daemon. -/
def setDatabase (s : StateStore) : BootM Unit :=
  modify fun h => { h with fleet.store := .durable s }

/-- Registers agents, each with a heartbeat. -/
def register (agents : List Observation) : BootM Unit := do
  let now := (← get).fleet.now
  setDatabase <| agents.foldl (fun s a => s.putAgent (.ofObservation a now)) (← database)

/-- Fills the ledger from the registry. -/
def fillLedger (pageSize : Nat) : BootM Unit := do
  match ← onFleet (Fleet.resync pageSize) with
  | .ok _ => return
  | .error e => throw (.ledger e)

/-- Takes up the reservation of a task, or forfeits it in the database, and tells whether there is
one that it has taken up. -/
def restoreReservation (t : Task) : BootM Bool := do
  let some agent := t.status.agent | return false
  if t.status.resourcesUsed.isEmpty then return false
  match ← onFleet (Fleet.book (.reserve agent t.status.resourcesUsed)) with
  | .ok () => return true
  | .error _ =>
    let now := (← get).fleet.now
    setDatabase (← orFail ((← database).putTask (t.forfeit agent now))).1
    return false

/-- Takes up the reservations of all tasks whose life is not over, in the order of their keys, and
counts them. -/
def restoreReservations : BootM Nat := do
  (← orFail (← database).listActiveTasks).foldlM
    (fun restored t => return restored + (← restoreReservation t).toNat) 0

/-- Goes on with the value of a setting, or fails. -/
def orRefuse {α : Type} (r : Except Duration.ParseError α) : BootM α :=
  match r with
  | .ok a => return a
  | .error e => throw (.duration e)

/-- Goes on with a strategy, or fails. -/
def chooseStrategy (name : String) : BootM Unit :=
  match Strategy.ofName name with
  | .ok strategy => modify fun h => { h with fleet.strategy := strategy }
  | .error e => throw (.strategy e)

/-- Starts everyone who works on the fleet. -/
def boot (c : Config) : BootM Unit := do
  register c.agents
  let settings ← orRefuse c.ledger.settings
  fillLedger settings.pageSize
  let _ ← restoreReservations
  chooseStrategy c.strategy
  let delays ← orRefuse c.lifecycle.delays
  modify fun h => { h with fleet.delays := delays }
  (← orFail (← database).listActiveTasks).forM fun t => Host.hire t.id
  modify fun h => { h with resyncLoop := some settings }
  Host.enqueue .resync
  if (← get).spool.isSome then Host.enqueue .scan

/-- The host before the daemon starts. -/
def host (c : Config) (o : DaemonOptions) (s : StateStore) (clock : Clock) : Host where
  fleet := {
    clock
    ledger := .empty
    store := .durable s
    source := .registry o.staleAfter (c.agents.map (·.name))
    substrate := { launch := Processes.launch Process.uptime }
    strategy := .firstFeasible
    delays := .default }
  spool := o.spool

/-- Starts the daemon on a database. -/
def start (c : Config) (o : DaemonOptions) (s : StateStore) (clock : Clock) :
    Except DaemonError Unit × Host :=
  (boot c).run.run (host c o s clock)

/-- Starts the daemon on a database, and lets it run for so many milliseconds if it starts. -/
def run (c : Config) (o : DaemonOptions) (s : StateStore) (clock : Clock) (ms : Nat) :
    Except DaemonError Unit × Host :=
  let (result, h) := start c o s clock
  if result.isOk then (result, ((Host.advance ms).run h).2) else (result, h)

end Daemon

end TaskFleet
