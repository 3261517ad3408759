import TaskFleet.Lifecycle.Pass

/-!
# Requesting cancellation

Setting the flag that makes the next pass over a task cancel it. The write is repeated a few times
when it is lost to another one.
-/

namespace TaskFleet

/-- An error that reaches the caller of the lifecycle. -/
inductive LifecycleError where
  | fetch (e : DependencyError)
  | store (e : StoreError)
deriving DecidableEq, Repr

def LifecycleError.message : LifecycleError → String
  | .fetch e => e.message
  | .store e => "task store error: " ++ e.message

namespace Fleet

/-- The writes that a request for cancellation may take. -/
def cancelAttempts : Nat := 5

/-- Sets the flag, with so many writes left. A task that is over, or has the flag, is left as it
is. -/
def flagCancelled (id : TaskId) : Nat → FleetM (Except StoreError Unit)
  | 0 => return .error (.conflict id.key)
  | attempts + 1 => do
    match ← getTask id with
    | none => return .error (.unavailable "stalled")
    | some (.error e) => return .error e
    | some (.ok t) =>
      if t.isTerminal || t.cancelRequested then return .ok ()
      match ← putTask { t with cancelRequested := true } with
      | none => return .error (.unavailable "stalled")
      | some (.ok _) => return .ok ()
      | some (.error e@(.conflict _)) =>
        if attempts = 0 then return .error e else flagCancelled id attempts
      | some (.error e) => return .error e

/-- Requests the cancellation of a task. -/
def requestCancel (id : TaskId) : FleetM (Except LifecycleError Unit) := do
  return (← flagCancelled id cancelAttempts).mapError .store

end Fleet

end TaskFleet
