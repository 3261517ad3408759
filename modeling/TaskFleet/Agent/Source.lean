import TaskFleet.Store.State

/-!
# Sources of agents

Where the ledger learns of the agents there are: a list that is kept by hand, or the registry in
the database. Listing the registry gives a heartbeat to the agents that this host runs itself, so
only records that nobody vouches for any more go stale.
-/

namespace TaskFleet

/-- A source of agents. -/
inductive AgentSource where
  | fixed (agents : List Observation)
  /-- The registry, with the age in seconds at which a record goes stale (zero for never) and the
  names of the agents of this host. -/
  | registry (staleAfter : Nat) (hosted : List String)
deriving Repr, Inhabited

namespace AgentSource

/-- Replaces the agent of the same name in a fixed list, or adds it at the end. -/
def upsert (agent : Observation) : List Observation → List Observation
  | [] => [agent]
  | a :: rest => if a.name = agent.name then agent :: rest else a :: upsert agent rest

end AgentSource

namespace StateStore

/-- Notes a heartbeat of each of the named agents that is registered, one after the other. A record
that cannot be read puts an end to this; the heartbeats before it stay. -/
def heartbeatAll (s : StateStore) (now : Nat) : List String → StateStore × Except StateError Unit
  | [] => (s, .ok ())
  | name :: rest => match s.heartbeat name now with
    | .ok (s, _) => s.heartbeatAll now rest
    | .error e => (s, .error e)

/-- Lists the first registered agents as they are seen at `now`, after a heartbeat of the hosted
ones. The heartbeats that were noted stay when the listing fails. -/
def observeAgents (s : StateStore) (limit now staleAfter : Nat) (hosted : List String) :
    StateStore × Except StateError (List Observation) :=
  match s.heartbeatAll now hosted with
  | (s, .error e) => (s, .error e)
  | (s, .ok _) => (s, (s.listAgents limit).map fun records =>
    records.map fun r => r.observe now staleAfter)

end StateStore

end TaskFleet
