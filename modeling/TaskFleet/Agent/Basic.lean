import TaskFleet.Dict
import TaskFleet.Resource.Set
import TaskFleet.Task.Codec

/-!
# Agents

What is known of an agent: the observation that a source of agents reports, and the record under
which a registry keeps an agent with the time of its last heartbeat. `AgentRecord.observe` turns
the second into the first and takes a silent agent for one that is not ready.
-/

namespace TaskFleet

/-- An agent as it was last seen. One that is not ready offers nothing. -/
structure Observation where
  name : String
  ready : Bool
  allocatable : ResourceSet
  labels : Dict String String
deriving DecidableEq, Repr, Inhabited

/-- A registered agent. -/
structure AgentRecord where
  name : String
  ready : Bool
  allocatable : ResourceSet
  labels : Dict String String
  /-- Seconds since 1970. -/
  lastHeartbeat : Nat
deriving DecidableEq, Repr, Inhabited

namespace Observation

def toJson (o : Observation) : Json :=
  .obj [("name", .str o.name), ("ready", .bool o.ready), ("allocatable", o.allocatable.toJson),
    ("labels", textsToJson o.labels)]

def record : Record Observation :=
  Observation.mk <$> .field "name" Decode.string <*> .field "ready" Decode.bool <*>
    .fieldD "allocatable" Decode.resourceSet ∅ <*> .fieldD "labels" Decode.texts .empty

def decode : Decoder Observation := record.decode

end Observation

namespace AgentRecord

/-- The record of an agent that is registered at `now`. -/
def ofObservation (o : Observation) (now : Nat) : AgentRecord :=
  ⟨o.name, o.ready, o.allocatable, o.labels, now⟩

/-- Whether the last heartbeat is more than `staleAfter` seconds old; zero switches this off. -/
def isStale (r : AgentRecord) (now staleAfter : Nat) : Bool :=
  0 < staleAfter && staleAfter < now - r.lastHeartbeat

/-- The agent as it is seen at `now`. -/
def observe (r : AgentRecord) (now staleAfter : Nat) : Observation :=
  ⟨r.name, r.ready && !r.isStale now staleAfter, r.allocatable, r.labels⟩

def toJson (r : AgentRecord) : Json :=
  .obj [("name", .str r.name), ("ready", .bool r.ready), ("allocatable", r.allocatable.toJson),
    ("labels", textsToJson r.labels), ("last_heartbeat", natToJson r.lastHeartbeat)]

def record : Record AgentRecord :=
  AgentRecord.mk <$> .field "name" Decode.string <*> .field "ready" Decode.bool <*>
    .field "allocatable" Decode.resourceSet <*> .field "labels" Decode.texts <*>
    .field "last_heartbeat" Decode.nat64

def decode : Decoder AgentRecord := record.decode

end AgentRecord

end TaskFleet
