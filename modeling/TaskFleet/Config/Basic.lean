import TaskFleet.Ledger.Resync
import TaskFleet.Lifecycle.Settings
import TaskFleet.Toml.Reader

/-!
# Configuration

The configuration file: a TOML document in which everything has a default. `read` refuses a text
that is no such document, a duration that cannot be read, a page size of zero and two agents of
one name, in this order.
-/

namespace TaskFleet

/-- How the ledger is kept up to date. -/
structure LedgerConfig where
  resyncInterval : String
  pageSize : Nat
deriving DecidableEq, Repr

/-- The delays of the lifecycle, as they are written. -/
structure LifecycleConfig where
  dependency : String
  capacity : String
  poll : String
  transient : String
  conflict : String
deriving DecidableEq, Repr

/-- What is logged, and in which format. -/
structure LogConfig where
  filter : String
  format : String
deriving DecidableEq, Repr

/-- A configuration. -/
structure Config where
  ledger : LedgerConfig
  /-- The name of the scoring strategy. -/
  strategy : String
  lifecycle : LifecycleConfig
  log : LogConfig
  agents : List Observation
deriving DecidableEq, Repr

/-- Why a text is no configuration. -/
inductive ConfigError where
  /-- The text is no TOML, or a value is not of its type. -/
  | malformed
  | duration (e : Duration.ParseError)
  | noPages
  | duplicateAgent (name : String)
deriving DecidableEq, Repr

namespace ConfigError

/-- The explanation of a wrong setting. -/
def message? : ConfigError → Option String
  | .malformed => none
  | .duration e => some e.message
  | .noPages => some "config error: ledger.page_size must be positive"
  | .duplicateAgent name => some ("config error: duplicate agent " ++ Text.quoted name)

end ConfigError

namespace LedgerConfig

def default : LedgerConfig := ⟨"30s", 512⟩

def record : Record LedgerConfig :=
  LedgerConfig.mk <$> .fieldD "resync_interval" Decode.string default.resyncInterval <*>
    .fieldD "page_size" Decode.nat64 default.pageSize

def decode : Decoder LedgerConfig := record.decode

def toJson (c : LedgerConfig) : Json :=
  .obj [("resync_interval", .str c.resyncInterval), ("page_size", natToJson c.pageSize)]

/-- The settings that a configuration stands for. -/
def settings (c : LedgerConfig) : Except Duration.ParseError ResyncSettings :=
  return ⟨← Duration.parse c.resyncInterval, c.pageSize⟩

end LedgerConfig

namespace LifecycleConfig

def default : LifecycleConfig := ⟨"10s", "20s", "10s", "5s", "2s"⟩

def record : Record LifecycleConfig :=
  LifecycleConfig.mk <$> .fieldD "dependency_backoff" Decode.string default.dependency <*>
    .fieldD "capacity_backoff" Decode.string default.capacity <*>
    .fieldD "poll_interval" Decode.string default.poll <*>
    .fieldD "transient_backoff" Decode.string default.transient <*>
    .fieldD "conflict_backoff" Decode.string default.conflict

def decode : Decoder LifecycleConfig := record.decode

def toJson (c : LifecycleConfig) : Json :=
  .obj [("dependency_backoff", .str c.dependency), ("capacity_backoff", .str c.capacity),
    ("poll_interval", .str c.poll), ("transient_backoff", .str c.transient),
    ("conflict_backoff", .str c.conflict)]

/-- The delays that a configuration stands for. -/
def delays (c : LifecycleConfig) : Except Duration.ParseError Delays :=
  return {
    dependency := ← Duration.parse c.dependency
    capacity := ← Duration.parse c.capacity
    poll := ← Duration.parse c.poll
    transient := ← Duration.parse c.transient
    conflict := ← Duration.parse c.conflict }

end LifecycleConfig

namespace LogConfig

def default : LogConfig := ⟨"info,agentgrid=debug", "text"⟩

def record : Record LogConfig :=
  LogConfig.mk <$> .fieldD "filter" Decode.string default.filter <*>
    .fieldD "format" Decode.string default.format

def decode : Decoder LogConfig := record.decode

def toJson (c : LogConfig) : Json :=
  .obj [("filter", .str c.filter), ("format", .str c.format)]

end LogConfig

namespace Config

/-- The strategy where none is configured. -/
def defaultStrategy : String := "first-feasible"

/-- The configuration in which nothing is set. -/
def default : Config := ⟨.default, defaultStrategy, .default, .default, []⟩

/-- Reads the name of a strategy from its section. -/
def decodeStrategy : Decoder String :=
  (Record.fieldD "strategy" Decode.string defaultStrategy).decode

/-- An agent, which is ready unless it says otherwise. -/
def agentRecord : Record Observation :=
  Observation.mk <$> .field "name" Decode.string <*> .fieldD "ready" Decode.bool true <*>
    .fieldD "allocatable" Decode.resourceSet ∅ <*> .fieldD "labels" Decode.texts .empty

def decodeAgent : Decoder Observation := agentRecord.decode

def record : Record Config :=
  Config.mk <$> .fieldD "ledger" LedgerConfig.decode .default <*>
    .fieldD "scheduler" decodeStrategy defaultStrategy <*>
    .fieldD "lifecycle" LifecycleConfig.decode .default <*>
    .fieldD "log" LogConfig.decode .default <*>
    .fieldD "agents" (Decode.list decodeAgent) []

def decode : Decoder Config := record.decode

def toJson (c : Config) : Json :=
  .obj [("ledger", c.ledger.toJson), ("scheduler", .obj [("strategy", .str c.strategy)]),
    ("lifecycle", c.lifecycle.toJson), ("log", c.log.toJson),
    ("agents", .arr (c.agents.map Observation.toJson))]

/-- The first name that a list holds twice. -/
def firstRepeated : List String → List String → Option String
  | _, [] => none
  | seen, name :: rest =>
    if name ∈ seen then some name else firstRepeated (name :: seen) rest

/-- Refuses settings that could not be used. -/
def check (c : Config) : Except ConfigError Unit := do
  let _ ← c.ledger.settings.mapError .duration
  let _ ← c.lifecycle.delays.mapError .duration
  if c.ledger.pageSize = 0 then throw .noPages
  match firstRepeated [] (c.agents.map (·.name)) with
  | some name => throw (.duplicateAgent name)
  | none => return

/-- Reads a configuration. -/
def read (text : String) : Except ConfigError Config :=
  match Toml.read? text with
  | none => .error .malformed
  | some document => match decode .toml document with
    | .error _ => .error .malformed
    | .ok c => c.check.map fun _ => c

end Config

end TaskFleet
