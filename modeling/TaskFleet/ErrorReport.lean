import TaskFleet.Daemon

/-!
# Error reports

What a client is told of an error: its kind, the explanation, and whether the same call may succeed
later. A kind stays the same however the explanation is worded, so a client can rely on it.
-/

namespace TaskFleet

/-- What a client is told of an error. -/
structure ErrorReport where
  kind : String
  message : Option String := none
  /-- Whether the same call may succeed later. -/
  retryable : Option Bool := none
  /-- What else is known of this kind of error. -/
  details : List (String × Json) := []

namespace ErrorReport

/-- A report that gives nothing but the kind. -/
def bare (kind : String) : ErrorReport := { kind }

/-- A report of an error that comes again whenever the call is repeated. -/
def final (kind message : String) (details : List (String × Json) := []) : ErrorReport :=
  { kind, message := some message, retryable := some false, details }

/-- A report of an error that may be gone when the call is repeated. -/
def passing (kind message : String) (details : List (String × Json) := []) : ErrorReport :=
  { kind, message := some message, retryable := some true, details }

/-- The record form of a report; what is not known is left out. -/
def toJson (r : ErrorReport) : Json :=
  .obj ([("error", .str r.kind)] ++ (r.message.map fun m => ("message", .str m)).toList ++
    (r.retryable.map fun b => ("retryable", .bool b)).toList ++ r.details)

end ErrorReport

/-- A type of errors of which clients are told. -/
class Reported (ε : Type) where
  report : ε → ErrorReport

open ErrorReport (bare final passing)

def Quantity.ParseError.report (e : Quantity.ParseError) : ErrorReport :=
  final "InvalidQuantity" e.message

def Duration.ParseError.report (e : Duration.ParseError) : ErrorReport :=
  final "InvalidDuration" e.message

def TaskId.ParseError.report (e : TaskId.ParseError) : ErrorReport :=
  final "InvalidTaskId" e.message

def DecodeError.report (e : DecodeError) : ErrorReport :=
  { kind := "Deserialize", message := e.message? }

def ConfigError.report (e : ConfigError) : ErrorReport :=
  match e with
  | .malformed => bare "Config"
  | .duration e => e.report
  | .noPages | .duplicateAgent _ => final "Config" (e.message?.getD "")

namespace ValidationError

/-- The kind of a fault in what a task asks for. -/
def kind : ValidationError → String
  | .emptyName => "EmptyName"
  | .missingImage => "MissingImage"
  | .requestExceedsLimit .. => "RequestExceedsLimit"
  | .retryLimitTooHigh _ => "RetryLimitTooHigh"
  | .selfDependency => "SelfDependency"
  | .emptyDependency => "EmptyDependency"

def report (e : ValidationError) : ErrorReport :=
  final e.kind e.message

end ValidationError

def ManifestError.report (e : ManifestError) : ErrorReport :=
  match e with
  | .malformed => bare "Manifest"
  | .invalid _ fault => final fault.kind (e.message?.getD "")

def LedgerError.report (e : LedgerError) : ErrorReport :=
  let missing := ("not_found", .bool e.isNotFound)
  match e with
  | .notFound _ => passing "NotFound" e.message [missing]
  | .conflict _ kinds =>
    passing "Conflict" e.message [missing, ("kinds", stringsToJson (kinds.map ResourceKind.name))]
  | .source _ => passing "Source" e.message [missing]

def ScheduleError.report (e : ScheduleError) : ErrorReport :=
  let conflict := ("conflict", .bool e.isConflict)
  match e with
  | .noCapacity .. => passing "NoCapacity" e.message [conflict]
  | .ledger _ => passing "Ledger" e.message [conflict]

def Strategy.UnknownStrategy.report (e : Strategy.UnknownStrategy) : ErrorReport :=
  final "UnknownStrategy" e.message [("conflict", .bool false)]

def StoreError.report (e : StoreError) : ErrorReport :=
  match e with
  | .notFound _ => passing "NotFound" e.message
  | .conflict _ => passing "Conflict" e.message
  | .unavailable _ => passing "Unavailable" e.message

def StateError.report (e : StateError) : ErrorReport :=
  let conflict := ("conflict", .bool e.isConflict)
  match e with
  | .unreadable _ => final "Deserialize" e.message [conflict]
  | .notFound _ => final "NotFound" e.message [conflict]
  | .alreadyExists _ => final "AlreadyExists" e.message [conflict]
  | .conflict .. => passing "Conflict" e.message [conflict]

def DependencyError.report (e : DependencyError) : ErrorReport :=
  passing "Fetch" e.message

def LifecycleError.report (e : LifecycleError) : ErrorReport :=
  match e with
  | .fetch e => e.report
  | .store _ => passing "Store" e.message

def ExecError.report (e : ExecError) : ErrorReport :=
  match e with
  | .emptyCommand => final "EmptyCommand" e.message
  | .spawn .. => final "Spawn" e.message

/-- A client of the daemon is not told what is wrong with the database. -/
def DaemonError.report : DaemonError → ErrorReport
  | .state _ => .bare "Standalone"
  | .ledger e => e.report
  | .strategy e => e.report
  | .duration e => e.report

instance : Reported Quantity.ParseError := ⟨Quantity.ParseError.report⟩

instance : Reported Duration.ParseError := ⟨Duration.ParseError.report⟩

instance : Reported TaskId.ParseError := ⟨TaskId.ParseError.report⟩

instance : Reported DecodeError := ⟨DecodeError.report⟩

instance : Reported ConfigError := ⟨ConfigError.report⟩

instance : Reported ValidationError := ⟨ValidationError.report⟩

instance : Reported ManifestError := ⟨ManifestError.report⟩

instance : Reported LedgerError := ⟨LedgerError.report⟩

instance : Reported ScheduleError := ⟨ScheduleError.report⟩

instance : Reported Strategy.UnknownStrategy := ⟨Strategy.UnknownStrategy.report⟩

instance : Reported StoreError := ⟨StoreError.report⟩

instance : Reported StateError := ⟨StateError.report⟩

instance : Reported DependencyError := ⟨DependencyError.report⟩

instance : Reported LifecycleError := ⟨LifecycleError.report⟩

instance : Reported ExecError := ⟨ExecError.report⟩

instance : Reported DaemonError := ⟨DaemonError.report⟩

end TaskFleet
