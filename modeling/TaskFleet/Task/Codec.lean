import TaskFleet.Json.Decode
import TaskFleet.Task.Basic

/-!
# Tasks as JSON

The record form of tasks: `toJson` writes every field, `decode` fills in what is missing where a
field has a default. Quantities and durations are written as text.
-/

namespace TaskFleet

/-- A dictionary of texts as an object. -/
def textsToJson (d : Dict String String) : Json :=
  .obj (d.entries.map fun e => (e.1, .str e.2))

/-- An optional value, null if absent. -/
def optionToJson {α : Type} (toJson : α → Json) : Option α → Json
  | none => .null
  | some a => toJson a

/-- A natural number as a JSON integer. -/
def natToJson (n : Nat) : Json := .int n

/-- The texts of a list as an array. -/
def stringsToJson (l : List String) : Json := .arr (l.map .str)

/-- A resource set as an object of quantities in text form. -/
def ResourceSet.toJson (s : ResourceSet) : Json :=
  .obj (s.toList.map fun e => (e.1.name, .str e.2.render))

/-- A resource set as an array of pairs, which keeps the order of kinds. -/
def ResourceSet.toPairs (s : ResourceSet) : Json :=
  .arr (s.toList.map fun e => stringsToJson [e.1.name, e.2.render])

def Duration.toJson (d : Duration) : Json := .str d.render

namespace TaskId

def toJson (id : TaskId) : Json :=
  .obj [("namespace", .str id.space), ("name", .str id.name)]

def record : Record TaskId :=
  TaskId.mk <$> .field "namespace" Decode.string <*> .field "name" Decode.string

def decode : Decoder TaskId := record.decode

end TaskId

namespace Phase

def toJson (p : Phase) : Json := .str p.name

def decode : Decoder Phase := Decode.choice ofName?

end Phase

namespace Requirements

def toJson (r : Requirements) : Json :=
  .obj [("requests", r.requests.toJson), ("limits", r.limits.toJson)]

def record : Record Requirements :=
  Requirements.mk <$> .fieldD "requests" Decode.resourceSet ∅ <*>
    .fieldD "limits" Decode.resourceSet ∅

def decode : Decoder Requirements := record.decode

end Requirements

namespace RetryPolicy

def toJson (r : RetryPolicy) : Json :=
  .obj [("limit", natToJson r.limit), ("backoff", r.backoff.toJson)]

def record : Record RetryPolicy :=
  RetryPolicy.mk <$> .fieldD "limit" Decode.nat32 0 <*> .fieldD "backoff" Decode.duration .zero

def decode : Decoder RetryPolicy := record.decode

end RetryPolicy

namespace Dependency

def toJson (d : Dependency) : Json :=
  .obj [("task_id", .str d.task), ("required_phase", d.phase.toJson)]

def record : Record Dependency :=
  Dependency.mk <$> .field "task_id" Decode.string <*> .field "required_phase" Phase.decode

def decode : Decoder Dependency := record.decode

end Dependency

namespace TaskSpec

def toJson (s : TaskSpec) : Json :=
  .obj [("description", .str s.description), ("image_ref", .str s.image),
    ("command", stringsToJson s.command), ("args", stringsToJson s.args),
    ("env", textsToJson s.env), ("resources", s.resources.toJson), ("priority", .int s.priority),
    ("timeout", s.timeout.toJson), ("retry", s.retry.toJson),
    ("dependencies", .arr (s.dependencies.map Dependency.toJson)),
    ("labels", textsToJson s.labels)]

def record : Record TaskSpec :=
  TaskSpec.mk <$> .fieldD "description" Decode.string "" <*> .field "image_ref" Decode.string <*>
    .fieldD "command" (Decode.list Decode.string) [] <*>
    .fieldD "args" (Decode.list Decode.string) [] <*> .fieldD "env" Decode.texts .empty <*>
    .fieldD "resources" Requirements.decode ⟨∅, ∅⟩ <*>
    .fieldD "priority" Decode.int32 0 <*> .fieldD "timeout" Decode.duration .zero <*>
    .fieldD "retry" RetryPolicy.decode ⟨0, .zero⟩ <*>
    .fieldD "dependencies" (Decode.list Dependency.decode) [] <*>
    .fieldD "labels" Decode.texts .empty

def decode : Decoder TaskSpec := record.decode

end TaskSpec

namespace TaskResult

def toJson (r : TaskResult) : Json :=
  .obj [("exit_code", .int r.exitCode), ("output", optionToJson .str r.output),
    ("artifact", optionToJson .str r.artifact)]

def record : Record TaskResult :=
  TaskResult.mk <$> .field "exit_code" Decode.int32 <*>
    .fieldD "output" (Decode.option Decode.string) none <*>
    .fieldD "artifact" (Decode.option Decode.string) none

def decode : Decoder TaskResult := record.decode

end TaskResult

namespace Condition

def toJson (c : Condition) : Json :=
  .obj [("type", .str c.kind), ("status", .bool c.status), ("reason", .str c.reason),
    ("message", .str c.message), ("transition_time", natToJson c.time)]

def record : Record Condition :=
  Condition.mk <$> .field "type" Decode.string <*> .field "status" Decode.bool <*>
    .field "reason" Decode.string <*> .field "message" Decode.string <*>
    .field "transition_time" Decode.nat64

def decode : Decoder Condition := record.decode

end Condition

namespace TaskStatus

def toJson (s : TaskStatus) : Json :=
  .obj [("phase", s.phase.toJson), ("message", .str s.message),
    ("progress", natToJson s.progress), ("start_time", optionToJson natToJson s.startTime),
    ("end_time", optionToJson natToJson s.endTime), ("resources_used", s.resourcesUsed.toJson),
    ("agent", optionToJson .str s.agent), ("execution", optionToJson .str s.execution),
    ("attempts", natToJson s.attempts), ("result", optionToJson TaskResult.toJson s.result),
    ("conditions", .arr (s.conditions.map Condition.toJson))]

def record : Record TaskStatus :=
  TaskStatus.mk <$> .field "phase" Phase.decode <*> .fieldD "message" Decode.string "" <*>
    .fieldD "progress" Decode.nat8 0 <*>
    .fieldD "start_time" (Decode.option Decode.nat64) none <*>
    .fieldD "end_time" (Decode.option Decode.nat64) none <*>
    .fieldD "resources_used" Decode.resourceSet ∅ <*>
    .fieldD "agent" (Decode.option Decode.string) none <*>
    .fieldD "execution" (Decode.option Decode.string) none <*>
    .fieldD "attempts" Decode.nat32 0 <*>
    .fieldD "result" (Decode.option TaskResult.decode) none <*>
    .fieldD "conditions" (Decode.list Condition.decode) []

def decode : Decoder TaskStatus := record.decode

end TaskStatus

namespace Task

def toJson (t : Task) : Json :=
  .obj [("id", t.id.toJson), ("spec", t.spec.toJson), ("status", t.status.toJson),
    ("resource_version", natToJson t.version), ("cancel_requested", .bool t.cancelRequested),
    ("created_at", natToJson t.createdAt)]

def record : Record Task :=
  Task.mk <$> .field "id" TaskId.decode <*> .field "spec" TaskSpec.decode <*>
    .fieldD "status" TaskStatus.decode .initial <*> .fieldD "resource_version" Decode.nat64 0 <*>
    .fieldD "cancel_requested" Decode.bool false <*> .fieldD "created_at" Decode.nat64 0

def decode : Decoder Task := record.decode

end Task

end TaskFleet
