import TaskFleet.Execution.Basic
import TaskFleet.Task.Codec

/-!
# Executions as JSON

The record form of requests and of what is reported of an execution. A report also shows what is
read from its annotations.
-/

namespace TaskFleet

namespace ExecutionRequest

def toJson (r : ExecutionRequest) : Json :=
  .obj [("task", .str r.task.key), ("agent", .str r.agent), ("image_ref", .str r.image),
    ("command", stringsToJson r.command), ("args", stringsToJson r.args),
    ("env", textsToJson r.env), ("resources", r.resources.toPairs),
    ("timeout", r.timeout.toJson), ("retry", r.retry.toJson), ("labels", textsToJson r.labels)]

end ExecutionRequest

namespace ExecutionStatus

def toJson (s : ExecutionStatus) : Json :=
  .obj [("state", .str s.state.name), ("message", .str s.message),
    ("exit_code", optionToJson .int s.exitCode), ("attempts", natToJson s.attempts),
    ("annotations", textsToJson s.annotations), ("progress", natToJson s.progress),
    ("output", optionToJson .str s.output), ("artifact", optionToJson .str s.artifact)]

def record : Record ExecutionStatus :=
  ExecutionStatus.mk <$> .field "state" (Decode.choice ExecutionState.ofName?) <*>
    .fieldD "message" Decode.string "" <*> .fieldD "exit_code" (Decode.option Decode.int32) none <*>
    .fieldD "attempts" Decode.nat32 0 <*> .fieldD "annotations" Decode.texts .empty

def decode : Decoder ExecutionStatus := record.decode

end ExecutionStatus

end TaskFleet
