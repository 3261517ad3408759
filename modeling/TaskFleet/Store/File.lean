import TaskFleet.Json.Writer
import TaskFleet.Store.State
import TaskFleet.Text.Utf8

/-!
# The database in a file

All records as one JSON document, tasks and agents each under their keys. A file that is empty is
a database without records.
-/

namespace TaskFleet.StateStore

/-- The database as one value. -/
def toJson (s : StateStore) : Json :=
  .obj [("tasks", .obj s.tasks.entries), ("agents", .obj s.agents.entries)]

/-- The records of an object by their keys. -/
def decodeTable : Decoder (Dict String Json)
  | _, .obj members => .ok (.ofList members)
  | _, _ => .error .shape

def record : Record StateStore :=
  StateStore.mk <$> .field "tasks" decodeTable <*> .field "agents" decodeTable

def decode : Decoder StateStore := record.decode

/-- The bytes of a database. -/
def save (s : StateStore) : Text.Bytes :=
  Text.encode s.toJson.write

/-- The database in the bytes of a file. -/
def load? (bytes : Text.Bytes) : Option StateStore := do
  if bytes.isEmpty then return empty
  (decode .json (← Json.read? (← Text.decode? bytes))).toOption

end TaskFleet.StateStore
