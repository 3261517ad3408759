import TaskFleet.Task.Codec
import TaskFleet.Text.Utf8
import TaskFleet.Toml.Reader

/-!
# Manifests

A manifest is a TOML document that describes one task. The task is checked when it is made from
the manifest, so what a manifest yields can be run.
-/

namespace TaskFleet

/-- The description of a task. -/
structure Manifest where
  space : String
  name : String
  spec : TaskSpec
deriving DecidableEq, Repr

/-- Why there is no task in a manifest. -/
inductive ManifestError where
  /-- The text is no TOML, or a value is not of its type. -/
  | malformed
  | invalid (id : TaskId) (e : ValidationError)
deriving DecidableEq, Repr

namespace ManifestError

/-- The explanation of an invalid task. -/
def message? : ManifestError → Option String
  | .malformed => none
  | .invalid id e => some ("invalid task " ++ id.key ++ ": " ++ e.message)

end ManifestError

namespace Manifest

/-- The namespace of a task that names none. -/
def defaultSpace : String := "default"

def record : Record Manifest :=
  Manifest.mk <$> .fieldD "namespace" Decode.string defaultSpace <*>
    .field "name" Decode.string <*> .field "spec" TaskSpec.decode

def decode : Decoder Manifest := record.decode

/-- Reads a manifest. -/
def read (text : String) : Except ManifestError Manifest :=
  match Toml.read? text with
  | none => .error .malformed
  | some document => (decode .toml document).mapError fun _ => .malformed

/-- The checked task of a manifest that is submitted at `now`. -/
def toTask (m : Manifest) (now : Nat) : Except ManifestError Task :=
  let t := Task.new ⟨m.space, m.name⟩ m.spec now
  match t.validate with
  | .ok () => .ok t
  | .error e => .error (.invalid t.id e)

/-- The checked task in a text. -/
def readTask (text : String) (now : Nat) : Except ManifestError Task := do
  (← read text).toTask now

/-- The checked task in a file. -/
def readFile (bytes : Text.Bytes) (now : Nat) : Except ManifestError Task :=
  match Text.decode? bytes with
  | none => .error .malformed
  | some text => readTask text now

end Manifest

end TaskFleet
