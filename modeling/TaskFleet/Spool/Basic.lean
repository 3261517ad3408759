import TaskFleet.Manifest
import TaskFleet.FileSystem.Basic
import TaskFleet.Store.State

/-!
# The spool

A directory through which tasks are handed in. A file `*.toml` is a manifest of a new task, a file
`*.cancel` holds the id of a task to cancel. Each file is looked at once: when it has been dealt
with, `mark` adds to its name what has become of it.
-/

namespace TaskFleet.Spool

open Text (Bytes)

/-- Adds a suffix to the name of a file, in place of the file that has that name. If the file
system refuses, nothing happens. -/
def mark (d : Directory) (name suffix : String) : Directory :=
  (d.rename? name (name ++ "." ++ suffix)).getD d

/-- Creates the task of a manifest. -/
def importFile (s : StateStore) (bytes : Bytes) (now : Nat) : Option (StateStore × Task) := do
  let t ← (Manifest.readFile bytes now).toOption
  (s.createTask t).toOption

/-- What a scan for manifests has done: the directory and the database afterwards, and the ids of
the new tasks, the latest first. -/
structure Import where
  directory : Directory
  state : StateStore
  created : List TaskId

/-- Deals with one manifest. -/
def Import.step (now : Nat) (i : Import) (file : String × Bytes) : Import :=
  match importFile i.state file.2 now with
  | some (state, t) => ⟨mark i.directory file.1 "imported", state, t.id :: i.created⟩
  | none => { i with directory := mark i.directory file.1 "rejected" }

/-- Deals with all manifests in the order of their names; gives the ids of the new tasks. -/
def importAll (d : Directory) (s : StateStore) (now : Nat) :
    Directory × StateStore × List TaskId :=
  let i := (d.filesWith "toml").foldl (Import.step now) ⟨d, s, []⟩
  (i.directory, i.state, i.created.reverse)

/-- The id in a cancel marker. -/
def readMarker (bytes : Bytes) : Option TaskId := do
  let text ← Text.decodeChars? bytes
  (TaskId.parse (String.ofList (Text.trim text))).toOption

/-- The cancel markers and the ids in them. A marker without an id is rejected at once. -/
def cancelRequests (d : Directory) : Directory × List (String × TaskId) :=
  let markers := (d.filesWith "cancel").map fun file => (file.1, readMarker file.2)
  (markers.foldl (fun d m => if m.2.isNone then mark d m.1 "rejected" else d) d,
    markers.filterMap fun m => m.2.map fun id => (m.1, id))

/-- The name of the cancel marker for a task, as a path from the spool. -/
def markerName (id : TaskId) : String :=
  id.space ++ "." ++ id.name ++ ".cancel"

/-- The name under which a marker is written before it is given its own; none for `..cancel`,
which begins like the name of the parent directory. -/
def stagingName? (name : String) : Option String :=
  if name = "..cancel" then none
  else if name = ".cancel" then some ".cancel.cancel.tmp"
  else some (name ++ ".tmp")

/-- Writes a marker of a name for a task in a directory, and says whether the file system let it.
The marker gets its name when it is complete. -/
def putMarker (d : Directory) (name : String) (id : TaskId) : Directory × Bool :=
  match stagingName? name with
  | none => (d, false)
  | some staging => match d.write? staging (Text.encode (id.key ++ "\n")) with
    | none => (d, false)
    | some staged => match staged.rename? staging name with
      | none => (staged, false)
      | some d => (d, true)

/-- Leaves a cancel marker for a task in the spool at a path: the path of the marker, or `none` if
the file system refuses. An id with slashes names a marker in another directory. -/
def requestCancel (fs : FileSystem) (spool : String) (id : TaskId) :
    FileSystem × Option String :=
  let path := Path.join spool (markerName id)
  let found := do
    let (place, name) ← fs.entry? (← Path.ofText? path)
    return (place, name, ← (← fs.root.get? place).toDirectory?)
  match found with
  | none => (fs, none)
  | some (place, name, d) =>
    let (d, made) := putMarker d name id
    (fs.setFilesAt place d, if made then some path else none)

end TaskFleet.Spool
