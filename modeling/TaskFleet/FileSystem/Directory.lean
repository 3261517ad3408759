import TaskFleet.Dict
import TaskFleet.Text.Split
import TaskFleet.Text.Utf8

/-!
# Directories

The entries of one directory by name: files with their bytes, and other directories, of which only
matters whether anything is in them. `rename?` follows the rules of a file system: a file takes the
place of a file, a directory only that of an empty directory.
-/

namespace TaskFleet

open Text (Bytes)

/-- An entry of a directory. -/
inductive Entry where
  | file (bytes : Bytes)
  | directory (isEmpty : Bool)
deriving DecidableEq, Repr

namespace Entry

/-- Whether an entry is a file. -/
def isFile : Entry → Bool
  | .file _ => true
  | .directory _ => false

/-- Whether an entry may take the place of another one. -/
def mayReplace (e : Entry) : Option Entry → Bool
  | none => true
  | some (.file _) => e.isFile
  | some (.directory isEmpty) => !e.isFile && isEmpty

end Entry

/-- A directory: its entries by name. -/
abbrev Directory := Dict String Entry

/-- The greatest length of a file name, in bytes. -/
def maxNameLength : Nat := 255

/-- Whether a directory can have an entry of a name. -/
def isFileName (name : String) : Bool :=
  let s := name.toList
  name != "" && name != "." && name != ".." && !s.contains '/' && !s.contains '\x00' &&
    name.utf8ByteSize ≤ maxNameLength

/-- The part of a file name after its last dot, unless the dot is its first character. -/
def extension? (name : String) : Option String :=
  match Text.splitOnce '.' name.toList.reverse with
  | some (_, []) => none
  | some (ending, _) => some (String.ofList ending.reverse)
  | none => none

namespace Directory

/-- Gives an entry another name; `none` if the file system refuses. -/
def rename? (d : Directory) (old new : String) : Option Directory := do
  let entry ← d.find? old
  if isFileName new && entry.mayReplace (d.find? new) then
    some ((d.erase old).insert new entry)
  else none

/-- Writes a file in place of the one of its name; `none` if the file system refuses. -/
def write? (d : Directory) (name : String) (bytes : Bytes) : Option Directory :=
  if isFileName name && (((d.find? name).map Entry.isFile).getD true) then
    some (d.insert name (.file bytes))
  else none

/-- The files with an extension and their bytes, in the order of their names. -/
def filesWith (d : Directory) (extension : String) : List (String × Bytes) :=
  d.entries.filterMap fun
    | (name, .file bytes) => if extension? name = some extension then some (name, bytes) else none
    | (_, .directory _) => none

end Directory

end TaskFleet
