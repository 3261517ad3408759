import TaskFleet.FileSystem.Directory

/-!
# Trees of files

A file or a directory with everything under it. A place in a tree is given by the names on the way
to it from the root.
-/

namespace TaskFleet

open Text (Bytes)

/-- A file, or a directory with its entries. -/
inductive FileTree where
  | file (bytes : Bytes)
  | directory (entries : List (String × FileTree))
deriving Repr, Inhabited

/-- A place in a tree: the names that lead to it from the root. -/
abbrev Place := List String

namespace FileTree

/-- Whether a tree is a directory. -/
def isDirectory : FileTree → Bool
  | .file _ => false
  | .directory _ => true

/-- The entry of a name. -/
def child? (name : String) (entries : List (String × FileTree)) : Option FileTree :=
  (entries.find? fun e => e.1 = name).map (·.2)

/-- Replaces the entry of a name, or adds it. -/
def setChild (name : String) (t : FileTree) :
    List (String × FileTree) → List (String × FileTree)
  | [] => [(name, t)]
  | e :: rest => if e.1 = name then (name, t) :: rest else e :: setChild name t rest

/-- What is at a place. -/
def get? : Place → FileTree → Option FileTree
  | [], t => some t
  | name :: place, .directory entries => (child? name entries).bind (get? place)
  | _ :: _, .file _ => none

/-- Puts something at a place in a directory that is there. -/
def put? (new : FileTree) : Place → FileTree → Option FileTree
  | [], _ => some new
  | [name], .directory entries => some (.directory (setChild name new entries))
  | name :: place, .directory entries => do
    let t ← put? new place (← child? name entries)
    return .directory (setChild name t entries)
  | _ :: _, .file _ => none

/-- Takes away what is at a place. -/
def erase? : Place → FileTree → Option FileTree
  | [name], .directory entries => some (.directory (entries.filter fun e => e.1 ≠ name))
  | name :: place, .directory entries => do
    let t ← erase? place (← child? name entries)
    return .directory (setChild name t entries)
  | _, _ => none

mutual

/-- All files and directories in a tree by their absolute paths, with the bytes of the files. -/
def listing (path : String) : FileTree → List (String × Option Bytes)
  | .file bytes => [(path, some bytes)]
  | .directory entries => (path, none) :: listingAll path entries

/-- The same for the entries of a directory. -/
def listingAll (path : String) : List (String × FileTree) → List (String × Option Bytes)
  | [] => []
  | (name, t) :: rest => listing (path ++ "/" ++ name) t ++ listingAll path rest

end

/-- An entry as it is seen from its directory. -/
def toEntry : FileTree → Entry
  | .file bytes => .file bytes
  | .directory entries => .directory entries.isEmpty

/-- A directory without what is inside its directories. -/
def toDirectory? : FileTree → Option Directory
  | .file _ => none
  | .directory entries => some (.ofList (entries.map fun e => (e.1, e.2.toEntry)))

/-- A directory with other files in it; its directories stay. -/
def withFiles (d : Directory) (t : FileTree) : FileTree :=
  let before := match t with
    | .file _ => []
    | .directory entries => entries
  .directory (d.entries.map fun e => match e.2 with
    | .file bytes => (e.1, .file bytes)
    | .directory _ => (e.1, (child? e.1 before).getD (.directory [])))

end FileTree

end TaskFleet
