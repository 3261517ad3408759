import TaskFleet.FileSystem.Tree

/-!
# File systems

A tree of files and the directory in which a program works. A path is followed name by name, and
each name has to lead on from a directory that is there: `a/..` leads nowhere if `a` is missing or
a file. An operation that the file system refuses is `none` and changes nothing; only
`makeDirectories` keeps what it has made until then.
-/

namespace TaskFleet

open Text (Bytes)

/-- A path as it is read from a text. -/
structure Path where
  /-- Whether it starts at the root and not where the program works. -/
  isAbsolute : Bool
  names : List String
  /-- Whether it ends in a slash, and so can lead to a directory only. -/
  toDirectory : Bool
deriving DecidableEq, Repr

namespace Path

/-- The greatest length of a path, in bytes. -/
def maxLength : Nat := 4095

/-- The path that a text stands for. -/
def ofText? (text : String) : Option Path :=
  let s := text.toList
  if s.isEmpty || s.contains '\x00' || maxLength < text.utf8ByteSize then none
  else some {
    isAbsolute := s.head? == some '/'
    names := ((Text.splitAll '/' s).filter fun name => !name.isEmpty).map String.ofList
    toDirectory := s.getLast? == some '/' }

/-- The text of a path that goes on from another one. An absolute one starts anew. -/
def join (start rest : String) : String :=
  if rest.toList.head? = some '/' then rest
  else if start.toList.getLast? = some '/' then start ++ rest
  else start ++ "/" ++ rest

end Path

/-- A tree of files and the place where a program works. -/
structure FileSystem where
  root : FileTree
  workingDirectory : Place

namespace FileSystem

/-- Where a path starts. -/
def start (fs : FileSystem) (p : Path) : Place :=
  if p.isAbsolute then [] else fs.workingDirectory

/-- The place to which a name leads from a directory. The root is its own parent. -/
def step? (fs : FileSystem) (place : Place) (name : String) : Option Place :=
  match fs.root.get? place with
  | some (.directory entries) =>
    if name = "." then some place
    else if name = ".." then some place.dropLast
    else if (FileTree.child? name entries).isSome then some (place ++ [name])
    else none
  | _ => none

/-- The place to which names lead one after the other. -/
def follow? (fs : FileSystem) (place : Place) (names : List String) : Option Place :=
  names.foldlM fs.step? place

/-- The place of what is at a path. -/
def locate? (fs : FileSystem) (path : String) : Option Place := do
  let p ← Path.ofText? path
  let place ← fs.follow? (fs.start p) p.names
  if p.toDirectory then fs.step? place "." else some place

/-- The directory in which a path names an entry, and the name. -/
def entry? (fs : FileSystem) (p : Path) : Option (Place × String) := do
  let name ← p.names.getLast?
  let parent ← fs.step? (← fs.follow? (fs.start p) p.names.dropLast) "."
  if isFileName name then some (parent, name) else none

/-- What is at a path. -/
def find? (fs : FileSystem) (path : String) : Option FileTree := do
  fs.root.get? (← fs.locate? path)

/-- The bytes of the file at a path. -/
def read? (fs : FileSystem) (path : String) : Option Bytes :=
  match fs.find? path with
  | some (.file bytes) => some bytes
  | _ => none

/-- The directory at a path. -/
def list? (fs : FileSystem) (path : String) : Option Directory := do
  (← fs.find? path).toDirectory?

/-- Puts something at a place. -/
def put? (fs : FileSystem) (place : Place) (t : FileTree) : Option FileSystem :=
  (FileTree.put? t place fs.root).map fun root => { fs with root }

/-- Writes a file in place of the one at a path. -/
def write? (fs : FileSystem) (path : String) (bytes : Bytes) : Option FileSystem := do
  let p ← Path.ofText? path
  let (parent, name) ← fs.entry? p
  let place := parent ++ [name]
  if p.toDirectory || (fs.root.get? place).any FileTree.isDirectory then none
  else fs.put? place (.file bytes)

/-- Moves what is at a path to another path, by the rules for entries that take each other's
place. A directory cannot be moved into itself. -/
def rename? (fs : FileSystem) (old new : String) : Option FileSystem := do
  let p ← Path.ofText? old
  let q ← Path.ofText? new
  let (parent, name) ← fs.entry? p
  let (newParent, newName) ← fs.entry? q
  let source := parent ++ [name]
  let target := newParent ++ [newName]
  let moved ← fs.root.get? source
  if (p.toDirectory || q.toDirectory) && !moved.isDirectory then none
  else if source = target then some fs
  else if source.isPrefixOf target then none
  else if moved.toEntry.mayReplace ((fs.root.get? target).map FileTree.toEntry) then do
    let root ← fs.root.erase? source
    { fs with root }.put? target moved
  else none

/-- Makes the directories that names lead through, unless they are there; gives the place to which
the names lead, or nothing if something is in the way. -/
def makeAlong (fs : FileSystem) (place : Place) : List String → FileSystem × Option Place
  | [] => (fs, some place)
  | name :: rest =>
    match fs.step? place name with
    | some next =>
      if (fs.root.get? next).any FileTree.isDirectory then fs.makeAlong next rest else (fs, none)
    | none =>
      match if isFileName name then fs.put? (place ++ [name]) (.directory []) else none with
      | some fs => fs.makeAlong (place ++ [name]) rest
      | none => (fs, none)

/-- The names without the dots at their end. -/
def withoutFinalDots (names : List String) : List String :=
  (names.reverse.dropWhile (· == ".")).reverse

/-- Makes the directory at a path and those on the way to it, unless they are there; says whether
it is there now. A path that ends in a dot does not make its last directory. -/
def makeDirectories (fs : FileSystem) (path : String) : FileSystem × Bool :=
  match Path.ofText? path with
  | none => (fs, false)
  | some p =>
    let names := withoutFinalDots p.names
    if names.length = p.names.length then
      let (fs, made) := fs.makeAlong (fs.start p) names
      (fs, made.isSome)
    else
      let (fs, _) := fs.makeAlong (fs.start p) names.dropLast
      (fs, (fs.find? path).any FileTree.isDirectory)

/-- Changes the files in the directory at a place. -/
def setFilesAt (fs : FileSystem) (place : Place) (d : Directory) : FileSystem :=
  match fs.root.get? place with
  | some before => (fs.put? place (before.withFiles d)).getD fs
  | none => fs

/-- Changes the files in the directory at a path. -/
def setFiles (fs : FileSystem) (path : String) (d : Directory) : FileSystem :=
  match fs.locate? path with
  | some place => fs.setFilesAt place d
  | none => fs

end FileSystem

end TaskFleet
