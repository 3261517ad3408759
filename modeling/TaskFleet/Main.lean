import TaskFleet.CommandLine.Run
import Std.Time.DateTime.Timestamp

/-!
# The program

Reads what a command needs, runs the command on that, and writes back what it has changed.

A running daemon learns from standard input what happens outside: each line names a file that has
been put into the spool, and the end of the input tells the daemon to stop.
-/

namespace TaskFleet.CommandLine

/-- Whether there is a directory at a path. -/
def isDirectory (path : String) : IO Bool := do
  try
    let _ ← IO.FS.realPath (path ++ "/.")
    return true
  catch _ => return false

/-- The file system as it is known, with the directories on a path as far as they are there. -/
def loadDirectories (fs : FileSystem) (known : String) : List String → IO FileSystem
  | [] => return fs
  | name :: rest => do
    let path := if known = "" then name else Path.join known name
    if ← isDirectory path then loadDirectories (fs.makeDirectories path).1 path rest
    else return fs

/-- The file system as it is known, with what is at a path. -/
def load (fs : FileSystem) (path : String) : IO FileSystem := do
  let some p := Path.ofText? path | return fs
  let fs ← loadDirectories fs (if p.isAbsolute then "/" else "") p.names
  try return (fs.write? path (← IO.FS.readBinFile path).toList).getD fs
  catch _ => return fs

/-- The part of the file system that a command line needs. -/
def loadAll (words : List String) : IO FileSystem := do
  let here := (← IO.currentDir).toString
  let place := ((Path.ofText? here).map Path.names).getD []
  let fs : FileSystem := ⟨.directory [], place⟩
  let fs := (fs.makeDirectories here).1
  match parse words with
  | .ok (.run c) => c.paths.foldlM load fs
  | _ => return fs

/-- Writes what is new in a file system and removes what is gone. -/
def save (before after : FileSystem) : IO Unit := do
  let known := before.root.listing ""
  let wanted := after.root.listing ""
  for (path, content) in wanted do
    unless known.contains (path, content) do
      match content with
      | none => IO.FS.createDirAll path
      | some bytes => IO.FS.writeBinFile path ⟨bytes.toArray⟩
  for (path, content) in known do
    if content.isSome && !wanted.any fun w => w.1 = path then IO.FS.removeFile path

/-- Runs a daemon until the input ends. -/
partial def serveLoop (s : Service) (fs : FileSystem) (last : Nat) : IO Unit := do
  let line ← (← IO.getStdin).getLine
  let name := line.trimAscii.toString
  let before ← match s.spool with
    | some spool => if name = "" then pure fs else load fs (Path.join spool name)
    | none => pure fs
  let time ← IO.monoMsNow
  let (after, s) := s.advance before (time - last)
  save before after
  unless line.isEmpty do serveLoop s after time

end TaskFleet.CommandLine

open TaskFleet CommandLine in
/-- Does what the command line asks for and returns the exit code. -/
def main (words : List String) : IO UInt32 := do
  let seconds := (← Std.Time.Timestamp.now).toSecondsSinceUnixEpoch.val
  let before ← loadAll words
  let (after, result) := CommandLine.run words ⟨seconds, 0⟩ before
  try save before after
  catch e =>
    IO.eprintln ("Error: " ++ toString e)
    return 1
  match result with
  | .ended outcome =>
    IO.print outcome.stdout
    IO.eprint outcome.stderr
    return outcome.code.toUInt32
  | .serving s =>
    serveLoop s after (← IO.monoMsNow)
    return 0
