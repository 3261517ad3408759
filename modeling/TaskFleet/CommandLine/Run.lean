import TaskFleet.CommandLine.Help
import TaskFleet.Config.Log
import TaskFleet.Daemon
import TaskFleet.Store.File

/-!
# Commands

What the commands do to a file system, and what they print. A command ends with an exit code,
except the one that runs the daemon: once started the daemon goes on with `Service.advance`, for as
long as it is let.
-/

namespace TaskFleet.CommandLine

/-- How a command has ended. -/
structure Outcome where
  code : Nat
  stdout : String := ""
  stderr : String := ""
deriving DecidableEq, Repr

namespace Outcome

/-- The end of a command that has done what was asked. -/
def success (stdout : String) : Outcome := { code := 0, stdout }

/-- The end of a command that could not do what was asked. -/
def failure (message : String) : Outcome := { code := 1, stderr := "Error: " ++ message ++ "\n" }

/-- The end of a command that has stopped where it was. -/
def abort (message : String) : Outcome := { code := 101, stderr := message ++ "\n" }

/-- The end of a command whose log cannot be set up. -/
def ofLogError : LogError → Outcome
  | .brokenCharacter => abort LogError.brokenCharacter.message
  | e => failure e.message

/-- The end of a command line that asks for nothing. -/
def misuse (e : UsageError) : Outcome := { code := 2, stderr := e.render }

end Outcome

/-- A daemon at work, with the files that it keeps. -/
structure Service where
  host : Host
  /-- The path of the database. -/
  database : String
  /-- The path of the spool. -/
  spool : Option String

namespace Service

/-- The database as it is now. -/
def state (s : Service) : StateStore :=
  s.host.fleet.store.state?.getD .empty

/-- Writes the database to its file. -/
def saveState (s : Service) (fs : FileSystem) : FileSystem :=
  (fs.write? s.database s.state.save).getD fs

/-- The service with the spool as it is among the files. -/
def readSpool (s : Service) (fs : FileSystem) : Service :=
  { s with host.spool := s.host.spool.map fun watch =>
      { watch with directory := s.spool.bind fs.list? } }

/-- Puts the spool back among the files. -/
def writeSpool (s : Service) (fs : FileSystem) : FileSystem :=
  match s.spool, s.host.spool.bind (·.directory) with
  | some path, some d => fs.setFiles path d
  | _, _ => fs

/-- Lets milliseconds pass for the daemon. -/
def advance (s : Service) (fs : FileSystem) (ms : Nat) : FileSystem × Service :=
  let s := s.readSpool fs
  let s := { s with host := ((Host.advance ms).run s.host).2 }
  (s.saveState (s.writeSpool fs), s)

end Service

/-- What has become of a command. -/
inductive Result where
  | ended (outcome : Outcome)
  | serving (service : Service)

/-- Reads the configuration of the daemon. -/
def readConfig (path : Option String) (fs : FileSystem) : Except String Config :=
  match path with
  | none => .ok .default
  | some path =>
    match (fs.read? path).bind Text.decode? with
    | none => .error ("cannot read " ++ path)
    | some text => (Config.read text).mapError fun e => e.message?.getD "invalid configuration"

/-- The path of the database in the data directory. -/
def databasePath (o : StandaloneOptions) : String :=
  Path.join o.dataDirectory "agentgrid.redb"

/-- Opens the database, if the file is one; where there is none it is made. -/
def openDatabase (path : String) (fs : FileSystem) : Except String StateStore :=
  match fs.find? path with
  | none => .ok .empty
  | some (.file bytes) => match StateStore.load? bytes with
    | some s => .ok s
    | none => .error ("no database: " ++ path)
  | some (.directory _) => .error ("no database: " ++ path)

/-- What the daemon is told by the command line. The spool is scanned once a second at most. -/
def daemonOptions (o : StandaloneOptions) : DaemonOptions where
  spool := o.spool.map fun _ => ⟨none, .ofSecs (max o.importInterval 1)⟩
  staleAfter := o.staleAfter

/-- Starts the daemon on a database. -/
def serve (c : Config) (o : StandaloneOptions) (clock : Clock) (state : StateStore)
    (fs : FileSystem) : FileSystem × Result :=
  let (result, host) := Daemon.start c (daemonOptions o) state clock
  let s : Service := ⟨host, databasePath o, o.spool⟩
  match result with
  | .error e => (s.saveState fs, .ended (.failure e.message))
  | .ok () => (s.saveState fs, .serving s)

/-- Runs the daemon. Nothing is changed before the configuration is known to be right. -/
def standalone (o : StandaloneOptions) (clock : Clock) (fs : FileSystem) : FileSystem × Result :=
  match readConfig o.config fs with
  | .error e => (fs, .ended (.failure e))
  | .ok c =>
    match c.log.check with
    | .error e => (fs, .ended (.ofLogError e))
    | .ok () =>
      match fs.makeDirectories o.dataDirectory with
      | (fs, false) => (fs, .ended (.failure ("cannot make " ++ o.dataDirectory)))
      | (fs, true) => match openDatabase (databasePath o) fs with
        | .error e => (fs, .ended (.failure e))
        | .ok state => serve c o clock state fs

/-- What is printed for a manifest that is right. -/
def validationText (t : Task) : String :=
  toString t.id ++ ": ok (" ++ toString t.spec.dependencies.length ++
    " dependencies, requires " ++ t.requirement.render ++ ")\n"

/-- Checks the manifest in a file. -/
def validate (path : String) (now : Nat) (fs : FileSystem) : Outcome :=
  match fs.read? path with
  | none => .failure ("reading manifest " ++ path)
  | some bytes => match Manifest.readFile bytes now with
    | .ok t => .success (validationText t)
    | .error e => .failure (e.message?.getD ("parsing manifest " ++ path))

/-- What is printed for a cancel marker. -/
def cancellationText (task : TaskId) (marker : String) : String :=
  toString task ++ ": cancellation requested (" ++ marker ++ ")\n"

/-- Leaves a cancel marker in a spool. -/
def cancel (task : TaskId) (spool : String) (fs : FileSystem) : FileSystem × Outcome :=
  match Spool.requestCancel fs spool task with
  | (fs, some marker) => (fs, .success (cancellationText task marker))
  | (fs, none) => (fs, .failure ("failed to write in " ++ spool))

/-- Does what a command asks for. -/
def Command.run (c : Command) (clock : Clock) (fs : FileSystem) : FileSystem × Result :=
  match c with
  | .standalone o => CommandLine.standalone o clock fs
  | .validate path => (fs, .ended (CommandLine.validate path clock.now fs))
  | .cancel task spool =>
    let (fs, outcome) := CommandLine.cancel task spool fs
    (fs, .ended outcome)

/-- Does what a command line asks for. -/
def run (words : List String) (clock : Clock) (fs : FileSystem) : FileSystem × Result :=
  match parse words with
  | .error e => (fs, .ended (.misuse e))
  | .ok (.help page) => (fs, .ended (.success page.render))
  | .ok (.run c) => c.run clock fs

/-- The paths that a command looks at. -/
def Command.paths : Command → List String
  | .standalone o => o.config.toList ++ [databasePath o] ++ o.spool.toList
  | .validate path => [path]
  | .cancel _ spool => [spool]

end TaskFleet.CommandLine
