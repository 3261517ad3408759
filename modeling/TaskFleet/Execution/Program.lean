import TaskFleet.Execution.Echo
import TaskFleet.Execution.Supervisor
import TaskFleet.FileSystem.Basic

/-!
# Programs

What attempts do when they are run. The host has the programs `true`, `false` and `echo`, and a
shell for scripts; every other program cannot be started. A program is found by its path, or by its
name in the directories that the environment lists. A `Script` is given by its behaviour: it may
report its environment and its arguments as annotations, and then each attempt plays its own part.
-/

namespace TaskFleet

open Text (Bytes)

namespace Attempt

/-- An attempt that prints nothing and exits at once. -/
def exiting (code : Int) : Attempt := ⟨some .zero, .exited code, [], []⟩

/-- The same attempt with other bytes before its output. -/
def prepend (output : Bytes) (a : Attempt) : Attempt :=
  { a with stdout := output ++ a.stdout }

end Attempt

/-- A program given by its behaviour. -/
structure Script where
  /-- The environment variables that are reported. -/
  environment : List String
  /-- Whether the arguments are reported. -/
  arguments : Bool
  /-- What the attempts do, the last one also in place of all after it. -/
  attempts : List Attempt
deriving DecidableEq, Repr

namespace Script

/-- A line that reports a value. -/
def reportLine (key value : String) : String :=
  ExecutionStatus.annotationPrefix ++ key ++ "=" ++ value ++ "\n"

/-- The value of a variable as a program sees it: each entry of the environment is one text, and
its name ends at the first equals sign. Of two values the later counts. -/
def variableOf (env : Dict String String) (name : String) : String :=
  let texts := env.entries.map fun e => Text.splitOnce '=' (e.1 ++ "=" ++ e.2).toList
  let values := texts.filterMap fun
    | some (n, value) => if n = name.toList then some (String.ofList value) else none
    | none => none
  values.getLast?.getD ""

/-- What is reported before an attempt plays its part. -/
def header (s : Script) (env : Dict String String) (args : List String) : String :=
  let ofVariable := fun name => reportLine ("env." ++ name) (variableOf env name)
  let ofArgument := fun (arg, index) => reportLine ("arg." ++ toString index) arg
  String.join (s.environment.map ofVariable ++
    if s.arguments then (args.zipIdx 1).map ofArgument else [])

/-- The part of an attempt. -/
def part (s : Script) (number : Nat) : Attempt :=
  (s.attempts.take number).getLast?.getD (.exiting 0)

/-- An attempt of the script under a plan, with the arguments that it is given. -/
def attempt (s : Script) (plan : Plan) (args : List String) (number : Nat) : Attempt :=
  (s.part number).prepend (Text.encode (s.header (plan.envOf number) args))

end Script

namespace Plan

/-- What the system says of a text that no program can be given. -/
def nulByte : String := "nul byte found in provided data"

/-- What the system says of a directory in place of a program. -/
def permissionDenied : String := "Permission denied (os error 13)"

/-- Whether a text can be given to a program. -/
def isPassable (s : String) : Bool :=
  !s.toList.contains '\x00'

/-- Whether all texts of a plan can be given to a program. -/
def passesTexts (p : Plan) : Bool :=
  (p.program :: p.args ++ p.env.keys ++ p.env.values).all isPassable

/-- The programs of the host. -/
def hostPrograms : List String := ["true", "false", "echo", "sh"]

/-- The directories of the host that hold its programs. -/
def programDirectories : List Place := [["usr", "bin"], ["bin"]]

/-- Some more directories of the host. -/
def otherDirectories : List Place := [[], ["usr"], ["tmp"], ["etc"], ["var"], ["root"], ["home"]]

/-- The place to which an absolute path leads. -/
def place (names : List String) : Place :=
  names.foldl (fun place name =>
    if name = "." then place else if name = ".." then place.dropLast else place ++ [name]) []

/-- Whether a text is an absolute path to a directory that holds the programs of the host. -/
def isProgramDirectory (directory : String) : Bool :=
  (Path.ofText? directory).any fun p => p.isAbsolute && programDirectories.contains (place p.names)

/-- Finds a program by its path. -/
def findByPath (p : Path) : Except String String :=
  let place := place p.names
  let name := place.getLast?.getD ""
  if !p.isAbsolute then .error noSuchFile
  else if (programDirectories ++ otherDirectories).contains place then .error permissionDenied
  else if programDirectories.contains place.dropLast && hostPrograms.contains name then .ok name
  else .error noSuchFile

/-- Finds a program by its name. -/
def findByName (p : Plan) : Except String String :=
  let isListed := match p.env.find? "PATH" with
    | none => true
    | some list => (Text.splitAll ':' list.toList).any fun d => isProgramDirectory (String.ofList d)
  if isListed && hostPrograms.contains p.program then .ok p.program else .error noSuchFile

/-- Finds the program of a plan among those of the host; otherwise says why it cannot be started. -/
def find (p : Plan) : Except String String :=
  if !p.passesTexts then .error nulByte
  else if p.program.toList.contains '/' then
    match Path.ofText? p.program with
    | some path => findByPath path
    | none => .error noSuchFile
  else p.findByName

/-- The environment variable that asks for portable behaviour. -/
def portableVariable : String := "POSIXLY_CORRECT"

/-- What comes of running a plan on the host. -/
def attempt (p : Plan) : Except ExecError Attempt :=
  match p.find with
  | .error cause => .error (.spawn p.program cause)
  | .ok program =>
    if program = "false" then .ok (.exiting 1)
    else if program = "echo" then
      .ok ((Attempt.exiting 0).prepend (Echo.output (p.env.contains portableVariable) p.args))
    else .ok (.exiting 0)

end Plan

namespace Job

/-- The job of a request that is played by a script, if the shell can be started. -/
def ofScript (r : ExecutionRequest) (plan : Plan) (s : Script) : Job where
  attempts := fun number => plan.attempt.map fun _ => s.attempt plan r.args number
  retry := r.retry
  timeout := r.timeout

/-- The job of a request on the host. -/
def ofPlan (r : ExecutionRequest) (plan : Plan) : Job where
  attempts := fun _ => plan.attempt
  retry := r.retry
  timeout := r.timeout

end Job

namespace ExecutionRequest

/-- The job that a request asks for; a script stands in for the program, whatever its name. -/
def job (r : ExecutionRequest) (script : Option Script) : Except ExecError Job :=
  match script with
  | some s => return .ofScript r (← Plan.ofRequest { r with command := ["sh"] }) s
  | none => return .ofPlan r (← Plan.ofRequest r)

end ExecutionRequest

end TaskFleet
