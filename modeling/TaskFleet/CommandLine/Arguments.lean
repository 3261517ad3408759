import TaskFleet.Task.Id
import TaskFleet.Text.Decimal

/-!
# Arguments

What the words of a command line ask for. Words are taken from left to right, and the first that
cannot be taken decides, so a request for help counts only if nothing before it was wrong.
-/

namespace TaskFleet.CommandLine

open Text

/-- How the daemon is to be run. -/
structure StandaloneOptions where
  config : Option String
  dataDirectory : String
  spool : Option String
  /-- Seconds between two scans of the spool. -/
  importInterval : Nat
  /-- Seconds after which an agent's record goes stale; zero for never. -/
  staleAfter : Nat
deriving DecidableEq, Repr

/-- What is to be done. -/
inductive Command where
  | standalone (options : StandaloneOptions)
  /-- Check the manifest in a file. -/
  | validate (manifest : String)
  /-- Ask the daemon that watches a spool to cancel a task. -/
  | cancel (task : TaskId) (spool : String)
deriving DecidableEq, Repr

/-- A page of help. -/
inductive HelpPage where
  | overview
  | standalone
  | validate
  | cancel
  | help
deriving DecidableEq, Repr

/-- What a command line asks for. -/
inductive Request where
  | run (command : Command)
  | help (page : HelpPage)
deriving DecidableEq, Repr

/-- Why a command line asks for nothing. -/
inductive UsageError where
  | noCommand
  | unknownCommand (word : String)
  | unexpected (word : String)
  | invalid (argument value : String)
  | missingValue (argument : String)
  | repeated (argument : String)
  | missing (argument : String)
deriving DecidableEq, Repr

def UsageError.message : UsageError → String
  | .noCommand => "a command is required"
  | .unknownCommand word => "unrecognized subcommand '" ++ word ++ "'"
  | .unexpected word => "unexpected argument '" ++ word ++ "' found"
  | .invalid argument value => "invalid value '" ++ value ++ "' for '" ++ argument ++ "'"
  | .missingValue argument => "a value is required for '" ++ argument ++ "' but none was supplied"
  | .repeated argument => "the argument '" ++ argument ++ "' cannot be used multiple times"
  | .missing argument => "the argument '" ++ argument ++ "' was not provided"

/-- An argument of a command: its name and the values it takes. -/
structure Argument where
  name : String
  accepts : String → Bool

/-- The arguments of a command: those that stand by themselves and those that follow their names. -/
structure Form where
  positional : List Argument
  named : List Argument

/-- The arguments that have been taken, in the order of the words. -/
structure Taken where
  positional : List String
  named : List (String × String)

/-- The outcome of taking a word: what is taken, or the wish for help. -/
inductive Progress where
  | taken (t : Taken)
  | help

namespace Form

/-- Takes a value for an argument that stands by itself. -/
def takePositional (f : Form) (t : Taken) (value : String) : Except UsageError Taken :=
  match f.positional[t.positional.length]? with
  | none => .error (.unexpected value)
  | some a =>
    if a.accepts value then .ok { t with positional := t.positional ++ [value] }
    else .error (.invalid a.name value)

/-- Takes a value for an argument that follows its name. -/
def takeNamed (t : Taken) (a : Argument) (value : String) : Except UsageError Taken :=
  if !a.accepts value then .error (.invalid a.name value)
  else if t.named.any fun n => n.1 = a.name then .error (.repeated a.name)
  else .ok { t with named := t.named ++ [(a.name, value)] }

/-- Whether a word can be the value of the name before it. -/
def isValue (word : String) : Bool :=
  word == "-" || word.toList.head? != some '-'

/-- Whether a word asks for help, by its long name or by its letter, whatever follows the letter. -/
def asksForHelp (word : String) : Bool :=
  word == "--help" || ['-', 'h'].isPrefixOf word.toList

/-- The name of a word that begins with two dashes, and the value that is attached to it. -/
def splitName (word : String) : String × Option String :=
  match splitOnce '=' word.toList with
  | some (name, value) => (String.ofList name, some (String.ofList value))
  | none => (word, none)

/-- Takes the words of a command. -/
def take (f : Form) (t : Taken) : List String → Except UsageError Progress
  | [] => .ok (.taken t)
  | word :: rest =>
    if word = "--" then (rest.foldlM f.takePositional t).map .taken
    else if asksForHelp word then .ok .help
    else if isValue word then do f.take (← f.takePositional t word) rest
    else
      let (name, attached) := splitName word
      match f.named.find? fun a => a.name = name, attached, rest with
      | none, _, _ => .error (.unexpected word)
      | some a, some value, rest => do f.take (← takeNamed t a value) rest
      | some a, none, value :: rest =>
        if isValue value then do f.take (← takeNamed t a value) rest
        else .error (.missingValue a.name)
      | some a, none, [] => .error (.missingValue a.name)

end Form

namespace Taken

/-- The value of an argument that stands by itself and must be there. -/
def requiredAt (t : Taken) (index : Nat) (name : String) : Except UsageError String :=
  match t.positional[index]? with
  | some value => .ok value
  | none => .error (.missing name)

/-- The value of a named argument. -/
def named? (t : Taken) (name : String) : Option String :=
  (t.named.find? fun n => n.1 = name).map (·.2)

/-- The value of a named argument that must be there. -/
def required (t : Taken) (name : String) : Except UsageError String :=
  match t.named? name with
  | some value => .ok value
  | none => .error (.missing name)

/-- The number that a named argument gives. -/
def number (t : Taken) (name : String) (default : Nat) : Nat :=
  ((t.named? name).bind fun value => bounded? max64 value.toList).getD default

end Taken

/-- A path, which is not empty. -/
def pathArgument (name : String) : Argument := ⟨name, fun value => value != ""⟩

/-- A number of 64 bits. -/
def numberArgument (name : String) : Argument :=
  ⟨name, fun value => (bounded? max64 value.toList).isSome⟩

/-- The id of a task. -/
def taskArgument : Argument := ⟨"<TASK>", fun value => (TaskId.parse value).isOk⟩

/-- The data directory where none is given. -/
def defaultDataDirectory : String := "/var/lib/agentgrid"

/-- The arguments of the command that runs the daemon. -/
def standaloneForm : Form where
  positional := []
  named := [pathArgument "--config", pathArgument "--data-dir", pathArgument "--spool",
    numberArgument "--import-interval", numberArgument "--agent-stale-after"]

/-- The arguments of the command that checks a manifest. -/
def validateForm : Form := ⟨[pathArgument "<MANIFEST>"], []⟩

/-- The arguments of the command that asks for a cancellation. -/
def cancelForm : Form := ⟨[taskArgument], [pathArgument "--spool"]⟩

def standaloneOf (t : Taken) : Except UsageError Command :=
  .ok <| .standalone {
    config := t.named? "--config"
    dataDirectory := (t.named? "--data-dir").getD defaultDataDirectory
    spool := t.named? "--spool"
    importInterval := t.number "--import-interval" 5
    staleAfter := t.number "--agent-stale-after" 0 }

def validateOf (t : Taken) : Except UsageError Command :=
  return .validate (← t.requiredAt 0 "<MANIFEST>")

def cancelOf (t : Taken) : Except UsageError Command := do
  let task ← t.requiredAt 0 "<TASK>"
  let spool ← t.required "--spool"
  match TaskId.parse task with
  | .ok id => return .cancel id spool
  | .error _ => throw (.invalid "<TASK>" task)

/-- Reads the words after the name of a command. -/
def parseCommand (f : Form) (page : HelpPage) (make : Taken → Except UsageError Command)
    (words : List String) : Except UsageError Request := do
  match ← f.take ⟨[], []⟩ words with
  | .help => return .help page
  | .taken t => return .run (← make t)

/-- The page of help on a command. -/
def pageOf? (command : String) : Option HelpPage :=
  if command = "standalone" then some .standalone
  else if command = "validate" then some .validate
  else if command = "cancel" then some .cancel
  else if command = "help" then some .help
  else none

/-- Reads the words after `help`. -/
def parseHelp : List String → Except UsageError Request
  | [] => .ok (.help .overview)
  | [word] => match pageOf? word with
    | some page => .ok (.help page)
    | none => .error (.unknownCommand word)
  | _ :: word :: _ => .error (.unknownCommand word)

/-- Reads a command line. -/
def parse : List String → Except UsageError Request
  | [] => .error .noCommand
  | word :: rest =>
    if Form.asksForHelp word then .ok (.help .overview)
    else match pageOf? word with
      | some .standalone => parseCommand standaloneForm .standalone standaloneOf rest
      | some .validate => parseCommand validateForm .validate validateOf rest
      | some .cancel => parseCommand cancelForm .cancel cancelOf rest
      | some .help => parseHelp rest
      | _ =>
        if Form.isValue word then .error (.unknownCommand word) else .error (.unexpected word)

end TaskFleet.CommandLine
