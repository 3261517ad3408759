import TaskFleet.Config.Basic
import TaskFleet.Text.Pattern
import TaskFleet.Text.Split

/-!
# Settings of the log

Whether the log can be set up as it is configured: the filter must be a list of directives and the
format must be known. A directive gives a level, or a target, or both (`target=level`); a span in
brackets may follow the target, with a field in braces, and a field may be given a value or a
pattern for its value.

A directive is read without the blanks around it, and positions are counted, in bytes, from its
first character. The pieces of it are cut at these positions from the text with the blanks, so
blanks in front shift what is cut, and a cut may fall into a character.
-/

namespace TaskFleet

open Text

/-- Why the log cannot be set up. -/
inductive LogError where
  | badFilter
  /-- The filter would be cut within a character. -/
  | brokenCharacter
  | unknownFormat (format : String)
deriving DecidableEq, Repr

def LogError.message : LogError → String
  | .badFilter => "invalid filter directive"
  | .brokenCharacter => "filter cut within a character"
  | .unknownFormat format =>
    "unknown log format " ++ quoted format ++ ", expected \"text\" or \"json\""

namespace LogConfig

/-- The names of the levels. -/
def levels : List String := ["error", "warn", "info", "debug", "trace", "off"]

/-- Whether a text is a level: a name in letters of any case, or a number up to five. -/
def isLevel (s : List Char) : Bool :=
  (bounded? 5 s).isSome || levels.contains (String.ofList (s.map Char.toLower))

/-- Whether a text names a field, with a number or a pattern for its value if it has one. -/
def isField (s : List Char) : Bool :=
  match splitAll '=' s with
  | [] | [[]] => false
  | [_] => true
  | _ :: value :: _ => isReal value || isPattern value

/-- Goes on if a condition holds, else the filter is refused. -/
def orRefuse {α : Type} (condition : Bool) (a : α) : Except LogError α :=
  if condition then .ok a else .error .badFilter

/-- The piece of a text between two positions in bytes. -/
def cut (s : List Char) (start stop : Nat) : Except LogError (List Char) :=
  match sliceBytes? start stop s with
  | some piece => .ok piece
  | none => .error .brokenCharacter

/-- Which part of a directive is being read. The numbers say where the part starts. -/
inductive Reading where
  | nothing
  /-- A target or a level. -/
  | name (start : Nat)
  | span (start : Nat)
  | field (start : Nat)
  | afterField
  | afterSpan
  | level (start : Nat)
deriving DecidableEq, Repr

/-- Whether a target or a level may begin with a character. -/
def isNameStart (c : Char) : Bool :=
  ['-', ':', '_'].contains c || isAlphanumeric c

/-- Reads the character at a position. -/
def Reading.step (text : List Char) (position : Nat) (c : Char) :
    Reading → Except LogError Reading
  | .nothing =>
    if c = '[' then .ok (.span (position + 1)) else orRefuse (isNameStart c) (.name position)
  | .name start =>
    if c = '=' then (cut text start position).map fun _ => .level (position + 1)
    else if c = '[' then (cut text start position).map fun _ => .span (position + 1)
    else .ok (.name start)
  | .span start =>
    if c = ']' then (cut text start position).map fun _ => .afterSpan
    else if c = '\x7b' then (cut text start position).map fun _ => .field (position + 1)
    else .ok (.span start)
  | .field start =>
    if c = '\x7d' then do orRefuse (isField (← cut text start position)) .afterField
    else .ok (.field start)
  | .afterField => orRefuse (c == ']') .afterSpan
  | .afterSpan => orRefuse (c == '=') (.level (position + 1))
  | .level start => .ok (.level start)

/-- What is wrong with a directive when it ends. -/
def Reading.finish (text : List Char) : Reading → Except LogError Unit
  | .name _ | .afterSpan => .ok ()
  | .level start => do
    let level ← cut text start (byteLength text)
    orRefuse (level.isEmpty || isLevel level) ()
  | _ => .error .badFilter

/-- Reads characters from a position on. -/
def Reading.steps (text : List Char) (r : Reading) (position : Nat) :
    List Char → Except LogError Reading
  | [] => .ok r
  | c :: rest => do (← r.step text position c).steps text (position + c.utf8Size) rest

/-- Finds what is wrong with a directive. -/
def checkDirective (text : List Char) : Except LogError Unit := do
  (← Reading.nothing.steps text 0 (trim text)).finish text

/-- Finds what is wrong with a filter: directives between commas, some of which may be left out. -/
def checkFilter (s : String) : Except LogError Unit :=
  ((splitAll ',' s.toList).filter fun d => !d.isEmpty).forM checkDirective

/-- Finds what keeps the log from being set up. -/
def check (c : LogConfig) : Except LogError Unit := do
  checkFilter c.filter
  if ["text", "", "json"].contains c.format then return
  throw (.unknownFormat c.format)

end LogConfig

end TaskFleet
