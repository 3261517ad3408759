import TaskFleet.Text.Alphanumeric
import TaskFleet.Text.Blank
import TaskFleet.Text.Decimal

/-!
# Patterns

Which texts are regular expressions that text can be matched with: `isPattern`. A pattern is read
from left to right, with the mode that its flags have set and with the groups that are still open.

The matcher reads UTF-8 and works without tables of Unicode. So in Unicode mode, which holds unless
`(?-u)` ends it, letters cannot be compared without their case, and there are no classes such as
`\d` and no boundaries of words; and in ASCII mode nothing may match a part of a character.
-/

namespace TaskFleet.Text.Pattern

/-- What is in force at a place of a pattern. -/
structure Mode where
  /-- Letters are compared without their case. -/
  ignoreCase : Bool := false
  /-- Characters are those of Unicode. -/
  unicode : Bool := true
  /-- Blanks and comments are skipped. -/
  verbose : Bool := false

/-- Skips blanks and comments. A comment ends with its line. -/
def skipFrom (inComment : Bool) : List Char → List Char
  | [] => []
  | c :: rest =>
    if inComment then skipFrom (c != '\n') rest
    else if c = '#' then skipFrom true rest
    else if isBlank c then skipFrom false rest
    else c :: rest

namespace Mode

/-- Skips what the mode lets stand between the parts of a pattern. -/
def skip (m : Mode) (s : List Char) : List Char :=
  if m.verbose then skipFrom false s else s

/-- Sets what a flag stands for. Of some flags nothing in a pattern depends. -/
def set (m : Mode) (flag : Char) (value : Bool) : Mode :=
  if flag = 'i' then { m with ignoreCase := value }
  else if flag = 'u' then { m with unicode := value }
  else if flag = 'x' then { m with verbose := value }
  else m

end Mode

/-! ### Single characters and escapes -/

/-- What one character, or an escape, stands for. -/
inductive Atom where
  | char (c : Char)
  /-- A byte, given by its two digits. -/
  | byte (c : Char)
  /-- Digits, blanks or the characters of words, or all others. -/
  | kind (negated : Bool)
  /-- A condition on the place, which may be about words. -/
  | assertion (ofWords : Bool)

/-- The character for which an atom stands. -/
def Atom.char? : Atom → Option Char
  | .char c | .byte c => some c
  | _ => none

/-- Whether an atom may stand outside classes. -/
def Mode.allows (m : Mode) : Atom → Bool
  | .char _ => !(m.unicode && m.ignoreCase)
  | .byte c => if m.unicode then !m.ignoreCase else c.val < 0x80
  | .kind negated => !m.unicode && !negated
  | .assertion ofWords => !(m.unicode && ofWords)

/-- Whether an atom may stand in a class. -/
def Mode.allowsInClass (m : Mode) : Atom → Bool
  | .char c | .byte c => m.unicode || c.val < 0x80
  | .kind negated => !m.unicode && !negated
  | .assertion _ => false

/-- The number that so many hexadecimal digits write, after the digits before them. -/
def hexValue? (m : Mode) : Nat → Nat → List Char → Option (Nat × List Char)
  | 0, value, s => some (value, m.skip s)
  | digits + 1, value, s => match m.skip s with
    | [] => none
    | c :: rest => do hexValue? m digits (16 * value + (← hexDigit? c)) rest

/-- The character of a number that is written with so many digits. -/
def numbered? (m : Mode) (digits : Nat) (s : List Char) : Option (Char × List Char) := do
  let (n, rest) ← hexValue? m digits 0 s
  if n.isValidChar then some (Char.ofNat n, rest) else none

/-- The control character of a letter. -/
def control? (letter : Char) : Option Char :=
  if letter = 'a' then some '\x07'
  else if letter = 't' then some '\t'
  else if letter = 'n' then some '\n'
  else if letter = 'v' then some '\x0b'
  else if letter = 'f' then some '\x0c'
  else if letter = 'r' then some '\r'
  else none

/-- The atom of a letter, or of another ASCII character, after a backslash. -/
def shortEscape? (c : Char) : Option Atom :=
  if ['d', 's', 'w'].contains c then some (.kind false)
  else if ['D', 'S', 'W'].contains c then some (.kind true)
  else if ['A', 'z'].contains c then some (.assertion false)
  else if ['b', 'B', '<', '>'].contains c then some (.assertion true)
  else if c.val < 0x80 && !c.isAlphanum then some (.char c)
  else (control? c).map .char

/-- Reads an escape after its backslash. -/
def escape? (m : Mode) : List Char → Option (Atom × List Char)
  | [] => none
  | 'x' :: rest => (numbered? m 2 rest).map fun r => (.byte r.1, r.2)
  | 'u' :: rest => (numbered? m 4 rest).map fun r => (.char r.1, r.2)
  | 'U' :: rest => (numbered? m 8 rest).map fun r => (.char r.1, r.2)
  | c :: rest => (shortEscape? c).map fun a => (a, rest)

/-! ### Nesting -/

/-- How deep the parts of a pattern may be nested. -/
def maxDepth : Nat := 250

/-- The parts of a group or a class as far as they are read. -/
structure Parts where
  /-- How many there are since the last separator. -/
  count : Nat := 0
  /-- How deep the deepest of those is nested. -/
  depth : Nat := 0
  /-- How deep what is before the last separator is nested. -/
  left : Option Nat := none
  /-- How deep the last part is nested, if it can be repeated. -/
  last : Option Nat := none

namespace Parts

/-- Adds a part that is nested so deep. -/
def add (p : Parts) (depth : Nat) : Parts :=
  { p with count := p.count + 1, depth := max p.depth depth, last := some depth }

/-- Adds a setting of flags, which cannot be repeated. -/
def addSetting (p : Parts) : Parts :=
  { p with count := p.count + 1, last := none }

/-- Repeats the last part, if there is one to repeat. -/
def repeat? (p : Parts) : Option Parts :=
  p.last.map fun d => { p with depth := max p.depth (d + 1), last := some (d + 1) }

/-- How deep the parts since the last separator are nested when they are joined. -/
def joined (p : Parts) : Nat :=
  if p.count ≤ 1 then p.depth else p.depth + 1

/-- How deep all parts are nested. -/
def total (p : Parts) : Nat :=
  p.left.elim p.joined fun d => max d p.joined + 1

/-- The parts after an operator between classes. -/
def operator (p : Parts) : Parts :=
  { left := some p.total }

/-- The parts after a bar between alternatives. -/
def alternative (p : Parts) : Parts :=
  { left := some (max (p.left.getD 0) p.joined) }

end Parts

/-! ### Classes -/

/-- The names of the classes of ASCII characters. -/
def asciiClasses : List String :=
  ["alnum", "alpha", "ascii", "blank", "cntrl", "digit", "graph", "lower", "print", "punct",
    "space", "upper", "word", "xdigit"]

/-- Reads a named class after its bracket, and says whether it is negated. -/
def asciiClass? : List Char → Option (Bool × List Char)
  | ':' :: rest =>
    let negated := rest.head? == some '^'
    let (name, rest) := (if negated then rest.drop 1 else rest).span (· != ':')
    match rest with
    | ':' :: ']' :: rest =>
      if asciiClasses.contains (String.ofList name) then some (negated, rest) else none
    | _ => none
  | _ => none

/-- Reads one character, or an escape, in a class. -/
def classAtom? (m : Mode) (s : List Char) : Option (Atom × List Char) := do
  let (a, rest) ← match s with
    | [] => none
    | '\\' :: rest => escape? m rest
    | c :: rest => some (.char c, rest)
  if m.allowsInClass a then some (a, rest) else none

mutual

/-- Reads a class after its bracket: how deep it is nested, and what follows it. -/
def class? (m : Mode) : Nat → List Char → Option (Nat × List Char)
  | 0, _ => none
  | fuel + 1, s =>
    let s := m.skip s
    let negated := s.head? == some '^'
    if (if m.unicode then m.ignoreCase else negated) then none
    else classStart? m fuel {} (if negated then s.drop 1 else s)

/-- Reads a class from its first members: dashes, or a closing bracket that is none. -/
def classStart? (m : Mode) : Nat → Parts → List Char → Option (Nat × List Char)
  | 0, _, _ => none
  | fuel + 1, p, s => match m.skip s with
    | '-' :: rest => classStart? m fuel (p.add 0) rest
    | ']' :: rest =>
      if p.count = 0 then classRest? m fuel (p.add 0) rest else classRest? m fuel p (']' :: rest)
    | s => classRest? m fuel p s

/-- Reads a class from its members on. -/
def classRest? (m : Mode) : Nat → Parts → List Char → Option (Nat × List Char)
  | 0, _, _ => none
  | fuel + 1, p, s => match m.skip s with
    | [] => none
    | ']' :: rest => some (p.total + 1, rest)
    | '&' :: '&' :: rest => classRest? m fuel p.operator rest
    | '-' :: '-' :: rest => classRest? m fuel p.operator rest
    | '~' :: '~' :: rest => classRest? m fuel p.operator rest
    | '[' :: rest => match asciiClass? rest with
      | some (negated, rest) =>
        if negated && !m.unicode then none else classRest? m fuel (p.add 0) rest
      | none => do
        let (depth, rest) ← class? m fuel rest
        classRest? m fuel (p.add depth) rest
    | s => do
      let (first, rest) ← classAtom? m s
      match m.skip rest with
      | '-' :: rest => match m.skip rest with
        | [] => none
        | ']' :: _ | '-' :: _ => classRest? m fuel (p.add 0) ('-' :: rest)
        | s => do
          let (last, rest) ← classAtom? m s
          if (← first.char?) ≤ (← last.char?) then classRest? m fuel (p.add 0) rest else none
      | rest => classRest? m fuel (p.add 0) rest

end

/-! ### Groups -/

/-- What an opening parenthesis begins. -/
inductive Opening where
  | group (mode : Mode) (name : Option (List Char))
  /-- A setting of flags for the rest of the group around it. -/
  | setting (mode : Mode)

/-- Whether a text may be the name of a group. -/
def isGroupName : List Char → Bool
  | [] => false
  | c :: rest => (c == '_' || isAlphabetic c) &&
    rest.all fun c => ['_', '.', '[', ']'].contains c || isAlphanumeric c

/-- Reads the name of a group up to its closing bracket. -/
def groupName? (s : List Char) : Option (List Char × List Char) := do
  let (name, rest) ← match s.span (· != '>') with
    | (name, '>' :: rest) => some (name, rest)
    | _ => none
  if isGroupName name then some (name, rest) else none

/-- The letters of flags, and the dash before those that are taken away. -/
def flagLetters : List Char := ['i', 'm', 's', 'U', 'R', 'u', 'x', '-']

/-- Reads flags, given the mode and the flags before them, the last one first. -/
def flags? (m : Mode) (seen : List Char) : List Char → Option (Opening × List Char)
  | [] => none
  | c :: rest =>
    if c = ':' ∨ c = ')' then
      if seen.head? = some '-' then none
      else if c = ':' then some (.group m none, rest)
      else if seen.isEmpty then none
      else some (.setting m, rest)
    else if seen.contains c || !flagLetters.contains c then none
    else flags? (m.set c (!seen.contains '-')) (c :: seen) rest

/-- Reads what begins with an opening parenthesis. One cannot look ahead or behind. -/
def opening? (m : Mode) (s : List Char) : Option (Opening × List Char) :=
  match m.skip s with
  | '?' :: '=' :: _ | '?' :: '!' :: _ | '?' :: '<' :: '=' :: _ | '?' :: '<' :: '!' :: _ => none
  | '?' :: 'P' :: '<' :: rest | '?' :: '<' :: rest =>
    (groupName? rest).map fun r => (.group m (some r.1), r.2)
  | '?' :: rest => flags? m [] rest
  | s => some (.group m none, s)

/-- A pattern as far as it is read. -/
structure State where
  mode : Mode := {}
  /-- The parts of the innermost group that is open. -/
  parts : Parts := {}
  /-- The modes and the parts around the open groups, the innermost first. -/
  outer : List (Mode × Parts) := []
  /-- The names of the groups. -/
  names : List (List Char) := []

namespace State

/-- Adds a part that is nested so deep. -/
def add (st : State) (depth : Nat) : State :=
  { st with parts := st.parts.add depth }

/-- Adds an atom, if it may stand outside classes. -/
def addAtom? (st : State) (a : Atom) : Option State :=
  if st.mode.allows a then some (st.add 0) else none

/-- Begins what an opening parenthesis begins. A name is given to one group only. -/
def open? (st : State) : Opening → Option State
  | .setting mode => some { st with mode, parts := st.parts.addSetting }
  | .group mode name =>
    if st.names.any fun n => name = some n then none
    else some {
      mode
      outer := (st.mode, st.parts) :: st.outer
      names := name.toList ++ st.names }

/-- Ends the innermost group. -/
def close? (st : State) : Option State :=
  match st.outer with
  | [] => none
  | (mode, parts) :: outer =>
    some { st with mode, parts := parts.add (st.parts.total + 1), outer }

/-- Reads the next part of a pattern. -/
def read? (st : State) : List Char → Option (State × List Char)
  | [] => none
  | '(' :: rest => do
    let (o, rest) ← opening? st.mode rest
    return (← st.open? o, rest)
  | ')' :: rest => return (← st.close?, rest)
  | '|' :: rest => some ({ st with parts := st.parts.alternative }, rest)
  | '[' :: rest => do
    let (depth, rest) ← class? st.mode (4 * rest.length + 4) rest
    return (st.add depth, rest)
  | '?' :: rest | '*' :: rest | '+' :: rest => do
    return ({ st with parts := ← st.parts.repeat? }, rest)
  | '\x7b' :: _ => none
  | '.' :: rest => if st.mode.unicode then some (st.add 0, rest) else none
  | '^' :: rest | '$' :: rest => some (st.add 0, rest)
  | '\\' :: rest => do
    let (a, rest) ← escape? st.mode rest
    return (← st.addAtom? a, rest)
  | c :: rest => return (← st.addAtom? (.char c), rest)

/-- Reads a pattern to its end, in at most so many parts, and says whether it is one. -/
def readAll (st : State) : Nat → List Char → Bool
  | 0, _ => false
  | fuel + 1, s => match st.mode.skip s with
    | [] => st.outer.isEmpty && st.parts.total ≤ maxDepth
    | s => match st.read? s with
      | none => false
      | some (st, rest) => st.readAll fuel rest

end State

end Pattern

/-- Whether a text without closing braces is a pattern. Such a text has no counted repetitions. -/
def isPattern (s : List Char) : Bool :=
  ({} : Pattern.State).readAll (s.length + 1) s

end TaskFleet.Text
