import TaskFleet.Json.Basic
import TaskFleet.Text.Decimal

/-!
# Reading JSON

From text to values by the JSON grammar, each function taking the characters before it and giving
back those after it. `read` never fails: where the grammar is violated the value holds `broken`
and nothing is read beyond it.
-/

namespace TaskFleet.Json

open Text (isDigit digitsValue hexDigit? max64)

/-- The white space that JSON allows between tokens. -/
def isSpace (c : Char) : Bool :=
  c == ' ' || c == '\n' || c == '\t' || c == '\r'

/-- Cuts the white space from the front. -/
def skipSpace (s : List Char) : List Char :=
  s.dropWhile isSpace

/-- The number that four hexadecimal digits write. -/
def hexUnit? (a b c d : Char) : Option Nat := do
  return ((← hexDigit? a) * 16 + (← hexDigit? b)) * 256 +
    ((← hexDigit? c) * 16 + (← hexDigit? d))

/-- The character that a backslash and one more character stand for. -/
def shortEscape? (c : Char) : Option Char :=
  if c = '"' ∨ c = '\\' ∨ c = '/' then some c
  else if c = 'b' then some '\x08'
  else if c = 'f' then some '\x0c'
  else if c = 'n' then some '\n'
  else if c = 'r' then some '\r'
  else if c = 't' then some '\t'
  else none

/-- What has been read of a string: its characters, last first, the first half of a surrogate pair
that still waits for the second, and whether every half has found its other half. -/
structure StringSoFar where
  reversed : List Char := []
  waiting : Option Nat := none
  paired : Bool := true

/-- Adds a character. -/
def StringSoFar.push (t : StringSoFar) (c : Char) : StringSoFar :=
  ⟨c :: t.reversed, none, t.paired && t.waiting.isNone⟩

/-- Adds a number written by a `\u` escape. -/
def StringSoFar.pushUnit (t : StringSoFar) (unit : Nat) : StringSoFar :=
  if 0xD800 ≤ unit ∧ unit ≤ 0xDBFF then
    ⟨t.reversed, some unit, t.paired && t.waiting.isNone⟩
  else if 0xDC00 ≤ unit ∧ unit ≤ 0xDFFF then
    match t.waiting with
    | some high =>
      ⟨Char.ofNat (0x10000 + (high - 0xD800) * 0x400 + (unit - 0xDC00)) :: t.reversed, none,
        t.paired⟩
    | none => ⟨t.reversed, none, false⟩
  else t.push (Char.ofNat unit)

/-- Reads a string after its opening quote: the text, or `none` if half a surrogate pair stands
alone in it, and what follows the closing quote. -/
def scanString (t : StringSoFar) : List Char → Option (Option String × List Char)
  | '"' :: rest =>
    some (if t.paired && t.waiting.isNone then some (String.ofList t.reversed.reverse) else none,
      rest)
  | '\\' :: 'u' :: a :: b :: c :: d :: rest =>
    match hexUnit? a b c d with
    | some unit => scanString (t.pushUnit unit) rest
    | none => none
  | '\\' :: c :: rest =>
    match shortEscape? c with
    | some c => scanString (t.push c) rest
    | none => none
  | c :: rest => if c.val < 0x20 then none else scanString (t.push c) rest
  | [] => none

/-- Reads a row of digits that must not be empty. -/
def scanDigits (s : List Char) : Option (List Char × List Char) :=
  match s.takeWhile isDigit with
  | [] => none
  | digits => some (digits, s.dropWhile isDigit)

/-- Reads the integer part of a number: a single zero, or digits that start with another one. -/
def scanInteger : List Char → Option (List Char × List Char)
  | '0' :: rest => if (rest.head?.map isDigit).getD false then none else some (['0'], rest)
  | s => scanDigits s

/-- Reads the fraction of a number, if there is one. -/
def scanFraction : List Char → Option (List Char × List Char)
  | '.' :: rest => scanDigits rest
  | s => some ([], s)

/-- Reads the exponent of a number, if there is one. -/
def scanExponent : List Char → Option (Option Int × List Char)
  | c :: rest =>
    if c = 'e' ∨ c = 'E' then
      let (negative, rest) := match rest with
        | '-' :: rest => (true, rest)
        | '+' :: rest => (false, rest)
        | rest => (false, rest)
      (scanDigits rest).map fun (digits, rest) =>
        (some (if negative then -(digitsValue digits : Int) else digitsValue digits), rest)
    else some (none, c :: rest)
  | [] => some (none, [])

/-- The number with the given sign and digits. Integers beyond 64 bits, and a zero with a sign,
are reals. -/
def number (negative : Bool) (integer fraction : List Char) (exponent : Option Int) : Json :=
  let digits := digitsValue (integer ++ fraction)
  if fraction = [] ∧ exponent = none ∧
      (if negative then 0 < digits ∧ digits ≤ 0x8000000000000000 else digits ≤ max64) then
    .int (if negative then -digits else digits)
  else .real negative digits (exponent.getD 0 - fraction.length)

/-- Reads a number. -/
def scanNumber (s : List Char) : Option (Json × List Char) := do
  let (negative, s) := match s with
    | '-' :: rest => (true, rest)
    | _ => (false, s)
  let (integer, s) ← scanInteger s
  let (fraction, s) ← scanFraction s
  let (exponent, s) ← scanExponent s
  return (number negative integer fraction exponent, s)

/-- The outcome of reading a value: what was read, and what follows unless the text broke off. -/
abbrev Reading (α : Type) := α × Option (List Char)

/-- Continues after a token, or breaks off if there was none. -/
def orBroken : Option (Json × List Char) → Reading Json
  | some (v, rest) => (v, some rest)
  | none => (.broken, none)

mutual

/-- Reads one value. The first argument bounds the depth and the number of elements. -/
def readValue : Nat → List Char → Reading Json
  | 0, _ => (.broken, none)
  | fuel + 1, s =>
    match skipSpace s with
    | 'n' :: 'u' :: 'l' :: 'l' :: rest => (.null, some rest)
    | 't' :: 'r' :: 'u' :: 'e' :: rest => (.bool true, some rest)
    | 'f' :: 'a' :: 'l' :: 's' :: 'e' :: rest => (.bool false, some rest)
    | '"' :: rest =>
      orBroken ((scanString {} rest).map fun (text, rest) =>
        ((text.map Json.str).getD .unpaired, rest))
    | '[' :: rest =>
      match skipSpace rest with
      | ']' :: rest => (.arr [], some rest)
      | rest => let (vs, rest) := readElements fuel rest; (.arr vs, rest)
    | '\x7b' :: rest =>
      match skipSpace rest with
      | '\x7d' :: rest => (.obj [], some rest)
      | rest => let (ms, rest) := readMembers fuel rest; (.obj ms, rest)
    | s => orBroken (scanNumber s)

/-- Reads the elements of an array up to its closing bracket. -/
def readElements : Nat → List Char → Reading (List Json)
  | 0, _ => ([.broken], none)
  | fuel + 1, s =>
    match readValue fuel s with
    | (v, none) => ([v], none)
    | (v, some rest) =>
      match skipSpace rest with
      | ',' :: rest => let (vs, rest) := readElements fuel rest; (v :: vs, rest)
      | ']' :: rest => ([v], some rest)
      | _ => ([v, .broken], none)

/-- Reads the members of an object up to its closing brace. -/
def readMembers : Nat → List Char → Reading (List (String × Json))
  | 0, _ => ([("", .broken)], none)
  | fuel + 1, s =>
    match skipSpace s with
    | '"' :: rest =>
      match scanString {} rest with
      | none => ([("", .broken)], none)
      | some (name, rest) =>
        match skipSpace rest with
        | ':' :: rest =>
          let (v, rest) := readValue fuel rest
          let m := (name.map fun name => (name, v)).getD ("", .misnamed v)
          match rest with
          | none => ([m], none)
          | some rest =>
            match skipSpace rest with
            | ',' :: rest => let (ms, rest) := readMembers fuel rest; (m :: ms, rest)
            | '\x7d' :: rest => ([m], some rest)
            | _ => ([m, ("", .broken)], none)
        | _ => ([("", .broken)], none)
    | _ => ([("", .broken)], none)

end

/-- Reads a document: the value, and whether nothing but white space follows it. -/
def read (text : String) : Json × Bool :=
  let s := text.toList
  let (v, rest) := readValue (2 * s.length + 2) s
  (v, (rest.map fun rest => rest.all isSpace).getD false)

/-- Reads a document that must be faultless. -/
def read? (text : String) : Option Json :=
  let (v, ended) := read text
  if ended && v.isWhole then some v else none

end TaskFleet.Json
