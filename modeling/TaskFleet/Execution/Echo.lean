import TaskFleet.Text.Decimal
import TaskFleet.Text.Utf8

/-!
# The program that repeats its arguments

What `echo` writes: its arguments with blanks between them and a line feed at the end. The first
arguments may be options: `-n` leaves the line feed out, and `-e` gives escapes a meaning until
`-E` takes it back. An escape may write any byte, and `\c` ends the output.
-/

namespace TaskFleet.Echo

open Text (Bytes hexDigit?)

/-- How arguments are written. -/
structure Style where
  /-- Whether escapes have a meaning. -/
  escapes : Bool := false
  /-- Whether a line feed follows. -/
  lineFeed : Bool := true
deriving DecidableEq, Repr

/-- Whether an argument is made of options only. -/
def isOptions : List Char → Bool
  | '-' :: letters => !letters.isEmpty && letters.all fun c => ['n', 'e', 'E'].contains c
  | _ => false

/-- The style after an option. -/
def Style.set (s : Style) (option : Char) : Style :=
  if option = 'n' then { s with lineFeed := false }
  else if option = 'e' then { s with escapes := true }
  else if option = 'E' then { s with escapes := false }
  else s

/-- Takes the options from the front of the arguments. -/
def takeOptions (s : Style) : List String → Style × List String
  | [] => (s, [])
  | arg :: rest =>
    if isOptions arg.toList then takeOptions (arg.toList.foldl Style.set s) rest
    else (s, arg :: rest)

/-- Takes a numeral of at most so many digits from the front of a text. -/
def takeNumeral (base digits : Nat) (s : List Char) : Option Nat × List Char :=
  let isOfBase := fun c => (hexDigit? c).any fun value => value < base
  let numeral := (s.take digits).takeWhile isOfBase
  let value := numeral.foldl (fun n c => base * n + (hexDigit? c).getD 0) 0
  (if numeral.isEmpty then none else some value, s.drop numeral.length)

/-- The byte that a letter stands for after a backslash. -/
def escaped? (letter : Char) : Option UInt8 :=
  if letter = 'a' then some 7
  else if letter = 'b' then some 8
  else if letter = 't' then some 9
  else if letter = 'n' then some 10
  else if letter = 'v' then some 11
  else if letter = 'f' then some 12
  else if letter = 'r' then some 13
  else if letter = 'e' then some 27
  else if letter = '\\' then some 92
  else none

/-- What an escape writes, given the text after its backslash, and what follows it; nothing where
the backslash begins no escape. -/
def escape? : List Char → Option (UInt8 × List Char)
  | [] => none
  | c :: rest =>
    if c = '0' then
      let (value, rest) := takeNumeral 8 3 rest
      some ((value.getD 0).toUInt8, rest)
    else match takeNumeral 8 3 (c :: rest), c with
      | (some value, rest), _ => some (value.toUInt8, rest)
      | (none, _), 'x' =>
        let (value, rest) := takeNumeral 16 2 rest
        value.map fun value => (value.toUInt8, rest)
      | (none, _), _ => (escaped? c).map fun byte => (byte, rest)

/-- Writes a text with escapes, reading at most so many characters or escapes, and says whether it
has come to its end. -/
def expandWithin : Nat → List Char → Bytes × Bool
  | 0, _ => ([], true)
  | _ + 1, [] => ([], true)
  | fuel + 1, c :: rest =>
    if c = '\\' then
      if rest.head? = some 'c' then ([], false)
      else match escape? rest with
        | some (byte, rest) =>
          let (bytes, goesOn) := expandWithin fuel rest
          (byte :: bytes, goesOn)
        | none =>
          let (bytes, goesOn) := expandWithin fuel rest
          (92 :: bytes, goesOn)
    else
      let (bytes, goesOn) := expandWithin fuel rest
      (Text.encode (String.singleton c) ++ bytes, goesOn)

/-- Writes a text with escapes, and says whether it has come to its end. -/
def expand (s : List Char) : Bytes × Bool :=
  expandWithin s.length s

/-- Writes arguments with escapes and what comes after them. -/
def expandAll (ending : Bytes) : List String → Bytes
  | [] => ending
  | arg :: rest =>
    let (bytes, goesOn) := expand arg.toList
    if !goesOn then bytes
    else if rest.isEmpty then bytes ++ ending
    else bytes ++ 32 :: expandAll ending rest

/-- What is written for arguments. In an environment that asks for portable behaviour only an `-n`
in first place begins the options. -/
def output (isPortable : Bool) (args : List String) : Bytes :=
  let (style, args) :=
    if isPortable && args.head? != some "-n" then ({}, args) else takeOptions {} args
  let ending := if style.lineFeed then [10] else []
  if style.escapes then expandAll ending args
  else Text.encode (String.intercalate " " args) ++ ending

end TaskFleet.Echo
