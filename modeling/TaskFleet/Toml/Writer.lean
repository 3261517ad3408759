import TaskFleet.Toml.Reader
import TaskFleet.Text.Quoted

/-!
# Writing TOML

Strings, keys and lines of a TOML document. A string is put between the quotes that need no escape
in it, the plainer the better: double quotes, single quotes, three double quotes, three single
quotes; one that needs escapes in any case stands in double quotes.
-/

namespace TaskFleet.Toml

open Text (hexDigits)

/-- What decides between the kinds of quotes. -/
structure Features where
  /-- Whether there is a backslash. -/
  backslash : Bool
  /-- Whether there is a line feed. -/
  newline : Bool
  /-- Whether there is a control character other than tab and line feed. -/
  control : Bool
  /-- The longest row of double quotes. -/
  doubleQuotes : Nat
  /-- The longest row of single quotes. -/
  singleQuotes : Nat

/-- The length of the longest row of a character. -/
def longestRow (c : Char) (s : List Char) : Nat :=
  (s.foldl (fun (longest, current) d =>
    let current := if d = c then current + 1 else 0
    (max longest current, current)) ((0, 0) : Nat × Nat)).1

/-- The features of a string. -/
def Features.of (s : List Char) : Features where
  backslash := s.contains '\\'
  newline := s.contains '\n'
  control := s.any fun c => (c.val < 0x20 || c.val == 0x7F) && c != '\t' && c != '\n'
  doubleQuotes := longestRow '"' s
  singleQuotes := longestRow '\'' s

/-- One character inside double quotes. In a string of several lines a line feed stands as it is,
and so do double quotes, unless too many of them stand together. -/
def escapeChar (lines : Bool) (c : Char) : List Char :=
  if c = '\x08' then ['\\', 'b']
  else if c = '\t' then ['\\', 't']
  else if c = '\n' then if lines then [c] else ['\\', 'n']
  else if c = '\x0c' then ['\\', 'f']
  else if c = '\r' then ['\\', 'r']
  else if c = '"' then ['\\', '"']
  else if c = '\\' then ['\\', '\\']
  else if c.val < 0x20 ∨ c.val = 0x7F then
    let digits := (hexDigits c.toNat).map Char.toUpper
    ['\\', 'u'] ++ List.replicate (4 - digits.length) '0' ++ digits
  else [c]

/-- Escapes a string; up to `quotes` double quotes in a row stand as they are. -/
def escape (lines : Bool) (quotes : Nat) (s : List Char) : List Char :=
  (s.foldl (fun ((out, row) : List Char × Nat) c =>
    if c = '"' then
      if row < quotes then (out ++ [c], row + 1) else (out ++ ['\\', '"'], 0)
    else (out ++ escapeChar lines c, 0)) ([], 0)).1

/-- A string between the plainest quotes. -/
def renderString (text : String) : String :=
  let s := text.toList
  let f := Features.of s
  let opening (quotes : List Char) := if f.newline then quotes ++ ['\n'] else quotes
  let double := ['"', '"', '"']
  let single := ['\'', '\'', '\'']
  String.ofList <|
    if !f.control && !f.backslash && f.doubleQuotes = 0 && !f.newline then
      '"' :: escape false 0 s ++ ['"']
    else if !f.control && f.singleQuotes = 0 && !f.newline then '\'' :: s ++ ['\'']
    else if !f.control && !f.backslash && f.doubleQuotes ≤ 2 then
      opening double ++ escape true 2 s ++ double
    else if !f.control && f.singleQuotes ≤ 2 then opening single ++ s ++ single
    else if f.newline then opening double ++ escape true 2 s ++ double
    else '"' :: escape false 0 s ++ ['"']

/-- A key, without quotes if it can stand so. -/
def renderKey (key : String) : String :=
  let s := key.toList
  let f := Features.of s
  if !s.isEmpty && s.all isKeyChar then key
  else String.ofList <|
    if !f.control && f.singleQuotes = 0 && !f.newline && (f.backslash || 0 < f.doubleQuotes) then
      '\'' :: s ++ ['\'']
    else '"' :: escape false 0 s ++ ['"']

/-- A line with a key and a value. -/
def renderPair (key value : String) : String :=
  renderKey key ++ " = " ++ value ++ "\n"

/-- A table: its header and its lines. -/
def renderTable (header : String) (pairs : List (String × String)) : String :=
  header ++ "\n" ++ String.join (pairs.map fun p => renderPair p.1 p.2)

/-- A document: its parts with an empty line between them. -/
def renderParts (parts : List String) : String :=
  String.intercalate "\n" parts

end TaskFleet.Toml
