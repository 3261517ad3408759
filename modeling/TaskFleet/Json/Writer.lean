import TaskFleet.Json.Basic
import TaskFleet.Text.Quoted

/-!
# Writing JSON

Values as text without any white space. Strings escape the quote, the backslash and the control
characters, with the short escapes where JSON has them.
-/

namespace TaskFleet.Json

open Text (hexDigits)

/-- One character as it stands inside a JSON string. -/
def escapeChar (c : Char) : List Char :=
  if c = '"' then ['\\', '"']
  else if c = '\\' then ['\\', '\\']
  else if c = '\n' then ['\\', 'n']
  else if c = '\r' then ['\\', 'r']
  else if c = '\t' then ['\\', 't']
  else if c = '\x08' then ['\\', 'b']
  else if c = '\x0c' then ['\\', 'f']
  else if c.val < 0x20 then
    let digits := hexDigits c.toNat
    ['\\', 'u'] ++ List.replicate (4 - digits.length) '0' ++ digits
  else [c]

/-- A string between quotes. -/
def writeString (s : String) : String :=
  String.ofList ('"' :: s.toList.flatMap escapeChar ++ ['"'])

mutual

/-- The text of a value; the place of a fault is written as null. -/
def write : Json → String
  | .null => "null"
  | .bool b => if b then "true" else "false"
  | .int n => toString n
  | .real negative digits exponent =>
    (if negative then "-" else "") ++ toString digits ++ "e" ++ toString exponent
  | .str s => writeString s
  | .arr elements => "[" ++ String.intercalate "," (writeAll elements) ++ "]"
  | .obj members => "\x7b" ++ String.intercalate "," (writeMembers members) ++ "\x7d"
  | .broken => "null"
  | .unpaired => "null"
  | .misnamed _ => "null"

/-- The texts of elements. -/
def writeAll : List Json → List String
  | [] => []
  | v :: rest => write v :: writeAll rest

/-- The texts of members. -/
def writeMembers : List (String × Json) → List String
  | [] => []
  | (name, v) :: rest => (writeString name ++ ":" ++ write v) :: writeMembers rest

end

end TaskFleet.Json
