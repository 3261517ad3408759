import TaskFleet.Json.Basic

/-!
# TOML documents

The tree that a TOML document describes and the rules by which its headers and keys build it up.
A table may come into being as a step on the way to another (`implied`) and be defined by a header
later, once; a table that dotted keys have made (`dotted`) takes more keys only from dotted keys.
-/

namespace TaskFleet

/-- A TOML value. -/
inductive Toml where
  | string (s : String)
  | int (n : Int)
  /-- A floating-point number; nothing here asks for its value. -/
  | float
  | bool (b : Bool)
  /-- A date, a time or both, in canonical form. -/
  | datetime (text : String)
  | array (elements : List Toml)
  /-- A table that is written in one piece. -/
  | inlineTable (entries : List (String × Toml))
  | table (implied dotted : Bool) (entries : List (String × Toml))
  /-- The tables that headers in double brackets have begun. -/
  | tables (elements : List (List (String × Toml)))
deriving Repr, Inhabited

namespace Toml

/-- The entries of a table, in the order of the text. -/
abbrev Entries := List (String × Toml)

/-- Changes the entry of a key by `change`, which is given what is there; a new entry goes to the
end. -/
def modifyEntry (key : String) (change : Option Toml → Option Toml) : Entries → Option Entries
  | [] => (change none).map fun v => [(key, v)]
  | e :: rest =>
    if e.1 = key then (change (some e.2)).map fun v => (key, v) :: rest
    else (modifyEntry key change rest).map fun rest => e :: rest

/-- Changes the last element of a list. -/
def modifyLast {α : Type} (change : α → Option α) : List α → Option (List α)
  | [] => none
  | [a] => (change a).map fun a => [a]
  | a :: rest => (modifyLast change rest).map fun rest => a :: rest

/-- Changes the table at the end of a path, making the tables on the way that do not exist. The
change is told whether the table was made by dotted keys. By a dotted path only implied tables can
be entered; of tables in double brackets the last one is meant. -/
def modifyAt (byDottedKey : Bool) (change : Bool → Entries → Option Entries) :
    List String → Bool → Entries → Option Entries
  | [], dotted, entries => change dotted entries
  | key :: path, _, entries =>
    modifyEntry key (fun
      | none =>
        (modifyAt byDottedKey change path byDottedKey []).map (table true byDottedKey)
      | some (table implied dotted entries) =>
        if byDottedKey && !implied then none
        else (modifyAt byDottedKey change path dotted entries).map (table implied dotted)
      | some (tables elements) =>
        (modifyLast (modifyAt byDottedKey change path false) elements).map tables
      | some _ => none) entries

/-- Adds a new entry to a table. -/
def addEntry (key : String) (v : Toml) : Entries → Option Entries :=
  modifyEntry key fun
    | none => some v
    | some _ => none

/-- Adds a value under a key, which may be dotted. -/
def addDotted (path : List String) (key : String) (v : Toml) (entries : Entries) :
    Option Entries :=
  modifyAt true (fun dotted entries =>
    if dotted == path.isEmpty then none else addEntry key v entries) path false entries

/-- Begins the table of a header. -/
def beginTable (path : List String) (key : String) (root : Entries) : Option Entries :=
  modifyAt false (fun _ entries => modifyEntry key (fun
    | none => some (table false false [])
    | some (table true false entries) => some (table false false entries)
    | some _ => none) entries) path false root

/-- Begins the next table of a header in double brackets. -/
def beginElement (path : List String) (key : String) (root : Entries) : Option Entries :=
  modifyAt false (fun _ entries => modifyEntry key (fun
    | none => some (tables [[]])
    | some (tables elements) => some (tables (elements ++ [[]]))
    | some _ => none) entries) path false root

/-- Adds a value to the table that the last header has begun. -/
def addAt (header path : List String) (key : String) (v : Toml) (root : Entries) :
    Option Entries :=
  modifyAt false (fun _ entries => addDotted path key v entries) header false root

/-- The name under which a date or time appears where a table is asked for. -/
def datetimeKey : String := "$__toml_private_datetime"

mutual

/-- The same value as JSON, for typed reading. A date is an object with a single member, and a
floating-point number just some number that is no integer. -/
def toJson : Toml → Json
  | .string s => .str s
  | .int n => .int n
  | .float => .real false 0 0
  | .bool b => .bool b
  | .datetime text => .obj [(datetimeKey, .str text)]
  | .array elements => .arr (toJsonAll elements)
  | .inlineTable entries => .obj (toJsonEntries entries)
  | .table _ _ entries => .obj (toJsonEntries entries)
  | .tables elements => .arr (toJsonTables elements)

/-- The elements of an array as JSON. -/
def toJsonAll : List Toml → List Json
  | [] => []
  | v :: rest => toJson v :: toJsonAll rest

/-- The entries of a table as JSON. -/
def toJsonEntries : List (String × Toml) → List (String × Json)
  | [] => []
  | (key, v) :: rest => (key, toJson v) :: toJsonEntries rest

/-- A list of tables as JSON. -/
def toJsonTables : List (List (String × Toml)) → List Json
  | [] => []
  | entries :: rest => .obj (toJsonEntries entries) :: toJsonTables rest

end

end Toml

end TaskFleet
