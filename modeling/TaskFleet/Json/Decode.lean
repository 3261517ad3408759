import TaskFleet.Dict
import TaskFleet.Duration
import TaskFleet.Json.Reader
import TaskFleet.Resource.Set

/-!
# Typed reading of JSON values

From values to the types of this library. A reading reports the fault that stands first in the
document, so `Record`, the reader of a structure, keeps the place of each fault: a wrong member
counts at its place, a repeated member at its second place, and a missing one at the end. Values
that were written as TOML are read a little more freely than those written as JSON.
-/

namespace TaskFleet

/-- Why a value is not of the type asked for. -/
inductive DecodeError where
  /-- The value has another form, or the text breaks off in it. -/
  | shape
  /-- A text that should be a quantity. -/
  | quantity (e : Quantity.ParseError)
  /-- A text that should be a duration. -/
  | duration (e : Duration.ParseError)
deriving DecidableEq, Repr

/-- The explanation of a wrong text. -/
def DecodeError.message? : DecodeError → Option String
  | .shape => none
  | .quantity e => some e.message
  | .duration e => some e.message

/-- The format in which a value was written. -/
inductive DocumentFormat where
  | json
  | toml
deriving DecidableEq, Repr

/-- A reader of one type. -/
abbrev Decoder (α : Type) := DocumentFormat → Json → Except DecodeError α

namespace Decode

/-- Reads any text. -/
def string : Decoder String
  | _, .str s => .ok s
  | _, _ => .error .shape

/-- Reads a truth value. -/
def bool : Decoder Bool
  | _, .bool b => .ok b
  | _, _ => .error .shape

/-- Reads a natural number up to a limit. -/
def natUpTo (limit : Nat) : Decoder Nat
  | _, .int n => if 0 ≤ n ∧ n ≤ limit then .ok n.toNat else .error .shape
  | _, _ => .error .shape

/-- Reads an unsigned number of 8 bits. -/
def nat8 : Decoder Nat := natUpTo 255

/-- Reads an unsigned number of 32 bits. -/
def nat32 : Decoder Nat := natUpTo Text.max32

/-- Reads an unsigned number of 64 bits. -/
def nat64 : Decoder Nat := natUpTo Text.max64

/-- Reads a signed number of 32 bits. -/
def int32 : Decoder Int
  | _, .int n => if -0x80000000 ≤ n ∧ n < 0x80000000 then .ok n else .error .shape
  | _, _ => .error .shape

/-- Reads null as `none`. -/
def option {α : Type} (decode : Decoder α) : Decoder (Option α)
  | _, .null => .ok none
  | format, v => (decode format v).map some

/-- Reads an array. -/
def list {α : Type} (decode : Decoder α) : Decoder (List α)
  | format, .arr elements => elements.mapM (decode format)
  | _, _ => .error .shape

/-- Reads an object as a dictionary of texts. -/
def texts : Decoder (Dict String String)
  | format, .obj members =>
    members.foldlM (fun d m => return d.insert m.1 (← string format m.2)) .empty
  | _, _ => .error .shape

/-- Reads a quantity: its text, or a natural number of whole units. -/
def quantity : Decoder Quantity
  | _, .str s => (Quantity.parse s).mapError .quantity
  | _, .int n => if 0 ≤ n then .ok (.ofUnits n.toNat) else .error .shape
  | _, _ => .error .shape

/-- Reads an object as a resource set. -/
def resourceSet : Decoder ResourceSet
  | format, .obj members =>
    members.foldlM (fun s m => return s.insert (.ofName m.1) (← quantity format m.2)) .empty
  | _, _ => .error .shape

/-- Reads a duration: its text, or a natural number of seconds. -/
def duration : Decoder Duration
  | _, .str s => (Duration.parse s).mapError .duration
  | _, .int n => if 0 ≤ n then .ok (.ofSecs n.toNat) else .error .shape
  | _, _ => .error .shape

/-- Whether a value holds nothing: null, for which TOML has an empty table or array. -/
def isNothing : DocumentFormat → Json → Bool
  | .json, .null => true
  | .toml, .obj [] => true
  | .toml, .arr [] => true
  | _, _ => false

/-- Reads one of several names, alone or as the only member of an object with nothing in it. -/
def choice {α : Type} (ofName? : String → Option α) : Decoder α
  | _, .str s => match ofName? s with
    | some a => .ok a
    | none => .error .shape
  | format, .obj [(s, v)] => match ofName? s with
    | some a => if isNothing format v then .ok a else .error .shape
    | none => .error .shape
  | _, _ => .error .shape

end Decode

/-- An error at a place among the members of an object. -/
structure PlacedError where
  place : Nat
  error : DecodeError
deriving DecidableEq, Repr

/-- A reader of a structure, field by field: the names of the fields, the reading of a list of
members, and the reading of a list of values in the order of the fields. -/
structure Record (α : Type) where
  names : List String
  ofMembers : DocumentFormat → List (String × Json) → Except PlacedError α
  ofValues : DocumentFormat → List Json → Except DecodeError (α × List Json)

namespace Record

variable {α β : Type}

/-- The members of a name, with their places. -/
def occurrences (name : String) (members : List (String × Json)) : List (Nat × Json) :=
  members.zipIdx.filterMap fun m => if m.1.1 = name then some (m.2, m.1.2) else none

/-- Reads a field from the members; `missing` is what an absent one means. -/
def fieldOfMembers (name : String) (decode : Decoder α) (missing : Option α)
    (format : DocumentFormat) (members : List (String × Json)) : Except PlacedError α :=
  match occurrences name members with
  | [] => match missing with
    | some a => .ok a
    | none => .error ⟨members.length, .shape⟩
  | (place, v) :: more =>
    match decode format v, more with
    | .error e, _ => .error ⟨place, e⟩
    | .ok a, [] => .ok a
    | .ok _, (again, _) :: _ => .error ⟨again, .shape⟩

/-- Reads a field from the front of a list of values. -/
def fieldOfValues (decode : Decoder α) (missing : Option α) (format : DocumentFormat) :
    List Json → Except DecodeError (α × List Json)
  | [] => match missing with
    | some a => .ok (a, [])
    | none => .error .shape
  | v :: rest => return (← decode format v, rest)

/-- One field; `missing` is what an absent one means. -/
def fieldOr (name : String) (decode : Decoder α) (missing : Option α) : Record α where
  names := [name]
  ofMembers := fieldOfMembers name decode missing
  ofValues := fieldOfValues decode missing

/-- A field that must be there. -/
def field (name : String) (decode : Decoder α) : Record α :=
  fieldOr name decode none

/-- A field with a default. -/
def fieldD (name : String) (decode : Decoder α) (default : α) : Record α :=
  fieldOr name decode (some default)

/-- The reader of a structure without fields. -/
def pure (a : α) : Record α where
  names := []
  ofMembers := fun _ _ => .ok a
  ofValues := fun _ values => .ok (a, values)

/-- Of two errors the one that stands first. -/
def first (a b : PlacedError) : PlacedError :=
  if b.place < a.place then b else a

/-- Adds a field to a structure under construction. -/
def seq (f : Record (α → β)) (x : Record α) : Record β where
  names := f.names ++ x.names
  ofMembers := fun format members =>
    match f.ofMembers format members, x.ofMembers format members with
    | .ok f, .ok a => .ok (f a)
    | .error e, .ok _ => .error e
    | .ok _, .error e => .error e
    | .error d, .error e => .error (first d e)
  ofValues := fun format values => do
    let (f, values) ← f.ofValues format values
    let (a, values) ← x.ofValues format values
    return (f a, values)

instance : Pure Record := ⟨pure⟩

instance : Functor Record := ⟨fun f x => seq (pure f) x, fun a x => seq (pure fun _ => a) x⟩

instance : Seq Record := ⟨fun f x => seq f (x ())⟩

/-- Whether a member has no name, or a name that no field has and a value that cannot be
skipped. -/
def isStray (names : List String) : String × Json → Bool
  | (_, .misnamed _) => true
  | (name, v) => !names.contains name && !v.canSkip

/-- Reads a structure from an object, or from an array with the values in the order of the
fields. Members under other names are skipped; so are the values that are left over in TOML. -/
def decode (r : Record α) : Decoder α
  | format, .obj members =>
    match r.ofMembers format members, members.findIdx? (isStray r.names) with
    | .ok a, none => .ok a
    | .ok _, some _ => .error .shape
    | .error e, none => .error e.error
    | .error e, some place => .error (first e ⟨place, .shape⟩).error
  | format, .arr values =>
    match r.ofValues format values with
    | .ok (a, left) => if format = .json ∧ left ≠ [] then .error .shape else .ok a
    | .error e => .error e
  | _, _ => .error .shape

end Record

/-- Reads a typed value from a text, which must hold nothing else. -/
def Decoder.ofText {α : Type} (decode : Decoder α) (text : String) : Except DecodeError α := do
  let (v, ended) := Json.read text
  let a ← decode .json v
  if ended then return a else throw .shape

end TaskFleet
