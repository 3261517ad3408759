/-!
# JSON values

The value type for records and for documents that come from outside. Reading a document stops at
its first fault and keeps what stands before it, because a typed reading reports whichever fault
comes first in the text: a wrong value or the end of the syntax. The place of a fault is a node of
its own (`broken`, `unpaired`, `misnamed`), and `isWhole` tells the values without any.
-/

namespace TaskFleet

/-- A JSON value, possibly cut short by a fault in its text. -/
inductive Json where
  | null
  | bool (b : Bool)
  /-- A number written without fraction and exponent, within the range of 64-bit integers. -/
  | int (n : Int)
  /-- Any other number: its sign, its digits and the power of ten they are multiplied by. -/
  | real (negative : Bool) (digits : Nat) (exponent : Int)
  | str (s : String)
  | arr (elements : List Json)
  /-- The members in the order of the text, repeated names included. -/
  | obj (members : List (String × Json))
  /-- The point from which on the text is no JSON. -/
  | broken
  /-- A string with half a surrogate pair, which is no text. It does no harm where it is
  skipped. -/
  | unpaired
  /-- The value of a member whose name is such a string. It does no harm where the whole object is
  skipped. -/
  | misnamed (v : Json)
deriving Repr, Inhabited

namespace Json

mutual

/-- Whether a value can be skipped: nothing in it breaks the syntax. -/
def canSkip : Json → Bool
  | .broken => false
  | .misnamed v => canSkip v
  | .arr elements => canSkipAll elements
  | .obj members => canSkipMembers members
  | _ => true

/-- Whether all elements can be skipped. -/
def canSkipAll : List Json → Bool
  | [] => true
  | v :: rest => canSkip v && canSkipAll rest

/-- Whether all member values can be skipped. -/
def canSkipMembers : List (String × Json) → Bool
  | [] => true
  | (_, v) :: rest => canSkip v && canSkipMembers rest

end

mutual

/-- Whether a value has no fault in it. -/
def isWhole : Json → Bool
  | .broken => false
  | .unpaired => false
  | .misnamed _ => false
  | .arr elements => isWholeAll elements
  | .obj members => isWholeMembers members
  | _ => true

/-- Whether all elements are without fault. -/
def isWholeAll : List Json → Bool
  | [] => true
  | v :: rest => isWhole v && isWholeAll rest

/-- Whether all member values are without fault. -/
def isWholeMembers : List (String × Json) → Bool
  | [] => true
  | (_, v) :: rest => isWhole v && isWholeMembers rest

end

/-- Puts a member at its place in a list in strictly increasing order of names; a member of the
same name is replaced. -/
def placeMember (name : String) (v : Json) : List (String × Json) → List (String × Json)
  | [] => [(name, v)]
  | m :: rest =>
    match compare name m.1 with
    | .lt => (name, v) :: m :: rest
    | .eq => (name, v) :: rest
    | .gt => m :: placeMember name v rest

mutual

/-- The same value with the members of every object in the order of their names, and only the
last of those that share a name. -/
def sortMembers : Json → Json
  | .arr elements => .arr (sortMembersAll elements)
  | .obj members => .obj (sortMembersInto [] members)
  | v => v

/-- `sortMembers` on each element. -/
def sortMembersAll : List Json → List Json
  | [] => []
  | v :: rest => sortMembers v :: sortMembersAll rest

/-- Places the members one by one into a sorted list. -/
def sortMembersInto (sorted : List (String × Json)) :
    List (String × Json) → List (String × Json)
  | [] => sorted
  | (name, v) :: rest => sortMembersInto (placeMember name (sortMembers v) sorted) rest

end

/-- The last member of a name. -/
def member? (name : String) : Json → Option Json
  | .obj members => (members.reverse.find? fun m => m.1 = name).map (·.2)
  | _ => none

/-- The value with another value put at the end of a path of member names; what is missing on the
way, or is no object, becomes an object. -/
def setAt (path : List String) (new : Json) (v : Json) : Json :=
  match path with
  | [] => new
  | name :: rest =>
    let members := match v with
      | .obj members => members
      | _ => []
    .obj (placeMember name (setAt rest new ((member? name (.obj members)).getD .null)) members)

end Json

end TaskFleet
