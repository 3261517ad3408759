import TaskFleet.Json.Decode

/-!
# Errors of the stores

Two layers of storage fail in two vocabularies: the database of records (`StateError`) and the
task store as the lifecycle sees it (`StoreError`), of which only the difference between a lost
write, a missing task and anything else matters.
-/

namespace TaskFleet

/-- Why the database of records could not do what was asked. -/
inductive StateError where
  /-- A stored record is no record of its type. -/
  | unreadable (e : DecodeError)
  | notFound (key : String)
  | alreadyExists (key : String)
  /-- The record has changed since it was read. -/
  | conflict (key : String) (expected found : Nat)
deriving DecidableEq, Repr

namespace StateError

def message : StateError → String
  | .unreadable e => "deserialization error: " ++ e.message?.getD "invalid record"
  | .notFound key => "not found: " ++ key
  | .alreadyExists key => "already exists: " ++ key
  | .conflict key expected found =>
    "version conflict on " ++ key ++ ": expected " ++ toString expected ++ ", found " ++
      toString found

/-- Whether a write was lost to another one. -/
def isConflict : StateError → Bool
  | .conflict .. => true
  | _ => false

end StateError

/-- Why the task store could not do what was asked. -/
inductive StoreError where
  | notFound (task : String)
  | conflict (task : String)
  | unavailable (cause : String)
deriving DecidableEq, Repr

namespace StoreError

def message : StoreError → String
  | .notFound task => "task not found: " ++ task
  | .conflict task => "write conflict on task " ++ task
  | .unavailable cause => "task store unavailable: " ++ cause

/-- The lifecycle's view of a database error. -/
def ofState : StateError → StoreError
  | .notFound key => .notFound key
  | e@(.conflict ..) => .conflict e.message
  | e => .unavailable e.message

end StoreError

end TaskFleet
