import TaskFleet.Text.Quoted
import TaskFleet.Text.Split

/-!
# Task ids

A task is known by a namespace and a name, written `namespace/name`. `parse` takes that text only
when the cut is beyond doubt; `resolve` reads a reference from another task, which may leave the
namespace out.
-/

namespace TaskFleet

open Std (TransOrd LawfulEqOrd)
open Text

/-- The identity of a task. -/
structure TaskId where
  space : String
  name : String
deriving DecidableEq, Repr, Inhabited

namespace TaskId

/-- Ids are ordered by namespace, then by name. -/
instance : Ord TaskId := ⟨compareLex (compareOn space) (compareOn name)⟩

instance : TransOrd TaskId :=
  inferInstanceAs (Std.TransCmp (compareLex (compareOn space) (compareOn name)))

instance : LawfulEqOrd TaskId where
  eq_of_compare {a b} h := by
    have h : (compareLex (compareOn space) (compareOn name)) a b = .eq := h
    simp only [compareLex, compareOn, Ordering.then_eq_eq, Std.LawfulEqOrd.compare_eq_iff_eq] at h
    cases a; cases b; simp_all

/-- The text of an id, under which stores keep the task. -/
def key (id : TaskId) : String :=
  id.space ++ "/" ++ id.name

instance : ToString TaskId := ⟨key⟩

/-- A text that is no task id. -/
structure ParseError where
  input : String
deriving DecidableEq, Repr

def ParseError.message (e : ParseError) : String :=
  "invalid task id " ++ quoted e.input ++ ": expected namespace/name"

/-- The text cut at its first slash. -/
def cut? (s : String) : Option TaskId :=
  (splitOnce '/' s.toList).map fun parts => ⟨String.ofList parts.1, String.ofList parts.2⟩

/-- Reads an id whose parts are not empty and hold no slash. -/
def parse (s : String) : Except ParseError TaskId :=
  match splitOnce '/' s.toList with
  | some (space, name) =>
    if space = [] ∨ name = [] ∨ '/' ∈ name then .error ⟨s⟩
    else .ok ⟨String.ofList space, String.ofList name⟩
  | none => .error ⟨s⟩

/-- The task that a reference names: by namespace and name, or by a name beside `id`. -/
def resolve (id : TaskId) (reference : String) : TaskId :=
  (cut? reference).getD ⟨id.space, reference⟩

end TaskId

end TaskFleet
