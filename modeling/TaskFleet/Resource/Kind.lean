/-!
# Kinds of resources

The named resources that an agent offers and a task asks for. Three kinds have a place of their
own; `mem` is another spelling of `memory`, and every other name is a kind by itself.
-/

namespace TaskFleet

open Std (TransOrd LawfulEqOrd)

/-- The kind of a measured resource. -/
inductive ResourceKind where
  | cpu
  | memory
  | gpu
  | other (name : String)
deriving DecidableEq, Repr

namespace ResourceKind

/-- The kind that a name stands for. -/
def ofName (name : String) : ResourceKind :=
  if name = "cpu" then .cpu
  else if name = "memory" ∨ name = "mem" then .memory
  else if name = "gpu" then .gpu
  else .other name

/-- The canonical name of a kind. -/
def name : ResourceKind → String
  | .cpu => "cpu"
  | .memory => "memory"
  | .gpu => "gpu"
  | .other name => name

instance : ToString ResourceKind := ⟨name⟩

/-- The place of a kind in listings; all kinds without a place of their own come last. -/
def rank : ResourceKind → Nat
  | .cpu => 0
  | .memory => 1
  | .gpu => 2
  | .other _ => 3

/-- Kinds are listed by rank, then by name. -/
instance : Ord ResourceKind := ⟨compareLex (compareOn rank) (compareOn name)⟩

instance : TransOrd ResourceKind :=
  inferInstanceAs (Std.TransCmp (compareLex (compareOn rank) (compareOn name)))

instance : LawfulEqOrd ResourceKind where
  eq_of_compare {a b} h := by
    have h : (compareLex (compareOn rank) (compareOn name)) a b = .eq := h
    simp only [compareLex, compareOn, Ordering.then_eq_eq, Std.LawfulEqOrd.compare_eq_iff_eq] at h
    cases a <;> cases b <;> simp_all [rank, name]

/-- Reading back the canonical name of a kind that a name stands for gives that kind. -/
theorem ofName_name_ofName (name : String) : ofName (ofName name).name = ofName name := by
  unfold ofName
  split
  · decide
  split
  · decide
  split
  · decide
  · simp_all [ResourceKind.name]

end ResourceKind

end TaskFleet
