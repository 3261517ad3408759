import TaskFleet.Dict
import TaskFleet.Resource.Kind
import TaskFleet.Resource.QuantityText

/-!
# Resource sets

How much of each kind of resource, with a kind that is not listed counting as nothing. A listed
zero is kept and shown, but means the same as an absent kind: `same` compares two sets by what
they give for each kind, and `get_insert`, `get_add` and `get_sub` describe the operations by
that view.
-/

namespace TaskFleet

open Text

/-- Quantities by kind. -/
structure ResourceSet where
  entries : Dict ResourceKind Quantity
deriving DecidableEq, Repr

namespace ResourceSet

/-- The set that lists nothing. -/
def empty : ResourceSet := ⟨.empty⟩

instance : EmptyCollection ResourceSet := ⟨empty⟩

instance : Inhabited ResourceSet := ⟨empty⟩

/-- The quantity of a kind, zero if it is not listed. -/
def get (s : ResourceSet) (k : ResourceKind) : Quantity :=
  (s.entries.find? k).getD .zero

/-- Lists a quantity for a kind, in place of the one it had. -/
def insert (s : ResourceSet) (k : ResourceKind) (q : Quantity) : ResourceSet :=
  ⟨s.entries.insert k q⟩

/-- The entries in the order of kinds. -/
def toList (s : ResourceSet) : List (ResourceKind × Quantity) :=
  s.entries.entries

/-- The kinds that are listed. -/
def kinds (s : ResourceSet) : List ResourceKind :=
  s.entries.keys

/-- The number of kinds that are listed. -/
def size (s : ResourceSet) : Nat :=
  s.entries.size

/-- The set of a list of entries; of two for one kind the later counts. -/
def ofList (l : List (ResourceKind × Quantity)) : ResourceSet :=
  ⟨.ofList l⟩

/-- The set written by names of kinds and texts of quantities. -/
def parse (pairs : List (String × String)) : Except Quantity.ParseError ResourceSet :=
  pairs.foldlM (fun s p => return s.insert (.ofName p.1) (← Quantity.parse p.2)) empty

/-- Whether every quantity is zero. -/
def isEmpty (s : ResourceSet) : Bool :=
  s.entries.values.all (·.isZero)

/-- Whether two sets give the same quantity for each kind. -/
def same (a b : ResourceSet) : Bool :=
  (a.kinds ++ b.kinds).all fun k => a.get k == b.get k

/-- The sum by kind. -/
def add (a b : ResourceSet) : ResourceSet :=
  b.toList.foldl (fun s e => s.insert e.1 ((s.get e.1).add e.2)) a

/-- The difference by kind, stopping at zero. -/
def sub (a b : ResourceSet) : ResourceSet :=
  b.toList.foldl (fun s e => s.insert e.1 ((s.get e.1).sub e.2)) a

/-- Whether each quantity is within the capacity for its kind. -/
def fitsWithin (s capacity : ResourceSet) : Bool :=
  s.toList.all fun e => e.2 ≤ capacity.get e.1

/-- The kinds whose quantity is above the capacity. -/
def exceeding (s capacity : ResourceSet) : List ResourceKind :=
  (s.toList.filter fun e => capacity.get e.1 < e.2).map (·.1)

/-- The kinds of which `b` holds more than `a`, where `a.sub b` stops at zero. -/
def clampedKinds (a b : ResourceSet) : List ResourceKind :=
  b.exceeding a

/-- The set as a message shows it. -/
def render (s : ResourceSet) : String :=
  let shown := s.toList.map fun e => e.1.name ++ ":" ++ e.2.render
  "\x7b" ++ String.intercalate ", " shown ++ "\x7d"

instance : ToString ResourceSet := ⟨render⟩

@[simp] theorem get_empty (k : ResourceKind) : empty.get k = .zero := rfl

@[simp] theorem get_insert (s : ResourceSet) (k k' : ResourceKind) (q : Quantity) :
    (s.insert k q).get k' = if k' = k then q else s.get k' := by
  unfold get insert
  simp only [Dict.find?_insert]
  split <;> rfl

/-- Combining the entries of a list into a set, one kind after the other, changes each listed kind
once. -/
theorem get_foldl_insert (f : Quantity → Quantity → Quantity)
    (l : List (ResourceKind × Quantity)) (hl : l.Pairwise fun a b => compare a.1 b.1 = .lt)
    (s : ResourceSet) (k : ResourceKind) :
    (l.foldl (fun s e => s.insert e.1 (f (s.get e.1) e.2)) s).get k =
      match Dict.lookup k l with
      | some q => f (s.get k) q
      | none => s.get k := by
  induction l generalizing s with
  | nil => rfl
  | cons e rest ih =>
    have he := List.pairwise_cons.1 hl
    simp only [List.foldl_cons, ih he.2, get_insert, Dict.lookup]
    by_cases hk : k = e.1
    · subst hk
      simp [Dict.lookup_eq_none_of_lt he.1]
    · simp [hk]

/-- A sum holds, of each kind, the sum of both. -/
@[simp] theorem get_add (a b : ResourceSet) (k : ResourceKind) :
    (a.add b).get k = (a.get k).add (b.get k) := by
  unfold add
  rw [get_foldl_insert Quantity.add b.toList b.entries.sorted a k]
  unfold get Dict.find? toList
  cases Dict.lookup k b.entries.entries with
  | some q => rfl
  | none =>
    apply Quantity.ext
    simp [Nat.min_eq_left (Quantity.le_max _)]

/-- A difference holds, of each kind, what remains of the first. -/
@[simp] theorem get_sub (a b : ResourceSet) (k : ResourceKind) :
    (a.sub b).get k = (a.get k).sub (b.get k) := by
  unfold sub
  rw [get_foldl_insert Quantity.sub b.toList b.entries.sorted a k]
  unfold get Dict.find? toList
  cases Dict.lookup k b.entries.entries with
  | some q => rfl
  | none =>
    apply Quantity.ext
    simp

theorem mem_toList_iff {s : ResourceSet} {k : ResourceKind} {q : Quantity} :
    (k, q) ∈ s.toList ↔ s.entries.find? k = some q :=
  Dict.mem_entries_iff

/-- What is listed for a kind is what the set gives for it. -/
theorem get_of_mem {s : ResourceSet} {e : ResourceKind × Quantity} (h : e ∈ s.toList) :
    s.get e.1 = e.2 := by
  have hfind := mem_toList_iff.1 h
  simp [get, hfind]

/-- A kind of which the set holds something is listed. -/
theorem mem_of_lt_get {s : ResourceSet} {k : ResourceKind} {q : Quantity} (h : q < s.get k) :
    (k, s.get k) ∈ s.toList := by
  rw [mem_toList_iff]
  unfold get at h ⊢
  cases hfind : s.entries.find? k with
  | none =>
      rw [hfind] at h
      exact absurd h (Nat.not_lt_zero _)
  | some p => rfl

/-- The exceeding kinds are those of which the set holds more than the capacity. -/
theorem mem_exceeding_iff {s capacity : ResourceSet} {k : ResourceKind} :
    k ∈ s.exceeding capacity ↔ capacity.get k < s.get k := by
  simp only [exceeding, List.mem_map, List.mem_filter, decide_eq_true_eq]
  constructor
  · rintro ⟨e, ⟨hmem, hlt⟩, rfl⟩
    rwa [get_of_mem hmem]
  · intro h
    exact ⟨(k, s.get k), ⟨mem_of_lt_get h, h⟩, rfl⟩

/-- Every exceeding kind is named once. -/
theorem nodup_exceeding (s capacity : ResourceSet) : (s.exceeding capacity).Nodup :=
  (Dict.nodup_keys s.entries).sublist (List.filter_sublist.map _)

theorem exceeding_eq_nil_iff {s capacity : ResourceSet} :
    s.exceeding capacity = [] ↔ ∀ k, s.get k ≤ capacity.get k := by
  simp [List.eq_nil_iff_forall_not_mem, mem_exceeding_iff, ← Quantity.not_le]

/-- A set fits exactly when it holds no more of any kind than the capacity. -/
theorem fits_within_iff {s capacity : ResourceSet} :
    s.fitsWithin capacity = true ↔ ∀ k, s.get k ≤ capacity.get k := by
  simp only [fitsWithin, List.all_eq_true, decide_eq_true_eq]
  constructor
  · intro h k
    rw [← Quantity.not_lt]
    intro hlt
    exact Quantity.not_le.2 hlt (h _ (mem_of_lt_get hlt))
  · intro h e he
    exact get_of_mem he ▸ h e.1

end ResourceSet

end TaskFleet
