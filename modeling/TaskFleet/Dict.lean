/-!
# Dictionaries in key order

A finite map kept as a list of entries in strictly increasing key order. The order is part of the
type, so two dictionaries with the same look-ups are equal (`Dict.ext_find?`). `find?_insert` and
`find?_erase` say what each change does to a look-up.
-/

namespace TaskFleet

open Std (TransOrd LawfulEqOrd TransCmp OrientedCmp)

/-- A finite map: entries in strictly increasing key order. -/
structure Dict (κ α : Type) [Ord κ] where
  /-- The entries in key order. -/
  entries : List (κ × α)
  sorted : entries.Pairwise fun a b => compare a.1 b.1 = .lt

namespace Dict

variable {κ α β : Type} [Ord κ]

theorem ext {d e : Dict κ α} (h : d.entries = e.entries) : d = e := by
  cases d; cases e; cases h; rfl

instance [DecidableEq κ] [DecidableEq α] : DecidableEq (Dict κ α) := fun d e =>
  decidable_of_iff (d.entries = e.entries) ⟨ext, fun h => h ▸ rfl⟩

/-- The dictionary without entries. -/
def empty : Dict κ α := ⟨[], .nil⟩

instance : EmptyCollection (Dict κ α) := ⟨empty⟩

instance : Inhabited (Dict κ α) := ⟨empty⟩

instance [Repr κ] [Repr α] : Repr (Dict κ α) := ⟨fun d => reprPrec d.entries⟩

/-- The value that a list of entries gives to a key. -/
def lookup (k : κ) : List (κ × α) → Option α
  | [] => none
  | e :: rest => if compare k e.1 = .eq then some e.2 else lookup k rest

/-- The value of a key. -/
def find? (d : Dict κ α) (k : κ) : Option α :=
  lookup k d.entries

/-- Whether a key has a value. -/
def contains (d : Dict κ α) (k : κ) : Bool :=
  (d.find? k).isSome

/-- The keys in order. -/
def keys (d : Dict κ α) : List κ :=
  d.entries.map (·.1)

/-- The values in the order of their keys. -/
def values (d : Dict κ α) : List α :=
  d.entries.map (·.2)

/-- The number of entries. -/
def size (d : Dict κ α) : Nat :=
  d.entries.length

/-- Puts an entry at its place in a list of entries in key order. -/
def place (k : κ) (v : α) : List (κ × α) → List (κ × α)
  | [] => [(k, v)]
  | e :: rest =>
    match compare k e.1 with
    | .lt => (k, v) :: e :: rest
    | .eq => (k, v) :: rest
    | .gt => e :: place k v rest

theorem fst_of_mem_place {k : κ} {v : α} {l : List (κ × α)} {x : κ × α} (h : x ∈ place k v l) :
    x.1 = k ∨ ∃ y ∈ l, y.1 = x.1 := by
  induction l with
  | nil => simp [place] at h; exact .inl (h ▸ rfl)
  | cons e rest ih =>
    unfold place at h
    split at h <;> simp only [List.mem_cons] at h
    · rcases h with rfl | h
      · exact .inl rfl
      · exact .inr ⟨x, by simpa using h, rfl⟩
    · rcases h with rfl | h
      · exact .inl rfl
      · exact .inr ⟨x, by simp [h], rfl⟩
    · rcases h with rfl | h
      · exact .inr ⟨x, by simp, rfl⟩
      · rcases ih h with h | ⟨y, hy, hk⟩
        · exact .inl h
        · exact .inr ⟨y, by simp [hy], hk⟩

variable [TransOrd κ]

theorem pairwise_place (k : κ) (v : α) {l : List (κ × α)}
    (h : l.Pairwise fun a b => compare a.1 b.1 = .lt) :
    (place k v l).Pairwise fun a b => compare a.1 b.1 = .lt := by
  induction l with
  | nil => simp [place]
  | cons e rest ih =>
    have he := List.pairwise_cons.1 h
    unfold place
    split
    · rename_i hlt
      refine List.pairwise_cons.2 ⟨fun x hx => ?_, h⟩
      rcases List.mem_cons.1 hx with rfl | hx
      · exact hlt
      · exact TransCmp.lt_trans hlt (he.1 x hx)
    · rename_i heq
      exact List.pairwise_cons.2 ⟨fun x hx => TransCmp.lt_of_eq_of_lt heq (he.1 x hx), he.2⟩
    · rename_i hgt
      refine List.pairwise_cons.2 ⟨fun x hx => ?_, ih he.2⟩
      rcases fst_of_mem_place hx with hk | ⟨y, hy, hk⟩
      · rw [hk]; exact OrientedCmp.lt_of_gt hgt
      · rw [← hk]; exact he.1 y hy

/-- Gives a key a value, in place of the one it had. -/
def insert (d : Dict κ α) (k : κ) (v : α) : Dict κ α :=
  ⟨place k v d.entries, pairwise_place k v d.sorted⟩

/-- The dictionary of a list of pairs; of two values for one key the later counts. -/
def ofList (l : List (κ × α)) : Dict κ α :=
  l.foldl (fun d e => d.insert e.1 e.2) empty

omit [TransOrd κ] in
/-- Keeps the entries that satisfy `p`. -/
def filter (d : Dict κ α) (p : κ → α → Bool) : Dict κ α :=
  ⟨d.entries.filter fun e => p e.1 e.2, d.sorted.filter _⟩

omit [TransOrd κ] in
/-- Takes the value of a key away. -/
def erase (d : Dict κ α) (k : κ) : Dict κ α :=
  d.filter fun k' _ => compare k k' != .eq

omit [TransOrd κ] in
/-- Applies a function to every value. -/
def map (d : Dict κ α) (f : κ → α → β) : Dict κ β :=
  ⟨d.entries.map fun e => (e.1, f e.1 e.2), by
    simpa [List.pairwise_map] using d.sorted⟩

section Lookup

variable [LawfulEqOrd κ] [DecidableEq κ]

omit [TransOrd κ] in
theorem lookup_place (k k' : κ) (v : α) (l : List (κ × α)) :
    lookup k' (place k v l) = if k' = k then some v else lookup k' l := by
  induction l with
  | nil => simp [place, lookup]
  | cons e rest ih =>
    unfold place
    split
    · by_cases h : k' = k <;> simp [lookup, h]
    · rename_i heq
      have hk : k = e.1 := by simpa using heq
      by_cases h : k' = k <;> simp_all [lookup]
    · rename_i hgt
      have hk : k ≠ e.1 := fun h => by simp [h] at hgt
      by_cases he : k' = e.1
      · simp [lookup, he, Ne.symm hk]
      · simp [lookup, he, ih]

/-- A look-up after an insertion finds the new value at the key and the old ones elsewhere. -/
@[simp] theorem find?_insert (d : Dict κ α) (k k' : κ) (v : α) :
    (d.insert k v).find? k' = if k' = k then some v else d.find? k' :=
  lookup_place k k' v d.entries

omit [TransOrd κ] [LawfulEqOrd κ] [DecidableEq κ] in
@[simp] theorem find?_empty (k : κ) : (empty : Dict κ α).find? k = none := rfl

omit [TransOrd κ] in
/-- A look-up after an erasure finds nothing at the key and the old values elsewhere. -/
@[simp] theorem find?_erase (d : Dict κ α) (k k' : κ) :
    (d.erase k).find? k' = if k' = k then none else d.find? k' := by
  obtain ⟨l, _⟩ := d
  simp only [erase, filter, find?]
  induction l with
  | nil => simp [lookup]
  | cons e rest ih =>
    have ih := ih (List.Pairwise.of_cons ‹_›)
    by_cases h : e.1 = k <;> by_cases h' : k' = e.1 <;> simp_all [lookup, Ne.symm]

omit [TransOrd κ] [LawfulEqOrd κ] [DecidableEq κ] in
theorem lookup_eq_none_of_lt {k : κ} {l : List (κ × α)}
    (h : ∀ x ∈ l, compare k x.1 = .lt) : lookup k l = none := by
  induction l with
  | nil => rfl
  | cons e rest ih => simp_all [lookup]

omit [TransOrd κ] [DecidableEq κ] in
/-- In a list in key order, looking a key up finds exactly the entry of that key. -/
theorem lookup_eq_some_iff {k : κ} {v : α} {l : List (κ × α)}
    (hl : l.Pairwise fun a b => compare a.1 b.1 = .lt) :
    lookup k l = some v ↔ (k, v) ∈ l := by
  induction l with
  | nil => simp [lookup]
  | cons e rest ih =>
    have he := List.pairwise_cons.1 hl
    by_cases hk : compare k e.1 = .eq
    · have hke : k = e.1 := by simpa using hk
      have hnot : (e.1, v) ∉ rest := fun hmem => by
        have hlt := he.1 (e.1, v) hmem
        simp at hlt
      simp [lookup, hke, hnot, Prod.ext_iff, eq_comm]
    · have hne : (k, v) ≠ e := fun h => hk (by simp [← h])
      simp [lookup, hk, hne, ih he.2]

omit [TransOrd κ] [DecidableEq κ] in
/-- The entries are the pairs that looking up finds. -/
theorem mem_entries_iff {d : Dict κ α} {k : κ} {v : α} :
    (k, v) ∈ d.entries ↔ d.find? k = some v :=
  (lookup_eq_some_iff d.sorted).symm

omit [TransOrd κ] [DecidableEq κ] in
/-- The values are those that looking up finds. -/
theorem mem_values_iff {d : Dict κ α} {v : α} : v ∈ d.values ↔ ∃ k, d.find? k = some v := by
  simp [values, ← mem_entries_iff]

omit [TransOrd κ] [DecidableEq κ] in
/-- No key has two entries. -/
theorem nodup_keys (d : Dict κ α) : d.keys.Nodup := by
  unfold keys List.Nodup
  rw [List.pairwise_map]
  refine d.sorted.imp fun {a b} hab heq => ?_
  rw [heq] at hab
  simp at hab

omit [DecidableEq κ] in
theorem eq_of_lookup_eq {l m : List (κ × α)}
    (hl : l.Pairwise fun a b => compare a.1 b.1 = .lt)
    (hm : m.Pairwise fun a b => compare a.1 b.1 = .lt)
    (h : ∀ k, lookup k l = lookup k m) : l = m := by
  induction l generalizing m with
  | nil =>
    cases m with
    | nil => rfl
    | cons e rest => simpa [lookup] using h e.1
  | cons a l ih =>
    cases m with
    | nil => simpa [lookup] using h a.1
    | cons b m =>
      have ha := List.pairwise_cons.1 hl
      have hb := List.pairwise_cons.1 hm
      rcases hc : compare a.1 b.1 with _ | _ | _
      · have hnone : lookup a.1 (b :: m) = none := lookup_eq_none_of_lt fun x hx => by
          rcases List.mem_cons.1 hx with rfl | hx
          · exact hc
          · exact TransCmp.lt_trans hc (hb.1 x hx)
        have hfound := h a.1
        rw [hnone] at hfound
        simp [lookup] at hfound
      · have hk : a.1 = b.1 := by simpa using hc
        have hv : a.2 = b.2 := by simpa [lookup, hk] using h a.1
        have hrest : l = m := ih ha.2 hb.2 fun k => by
          by_cases hka : compare k a.1 = .eq
          · have : k = a.1 := by simpa using hka
            subst this
            rw [lookup_eq_none_of_lt ha.1, lookup_eq_none_of_lt (hk ▸ hb.1)]
          · simpa [lookup, hka, hk ▸ hka] using h k
        rw [show a = b from Prod.ext hk hv, hrest]
      · have hgt : compare b.1 a.1 = .lt := OrientedCmp.lt_of_gt hc
        have hnone : lookup b.1 (a :: l) = none := lookup_eq_none_of_lt fun x hx => by
          rcases List.mem_cons.1 hx with rfl | hx
          · exact hgt
          · exact TransCmp.lt_trans hgt (ha.1 x hx)
        have hfound := h b.1
        rw [hnone] at hfound
        simp [lookup] at hfound

omit [DecidableEq κ] in
/-- Giving a new value to a key changes one entry where it stands. -/
theorem place_split {k : κ} {v w : α} {l : List (κ × α)}
    (hl : l.Pairwise fun a b => compare a.1 b.1 = .lt) (h : lookup k l = some v) :
    ∃ pre post, l = pre ++ (k, v) :: post ∧ place k w l = pre ++ (k, w) :: post := by
  induction l with
  | nil => simp [lookup] at h
  | cons e rest ih =>
    have he := List.pairwise_cons.1 hl
    rcases hc : compare k e.1 with _ | _ | _
    · have hnone : lookup k rest = some v → False := fun hv => by
        have hlt := he.1 _ ((lookup_eq_some_iff he.2).1 hv)
        have hgt := OrientedCmp.gt_of_lt hc
        simp [hgt] at hlt
      simp only [lookup, hc, reduceCtorEq, if_false] at h
      exact (hnone h).elim
    · have hk : k = e.1 := by simpa using hc
      simp only [lookup, hc, if_true, Option.some.injEq] at h
      exact ⟨[], rest, by simp [hk, ← h], by simp [place, hc]⟩
    · simp only [lookup, hc, reduceCtorEq, if_false] at h
      obtain ⟨pre, post, rfl, hplace⟩ := ih he.2 h
      exact ⟨e :: pre, post, rfl, by simp [place, hc, hplace]⟩

omit [TransOrd κ] [LawfulEqOrd κ] [DecidableEq κ] in
/-- A key that had no value gets an entry of its own. -/
theorem place_new {k : κ} {w : α} {l : List (κ × α)} (h : lookup k l = none) :
    ∃ pre post, l = pre ++ post ∧ place k w l = pre ++ (k, w) :: post := by
  induction l with
  | nil => exact ⟨[], [], rfl, rfl⟩
  | cons e rest ih =>
    rcases hc : compare k e.1 with _ | _ | _
    · exact ⟨[], e :: rest, rfl, by simp [place, hc]⟩
    · simp [lookup, hc] at h
    · simp only [lookup, hc, reduceCtorEq, if_false] at h
      obtain ⟨pre, post, rfl, hplace⟩ := ih h
      exact ⟨e :: pre, post, rfl, by simp [place, hc, hplace]⟩

omit [DecidableEq κ] in
/-- A new value for a key stands where the old one stood. -/
theorem values_insert_split {d : Dict κ α} {k : κ} {v : α} (w : α) (h : d.find? k = some v) :
    ∃ pre post, d.values = pre ++ v :: post ∧ (d.insert k w).values = pre ++ w :: post := by
  obtain ⟨pre, post, hold, hnew⟩ := place_split (w := w) d.sorted h
  refine ⟨pre.map (·.2), post.map (·.2), ?_, ?_⟩
  · rw [values, hold, List.map_append, List.map_cons]
  · show (place k w d.entries).map (·.2) = _
    rw [hnew, List.map_append, List.map_cons]

omit [LawfulEqOrd κ] [DecidableEq κ] in
/-- A value for a new key is added to the others. -/
theorem values_insert_new {d : Dict κ α} {k : κ} (w : α) (h : d.find? k = none) :
    ∃ pre post, d.values = pre ++ post ∧ (d.insert k w).values = pre ++ w :: post := by
  obtain ⟨pre, post, hold, hnew⟩ := place_new (w := w) h
  refine ⟨pre.map (·.2), post.map (·.2), ?_, ?_⟩
  · rw [values, hold, List.map_append]
  · show (place k w d.entries).map (·.2) = _
    rw [hnew, List.map_append, List.map_cons]

omit [DecidableEq κ] in
/-- Dictionaries with the same look-ups are equal. -/
theorem ext_find? {d e : Dict κ α} (h : ∀ k, d.find? k = e.find? k) : d = e :=
  ext (eq_of_lookup_eq d.sorted e.sorted h)

/-- After a row of insertions a key has the value of the last insertion for it, or else the one it
had before. -/
theorem find?_foldl_insert (key : β → κ) (value : β → α) (l : List β) (d : Dict κ α) (k : κ) :
    (l.foldl (fun d b => d.insert (key b) (value b)) d).find? k =
      ((l.reverse.find? fun b => key b = k).map value).or (d.find? k) := by
  induction l generalizing d with
  | nil => rfl
  | cons b rest ih =>
    rw [List.foldl_cons, ih, List.reverse_cons, List.find?_append, find?_insert]
    cases rest.reverse.find? fun b => key b = k with
    | some c => rfl
    | none => by_cases hk : k = key b <;> simp [hk, Ne.symm]

/-- Inserting the entries of a dictionary one by one gives that dictionary. -/
theorem foldl_insert_entries (d : Dict κ α) :
    d.entries.foldl (fun d e => d.insert e.1 e.2) .empty = d := by
  refine ext_find? fun k => ?_
  rw [find?_foldl_insert Prod.fst Prod.snd, find?_empty, Option.or_none]
  cases hfind : d.entries.reverse.find? fun e => e.1 = k with
  | none =>
    cases hk : d.find? k with
    | none => rfl
    | some v =>
      have hmem := List.mem_reverse.2 (mem_entries_iff.2 hk)
      have hnone := List.find?_eq_none.1 hfind _ hmem
      simp at hnone
  | some e =>
    have hkey : e.1 = k := by simpa using List.find?_some hfind
    have hmem := List.mem_reverse.1 (List.mem_of_find?_eq_some hfind)
    exact (mem_entries_iff.1 (hkey ▸ hmem)).symm

end Lookup

/-- Names are listed in their order, and none of them twice. -/
theorem pairwise_keys {α : Type} (d : Dict String α) : d.keys.Pairwise (· < ·) := by
  unfold keys
  rw [List.pairwise_map]
  exact d.sorted.imp fun h => compareOfLessAndEq_eq_lt.1 h

end Dict

end TaskFleet
