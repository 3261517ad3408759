/-!
# Cutting text

`splitOnce` cuts at the first separator and `splitAll` at every one. `append_of_splitOnce` says
that nothing is lost, `not_mem_of_splitOnce` that the first part holds no separator. `splitBytes?`
cuts at a position that is counted in bytes of UTF-8, unless it falls within a character.
-/

namespace TaskFleet.Text

/-- The parts before and after the first `sep`, or `none` where there is none. -/
def splitOnce (sep : Char) : List Char → Option (List Char × List Char)
  | [] => none
  | c :: rest =>
    if c = sep then some ([], rest)
    else (splitOnce sep rest).map fun parts => (c :: parts.1, parts.2)

/-- The parts between the separators; a text without any is one part. -/
def splitAll (sep : Char) : List Char → List (List Char)
  | [] => [[]]
  | c :: rest =>
    if c = sep then [] :: splitAll sep rest
    else match splitAll sep rest with
      | [] => [[c]]
      | part :: parts => (c :: part) :: parts

/-- What follows `start` at the front of a text. -/
def dropStart? (start : List Char) (s : List Char) : Option (List Char) :=
  if start.isPrefixOf s then some (s.drop start.length) else none

/-- What precedes `ending` at the end of a text. -/
def dropEnd? (ending : List Char) (s : List Char) : Option (List Char) :=
  if ending.isSuffixOf s then some (s.take (s.length - ending.length)) else none

/-- The length of a text in bytes. -/
def byteLength (s : List Char) : Nat :=
  s.foldr (fun c n => c.utf8Size + n) 0

/-- The parts before and after a position in bytes, or `none` where the position is within a
character or beyond the end. -/
def splitBytes? (position : Nat) : List Char → Option (List Char × List Char)
  | [] => if position = 0 then some ([], []) else none
  | c :: rest =>
    if position = 0 then some ([], c :: rest)
    else if position < c.utf8Size then none
    else (splitBytes? (position - c.utf8Size) rest).map fun parts => (c :: parts.1, parts.2)

/-- The part between two positions in bytes. -/
def sliceBytes? (start stop : Nat) (s : List Char) : Option (List Char) := do
  let (_, rest) ← splitBytes? start s
  let (piece, _) ← splitBytes? (stop - start) rest
  return piece

theorem append_of_splitOnce {sep : Char} {s a b : List Char}
    (h : splitOnce sep s = some (a, b)) : s = a ++ sep :: b := by
  induction s generalizing a with
  | nil => simp [splitOnce] at h
  | cons c rest ih =>
    by_cases hc : c = sep
    · simp [splitOnce, hc] at h
      obtain ⟨rfl, rfl⟩ := h
      simp [hc]
    · simp [splitOnce, hc] at h
      obtain ⟨a', hr, rfl⟩ := h
      simp [ih hr]

theorem not_mem_of_splitOnce {sep : Char} {s a b : List Char}
    (h : splitOnce sep s = some (a, b)) : sep ∉ a := by
  induction s generalizing a with
  | nil => simp [splitOnce] at h
  | cons c rest ih =>
    by_cases hc : c = sep
    · simp [splitOnce, hc] at h
      simp [h.1]
    · simp [splitOnce, hc] at h
      obtain ⟨a', hr, rfl⟩ := h
      simp [ih hr, Ne.symm hc]

/-- The cut is made at the first separator. -/
theorem splitOnce_append {sep : Char} {a b : List Char} (h : sep ∉ a) :
    splitOnce sep (a ++ sep :: b) = some (a, b) := by
  induction a with
  | nil => simp [splitOnce]
  | cons c rest ih =>
    obtain ⟨hc, hrest⟩ := not_or.1 (mt List.mem_cons.2 h)
    simp [splitOnce, Ne.symm hc, ih hrest]

/-- Two texts that are joined with a separator are the same exactly if their parts are, or if the
first part of the one goes on past the cut of the other. -/
theorem append_cons_eq_iff {sep : Char} {a b c d : List Char} :
    a ++ sep :: b = c ++ sep :: d ↔
      (a = c ∧ b = d) ∨ (∃ part, a = c ++ sep :: part ∧ d = part ++ sep :: b) ∨
        ∃ part, c = a ++ sep :: part ∧ b = part ++ sep :: d := by
  rw [List.append_eq_append_iff]
  constructor
  · rintro (⟨rest, rfl, hb⟩ | ⟨rest, rfl, hd⟩)
    · cases rest with
      | nil => exact .inl ⟨by simp, by simpa using hb⟩
      | cons x part =>
        rw [List.cons_append, List.cons.injEq] at hb
        obtain ⟨rfl, rfl⟩ := hb
        exact .inr (.inr ⟨part, rfl, rfl⟩)
    · cases rest with
      | nil => exact .inl ⟨by simp, by simpa using hd.symm⟩
      | cons x part =>
        rw [List.cons_append, List.cons.injEq] at hd
        obtain ⟨rfl, rfl⟩ := hd
        exact .inr (.inl ⟨part, rfl, rfl⟩)
  · rintro (⟨rfl, rfl⟩ | ⟨part, rfl, rfl⟩ | ⟨part, rfl, rfl⟩)
    · exact .inl ⟨[], by simp⟩
    · exact .inr ⟨sep :: part, by simp⟩
    · exact .inl ⟨sep :: part, by simp⟩

/-- There is no cut exactly where there is no separator. -/
theorem splitOnce_eq_none_iff {sep : Char} {s : List Char} :
    splitOnce sep s = none ↔ sep ∉ s := by
  induction s with
  | nil => simp [splitOnce]
  | cons c rest ih =>
    by_cases hc : c = sep
    · simp [splitOnce, hc]
    · simp [splitOnce, hc, ih, Ne.symm hc]

/-- What is added behind without a separator does not move the cut. -/
theorem splitOnce_append_right {sep : Char} {t : List Char} (h : sep ∉ t) (s : List Char) :
    splitOnce sep (s ++ t) = (splitOnce sep s).map fun parts => (parts.1, parts.2 ++ t) := by
  induction s with
  | nil => simpa [splitOnce] using splitOnce_eq_none_iff.2 h
  | cons c s ih =>
    rw [List.cons_append, splitOnce, splitOnce]
    split
    · rfl
    · rw [ih, Option.map_map, Option.map_map]
      rfl

theorem splitAll_ne_nil (sep : Char) (s : List Char) : splitAll sep s ≠ [] := by
  cases s with
  | nil => simp [splitAll]
  | cons c rest =>
    unfold splitAll
    split
    · simp
    · split <;> simp

/-- A text without a separator is one part. -/
theorem splitAll_eq_self {sep : Char} {s : List Char} (h : sep ∉ s) : splitAll sep s = [s] := by
  induction s with
  | nil => rfl
  | cons c rest ih =>
    obtain ⟨hc, hrest⟩ := not_or.1 (mt List.mem_cons.2 h)
    simp [splitAll, Ne.symm hc, ih hrest]

/-- The parts of two texts with a separator between them. -/
theorem splitAll_append (sep : Char) (s t : List Char) :
    splitAll sep (s ++ sep :: t) = splitAll sep s ++ splitAll sep t := by
  induction s with
  | nil => simp [splitAll]
  | cons c rest ih =>
    by_cases hc : c = sep
    · simp [splitAll, hc, ih]
    · cases hparts : splitAll sep rest with
      | nil => exact absurd hparts (splitAll_ne_nil sep rest)
      | cons part parts => simp [splitAll, hc, ih, hparts]

/-- A cut at a position in bytes loses nothing and leaves so many bytes before it. -/
theorem append_of_splitBytes? {position : Nat} {s a b : List Char}
    (h : splitBytes? position s = some (a, b)) : s = a ++ b ∧ byteLength a = position := by
  induction s generalizing position a with
  | nil =>
    simp only [splitBytes?] at h
    split at h <;> simp_all [byteLength]
  | cons c rest ih =>
    simp only [splitBytes?] at h
    split at h
    · simp_all [byteLength]
    · split at h
      · simp at h
      · obtain ⟨⟨a', b'⟩, hr, h⟩ := Option.map_eq_some_iff.1 h
        obtain ⟨rfl, rfl⟩ := Prod.mk.inj h
        obtain ⟨rfl, hl⟩ := ih hr
        simp only [byteLength, List.foldr_cons, List.cons_append] at hl ⊢
        exact ⟨trivial, by omega⟩

end TaskFleet.Text
