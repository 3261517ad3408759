import Mathlib.Algebra.Group.Int.Defs
import Mathlib.Data.List.Forall2
import TaskFleet.Proofs.Text.Measures
import TaskFleet.Task.Codec

/-!
# What is written and what is read back

`ReadsAs toJson decode a b` says that the JSON written of `a` is read as `b`. The parts that records
are made of come back as they were, as far as they are in the range of their type; a duration loses
what is finer than a millisecond, and a resource set gets its kinds under the names that they are
read by. Either way what has been read once comes back the same from then on (`Settles`).
-/

namespace TaskFleet

variable {α β : Type} {toJson : α → Json} {decode : Decoder α}

/-- The JSON written of `a` is read as `b`. -/
abbrev ReadsAs (toJson : α → Json) (decode : Decoder α) (a b : α) : Prop :=
  decode .json (toJson a) = .ok b

/-- What has been read once comes back the same from then on. -/
def Settles (toJson : α → Json) (decode : Decoder α) : Prop :=
  ∀ ⦃a b : α⦄, ReadsAs toJson decode a b → ReadsAs toJson decode b b

/-- A computation in two stages succeeds exactly when both do. -/
theorem bind_ok_iff {ε : Type} {x : Except ε α} {f : α → Except ε β} {b : β} :
    x >>= f = .ok b ↔ ∃ a, x = .ok a ∧ f a = .ok b := by
  cases x with
  | error e => exact ⟨(nomatch ·), fun ⟨_, h, _⟩ => nomatch h⟩
  | ok a => exact ⟨fun h => ⟨a, rfl, h⟩, fun ⟨_, ha, h⟩ => by cases ha; exact h⟩

/-- A mapped result is a success exactly when the result is. -/
theorem map_eq_ok_iff {ε : Type} {x : Except ε α} {f : α → β} {b : β} :
    x.map f = .ok b ↔ ∃ a, x = .ok a ∧ f a = b := by
  cases x with
  | error e => simp [Except.map]
  | ok a => simp [Except.map]

/-- A result with another error is a success exactly when the result is. -/
theorem map_error_ok_iff {ε ε' : Type} {x : Except ε α} {f : ε → ε'} {a : α} :
    x.mapError f = .ok a ↔ x = .ok a := by
  cases x with
  | error e => simp [Except.mapError]
  | ok b => simp [Except.mapError]

/-- A list is gone through successfully exactly when each step succeeds. -/
theorem map_m_ok_iff {ε : Type} {f : α → Except ε β} {l : List α} {r : List β} :
    l.mapM f = .ok r ↔ List.Forall₂ (fun a b => f a = .ok b) l r := by
  induction l generalizing r with
  | nil =>
      rw [List.mapM_nil, List.forall₂_nil_left_iff]
      exact ⟨fun h => (Except.ok.inj h).symm, fun h => h ▸ rfl⟩
  | cons a rest ih =>
      simp only [List.mapM_cons, bind_ok_iff, ih, List.forall₂_cons_left_iff]
      constructor
      · rintro ⟨b, hb, l, hl, hr⟩
        exact ⟨b, l, hb, hl, (Except.ok.inj hr).symm⟩
      · rintro ⟨b, l, hb, hl, rfl⟩
        exact ⟨b, hb, l, hl, rfl⟩

section Leaves

/-- A text comes back as it was. -/
@[simp] theorem string_reads_iff {a b : String} : ReadsAs .str Decode.string a b ↔ a = b := by
  simp [ReadsAs, Decode.string]

/-- A truth value comes back as it was. -/
@[simp] theorem bool_reads_iff {a b : Bool} : ReadsAs .bool Decode.bool a b ↔ a = b := by
  simp [ReadsAs, Decode.bool]

/-- A number comes back as it was if it is within the limit. -/
theorem nat_reads_iff {limit a b : Nat} :
    ReadsAs natToJson (Decode.natUpTo limit) a b ↔ a ≤ limit ∧ a = b := by
  unfold ReadsAs natToJson Decode.natUpTo
  simp only [Int.natCast_nonneg, true_and, Int.ofNat_le, Int.toNat_natCast]
  by_cases h : a ≤ limit
  · simp [h]
  · simp [h]

/-- A whole number comes back as it was if it is in the range of 32 bits. -/
theorem int_reads_iff {a b : Int} :
    ReadsAs .int Decode.int32 a b ↔ (-2 ^ 31 ≤ a ∧ a < 2 ^ 31) ∧ a = b := by
  show (if -2 ^ 31 ≤ a ∧ a < 2 ^ 31 then Except.ok a else .error DecodeError.shape) = .ok b ↔ _
  by_cases h : -2 ^ 31 ≤ a ∧ a < 2 ^ 31
  · rw [if_pos h, Except.ok.injEq, and_iff_right h]
  · rw [if_neg h]
    exact ⟨(nomatch ·), fun hread => absurd hread.1 h⟩

/-- A phase comes back as it was. -/
@[simp] theorem phase_reads_iff {a b : Phase} : ReadsAs Phase.toJson Phase.decode a b ↔ a = b := by
  simp [ReadsAs, Phase.toJson, Phase.decode, Decode.choice, Phase.ofName?_name]

/-- A text that was read once comes back the same. -/
theorem string_settles : Settles .str Decode.string := by
  intro a b h
  rw [string_reads_iff]

/-- A number that was read once comes back the same. -/
theorem nat_settles (limit : Nat) : Settles natToJson (Decode.natUpTo limit) := by
  intro a b h
  obtain ⟨hmax, rfl⟩ := nat_reads_iff.1 h
  exact h

/-- A whole number that was read once comes back the same. -/
theorem int_settles : Settles .int Decode.int32 := by
  intro a b h
  obtain ⟨hrange, rfl⟩ := int_reads_iff.1 h
  exact h

/-- A duration comes back in whole milliseconds, if there are not too many of them. -/
theorem duration_reads_iff {a b : Duration} :
    ReadsAs Duration.toJson Decode.duration a b ↔
      a.millis ≤ Text.max64 ∧ b = .ofMillis a.millis := by
  unfold ReadsAs Duration.toJson Decode.duration
  simp only [Duration.parse_render]
  by_cases h : a.millis ≤ Text.max64
  · simp [h, Except.mapError, eq_comm]
  · simp [h, Except.mapError]

/-- A duration that was read once comes back the same. -/
theorem duration_settles : Settles Duration.toJson Decode.duration := by
  intro a b h
  obtain ⟨hmax, rfl⟩ := duration_reads_iff.1 h
  rw [duration_reads_iff, Duration.millis_ofMillis]
  exact ⟨hmax, rfl⟩

end Leaves

section Compounds

/-- A list is read element by element. -/
theorem list_reads_iff {a b : List α} :
    ReadsAs (fun l => .arr (l.map toJson)) (Decode.list decode) a b ↔
      List.Forall₂ (ReadsAs toJson decode) a b := by
  unfold ReadsAs Decode.list
  rw [map_m_ok_iff, List.forall₂_map_left_iff]

/-- A list comes back as it was if all its members do. -/
theorem list_reads_self_iff {l : List α} :
    ReadsAs (fun l => .arr (l.map toJson)) (Decode.list decode) l l ↔
      ∀ a ∈ l, ReadsAs toJson decode a a := by
  rw [list_reads_iff, List.forall₂_same]

/-- A list that was read once comes back the same if its members do. -/
theorem list_settles (h : Settles toJson decode) :
    Settles (fun l => .arr (l.map toJson)) (Decode.list decode) := by
  intro a b hread
  rw [list_reads_iff] at hread
  rw [list_reads_self_iff]
  induction hread with
  | nil => simp
  | cons hhead _ ih => exact List.forall_mem_cons.2 ⟨h hhead, ih⟩

/-- An optional value is read as null or by the reader of its type. -/
theorem option_reads_iff (hnull : ∀ a, toJson a ≠ .null) {a b : Option α} :
    ReadsAs (optionToJson toJson) (Decode.option decode) a b ↔
      Option.Rel (ReadsAs toJson decode) a b := by
  cases a with
  | none =>
      cases b with
      | none => exact ⟨fun _ => .none, fun _ => rfl⟩
      | some b => exact ⟨(nomatch ·), (nomatch ·)⟩
  | some a =>
      have hread : Decode.option decode .json (toJson a) = (decode .json (toJson a)).map some := by
        unfold Decode.option
        split
        · exact absurd ‹_› (hnull a)
        · rfl
      unfold ReadsAs optionToJson
      rw [hread]
      cases hdecode : decode .json (toJson a) with
      | error e =>
          refine ⟨(nomatch ·), fun h => ?_⟩
          cases h with
          | some h => exact absurd (hdecode.symm.trans h) (by simp)
      | ok c =>
          constructor
          · intro h
            cases h
            exact .some hdecode
          · intro h
            cases h with
            | some h =>
                rw [Except.ok.inj (hdecode.symm.trans h)]
                rfl

/-- What may be missing comes back as it was if it does when it is there. -/
theorem option_reads_self_iff (hnull : ∀ a, toJson a ≠ .null) {a : Option α} :
    ReadsAs (optionToJson toJson) (Decode.option decode) a a ↔
      ∀ x ∈ a, ReadsAs toJson decode x x := by
  rw [option_reads_iff hnull]
  cases a with
  | none => simp
  | some a => simp

/-- What may be missing comes back the same once it was read, if it does when it is there. -/
theorem option_settles (hnull : ∀ a, toJson a ≠ .null) (h : Settles toJson decode) :
    Settles (optionToJson toJson) (Decode.option decode) := by
  intro a b hread
  rw [option_reads_iff hnull] at hread ⊢
  cases hread with
  | none => exact .none
  | some hread => exact .some (h hread)

/-- Steps that cannot fail go through a list like a plain fold. -/
theorem foldl_m_eq_ok {σ ε : Type} {f : σ → α → Except ε σ} {g : σ → α → σ} {l : List α}
    (h : ∀ s, ∀ a ∈ l, f s a = .ok (g s a)) (s : σ) : l.foldlM f s = .ok (l.foldl g s) := by
  induction l generalizing s with
  | nil => rfl
  | cons a rest ih =>
      rw [List.foldlM_cons, bind_ok_iff]
      exact ⟨g s a, h s a (by simp), ih (fun s b hb => h s b (by simp [hb])) (g s a)⟩

/-- What holds before the steps of a fold and is kept by each holds after them. -/
theorem of_foldl_m {σ ε : Type} {f : σ → α → Except ε σ} {R : σ → Prop}
    (hstep : ∀ ⦃s a s'⦄, R s → f s a = .ok s' → R s') {l : List α} {s s' : σ} (hs : R s)
    (h : l.foldlM f s = .ok s') : R s' := by
  induction l generalizing s with
  | nil =>
      cases h
      exact hs
  | cons a rest ih =>
      rw [List.foldlM_cons, bind_ok_iff] at h
      obtain ⟨s₁, hfirst, hrest⟩ := h
      exact ih (hstep hs hfirst) hrest

/-- A table of texts comes back as it was. -/
@[simp] theorem texts_reads_iff {a b : Dict String String} :
    ReadsAs textsToJson Decode.texts a b ↔ a = b := by
  have hread : Decode.texts .json (textsToJson a) = .ok a := by
    unfold Decode.texts textsToJson
    simp only [List.foldlM_map]
    refine (foldl_m_eq_ok
      (g := fun (d : Dict String String) (e : String × String) => d.insert e.1 e.2)
      (fun _ _ _ => rfl) _).trans ?_
    rw [Dict.foldl_insert_entries]
  rw [ReadsAs, hread, Except.ok.injEq]

/-- The set with every kind under the name that it is read by. -/
def ResourceSet.named (s : ResourceSet) : ResourceSet :=
  ⟨s.toList.foldl (fun d e => d.insert (.ofName e.1.name) e.2) .empty⟩

/-- The members that are written of entries are read one after the other. -/
theorem resource_members_read (format : DocumentFormat) (l : List (ResourceKind × Quantity)) :
    Decode.resourceSet format (.obj (l.map fun e => (e.1.name, .str e.2.render))) =
      .ok ⟨l.foldl (fun d e => d.insert (.ofName e.1.name) e.2) .empty⟩ := by
  have hread : Decode.resourceSet format (.obj (l.map fun e => (e.1.name, .str e.2.render))) =
      .ok (l.foldl (fun s e => s.insert (.ofName e.1.name) e.2) .empty) := by
    unfold Decode.resourceSet
    simp only [List.foldlM_map]
    refine foldl_m_eq_ok (fun s e _ => ?_) _
    simp only [Decode.quantity, Quantity.parse_render]
    rfl
  rw [hread]
  exact congrArg Except.ok (List.foldl_hom ResourceSet.mk fun _ _ => rfl)

/-- A resource set comes back with its kinds under the names that they are read by. -/
theorem resources_reads_iff {a b : ResourceSet} :
    ReadsAs ResourceSet.toJson Decode.resourceSet a b ↔ b = a.named := by
  rw [ReadsAs, ResourceSet.toJson, resource_members_read, Except.ok.injEq, eq_comm]
  rfl

/-- The kinds of a set that is listed by names stand under the names that they are read by. -/
theorem listed_by_names {ε : Type} {name : α → String} {amount : α → Except ε Quantity}
    {l : List α} {s : ResourceSet}
    (h : l.foldlM (fun (s : ResourceSet) a => return s.insert (.ofName (name a)) (← amount a)) ∅ =
      .ok s) :
    ∀ e ∈ s.toList, ResourceKind.ofName e.1.name = e.1 := by
  refine of_foldl_m (R := fun s => ∀ e ∈ s.toList, ResourceKind.ofName e.1.name = e.1) ?_ ?_ h
  · intro s a s' hs hstep e he
    obtain ⟨q, -, hq⟩ := bind_ok_iff.1 hstep
    cases hq
    have hfind := ResourceSet.mem_toList_iff.1 he
    rw [show (s.insert (.ofName (name a)) q).entries = s.entries.insert (.ofName (name a)) q from
      rfl, Dict.find?_insert] at hfind
    by_cases hkind : e.1 = .ofName (name a)
    · rw [hkind, ResourceKind.ofName_name_ofName]
    · rw [if_neg hkind] at hfind
      exact hs e (ResourceSet.mem_toList_iff.2 hfind)
  · intro e he
    exact nomatch he

/-- Entries whose kinds stand under the names that they are read by come back as they were. -/
theorem named_members_read (format : DocumentFormat) {l : List (ResourceKind × Quantity)}
    (h : ∀ e ∈ l, ResourceKind.ofName e.1.name = e.1) :
    Decode.resourceSet format (.obj (l.map fun e => (e.1.name, .str e.2.render))) =
      .ok ⟨l.foldl (fun d e => d.insert e.1 e.2) .empty⟩ := by
  have hsame : l.foldl (fun d e => d.insert (.ofName e.1.name) e.2) Dict.empty =
      l.foldl (fun d e => d.insert e.1 e.2) Dict.empty :=
    List.foldl_ext _ _ _ fun d e he => by rw [h e he]
  rw [resource_members_read, hsame]

/-- A set whose kinds stand under the names that they are read by comes back as it was. -/
theorem resources_reads_self {s : ResourceSet}
    (h : ∀ e ∈ s.toList, ResourceKind.ofName e.1.name = e.1) :
    ReadsAs ResourceSet.toJson Decode.resourceSet s s := by
  rw [ReadsAs, ResourceSet.toJson, named_members_read .json h]
  exact congrArg (fun d => Except.ok (ResourceSet.mk d)) (Dict.foldl_insert_entries s.entries)

/-- A set that was read once comes back the same. -/
theorem resources_settles : Settles ResourceSet.toJson Decode.resourceSet :=
  fun _ _ h => resources_reads_self (listed_by_names h)

end Compounds

end TaskFleet
