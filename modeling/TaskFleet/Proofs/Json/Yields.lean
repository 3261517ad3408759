import TaskFleet.Proofs.Json.Fields

/-!
# What is read has the range of its type

`Decoder.Yields decode P` says that whatever the reader accepts, in whichever format and spelling,
has the property `P`. A reader of a structure yields what the readers of its fields yield together
(`Record.Yields.seq`), from an object as from an array.
-/

namespace TaskFleet

variable {α β : Type} {P : α → Prop} {Q : β → Prop}

/-- Whatever is read has a property. -/
def Decoder.Yields (decode : Decoder α) (P : α → Prop) : Prop :=
  ∀ ⦃format : DocumentFormat⦄ ⦃v : Json⦄ ⦃a : α⦄, decode format v = .ok a → P a

/-- Whatever is read, from members or from values, has a property. -/
structure Record.Yields (r : Record α) (P : α → Prop) : Prop where
  members : ∀ ⦃format : DocumentFormat⦄ ⦃members : List (String × Json)⦄ ⦃a : α⦄,
    r.ofMembers format members = .ok a → P a
  values : ∀ ⦃format : DocumentFormat⦄ ⦃values : List Json⦄ ⦃read : α × List Json⦄,
    r.ofValues format values = .ok read → P read.1

namespace Decoder.Yields

/-- Nothing is claimed of what any decoder yields. -/
theorem any (decode : Decoder α) : Yields decode fun _ => True :=
  fun _ _ _ _ => trivial

/-- A decoded number is within its limit. -/
theorem natUpTo (limit : Nat) : Yields (Decode.natUpTo limit) (· ≤ limit) := by
  intro format v n h
  unfold Decode.natUpTo at h
  split at h
  · rename_i read
    by_cases hrange : 0 ≤ read ∧ read ≤ limit
    · rw [if_pos hrange, Except.ok.injEq] at h
      omega
    · rw [if_neg hrange] at h
      exact nomatch h
  · exact nomatch h

/-- A decoded whole number is in the range of 32 bits. -/
theorem int32 : Yields Decode.int32 fun n => -2 ^ 31 ≤ n ∧ n < 2 ^ 31 := by
  intro format v n h
  unfold Decode.int32 at h
  split at h
  · rename_i read
    by_cases hrange : -0x80000000 ≤ read ∧ read < 0x80000000
    · rw [if_pos hrange, Except.ok.injEq] at h
      exact h ▸ hrange
    · rw [if_neg hrange] at h
      exact nomatch h
  · exact nomatch h

/-- A duration that is read has whole milliseconds. -/
theorem duration : Yields Decode.duration fun d => d = .ofMillis d.millis := by
  have hsecs (n : Nat) : Duration.ofSecs n = .ofMillis (n * 1000) := by
    unfold Duration.ofSecs Duration.ofMillis
    rw [Nat.mul_assoc]
  intro format v d h
  unfold Decode.duration at h
  split at h
  · rename_i text
    cases hparse : Duration.parse text with
    | error e =>
        rw [hparse] at h
        exact nomatch h
    | ok read =>
        rw [hparse] at h
        cases h
        exact (Duration.whole_of_parse hparse).2
  · split at h
    · cases h
      rw [hsecs, Duration.millis_ofMillis]
    · exact nomatch h
  · exact nomatch h

/-- The members of a decoded list are what their decoder yields. -/
theorem list {decode : Decoder α} (h : Yields decode P) :
    Yields (Decode.list decode) fun l => ∀ a ∈ l, P a := by
  intro format v l hread
  unfold Decode.list at hread
  split at hread
  · rw [map_m_ok_iff] at hread
    induction hread with
    | nil => simp
    | cons hhead _ ih => exact List.forall_mem_cons.2 ⟨h hhead, ih⟩
  · exact nomatch hread

/-- A decoded value, if there is one, is what its decoder yields. -/
theorem option {decode : Decoder α} (h : Yields decode P) :
    Yields (Decode.option decode) fun o => ∀ a ∈ o, P a := by
  intro format v o hread
  unfold Decode.option at hread
  split at hread
  · cases hread
    simp
  · obtain ⟨a, ha, rfl⟩ := map_eq_ok_iff.1 hread
    intro b hb
    cases hb
    exact h ha

/-- A resource set that is read comes back as it was. -/
theorem resourceSet :
    Yields Decode.resourceSet fun s => ReadsAs ResourceSet.toJson Decode.resourceSet s s := by
  intro format v s h
  unfold Decode.resourceSet at h
  split at h
  · exact resources_reads_self (listed_by_names h)
  · exact nomatch h

end Decoder.Yields

/-- What a structure is read as has the property of its fields. -/
theorem Decoder.Yields.ofRecord {r : Record α} (h : r.Yields P) : Yields r.decode P := by
  intro format v a hread
  cases v with
  | obj members =>
      simp only [Record.decode] at hread
      split at hread
      · rename_i b hmembers _
        cases hread
        exact h.members hmembers
      all_goals cases hread
  | arr values =>
      simp only [Record.decode] at hread
      split at hread
      · rename_i b left hvalues
        split at hread
        · cases hread
        · cases hread
          exact h.values hvalues
      · cases hread
  | _ => cases hread

namespace Record.Yields

variable {f : Record (α → β)} {x : Record α} {g : α → β} {name : String}

/-- A function of several fields yields what it makes of what they yield. -/
theorem seq (hf : f.Yields fun g => ∀ a, P a → Q (g a)) (hx : x.Yields P) : (f <*> x).Yields Q where
  members := by
    intro format members b h
    obtain ⟨g, hg, a, ha, rfl⟩ := seq_ok_iff.1 h
    exact hf.members hg a (hx.members ha)
  values := by
    intro format values read h
    obtain ⟨⟨g, afterF⟩, hg, h⟩ := bind_ok_iff.1 h
    obtain ⟨⟨a, left⟩, ha, h⟩ := bind_ok_iff.1 h
    cases h
    exact hf.values hg a (hx.values ha)

/-- What is made of a value is what that makes of it. -/
theorem map (hg : ∀ a, P a → Q (g a)) (hx : x.Yields P) : (g <$> x).Yields Q :=
  seq (f := .pure g) ⟨fun _ _ _ h => Except.ok.inj h ▸ hg, fun _ _ _ h => Except.ok.inj h ▸ hg⟩ hx

/-- A member is what its decoder yields, or what stands for it when it is missing. -/
theorem fieldOr {decode : Decoder α} {missing : Option α} (h : Decoder.Yields decode P)
    (hmissing : ∀ a ∈ missing, P a) : (Record.fieldOr name decode missing).Yields P where
  members := by
    intro format members a hread
    obtain ⟨_, _, -, hv⟩ | ⟨-, habsent⟩ := field_or_ok_iff.1 hread
    · exact h hv
    · exact hmissing a habsent
  values := by
    intro format values read hread
    cases values with
    | nil =>
        cases missing with
        | none => exact nomatch hread
        | some a =>
            cases hread
            exact hmissing a rfl
    | cons v rest =>
        obtain ⟨a, ha, hread⟩ := bind_ok_iff.1 hread
        cases hread
        exact h ha

/-- A member is what its decoder yields. -/
theorem field {decode : Decoder α} (h : Decoder.Yields decode P) :
    (Record.field name decode).Yields P :=
  fieldOr h fun _ habsent => nomatch habsent

/-- A member with a default is what its decoder yields, or the default. -/
theorem fieldD {decode : Decoder α} {default : α} (h : Decoder.Yields decode P)
    (hdefault : P default) : (Record.fieldD name decode default).Yields P :=
  fieldOr h fun _ habsent => Option.some.inj habsent ▸ hdefault

end Record.Yields

end TaskFleet
