import Mathlib.Data.List.Nodup
import TaskFleet.Proofs.Json.Yields

/-!
# What comes back from its text

Quantities come back from their text as they were. So does a resource set that was received, in
whatever order the members that are written of it are read (`ResourceSet.survives_text`). A
duration comes back only in whole milliseconds, and only if they fit in 64 bits; what was read
before is of that kind (`Duration.comes_back`).
-/

namespace TaskFleet

namespace Duration

open Text

/-- Exactly the durations of at most `max64` whole milliseconds come back from their text, without
what is finer than a millisecond. One that was read from a text comes back as it was. -/
theorem comes_back (d : Duration) :
    ((∃ read, parse d.render = .ok read) ↔ d.millis ≤ max64) ∧
      (∀ read, parse d.render = .ok read → read = .ofMillis d.millis) ∧
      ∀ text, parse text = .ok d → parse d.render = .ok d := by
  rw [parse_render]
  by_cases hmax : d.millis ≤ max64
  · simp only [if_pos hmax, Except.ok.injEq]
    refine ⟨⟨fun _ => hmax, fun _ => ⟨_, rfl⟩⟩, fun read h => h.symm, fun text h => ?_⟩
    exact (whole_of_parse h).2.symm
  · simp only [if_neg hmax]
    refine ⟨⟨fun ⟨_, h⟩ => (nomatch h), (absurd · hmax)⟩, fun _ h => (nomatch h), fun text h => ?_⟩
    exact absurd (whole_of_parse h).1 hmax

end Duration

namespace ResourceSet

/-- Sets that are read from a document, or from names of kinds and texts of quantities. -/
inductive Received : ResourceSet → Prop where
  | document {format : DocumentFormat} {v : Json} {s : ResourceSet}
      (hread : Decode.resourceSet format v = .ok s) : Received s
  | pairs {l : List (String × String)} {s : ResourceSet} (hread : parse l = .ok s) : Received s

/-- The kinds of a set that was received stand under the names that they are read by. -/
theorem Received.of_name_name {s : ResourceSet} (h : s.Received) :
    ∀ e ∈ s.toList, ResourceKind.ofName e.1.name = e.1 := by
  cases h with
  | @document format v s hread =>
      unfold Decode.resourceSet at hread
      split at hread
      · exact listed_by_names hread
      · exact nomatch hread
  | pairs hread => exact listed_by_names hread

/-- No two kinds of a set that was received are written by one name. -/
theorem Received.nodup_names {s : ResourceSet} (h : s.Received) :
    (s.toList.map (·.1.name)).Nodup := by
  have hkinds : (s.toList.map (·.1)).Nodup := Dict.nodup_keys s.entries
  refine List.Nodup.map_on (fun a ha b hb hname => ?_) (List.Nodup.of_map _ hkinds)
  refine List.inj_on_of_nodup_map hkinds ha hb ?_
  rw [← h.of_name_name a ha, ← h.of_name_name b hb, hname]

/-- Entries that are listed in another order make the same set. -/
theorem foldl_insert_perm {s : ResourceSet} {l : List (ResourceKind × Quantity)}
    (h : l.Perm s.toList) : l.foldl (fun d e => d.insert e.1 e.2) Dict.empty = s.entries := by
  have hsame : ∀ a ∈ l, ∀ b ∈ l, a.1 = b.1 → a = b := by
    intro a ha b hb hkind
    exact List.inj_on_of_nodup_map (Dict.nodup_keys s.entries) (h.subset ha) (h.subset hb) hkind
  refine (h.foldl_eq' (fun a ha b hb d => ?_) _).trans (Dict.foldl_insert_entries s.entries)
  by_cases hkind : a.1 = b.1
  · rw [hsame a ha b hb hkind]
  · refine Dict.ext_find? fun k => ?_
    simp only [Dict.find?_insert]
    by_cases ha : k = a.1
    · rw [if_pos ha, if_neg (ha ▸ hkind), if_pos ha]
    · rw [if_neg ha, if_neg ha]

/-- A quantity comes back from its text as it was. A set that was received is written by names
that are all different, and comes back with the same entries in the same order, also when the
members are read in another order. -/
theorem survives_text (q : Quantity) {s : ResourceSet} (hs : s.Received) :
    Quantity.parse q.render = .ok q ∧
      ∃ members, s.toJson = .obj members ∧ (members.map (·.1)).Nodup ∧
        ∀ written, written.Perm members →
          ∃ read, Decode.resourceSet .json (.obj written) = .ok read ∧ read.toList = s.toList := by
  refine ⟨Quantity.parse_render q, _, rfl, ?_, fun written hperm => ?_⟩
  · rw [List.map_map]
    exact hs.nodup_names
  · -- What was reordered are the entries, each of them written by itself.
    have hmembers : List.Forall₂ (fun m (e : ResourceKind × Quantity) =>
        m = (e.1.name, Json.str e.2.render)) _ s.toList :=
      List.forall₂_map_left_iff.2 (List.forall₂_same.2 fun _ _ => rfl)
    obtain ⟨l, hwritten, hl⟩ := List.perm_comp_forall₂ hperm hmembers
    rw [← List.forall₂_map_right_iff, List.forall₂_eq_eq_eq] at hwritten
    refine ⟨s, ?_, rfl⟩
    rw [hwritten, named_members_read .json fun e he => hs.of_name_name e (hl.subset he),
      foldl_insert_perm hl]

/-- A kind under both of its names, a zero and a kind without a place of its own are read and come
back. -/
theorem stock_survives_text :
    let stock := ofList [(.cpu, .zero), (.memory, .ofMebibytes 512), (.other "disk", .ofUnits 3)]
    Decode.resourceSet .json (.obj [("mem", .str "128Mi"), ("disk", .int 3), ("cpu", .str "0"),
        ("memory", .str "0.5Gi")]) = .ok stock ∧
      ∃ read, Decode.resourceSet .json stock.toJson = .ok read ∧ read.toList = stock.toList := by
  intro stock
  have hstock : Decode.resourceSet .json (.obj [("mem", .str "128Mi"), ("disk", .int 3),
      ("cpu", .str "0"), ("memory", .str "0.5Gi")]) = .ok stock := by
    decide +kernel
  obtain ⟨-, members, hwritten, -, hread⟩ := survives_text .zero (.document hstock)
  exact ⟨hstock, hwritten ▸ hread members (.refl _)⟩

end ResourceSet

end TaskFleet
