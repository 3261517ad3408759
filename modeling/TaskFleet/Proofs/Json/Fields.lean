import TaskFleet.Proofs.Json.Reading

/-!
# Records, field by field

A reader of a structure succeeds on an object exactly when each of its fields does, and gives the
structure of what the fields give. Members that are written by the structure itself are never
strays.
-/

namespace TaskFleet

/-- A value that may stand in an object under its name. -/
def Json.Plain (j : Json) : Prop := ∀ v, j ≠ .misnamed v

section Plain

open Json

/-- A text may stand in an object under its name. -/
@[simp] theorem plain_str (s : String) : (Json.str s).Plain := fun _ => Json.noConfusion

/-- A truth value may stand in an object under its name. -/
@[simp] theorem plain_bool (b : Bool) : (Json.bool b).Plain := fun _ => Json.noConfusion

/-- A whole number may stand in an object under its name. -/
@[simp] theorem plain_int (n : Int) : (Json.int n).Plain := fun _ => Json.noConfusion

/-- A number may stand in an object under its name. -/
@[simp] theorem plain_nat (n : Nat) : (natToJson n).Plain := plain_int n

/-- A list may stand in an object under its name. -/
@[simp] theorem plain_arr (l : List Json) : (Json.arr l).Plain := fun _ => Json.noConfusion

/-- An object may stand in an object under its name. -/
@[simp] theorem plain_obj (members : List (String × Json)) : (Json.obj members).Plain :=
  fun _ => Json.noConfusion

/-- What may be missing may stand in an object under its name. -/
@[simp] theorem plain_option {α : Type} {toJson : α → Json} (h : ∀ a, (toJson a).Plain)
    (a : Option α) : (optionToJson toJson a).Plain := by
  cases a with
  | none => exact fun _ => Json.noConfusion
  | some a => exact h a

end Plain

namespace Record

variable {α β : Type} {format : DocumentFormat} {members : List (String × Json)}

/-- The names of two readers are those of both. -/
@[simp] theorem names_seq {f : Record (α → β)} {x : Record α} :
    (f <*> x).names = f.names ++ x.names := rfl

/-- What is made of the value read does not change the names. -/
@[simp] theorem names_map {f : α → β} {x : Record α} : (f <$> x).names = x.names := rfl

/-- A member is read by its name. -/
@[simp] theorem names_field {name : String} {decode : Decoder α} :
    (field name decode).names = [name] := rfl

/-- A member with a default is read by its name. -/
@[simp] theorem names_field_d {name : String} {decode : Decoder α} {default : α} :
    (fieldD name decode default).names = [name] := rfl

/-- A structure is read from members under the names of its fields by its fields alone. -/
theorem decode_obj_ok_iff {r : Record α} {a : α}
    (h : ∀ m ∈ members, m.1 ∈ r.names ∧ m.2.Plain) :
    r.decode format (.obj members) = .ok a ↔ r.ofMembers format members = .ok a := by
  have hnone : members.findIdx? (isStray r.names) = none := by
    rw [List.findIdx?_eq_none_iff]
    intro m hm
    obtain ⟨hname, hplain⟩ := h m hm
    unfold isStray
    split
    · exact absurd rfl (hplain _)
    · simp [hname]
  cases hmembers : r.ofMembers format members with
  | error e => simp [decode, hnone, hmembers]
  | ok b => simp [decode, hnone, hmembers]

/-- A function of several fields is read exactly when all of them are. -/
@[simp] theorem seq_ok_iff {f : Record (α → β)} {x : Record α} {b : β} :
    (f <*> x).ofMembers format members = .ok b ↔
      ∃ g, f.ofMembers format members = .ok g ∧ ∃ a, x.ofMembers format members = .ok a ∧
        g a = b := by
  show (seq f x).ofMembers format members = .ok b ↔ _
  cases hf : f.ofMembers format members with
  | error d =>
      cases hx : x.ofMembers format members with
      | error e => simp [seq, hf, hx]
      | ok a => simp [seq, hf, hx]
  | ok g =>
      cases hx : x.ofMembers format members with
      | error e => simp [seq, hf, hx]
      | ok a => simp [seq, hf, hx]

/-- What is made of a value is there if the value is. -/
@[simp] theorem map_ok_iff {f : α → β} {x : Record α} {b : β} :
    (f <$> x).ofMembers format members = .ok b ↔
      ∃ a, x.ofMembers format members = .ok a ∧ f a = b := by
  show (seq (pure f) x).ofMembers format members = .ok b ↔ _
  rw [show seq (pure f) x = (pure f <*> x) from rfl, seq_ok_iff]
  constructor
  · rintro ⟨g, hg, a, ha, hb⟩
    cases hg
    exact ⟨a, ha, hb⟩
  · rintro ⟨a, ha, hb⟩
    exact ⟨f, rfl, a, ha, hb⟩

/-- A field is read from the one place where it occurs, or not at all if it has a default. -/
theorem field_or_ok_iff {name : String} {decode : Decoder α} {missing : Option α} {a : α} :
    (fieldOr name decode missing).ofMembers format members = .ok a ↔
      (∃ place v, occurrences name members = [(place, v)] ∧ decode format v = .ok a) ∨
        (occurrences name members = [] ∧ missing = some a) := by
  show fieldOfMembers name decode missing format members = .ok a ↔ _
  unfold fieldOfMembers
  rcases occurrences name members with _ | ⟨⟨place, v⟩, _ | ⟨again, more⟩⟩
  · cases missing with
    | none => simp
    | some b => simp
  · cases hread : decode format v with
    | error e => simp [hread]
    | ok b => simp [hread]
  · cases hread : decode format v with
    | error e => simp [hread]
    | ok b => simp [hread]

/-- A member is read if it is there once and its value can be decoded. -/
@[simp] theorem field_ok_iff {name : String} {decode : Decoder α} {a : α} :
    (field name decode).ofMembers format members = .ok a ↔
      ∃ place v, occurrences name members = [(place, v)] ∧ decode format v = .ok a := by
  unfold field
  simp [field_or_ok_iff]

/-- A member with a default is read likewise, or it is missing. -/
@[simp] theorem field_d_ok_iff {name : String} {decode : Decoder α} {default a : α} :
    (fieldD name decode default).ofMembers format members = .ok a ↔
      (∃ place v, occurrences name members = [(place, v)] ∧ decode format v = .ok a) ∨
        (occurrences name members = [] ∧ default = a) := by
  unfold fieldD
  simp [field_or_ok_iff]

end Record

end TaskFleet
