import TaskFleet.Proofs.Store.Versions

/-!
# One table in two stores

A store in memory and a database that hold the same tasks, `Mirrors`: each task that is found in
memory under its id stands in the database as its record, under the text of its id. Ids whose
namespaces hold no slash (`TaskId.Plain`) are told apart by their text, and tasks that come back as
they were are the same after writing and reading them; for those, reading, writing and creating keep
the two alike. What differs is the text of a conflict alone.
-/

namespace TaskFleet

open Text

namespace TaskId

/-- An id whose text can be cut into namespace and name in no other way. -/
def Plain (id : TaskId) : Prop :=
  '/' ∉ id.space.toList

instance (id : TaskId) : Decidable id.Plain := inferInstanceAs (Decidable (¬ _))

/-- A plain id is what its text is cut into. -/
theorem cut_key {id : TaskId} (h : id.Plain) : cut? id.key = some id := by
  have hkey : id.key.toList = id.space.toList ++ '/' :: id.name.toList := by simp [key]
  unfold cut?
  rw [hkey, splitOnce_append h]
  simp

/-- No two plain ids have the same text. -/
theorem key_injective {id other : TaskId} (h : id.Plain) (h' : other.Plain)
    (hkey : id.key = other.key) : id = other := by
  have hcut := cut_key h
  rw [hkey, cut_key h'] at hcut
  exact (Option.some.inj hcut).symm

/-- A reference from a plain id names a plain one. -/
theorem plain_resolve {id : TaskId} (h : id.Plain) (reference : String) :
    (id.resolve reference).Plain := by
  unfold resolve cut?
  cases hcut : splitOnce '/' reference.toList with
  | none => exact h
  | some parts =>
      unfold Plain
      simpa using not_mem_of_splitOnce hcut

end TaskId

/-- A task that a database keeps as it is, under a key of its own. -/
structure Task.Storable (t : Task) : Prop where
  plain : t.id.Plain
  legible : t.Legible

theorem Task.Storable.bump {t : Task} (h : t.Storable) : t.bump.Storable :=
  ⟨h.plain, TaskStore.legible_bump h.legible⟩

/-- A task as it is created. -/
theorem Task.Storable.created {t : Task} (h : t.Storable) : { t with version := 1 }.Storable :=
  ⟨h.plain, h.legible.spec, h.legible.status, show 1 ≤ Text.max64 by decide, h.legible.createdAt⟩

namespace TaskStore

/-- A database that holds the records of the tasks that are in memory, and no others. -/
structure Mirrored (tasks : Dict TaskId Task) (state : StateStore) : Prop where
  own : ∀ id t, tasks.find? id = some t → t.id = id ∧ t.Storable
  found : ∀ id, id.Plain → state.tasks.find? id.key = (tasks.find? id).map Task.toJson
  /-- Nothing stands under a key that is not the text of an id in memory. -/
  known : ∀ key record, state.tasks.find? key = some record →
    ∃ id t, tasks.find? id = some t ∧ id.key = key

/-- A store in memory and a database with the same tasks. -/
inductive Mirrors : TaskStore → TaskStore → Prop
  | intro {tasks : Dict TaskId Task} {state : StateStore} (h : Mirrored tasks state) :
      Mirrors (.memory tasks) (.durable state)

variable {s s' : TaskStore} {t : Task} {id : TaskId}

/-- The stores that a run starts with. -/
theorem mirrors_empty {state : StateStore} (h : state.tasks = .empty) :
    (memory .empty).Mirrors (durable state) := by
  refine .intro { own := fun _ _ hfind => (nomatch hfind), found := fun _ _ => ?_, known := ?_ }
  · rw [h]
    rfl
  · intro key record hfind
    rw [h] at hfind
    exact nomatch hfind

/-- Both find the same task, or miss it alike. -/
theorem Mirrors.get_eq (h : s.Mirrors s') (hid : id.Plain) : s'.get id = s.get id := by
  cases h with
  | @intro tasks state h =>
      have hfound := h.found id hid
      cases hfind : tasks.find? id with
      | none =>
          rw [hfind] at hfound
          simp [TaskStore.get, StateStore.getTask, hfound, hfind]
      | some t =>
          rw [hfind] at hfound
          have hread : Task.decode .json t.toJson = .ok t :=
            task_reads_self_iff.2 (h.own id t hfind).2.legible
          rw [get_memory_ok_iff.2 hfind]
          exact get_durable_ok_iff.2 ⟨_, hfound, hread⟩

/-- What is found stands under its own id, and is kept as it is. -/
theorem Mirrors.found (h : s.Mirrors s') (hget : s.get id = .ok t) : t.id = id ∧ t.Storable := by
  cases h with
  | intro h => exact h.own id t (get_memory_ok_iff.1 hget)

theorem Mirrors.sound (h : s.Mirrors s') : s.Sound := by
  cases h with
  | intro h => exact fun id t hfind => (h.own id t hfind).1

/-- What stands in the database is the record of a task that is in memory. -/
theorem Mirrored.record {tasks : Dict TaskId Task} {state : StateStore} {key : String}
    {record : Json} (h : Mirrored tasks state) (hfind : state.tasks.find? key = some record) :
    ∃ t : Task, t.Storable ∧ t.id.key = key ∧ Task.decode .json record = .ok t := by
  obtain ⟨id, t, ht, rfl⟩ := h.known key record hfind
  obtain ⟨rfl, hstorable⟩ := h.own id t ht
  rw [h.found t.id hstorable.plain, ht] at hfind
  cases hfind
  exact ⟨t, hstorable, rfl, task_reads_self_iff.2 hstorable.legible⟩

theorem Mirrors.sound_durable (h : s.Mirrors s') : s'.Sound := by
  cases h with
  | intro h =>
      intro key record t hfind hread
      obtain ⟨x, hx, hkey, hread'⟩ := h.record hfind
      obtain rfl : x = t := Except.ok.inj (hread'.symm.trans hread)
      exact ⟨hkey, hx.legible⟩

theorem Mirrors.found_durable (h : s.Mirrors s') (hget : s'.get id = .ok t) : t.Storable := by
  cases h with
  | intro h =>
      obtain ⟨record, hfind, hread⟩ := get_durable_ok_iff.1 hget
      obtain ⟨x, hx, -, hread'⟩ := h.record hfind
      obtain rfl : x = t := Except.ok.inj (hread'.symm.trans hread)
      exact hx

/-- Writing the same task to both keeps them alike. -/
theorem Mirrors.set (h : s.Mirrors s') (ht : t.Storable) : (s.set t).Mirrors (s'.set t) := by
  cases h with
  | @intro tasks state h =>
      refine .intro ⟨fun id x hfind => ?_, fun id hid => ?_, fun key record hfind => ?_⟩
      · rw [Dict.find?_insert] at hfind
        by_cases hid : id = t.id
        · rw [if_pos hid, Option.some.injEq] at hfind
          exact hfind ▸ ⟨hid.symm, ht⟩
        · rw [if_neg hid] at hfind
          exact h.own id x hfind
      · rw [StateStore.store, Dict.find?_insert, Dict.find?_insert]
        by_cases hsame : id = t.id
        · rw [if_pos hsame, if_pos (congrArg TaskId.key hsame), Option.map_some]
        · -- Only plain ids are told apart by their keys, which is why `found` is about those alone.
          have hkey : id.key ≠ t.id.key := fun hkey => hsame (TaskId.key_injective hid ht.plain hkey)
          rw [if_neg hsame, if_neg hkey]
          exact h.found id hid
      · rw [StateStore.store, Dict.find?_insert] at hfind
        by_cases hkey : key = t.id.key
        · exact ⟨t.id, t, by rw [Dict.find?_insert, if_pos rfl], hkey.symm⟩
        · rw [if_neg hkey] at hfind
          obtain ⟨id, x, hx, rfl⟩ := h.known key record hfind
          have hid : id ≠ t.id := fun hid => hkey (congrArg TaskId.key hid)
          exact ⟨id, x, by rw [Dict.find?_insert, if_neg hid, hx], rfl⟩

/-- After a write the task is found in its place, and all others are found as before. -/
theorem Mirrors.get_set (h : s.Mirrors s') (t : Task) (id : TaskId) :
    (s.set t).get id = if id = t.id then .ok t else s.get id := by
  cases h with
  | @intro tasks state h =>
      unfold TaskStore.set TaskStore.get
      dsimp only
      rw [Dict.find?_insert]
      by_cases hid : id = t.id
      · rw [if_pos hid, if_pos hid]
      · rw [if_neg hid, if_neg hid]

/-- A write is taken by both or by neither. -/
theorem Mirrors.put (h : s.Mirrors s') (ht : t.Storable) :
    (s.put t = .ok (s.set t.bump, t.bump) ∧ s'.put t = .ok (s'.set t.bump, t.bump)) ∨
    (∃ e, s.put t = .error e ∧ s'.put t = .error e) ∨
    ∃ text text', s.put t = .error (.conflict text) ∧ s'.put t = .error (.conflict text') ∧
      ∀ x, s.get t.id = .ok x → x.version ≠ t.version := by
  obtain ⟨text, hput⟩ := put_eq s t
  obtain ⟨text', hput'⟩ := put_eq s' t
  rw [h.get_eq ht.plain] at hput'
  cases hget : s.get t.id with
  | error e =>
      rw [hget] at hput hput'
      exact .inr (.inl ⟨e, hput, hput'⟩)
  | ok x =>
      rw [hget] at hput hput'
      by_cases hversion : x.version = t.version
      · simp only [hversion, if_true] at hput hput'
        exact .inl ⟨hput, hput'⟩
      · simp only [hversion, if_false] at hput hput'
        refine .inr (.inr ⟨text, text', hput, hput', ?_⟩)
        rintro y hy
        cases hy
        exact hversion

/-- A task that neither has is created in both. -/
theorem Mirrors.insert (h : s.Mirrors s') (ht : t.Storable) (hnew : ∀ x, s.get t.id ≠ .ok x) :
    s.insert t = .ok (s.set { t with version := 1 }, { t with version := 1 }) ∧
      s'.insert t = .ok (s'.set { t with version := 1 }, { t with version := 1 }) := by
  cases h with
  | @intro tasks state h =>
      refine ⟨rfl, map_eq_ok_iff.2 ⟨_, StateStore.create_task_ok_iff.2 ⟨?_, rfl, rfl⟩, rfl⟩⟩
      rw [h.found t.id ht.plain]
      cases hfind : tasks.find? t.id with
      | none => rfl
      | some x => exact absurd (get_memory_ok_iff.2 hfind) (hnew x)

/-- Where every record can be read, what is listed is all that can be read. -/
theorem list_of_readable {state : StateStore} (h : (durable state).Readable) :
    state.listTasks = .ok (durable state).tasks := by
  have hvalues : ∀ record ∈ state.tasks.values, ∃ t, Task.decode .json record = .ok t := by
    intro record hrecord
    obtain ⟨key, hfind⟩ := Dict.mem_values_iff.1 hrecord
    exact h key record hfind
  unfold StateStore.listTasks tasks
  dsimp only
  generalize state.tasks.values = values at hvalues ⊢
  induction values with
  | nil => rfl
  | cons record rest ih =>
      obtain ⟨t, hread⟩ := hvalues record List.mem_cons_self
      rw [List.filterMap_cons_some (read_task_eq_some_iff.2 hread), StateStore.map_m_cons_ok_iff]
      exact ⟨t, _, StateStore.read_record_ok_iff.2 hread,
        ih fun r hr => hvalues r (List.mem_cons_of_mem _ hr), rfl⟩

/-- All tasks are listed by both, each in an order of its own. -/
theorem Mirrors.list (h : s.Mirrors s') :
    s.list = .ok s.tasks ∧ s'.list = .ok s'.tasks ∧ s'.tasks.Perm s.tasks := by
  have hsame (t : Task) : t ∈ s'.tasks ↔ t ∈ s.tasks := by
    constructor
    · intro ht
      have hget := get_of_mem h.sound_durable ht
      rw [h.get_eq (h.found_durable hget).plain] at hget
      exact mem_tasks_of_get hget
    · intro ht
      have hget := get_of_mem h.sound ht
      rw [← h.get_eq (h.found hget).2.plain] at hget
      exact mem_tasks_of_get hget
  have hperm : s'.tasks.Perm s.tasks :=
    (List.perm_ext_iff_of_nodup (nodup_ids h.sound_durable).of_map (nodup_ids h.sound).of_map).2 hsame
  cases h with
  | intro h =>
      refine ⟨rfl, list_of_readable fun key record hfind => ?_, hperm⟩
      obtain ⟨t, -, -, hread⟩ := h.record hfind
      exact ⟨t, hread⟩

end TaskStore
end TaskFleet
