import Mathlib.Data.List.Nodup
import TaskFleet.Agent.Source
import TaskFleet.Proofs.Task.Written
import TaskFleet.Store.Tasks

/-!
# What a task store holds

Both stores seen as one thing: the list of the tasks that can be read (`TaskStore.tasks`), and what
`get` finds. A store is `Sound` if every task stands under its own id and comes back as it was; then
writing the next state of a task that was just read succeeds and replaces that task alone
(`put_of_get`), and creating a task adds one and changes none (`insert_spec`).
-/

namespace TaskFleet

open TaskStore

/-- The task of a record, if it is the record of a task. -/
def readTask? (record : Json) : Option Task :=
  (Task.decode .json record).toOption

/-- A record is read as the task that it is decoded to. -/
theorem read_task_eq_some_iff {record : Json} {t : Task} :
    readTask? record = some t ↔ Task.decode .json record = .ok t := by
  unfold readTask?
  cases Task.decode .json record with
  | error e => simp [Except.toOption]
  | ok a => simp [Except.toOption]

namespace TaskStore

/-- The tasks that can be read, in the order of the store. -/
def tasks : TaskStore → List Task
  | .memory tasks => tasks.values
  | .durable state => state.tasks.values.filterMap readTask?

/-- A store in which every task stands under its own id and comes back as it was. -/
def Sound : TaskStore → Prop
  | .memory tasks => ∀ id t, tasks.find? id = some t → t.id = id
  | .durable state => ∀ key record t, state.tasks.find? key = some record →
      Task.decode .json record = .ok t → t.id.key = key ∧ t.Legible

/-- A store that a task can be written to without change. -/
def Keeps : TaskStore → Task → Prop
  | .memory _, _ => True
  | .durable _, t => t.Legible

/-- A store after one of its tasks was replaced. -/
structure Replaces (s : TaskStore) (old new : Task) (s' : TaskStore) : Prop where
  found : ∀ id, s.get id = .ok old → s'.get id = .ok new
  others : ∀ id, s.get id ≠ .ok old → s'.get id = s.get id
  split : ∃ pre post, s.tasks = pre ++ old :: post ∧ s'.tasks = pre ++ new :: post

/-- A task is read in memory if it stands there under its id. -/
theorem get_memory_ok_iff {tasks : Dict TaskId Task} {id : TaskId} {t : Task} :
    (memory tasks).get id = .ok t ↔ tasks.find? id = some t := by
  cases hfind : tasks.find? id with
  | none => simp [TaskStore.get, hfind]
  | some x => simp [TaskStore.get, hfind]

/-- A task is read in a database if its record stands under the text of its id and can be decoded.
-/
theorem get_durable_ok_iff {state : StateStore} {id : TaskId} {t : Task} :
    (durable state).get id = .ok t ↔
      ∃ record, state.tasks.find? id.key = some record ∧ Task.decode .json record = .ok t := by
  cases hfind : state.tasks.find? id.key with
  | none => simp [TaskStore.get, StateStore.getTask, hfind]
  | some record =>
      cases hread : Task.decode .json record with
      | error e =>
          simp [TaskStore.get, StateStore.getTask, StateStore.readRecord, hfind, hread,
            Except.mapError, Except.map]
      | ok x =>
          simp [TaskStore.get, StateStore.getTask, StateStore.readRecord, hfind, hread,
            Except.mapError, Except.map]

/-- A durable store finds the same under all ids of one key. -/
theorem get_durable_congr {s s' : StateStore} {id : TaskId}
    (h : s.tasks.find? id.key = s'.tasks.find? id.key) : (durable s).get id = (durable s').get id := by
  simp only [TaskStore.get, StateStore.getTask, h]

/-- What `get` finds is among the tasks of the store. -/
theorem mem_tasks_of_get {s : TaskStore} {id : TaskId} {t : Task} (h : s.get id = .ok t) :
    t ∈ s.tasks := by
  cases s with
  | memory tasks => exact Dict.mem_values_iff.2 ⟨id, get_memory_ok_iff.1 h⟩
  | durable state =>
      obtain ⟨record, hfind, hread⟩ := get_durable_ok_iff.1 h
      exact List.mem_filterMap.2
        ⟨record, Dict.mem_values_iff.2 ⟨_, hfind⟩, read_task_eq_some_iff.2 hread⟩

/-- What is computed of what `get` finds tells that it finds a task. -/
theorem get_of_map {α : Type} {s : TaskStore} {id : TaskId} {g : Task → α} {a : α}
    (h : (s.get id).toOption.map g = some a) : ∃ t, s.get id = .ok t ∧ g t = a := by
  cases hget : s.get id with
  | error e =>
      rw [hget] at h
      exact nomatch h
  | ok t =>
      rw [hget] at h
      exact ⟨t, rfl, Option.some.inj h⟩

/-- A sound store keeps the tasks that it has. -/
theorem keeps_of_get {s : TaskStore} {id : TaskId} {t : Task} (hs : s.Sound)
    (h : s.get id = .ok t) : s.Keeps t := by
  cases s with
  | memory tasks => trivial
  | durable state =>
      obtain ⟨record, hfind, hread⟩ := get_durable_ok_iff.1 h
      exact (hs _ _ _ hfind hread).2

/-- A task is found under its own id. -/
theorem get_id_of_get {s : TaskStore} {id : TaskId} {t : Task} (hs : s.Sound)
    (h : s.get id = .ok t) : s.get t.id = .ok t := by
  cases s with
  | memory tasks =>
      have hid := hs id t (get_memory_ok_iff.1 h)
      rw [hid]
      exact h
  | durable state =>
      obtain ⟨record, hfind, hread⟩ := get_durable_ok_iff.1 h
      have hkey := (hs _ _ _ hfind hread).1
      exact get_durable_ok_iff.2 ⟨record, hkey ▸ hfind, hread⟩

/-- What is found of one task is the same under all ids. -/
theorem eq_of_get {s : TaskStore} {id other : TaskId} {t u : Task} (hs : s.Sound)
    (h : s.get id = .ok t) (hother : s.get other = .ok u) (hid : t.id = u.id) : t = u := by
  have hself := get_id_of_get hs h
  rw [hid, get_id_of_get hs hother] at hself
  exact (Except.ok.inj hself).symm

/-- Every task that can be read is found under its id. -/
theorem get_of_mem {s : TaskStore} {t : Task} (hs : s.Sound) (h : t ∈ s.tasks) :
    s.get t.id = .ok t := by
  cases s with
  | memory tasks =>
      obtain ⟨id, hfind⟩ := Dict.mem_values_iff.1 h
      rw [hs id t hfind]
      exact get_memory_ok_iff.2 hfind
  | durable state =>
      obtain ⟨record, hrecord, hread⟩ := List.mem_filterMap.1 h
      obtain ⟨key, hfind⟩ := Dict.mem_values_iff.1 hrecord
      have hdecode := read_task_eq_some_iff.1 hread
      have hkey := (hs _ _ _ hfind hdecode).1
      exact get_durable_ok_iff.2 ⟨record, hkey ▸ hfind, hdecode⟩

/-- No two tasks have the same id. -/
theorem nodup_ids {s : TaskStore} (hs : s.Sound) : (s.tasks.map Task.id).Nodup := by
  unfold List.Nodup
  cases s with
  | memory tasks =>
      have hkeys := List.pairwise_map.1 (Dict.nodup_keys tasks)
      refine List.pairwise_map.2 (List.pairwise_map.2 (hkeys.imp_of_mem ?_))
      intro e e' he he' hne
      rw [hs _ _ (Dict.mem_entries_iff.1 he), hs _ _ (Dict.mem_entries_iff.1 he')]
      exact hne
  | durable state =>
      have hkeys := List.pairwise_map.1 (Dict.nodup_keys state.tasks)
      refine List.pairwise_map.2 (List.pairwise_filterMap.2 (List.pairwise_map.2
        (hkeys.imp_of_mem ?_)))
      intro e e' he he' hne t ht t' ht' heq
      have hkey := (hs _ _ _ (Dict.mem_entries_iff.1 he) (read_task_eq_some_iff.1 ht)).1
      have hkey' := (hs _ _ _ (Dict.mem_entries_iff.1 he') (read_task_eq_some_iff.1 ht')).1
      rw [← hkey, ← hkey', heq] at hne
      exact hne rfl

/-- The next version of a task comes back as it was if the task does. -/
theorem legible_bump {t : Task} (h : t.Legible) : t.bump.Legible where
  spec := h.spec
  status := h.status
  version := by
    have hlt : (t.version + 1) % 2 ^ 64 < 2 ^ 64 := Nat.mod_lt _ (by decide)
    show (t.version + 1) % 2 ^ 64 ≤ 2 ^ 64 - 1
    omega
  createdAt := h.createdAt

/-- Writing a task's record anew replaces the task of that record alone. -/
theorem replaces_store {state : StateStore} {record : Json} {t next : Task}
    (hfind : state.tasks.find? t.id.key = some record) (hread : Task.decode .json record = .ok t)
    (hsound : (durable state).Sound) (hid : next.id = t.id) (hnext : next.Legible) :
    (durable (state.store next)).Sound ∧
      (durable state).Replaces t next (durable (state.store next)) := by
  have hnew : Task.decode .json next.toJson = .ok next := task_reads_self_iff.2 hnext
  have hlookup (key : String) : (state.store next).tasks.find? key =
      if key = t.id.key then some next.toJson else state.tasks.find? key := by
    rw [← hid]
    exact Dict.find?_insert _ _ _ _
  refine ⟨?_, ?_, ?_, ?_⟩
  · intro key r x hr hx
    rw [hlookup] at hr
    by_cases hkey : key = t.id.key
    · rw [if_pos hkey] at hr
      cases hr
      cases hnew.symm.trans hx
      exact ⟨by rw [hid, hkey], hnext⟩
    · rw [if_neg hkey] at hr
      exact hsound _ _ _ hr hx
  · intro id hget
    obtain ⟨r, hr, hx⟩ := get_durable_ok_iff.1 hget
    have hkey := (hsound _ _ _ hr hx).1
    rw [get_durable_ok_iff]
    exact ⟨next.toJson, by rw [hlookup, if_pos hkey.symm], hnew⟩
  · intro id hget
    have hkey : id.key ≠ t.id.key := fun hkey =>
      hget (get_durable_ok_iff.2 ⟨record, hkey ▸ hfind, hread⟩)
    exact get_durable_congr (by rw [hlookup, if_neg hkey])
  · obtain ⟨pre, post, hold, hvalues⟩ := Dict.values_insert_split next.toJson hfind
    refine ⟨pre.filterMap readTask?, post.filterMap readTask?, ?_, ?_⟩
    · show state.tasks.values.filterMap readTask? = _
      rw [hold, List.filterMap_append,
        List.filterMap_cons_some (read_task_eq_some_iff.2 hread)]
    · show (state.tasks.insert next.id.key next.toJson).values.filterMap readTask? = _
      rw [hid, hvalues, List.filterMap_append,
        List.filterMap_cons_some (read_task_eq_some_iff.2 hnew)]

/-- Writing the next state of a task that was just read succeeds and replaces that task alone. -/
theorem put_of_get {s : TaskStore} {id : TaskId} {t next : Task} (hs : s.Sound)
    (hget : s.get id = .ok t) (hid : next.id = t.id) (hversion : next.version = t.version)
    (hkeeps : s.Keeps next) :
    ∃ s', s.put next = .ok (s', next.bump) ∧ s'.Sound ∧ s.Replaces t next.bump s' := by
  have hself := get_id_of_get hs hget
  cases s with
  | memory tasks =>
      have hfind : tasks.find? t.id = some t := get_memory_ok_iff.1 hself
      have hlookup (id : TaskId) : (tasks.insert next.id next.bump).find? id =
          if id = t.id then some next.bump else tasks.find? id := by
        rw [hid]
        exact Dict.find?_insert _ _ _ _
      refine ⟨.memory (tasks.insert next.id next.bump), ?_, ?_, ?_, ?_, ?_⟩
      · simp [TaskStore.put, hid, hfind, hversion]
      · intro id x hx
        rw [hlookup] at hx
        by_cases h : id = t.id
        · rw [if_pos h, Option.some.injEq] at hx
          rw [← hx, h]
          exact hid
        · rw [if_neg h] at hx
          exact hs id x hx
      · intro id h
        have hsame : t.id = id := hs id t (get_memory_ok_iff.1 h)
        rw [get_memory_ok_iff, hlookup, if_pos hsame.symm]
      · intro id h
        have hother : id ≠ t.id := fun hsame => h (hsame ▸ hself)
        simp only [TaskStore.get, hlookup, if_neg hother]
      · show ∃ pre post, tasks.values = _ ∧ (tasks.insert next.id next.bump).values = _
        rw [hid]
        exact Dict.values_insert_split next.bump hfind
  | durable state =>
      obtain ⟨record, hfind, hread⟩ := get_durable_ok_iff.1 hself
      have hbump : next.bump.id = t.id := hid
      obtain ⟨hsound, hreplaces⟩ := replaces_store hfind hread hs hbump (legible_bump hkeeps)
      refine ⟨.durable (state.store next.bump), ?_, hsound, hreplaces⟩
      simp [TaskStore.put, StateStore.putTask, StateStore.readRecord, hid, hfind, hread, hversion,
        Except.mapError, bind, Except.bind, pure, Except.pure]

/-- A put to a database is a put of its records. -/
theorem put_durable {state : StateStore} {s' : TaskStore} {t stored : Task}
    (h : (durable state).put t = .ok (s', stored)) :
    ∃ state', state.putTask t = .ok (state', stored) ∧ s' = .durable state' := by
  unfold TaskStore.put at h
  dsimp only at h
  split at h
  · rename_i state' other hput
    cases h
    exact ⟨state', hput, rfl⟩
  · exact nomatch h

/-- A store after a task was created. What can be read of the new task has nothing happened to
it. -/
structure Adds (s s' : TaskStore) : Prop where
  found : ∀ id t, s.get id = .ok t → s'.get id = .ok t
  split : ∃ pre added post, s.tasks = pre ++ post ∧ s'.tasks = pre ++ added ++ post ∧
    ∀ t ∈ added, t.status = .initial

/-- What only tasks have that something has happened to is the same after a task was created. -/
theorem Adds.flatMap_eq {α : Type} {s s' : TaskStore} (h : s.Adds s') {g : Task → List α}
    (hg : ∀ t : Task, t.status = .initial → g t = []) : s'.tasks.flatMap g = s.tasks.flatMap g := by
  obtain ⟨pre, added, post, hold, hnew, hinitial⟩ := h.split
  have hnone : added.flatMap g = [] := by
    rw [List.flatMap_eq_nil_iff]
    exact fun t ht => hg t (hinitial t ht)
  rw [hold, hnew, List.flatMap_append, List.flatMap_append, List.flatMap_append, hnone,
    List.append_nil]

/-- The tasks after one was created are those before, and tasks that nothing has happened to. -/
theorem Adds.mem_tasks {s s' : TaskStore} (h : s.Adds s') {t : Task} :
    (t ∈ s.tasks → t ∈ s'.tasks) ∧ (t ∈ s'.tasks → t ∈ s.tasks ∨ t.status = .initial) := by
  obtain ⟨pre, added, post, hold, hnew, hinitial⟩ := h.split
  rw [hold, hnew]
  simp only [List.mem_append]
  refine ⟨fun ht => ?_, fun ht => ?_⟩
  · obtain hpre | hpost := ht
    · exact .inl (.inl hpre)
    · exact .inr hpost
  · obtain (hpre | hadded) | hpost := ht
    · exact .inl (.inl hpre)
    · exact .inr (hinitial t hadded)
    · exact .inl (.inr hpost)

/-- A record of a task that nothing has happened to is read as such a task, or not at all. -/
theorem initial_of_read {t x : Task} (hinitial : t.status = .initial)
    (h : ReadsAs Task.toJson Task.decode t x) : x.status = .initial := by
  obtain ⟨-, -, hstatus, -⟩ := task_reads_iff.1 h
  rw [hinitial] at hstatus
  have hself := status_reads_self_iff.2 legible_initial
  exact Except.ok.inj (hstatus.symm.trans hself)

/-- The record of a task is read under the id of the task. -/
theorem id_eq_of_reads {t x : Task} (h : ReadsAs Task.toJson Task.decode t x) : x.id = t.id := by
  obtain ⟨hid, -⟩ := task_reads_iff.1 h
  obtain ⟨hspace, hname⟩ := id_reads_iff.1 hid
  cases ht : t.id
  cases hx : x.id
  simp_all

/-- A new task in memory is added to the others. -/
theorem insert_memory {tasks : Dict TaskId Task} {t : Task} (hs : (memory tasks).Sound)
    (hnew : tasks.find? t.id = none) (hinitial : t.status = .initial) :
    (memory (tasks.insert t.id { t with version := 1 })).Sound ∧
      (memory tasks).Adds (memory (tasks.insert t.id { t with version := 1 })) := by
  have hlookup (id : TaskId) : (tasks.insert t.id { t with version := 1 }).find? id =
      if id = t.id then some { t with version := 1 } else tasks.find? id :=
    Dict.find?_insert _ _ _ _
  refine ⟨?_, ?_, ?_⟩
  · intro id x hx
    rw [hlookup] at hx
    by_cases h : id = t.id
    · rw [if_pos h, Option.some.injEq] at hx
      rw [← hx, h]
    · rw [if_neg h] at hx
      exact hs id x hx
  · intro id x hx
    rw [get_memory_ok_iff] at hx ⊢
    have hother : id ≠ t.id := fun h => by simp [h, hnew] at hx
    rw [hlookup, if_neg hother]
    exact hx
  · obtain ⟨pre, post, hold, hvalues⟩ := Dict.values_insert_new { t with version := 1 } hnew
    refine ⟨pre, [{ t with version := 1 }], post, hold, ?_, ?_⟩
    · rw [List.append_assoc]
      exact hvalues
    · simpa using hinitial

/-- A new task in a database is added to the others. -/
theorem insert_durable {state : StateStore} {t : Task} (hs : (durable state).Sound)
    (hnew : state.tasks.find? t.id.key = none) (hinitial : t.status = .initial) :
    (durable (state.store t)).Sound ∧ (durable state).Adds (durable (state.store t)) := by
  have hlookup (key : String) : (state.store t).tasks.find? key =
      if key = t.id.key then some t.toJson else state.tasks.find? key :=
    Dict.find?_insert _ _ _ _
  refine ⟨?_, ?_, ?_⟩
  · intro key record x hrecord hx
    rw [hlookup] at hrecord
    by_cases hkey : key = t.id.key
    · rw [if_pos hkey] at hrecord
      cases hrecord
      exact ⟨by rw [hkey, id_eq_of_reads hx], task_reads_self_iff.1 (task_settles hx)⟩
    · rw [if_neg hkey] at hrecord
      exact hs _ _ _ hrecord hx
  · intro id x hx
    obtain ⟨record, hfind, hread⟩ := get_durable_ok_iff.1 hx
    have hother : id.key ≠ t.id.key := fun h => by simp [h, hnew] at hfind
    rw [get_durable_ok_iff]
    exact ⟨record, by rw [hlookup, if_neg hother, hfind], hread⟩
  · obtain ⟨pre, post, hold, hvalues⟩ := Dict.values_insert_new t.toJson hnew
    refine ⟨pre.filterMap readTask?, (readTask? t.toJson).toList, post.filterMap readTask?, ?_, ?_,
      ?_⟩
    · show state.tasks.values.filterMap readTask? = _
      rw [hold, List.filterMap_append]
    · show (state.tasks.insert t.id.key t.toJson).values.filterMap readTask? = _
      rw [hvalues, List.filterMap_append, List.append_assoc]
      -- The new record may be one that cannot be read, and then no task is added.
      cases hread : readTask? t.toJson with
      | none => rw [List.filterMap_cons_none hread, Option.toList_none, List.nil_append]
      | some x => rw [List.filterMap_cons_some hread, Option.toList_some, List.singleton_append]
    · intro x hx
      have hread := read_task_eq_some_iff.1 (Option.mem_toList.1 hx)
      exact initial_of_read hinitial hread

/-- Creating a task that nothing has happened to, under an id that has none, adds it and changes no
other. -/
theorem insert_spec {s s' : TaskStore} {t stored : Task} {key : String} (hs : s.Sound)
    (hinsert : s.insert t = .ok (s', stored)) (hnew : s.get t.id = .error (.notFound key))
    (hinitial : t.status = .initial) : s'.Sound ∧ s.Adds s' := by
  cases s with
  | memory tasks =>
      have hfind : tasks.find? t.id = none := by
        cases hfind : tasks.find? t.id with
        | none => rfl
        | some x => exact nomatch hnew.symm.trans (get_memory_ok_iff.2 hfind)
      cases hinsert
      exact insert_memory hs hfind hinitial
  | durable state =>
      have hfind : state.tasks.find? t.id.key = none := by
        cases hfind : state.tasks.find? t.id.key with
        | none => rfl
        | some record =>
            simp [TaskStore.insert, StateStore.createTask, Dict.contains, hfind, Except.map] at hinsert
      simp only [TaskStore.insert, StateStore.createTask, Dict.contains, hfind,
        Option.isSome_none, Bool.false_eq_true, if_false, Except.map, Except.ok.injEq,
        Prod.mk.injEq] at hinsert
      rw [← hinsert.1]
      exact insert_durable (t := { t with version := 1 }) hs hfind hinitial

/-- Two stores with the same records of tasks. -/
def SameTasks : TaskStore → TaskStore → Prop
  | .memory tasks, .memory tasks' => tasks = tasks'
  | .durable state, .durable state' => state.tasks = state'.tasks
  | _, _ => False

/-- A store has the tasks that it has. -/
theorem same_tasks_refl (s : TaskStore) : s.SameTasks s := by
  cases s with
  | memory tasks => rfl
  | durable state => rfl

/-- What is read, found and sound in a store depends on its records of tasks alone. -/
theorem same_tasks_spec {s s' : TaskStore} (h : s.SameTasks s') :
    s'.tasks = s.tasks ∧ (∀ id, s'.get id = s.get id) ∧ (s.Sound → s'.Sound) := by
  cases s with
  | memory tasks =>
      cases s' with
      | memory tasks' =>
          cases (show tasks = tasks' from h)
          exact ⟨rfl, fun _ => rfl, id⟩
      | durable state' => exact h.elim
  | durable state =>
      cases s' with
      | memory tasks' => exact h.elim
      | durable state' =>
          have hsame : state.tasks = state'.tasks := h
          refine ⟨?_, fun id => get_durable_congr (by rw [hsame]), fun hs => ?_⟩
          · show state'.tasks.values.filterMap readTask? = _
            rw [← hsame]
            rfl
          · intro key record t hrecord
            exact hs key record t (by rw [hsame, hrecord])

/-- A store with the same tasks is one to which none was added. -/
theorem SameTasks.adds {s s' : TaskStore} (h : s.SameTasks s') : s.Adds s' := by
  obtain ⟨htasks, hget, -⟩ := same_tasks_spec h
  refine ⟨fun id t ht => (hget id).trans ht, s.tasks, [], [], ?_, ?_, fun t ht => nomatch ht⟩
  · exact (List.append_nil _).symm
  · rw [List.append_nil, List.append_nil, htasks]

/-- Where every record can be read, each task is listed once, and as it is stored. -/
theorem list_tasks_spec {state : StateStore} {l : List Task} (hs : (durable state).Sound)
    (h : state.listTasks = .ok l) : l.Nodup ∧ ∀ t ∈ l, (durable state).get t.id = .ok t := by
  unfold StateStore.listTasks Dict.values at h
  rw [map_m_ok_iff, List.forall₂_map_left_iff] at h
  have hread : List.Forall₂
      (fun e t => t.id.key = e.1 ∧ (durable state).get t.id = .ok t) state.tasks.entries l := by
    refine List.Forall₂.imp ?_
      ((List.forall₂_and_left _ _).2 ⟨fun e (he : e ∈ state.tasks.entries) => he, h⟩)
    rintro e t ⟨he, hread⟩
    have hfind := Dict.mem_entries_iff.1 he
    have hdecode : Task.decode .json e.2 = .ok t := by
      unfold StateStore.readRecord at hread
      cases hdecode : Task.decode .json e.2 with
      | error _ =>
          rw [hdecode] at hread
          exact nomatch hread
      | ok x =>
          rw [hdecode] at hread
          exact congrArg _ (Except.ok.inj hread)
    have hkey := (hs _ _ _ hfind hdecode).1
    exact ⟨hkey, get_durable_ok_iff.2 ⟨e.2, hkey ▸ hfind, hdecode⟩⟩
  constructor
  · have hkeys : List.Forall₂ Eq (state.tasks.entries.map (·.1)) (l.map fun t => t.id.key) := by
      rw [List.forall₂_map_left_iff, List.forall₂_map_right_iff]
      exact hread.imp fun _ _ h => h.1.symm
    rw [List.forall₂_eq_eq_eq] at hkeys
    have hnodup : (l.map fun t => t.id.key).Nodup := hkeys ▸ Dict.nodup_keys state.tasks
    exact hnodup.of_map
  · have hflip : List.Forall₂
        (fun t (_ : String × Json) => (durable state).get t.id = .ok t ∧ True) l
        state.tasks.entries :=
      (hread.imp fun _ _ h => ⟨h.2, trivial⟩).flip
    exact ((List.forall₂_and_left _ _).1 hflip).1

end TaskStore

namespace StateStore

/-- A heartbeat leaves the tasks alone. -/
theorem heartbeat_tasks {s s' : StateStore} {name : String} {now : Nat} {known : Bool}
    (h : s.heartbeat name now = .ok (s', known)) : s'.tasks = s.tasks := by
  obtain ⟨r, -, hr⟩ := bind_ok_iff.1 h
  cases r with
  | none =>
      cases hr
      rfl
  | some record =>
      cases hr
      rfl

/-- Heartbeats leave the tasks alone, however many of them are noted. -/
theorem heartbeat_all_tasks (s : StateStore) (now : Nat) (names : List String) :
    (s.heartbeatAll now names).1.tasks = s.tasks := by
  induction names generalizing s with
  | nil => rfl
  | cons name rest ih =>
      unfold heartbeatAll
      cases hbeat : s.heartbeat name now with
      | error e => rfl
      | ok r =>
          obtain ⟨s', known⟩ := r
          exact (ih s').trans (heartbeat_tasks hbeat)

/-- Listing the agents leaves the tasks alone. -/
theorem observe_agents_tasks (s : StateStore) (limit now staleAfter : Nat) (hosted : List String) :
    (s.observeAgents limit now staleAfter hosted).1.tasks = s.tasks := by
  have hbeats := s.heartbeat_all_tasks now hosted
  unfold observeAgents
  split
  · rename_i s' e hnoted
    rwa [hnoted] at hbeats
  · rename_i s' hnoted
    rwa [hnoted] at hbeats

end StateStore

end TaskFleet
