import TaskFleet.Proofs.Store.Tasks
import TaskFleet.Proofs.Task.Received

/-!
# Reading back what was stored

A task that is received and stored is found and listed again exactly if its durations can be
counted in milliseconds: `read_back_of_received`. A longer one is accepted all the same, and then
neither the task nor any listing of tasks can be read.
-/

namespace TaskFleet

namespace StateStore

variable {s s' : StateStore} {t stored : Task}

/-- A task is created exactly where there is none under its key, as version 1. -/
theorem create_task_ok_iff :
    s.createTask t = .ok (s', stored) ↔
      s.tasks.find? t.id.key = none ∧ stored = { t with version := 1 } ∧ s' = s.store stored := by
  unfold createTask Dict.contains
  cases s.tasks.find? t.id.key with
  | none =>
      simp only [Option.isSome_none, Bool.false_eq_true, if_false, Except.ok.injEq, Prod.mk.injEq,
        true_and]
      constructor
      · rintro ⟨rfl, rfl⟩
        exact ⟨rfl, rfl⟩
      · rintro ⟨rfl, rfl⟩
        exact ⟨rfl, rfl⟩
  | some record => simp

theorem read_record_ok_iff {α : Type} {decode : Decoder α} {record : Json} {a : α} :
    readRecord decode record = .ok a ↔ decode .json record = .ok a :=
  map_error_ok_iff

/-- A task is written exactly over its latest version. -/
theorem put_task_ok_iff :
    s.putTask t = .ok (s', stored) ↔
      ∃ record current, s.tasks.find? t.id.key = some record ∧
        Task.decode .json record = .ok current ∧ current.version = t.version ∧
        stored = t.bump ∧ s' = s.store stored := by
  unfold putTask
  cases s.tasks.find? t.id.key with
  | none => simp [throw, throwThe, MonadExceptOf.throw]
  | some record =>
      simp only [bind_ok_iff, read_record_ok_iff, Option.some.injEq]
      constructor
      · rintro ⟨current, hread, hrest⟩
        split at hrest
        · exact nomatch hrest
        · cases hrest
          exact ⟨record, current, rfl, hread, by_contra ‹_›, rfl, rfl⟩
      · rintro ⟨_, current, rfl, hread, hversion, rfl, rfl⟩
        exact ⟨current, hread, by simp [hversion]; rfl⟩

/-- Two lists are gone through successfully, one after the other, exactly when each of them is. -/
theorem map_m_append_ok_iff {α β ε : Type} {f : α → Except ε β} {l m : List α} {r : List β} :
    (l ++ m).mapM f = .ok r ↔
      ∃ r₁ r₂, l.mapM f = .ok r₁ ∧ m.mapM f = .ok r₂ ∧ r = r₁ ++ r₂ := by
  simp only [List.mapM_append, bind_ok_iff]
  constructor
  · rintro ⟨r₁, h₁, r₂, h₂, hr⟩
    exact ⟨r₁, r₂, h₁, h₂, (Except.ok.inj hr).symm⟩
  · rintro ⟨r₁, r₂, h₁, h₂, rfl⟩
    exact ⟨r₁, h₁, r₂, h₂, rfl⟩

theorem map_m_cons_ok_iff {α β ε : Type} {f : α → Except ε β} {a : α} {l : List α} {r : List β} :
    (a :: l).mapM f = .ok r ↔ ∃ b r', f a = .ok b ∧ l.mapM f = .ok r' ∧ r = b :: r' := by
  simp only [List.mapM_cons, bind_ok_iff]
  constructor
  · rintro ⟨b, hb, r', hr', hr⟩
    exact ⟨b, r', hb, hr', (Except.ok.inj hr).symm⟩
  · rintro ⟨b, r', hb, hr', rfl⟩
    exact ⟨b, hb, r', hr', rfl⟩

/-- What writing a task's record makes of the records: it comes in the place of the one that the
task had, if any, and all others stay where they are. -/
theorem values_store (s : StateStore) (t : Task) :
    ∃ pre post, s.tasks.values = pre ++ (s.tasks.find? t.id.key).toList ++ post ∧
      (s.store t).tasks.values = pre ++ t.toJson :: post := by
  cases hfind : s.tasks.find? t.id.key with
  | none =>
      obtain ⟨pre, post, hold, hnew⟩ := Dict.values_insert_new t.toJson hfind
      exact ⟨pre, post, by simpa using hold, hnew⟩
  | some record =>
      obtain ⟨pre, post, hold, hnew⟩ := Dict.values_insert_split t.toJson hfind
      exact ⟨pre, post, by simpa using hold, hnew⟩

theorem get_task_store (s : StateStore) (t : Task) :
    (s.store t).getTask t.id = (readRecord Task.decode t.toJson).map some := by
  simp [getTask, store]

/-- The record of a task, if there is one, is listed as the task that is found. -/
theorem get_task_of_listed {id : TaskId} {l : List Task}
    (h : (s.tasks.find? id.key).toList.mapM (readRecord Task.decode) = .ok l) :
    ∃ old, s.getTask id = .ok old ∧ l = old.toList := by
  unfold getTask
  cases hfind : s.tasks.find? id.key with
  | none =>
      rw [hfind] at h
      cases h
      exact ⟨none, rfl, rfl⟩
  | some record =>
      rw [hfind, Option.toList_some, map_m_cons_ok_iff] at h
      obtain ⟨t, _, ht, hnil, rfl⟩ := h
      cases hnil
      exact ⟨some t, map_eq_ok_iff.2 ⟨t, ht, rfl⟩, rfl⟩

/-- A task that comes back as it was is listed in the place of what was stored under its key, and
the listing of the others goes on to succeed. -/
theorem list_tasks_store {others : List Task} (hlist : s.listTasks = .ok others)
    (hread : Task.decode .json t.toJson = .ok t) :
    ∃ pre old post, s.getTask t.id = .ok old ∧ others = pre ++ old.toList ++ post ∧
      (s.store t).listTasks = .ok (pre ++ t :: post) := by
  obtain ⟨before, after, hold, hnew⟩ := values_store s t
  unfold listTasks at hlist ⊢
  rw [hold, map_m_append_ok_iff] at hlist
  obtain ⟨_, post, hfront, hpost, rfl⟩ := hlist
  obtain ⟨pre, mid, hpre, hmid, rfl⟩ := map_m_append_ok_iff.1 hfront
  obtain ⟨old, hold, rfl⟩ := get_task_of_listed hmid
  refine ⟨pre, old, post, hold, rfl, ?_⟩
  rw [hnew, map_m_append_ok_iff]
  exact ⟨pre, t :: post, hpre,
    map_m_cons_ok_iff.2 ⟨t, post, read_record_ok_iff.2 hread, hpost, rfl⟩, rfl⟩

/-- One record that cannot be read fails every listing. -/
theorem list_tasks_store_ne_ok (hread : ∀ x, Task.decode .json t.toJson ≠ .ok x) (l : List Task) :
    (s.store t).listTasks ≠ .ok l := by
  obtain ⟨pre, post, -, hnew⟩ := values_store s t
  intro hlist
  unfold listTasks at hlist
  rw [hnew, map_m_append_ok_iff] at hlist
  obtain ⟨_, _, -, hrest, -⟩ := hlist
  obtain ⟨x, _, hx, -, -⟩ := map_m_cons_ok_iff.1 hrest
  exact hread x (read_record_ok_iff.1 hx)

/-- What a write stores is the task in a version of its own. -/
theorem stored_of_write (h : s.createTask t = .ok (s', stored) ∨ s.putTask t = .ok (s', stored)) :
    s' = s.store stored ∧ stored.id = t.id ∧ stored.spec = t.spec ∧
      (t.Legible → stored.Legible) := by
  obtain hcreate | hput := h
  · obtain ⟨-, rfl, rfl⟩ := create_task_ok_iff.1 hcreate
    exact ⟨rfl, rfl, rfl, fun ht =>
      ⟨ht.spec, ht.status, show 1 ≤ Text.max64 by decide, ht.createdAt⟩⟩
  · obtain ⟨_, _, -, -, -, rfl, rfl⟩ := put_task_ok_iff.1 hput
    exact ⟨rfl, rfl, rfl, TaskStore.legible_bump⟩

/-- A database as writing leaves it: what stands under a key is the record of a task of that key. -/
def Written (s : StateStore) : Prop :=
  ∀ key record, s.tasks.find? key = some record → ∃ t : Task, t.id.key = key ∧ record = t.toJson

theorem written_empty : empty.Written :=
  fun _ _ h => nomatch h

theorem Written.store (hs : s.Written) (t : Task) : (s.store t).Written := by
  intro key record hfind
  rw [StateStore.store, Dict.find?_insert] at hfind
  by_cases hkey : key = t.id.key
  · rw [if_pos hkey, Option.some.injEq] at hfind
    exact ⟨t, hkey.symm, hfind.symm⟩
  · rw [if_neg hkey] at hfind
    exact hs key record hfind

/-- Whatever the database takes leaves it so. -/
theorem Written.of_write (hs : s.Written)
    (h : s.createTask t = .ok (s', stored) ∨ s.putTask t = .ok (s', stored)) : s'.Written := by
  obtain ⟨rfl, -⟩ := stored_of_write h
  exact hs.store stored

/-- What can be read of a database as writing leaves it stands under its own key and comes back as
it was. -/
theorem Written.sound (hs : s.Written) : (TaskStore.durable s).Sound := by
  intro key record x hfind hread
  obtain ⟨t, rfl, rfl⟩ := hs key record hfind
  exact ⟨by rw [TaskStore.id_eq_of_reads hread], task_reads_self_iff.1 (task_settles hread)⟩

theorem ok_or_error {ε α : Type} {x : Except ε α} (h : ∀ a, x ≠ .ok a) : ∃ e, x = .error e := by
  cases x with
  | error e => exact ⟨e, rfl⟩
  | ok a => exact absurd rfl (h a)

/-- A task that was received and stored is found exactly if the milliseconds of its durations can be
counted. Then it is listed in the place of what was stored under its key, and among the tasks whose
life is not over if its own is not; the listing of the others succeeds as it did before. Otherwise
neither the task nor any listing can be read from then on. -/
theorem read_back_of_received {s s' : StateStore} {t stored : Task} (ht : t.Received)
    (h : s.createTask t = .ok (s', stored) ∨ s.putTask t = .ok (s', stored)) :
    (s'.getTask t.id = .ok (some stored) ↔ t.spec.Countable) ∧
    (t.spec.Countable → ∀ others, s.listTasks = .ok others →
      ∃ pre old post active, s.getTask t.id = .ok old ∧ others = pre ++ old.toList ++ post ∧
        s'.listTasks = .ok (pre ++ stored :: post) ∧ s'.listActiveTasks = .ok active ∧
        ∀ x, x ∈ active ↔ x ∈ pre ++ stored :: post ∧ x.isTerminal = false) ∧
    (¬ t.spec.Countable →
      (∃ e, s'.getTask t.id = .error e) ∧ (∃ e, s'.listTasks = .error e) ∧
        ∃ e, s'.listActiveTasks = .error e) := by
  obtain ⟨rfl, hid, hspec, hlegible⟩ := stored_of_write h
  rw [← hid, get_task_store]
  have hread (hcountable : t.spec.Countable) : Task.decode .json stored.toJson = .ok stored :=
    task_reads_self_iff.2 (hlegible (ht.legible hcountable))
  have hcountable {x : Task} (hx : Task.decode .json stored.toJson = .ok x) : t.spec.Countable :=
    hspec ▸ countable_of_reads hx
  refine ⟨⟨fun hget => ?_, fun hc => ?_⟩, fun hc others hlist => ?_, fun hc => ?_⟩
  · obtain ⟨x, hx, -⟩ := map_eq_ok_iff.1 hget
    exact hcountable (read_record_ok_iff.1 hx)
  · exact map_eq_ok_iff.2 ⟨stored, read_record_ok_iff.2 (hread hc), rfl⟩
  · obtain ⟨pre, old, post, hold, hothers, hlisted⟩ := list_tasks_store hlist (hread hc)
    refine ⟨pre, old, post, (pre ++ stored :: post).filter fun t => !t.isTerminal, hold, hothers,
      hlisted, map_eq_ok_iff.2 ⟨_, hlisted, rfl⟩, fun x => ?_⟩
    rw [List.mem_filter, Bool.not_eq_true']
  · have hunread (x : Task) : Task.decode .json stored.toJson ≠ .ok x := fun hx => hc (hcountable hx)
    refine ⟨ok_or_error fun x hx => ?_, ok_or_error (list_tasks_store_ne_ok hunread),
      ok_or_error fun l hl => ?_⟩
    · obtain ⟨x, hx, -⟩ := map_eq_ok_iff.1 hx
      exact hunread x (read_record_ok_iff.1 hx)
    · obtain ⟨all, hall, -⟩ := map_eq_ok_iff.1 hl
      exact list_tasks_store_ne_ok hunread all hall

/-- A task whose timeout is some seconds. -/
def lasting (name : String) (secs : Nat) : Task :=
  .new ⟨"default", name⟩
    { (default : TaskSpec) with image := "busybox", timeout := .ofSecs secs } 0

/-- A document of such a task, with the seconds as a bare number. -/
def lastingDocument (name : String) (secs : Nat) : Json :=
  .obj [("id", .arr [.str "default", .str name]),
    ("spec", .obj [("image_ref", .str "busybox"), ("timeout", .int secs)])]

/-- A database with one task. -/
def oneTask : StateStore := empty.store (lasting "first" 60)

theorem read_back_of_received_lasting :
    (lasting "t1" 90).Received ∧ ∃ s' stored,
      oneTask.createTask (lasting "t1" 90) = .ok (s', stored) ∧
        s'.getTask (lasting "t1" 90).id = .ok (some stored) ∧
        ∃ listed active, s'.listTasks = .ok listed ∧ s'.listActiveTasks = .ok active ∧
          stored ∈ listed ∧ stored ∈ active := by
  have hdocument : Task.decode .json (lastingDocument "t1" 90) = .ok (lasting "t1" 90) := by
    decide +kernel
  have hreceived : (lasting "t1" 90).Received := .document hdocument
  have hcreate := create_task_ok_iff.2
    ⟨(by decide +kernel : oneTask.tasks.find? (lasting "t1" 90).id.key = none), rfl, rfl⟩
  have hcountable : (lasting "t1" 90).spec.Countable := by decide +kernel
  have hbefore : oneTask.listTasks = .ok [lasting "first" 60] := by decide +kernel
  obtain ⟨hget, hlist, -⟩ := read_back_of_received hreceived (.inl hcreate)
  obtain ⟨pre, old, post, active, -, -, hlisted, hactive, hmem⟩ := hlist hcountable _ hbefore
  exact ⟨hreceived, _, _, hcreate, hget.2 hcountable, _, active, hlisted, hactive, by simp,
    (hmem _).2 ⟨by simp, rfl⟩⟩

/-- A timeout of as many seconds as a bare number can name is taken and stored. Then the task is
lost, and with it every listing, though the other task is still found. -/
theorem unreadable_after_lasting :
    let t := lasting "t1" 18446744073709551615
    let stored := { t with version := 1 }
    let e : StateError := .unreadable (.duration ⟨"18446744073709551615s"⟩)
    Task.decode .json (lastingDocument "t1" 18446744073709551615) = .ok t ∧
      oneTask.createTask t = .ok (oneTask.store stored, stored) ∧
      (oneTask.store stored).getTask t.id = .error e ∧
      oneTask.listTasks = .ok [lasting "first" 60] ∧
      (oneTask.store stored).listTasks = .error e ∧
      (oneTask.store stored).listActiveTasks = .error e ∧
      (oneTask.store stored).getTask ⟨"default", "first"⟩ = .ok (some (lasting "first" 60)) := by
  refine ⟨by decide +kernel, create_task_ok_iff.2 ⟨by decide +kernel, rfl, rfl⟩, ?_⟩
  exact ⟨by decide +kernel, by decide +kernel, by decide +kernel, by decide +kernel,
    by decide +kernel⟩

end StateStore

end TaskFleet
