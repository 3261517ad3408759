import TaskFleet.Manifest
import TaskFleet.Proofs.Store.Mirrors
import TaskFleet.Proofs.Store.Readable

/-!
# The text of an id

Which tasks the text of an id names. A manifest is taken with slashes in its namespace and its name,
and the text is cut at the first slash, so two ids can have one text: exactly those where the
namespace of the one goes on past the slash of the other (`Straddles`). `keys_of_admitted` says of
the tasks that manifests yield when their texts are told apart, what a database does where they are
not, and which ids are found again by parsing, by resolving and by the check for a task that depends
on itself.
-/

namespace TaskFleet

open Text

namespace TaskId

/-- The namespace of an id goes on past a separator that ends the namespace of the other, and what
is between that separator and the next one begins the name of the other. -/
def Straddles (sep : Char) (id other : TaskId) : Prop :=
  ∃ part, id.space.toList = other.space.toList ++ sep :: part ∧
    other.name.toList = part ++ sep :: id.name.toList

theorem ext_chars {id other : TaskId} :
    id = other ↔ id.space.toList = other.space.toList ∧ id.name.toList = other.name.toList := by
  rw [String.toList_inj, String.toList_inj]
  constructor
  · rintro rfl
    exact ⟨rfl, rfl⟩
  · rintro ⟨hspace, hname⟩
    cases id
    cases other
    simp_all

/-- Two ids with a separator between their parts make the same text exactly if they are the same or
one of them straddles the other. -/
theorem joined_eq_iff (sep : Char) {id other : TaskId} :
    id.space.toList ++ sep :: id.name.toList = other.space.toList ++ sep :: other.name.toList ↔
      id = other ∨ id.Straddles sep other ∨ other.Straddles sep id := by
  rw [append_cons_eq_iff, ext_chars]
  rfl

theorem to_list_key (id : TaskId) :
    id.key.toList = id.space.toList ++ '/' :: id.name.toList := by
  simp [key]

theorem key_eq_iff {id other : TaskId} :
    id.key = other.key ↔ id = other ∨ id.Straddles '/' other ∨ other.Straddles '/' id := by
  rw [← joined_eq_iff, ← to_list_key, ← to_list_key, String.toList_inj]

/-- The text of an id is cut where it was joined exactly if the id is plain. -/
theorem cut_key_iff {id : TaskId} : cut? id.key = some id ↔ id.Plain := by
  refine ⟨fun hcut => ?_, cut_key⟩
  obtain ⟨parts, hsplit, hid⟩ := Option.map_eq_some_iff.1 hcut
  have hspace : id.space.toList = parts.1 := by
    rw [← hid, String.toList_ofList]
  unfold Plain
  rw [hspace]
  exact not_mem_of_splitOnce hsplit

/-- The text of an id is never without a cut. -/
theorem resolve_key_iff {id other : TaskId} : other.resolve id.key = id ↔ id.Plain := by
  rw [← cut_key_iff]
  unfold resolve
  cases hcut : cut? id.key with
  | some found => simp
  | none =>
      have hsome : cut? id.key ≠ none := by
        unfold cut?
        rw [Ne, Option.map_eq_none_iff, splitOnce_eq_none_iff, to_list_key]
        simp
      exact absurd hcut hsome

/-- What is parsed is the text of an id with two parts that are not empty and hold no slash. -/
theorem parse_ok_iff {s : String} {id : TaskId} :
    parse s = .ok id ↔
      s = id.key ∧ id.space ≠ "" ∧ id.name ≠ "" ∧ id.Plain ∧ '/' ∉ id.name.toList := by
  constructor
  · intro hparse
    unfold parse at hparse
    split at hparse
    · rename_i space name hsplit
      split at hparse
      · exact nomatch hparse
      · rename_i hparts
        obtain ⟨rfl⟩ := Except.ok.inj hparse
        have hspace := not_mem_of_splitOnce hsplit
        have htext := append_of_splitOnce hsplit
        refine ⟨String.toList_inj.1 ?_, ?_⟩
        · rw [htext, to_list_key]
          simp
        · simp_all [Plain]
    · exact nomatch hparse
  · rintro ⟨rfl, hspace, hname, hplain, hslash⟩
    unfold parse
    rw [to_list_key, splitOnce_append hplain]
    simp [hspace, hname, hslash]

end TaskId

/-- A check of an element among others that pass decides the check of all. -/
theorem for_m_insert {α ε : Type} {f : α → Except ε Unit} {before after : List α}
    (h : (before ++ after).forM f = .ok ()) (a : α) : (before ++ a :: after).forM f = f a := by
  simp only [List.forM_eq_forM, List.forM_append, List.forM_cons, bind_ok_iff] at h ⊢
  obtain ⟨_, hbefore, hafter⟩ := h
  rw [hbefore, hafter]
  cases f a with
  | error e => rfl
  | ok u => rfl

namespace Task

/-- A task that can be run is judged by its dependencies alone if it is given others. -/
theorem validate_of_dependencies {t : Task} (h : t.validate = .ok ())
    (dependencies : List Dependency) :
    { t with spec := { t.spec with dependencies } }.validate =
      dependencies.forM (checkDependency t.id) := by
  simp only [validate] at h ⊢
  split at h
  · exact nomatch h
  · rename_i hname
    split at h
    · exact nomatch h
    · rename_i himage
      obtain ⟨_, hlimits, h⟩ := bind_ok_iff.1 h
      split at h
      · exact nomatch h
      · rename_i hretry
        rw [if_neg hname, if_neg himage, hlimits]
        exact if_neg hretry

theorem name_ne_empty {t : Task} (h : t.validate = .ok ()) : t.id.name ≠ "" := by
  intro hempty
  simp only [validate] at h
  rw [if_pos (by rw [hempty]; rfl)] at h
  exact nomatch h

/-- A dependency on a task's own text is refused exactly if its id is plain. -/
theorem check_own_key (id : TaskId) (phase : Phase) :
    checkDependency id ⟨id.key, phase⟩ = if id.Plain then .error .selfDependency else .ok () := by
  have hslash : isBlankText id.key = false := by
    simp only [isBlankText, TaskId.to_list_key, List.all_append, List.all_cons]
    simp [show isBlank '/' = false by decide]
  unfold checkDependency
  simp only [hslash, TaskId.resolve_key_iff, Bool.false_eq_true, if_false]
  split
  · rfl
  · rfl

end Task

/-- A manifest yields the task that it describes, if that task can be run. -/
theorem Manifest.to_task_ok_iff {m : Manifest} {now : Nat} {t : Task} :
    m.toTask now = .ok t ↔ t = .new ⟨m.space, m.name⟩ m.spec now ∧ t.validate = .ok () := by
  unfold toTask
  dsimp only
  cases hvalid : (Task.new ⟨m.space, m.name⟩ m.spec now).validate with
  | error e =>
      simp only [reduceCtorEq, false_iff, not_and]
      rintro rfl
      simp [hvalid]
  | ok u =>
      simp only [Except.ok.injEq]
      constructor
      · rintro rfl
        exact ⟨rfl, hvalid⟩
      · rintro ⟨rfl, -⟩
        rfl

theorem Manifest.to_task_error_iff {m : Manifest} {now : Nat} {id : TaskId} {e : ValidationError} :
    m.toTask now = .error (.invalid id e) ↔
      id = ⟨m.space, m.name⟩ ∧ (Task.new ⟨m.space, m.name⟩ m.spec now).validate = .error e := by
  unfold toTask
  dsimp only
  cases (Task.new ⟨m.space, m.name⟩ m.spec now).validate with
  | error e' => simp [Task.new, eq_comm]
  | ok u => simp

/-- A manifest that is given a dependency of its task on the task itself, by the text of its id, is
refused for it exactly if the id is plain. -/
theorem Manifest.own_key_refused_iff {m : Manifest} {now : Nat} {t : Task}
    (ht : m.toTask now = .ok t) {before after : List Dependency}
    (hdeps : m.spec.dependencies = before ++ after) (phase : Phase) :
    Manifest.toTask { m with spec := { m.spec with
        dependencies := before ++ ⟨t.id.key, phase⟩ :: after } } now =
      .error (.invalid t.id .selfDependency) ↔ t.id.Plain := by
  obtain ⟨rfl, hvalid⟩ := to_task_ok_iff.1 ht
  have hpass : m.spec.dependencies.forM (Task.checkDependency ⟨m.space, m.name⟩) = .ok () :=
    (Task.validate_of_dependencies hvalid _).symm.trans hvalid
  rw [hdeps] at hpass
  have hcheck := Task.validate_of_dependencies hvalid
    (before ++ ⟨TaskId.key ⟨m.space, m.name⟩, phase⟩ :: after)
  rw [show (Task.new _ m.spec now).id = ⟨m.space, m.name⟩ from rfl, for_m_insert hpass,
    Task.check_own_key] at hcheck
  rw [to_task_error_iff]
  refine (and_iff_right rfl).trans ((Eq.congr_left hcheck).trans ?_)
  split
  · simpa
  · simpa

namespace StateStore

/-- A write of one task leaves the record of another as it is, and reading the one does not give
the other. -/
structure KeepsApart (s : StateStore) (t u : Task) : Prop where
  untouched : ∀ s' stored, s.createTask t = .ok (s', stored) ∨ s.putTask t = .ok (s', stored) →
    s'.tasks.find? u.id.key = s.tasks.find? u.id.key
  unreturned : ∀ x, s.getTask t.id = .ok (some x) → x.id ≠ u.id

/-- What is read under an id has its text. -/
theorem Written.key_of_get {s : StateStore} (hs : s.Written) {id : TaskId} {x : Task}
    (h : s.getTask id = .ok (some x)) : x.id.key = id.key := by
  unfold getTask at h
  split at h
  · exact nomatch h
  · rename_i record hfind
    obtain ⟨y, hread, hy⟩ := map_eq_ok_iff.1 h
    cases hy
    exact (hs.sound _ _ _ hfind (read_record_ok_iff.1 hread)).1

/-- Databases keep two tasks apart exactly if their texts differ. -/
theorem keeps_apart_iff {t u : Task} :
    (∀ s : StateStore, s.Written → s.KeepsApart t u) ↔ t.id.key ≠ u.id.key := by
  constructor
  · intro hall hkey
    have hcreate : empty.createTask t = .ok (_, _) :=
      create_task_ok_iff.2 ⟨Dict.find?_empty t.id.key, rfl, rfl⟩
    have hsame := (hall empty written_empty).untouched _ _ (.inl hcreate)
    simp [store, hkey, empty] at hsame
  · refine fun hkey s hs => ⟨fun s' stored hwrite => ?_, fun x hget hid => ?_⟩
    · obtain ⟨rfl, hid, -⟩ := stored_of_write hwrite
      rw [store, Dict.find?_insert, hid, if_neg (Ne.symm hkey)]
    · exact hkey (hs.key_of_get hget ▸ congrArg TaskId.key hid)

/-- When a task is written whose text another one shares, the other one cannot be created, and what
is read under its id is what was written. -/
theorem taken_of_key_eq {s s' : StateStore} {t u stored : Task} (hkey : t.id.key = u.id.key)
    (hwrite : s.createTask t = .ok (s', stored) ∨ s.putTask t = .ok (s', stored)) :
    s'.createTask u = .error (.alreadyExists u.id.key) ∧ s'.getTask u.id = s'.getTask t.id := by
  obtain ⟨rfl, hid, -⟩ := stored_of_write hwrite
  constructor
  · simp [createTask, Dict.contains, store, hid, hkey]
  · unfold getTask
    rw [hkey]

end StateStore

/-- What the text of an admitted task says of its id. It is the text of another id exactly where
one of the two straddles the other at a slash, and exactly then do databases mix the two tasks up:
the later one is refused, and the earlier one is read in its place. The text is parsed to the id
exactly if the namespace is not empty and no part holds a slash. It is resolved to the id, and
refused as a dependency of the task on itself, exactly if the namespace holds no slash. -/
theorem keys_of_admitted {m : Manifest} {now : Nat} {t : Task} (ht : m.toTask now = .ok t)
    (u : Task) :
    (t.id.key = u.id.key ↔
      t.id = u.id ∨ t.id.Straddles '/' u.id ∨ u.id.Straddles '/' t.id) ∧
    ((∀ s : StateStore, s.Written → s.KeepsApart t u) ↔ t.id.key ≠ u.id.key) ∧
    (t.id.key = u.id.key → ∀ (s s' : StateStore) (stored : Task),
      s.createTask t = .ok (s', stored) ∨ s.putTask t = .ok (s', stored) →
        s'.createTask u = .error (.alreadyExists u.id.key) ∧
          s'.getTask u.id = s'.getTask t.id) ∧
    (TaskId.parse t.id.key = .ok t.id ↔
      t.id.space ≠ "" ∧ t.id.Plain ∧ '/' ∉ t.id.name.toList) ∧
    ((∀ other : TaskId, other.resolve t.id.key = t.id) ↔ t.id.Plain) ∧
    ∀ before after phase, m.spec.dependencies = before ++ after →
      (Manifest.toTask { m with spec := { m.spec with
          dependencies := before ++ ⟨t.id.key, phase⟩ :: after } } now =
        .error (.invalid t.id .selfDependency) ↔ t.id.Plain) := by
  have hname := Task.name_ne_empty (Manifest.to_task_ok_iff.1 ht).2
  refine ⟨TaskId.key_eq_iff, StateStore.keeps_apart_iff,
    fun hkey _ _ _ => StateStore.taken_of_key_eq hkey, ?_, ?_,
    fun _ _ phase hdeps => Manifest.own_key_refused_iff ht hdeps phase⟩
  · rw [TaskId.parse_ok_iff]
    simp [hname]
  · exact ⟨fun hall => TaskId.resolve_key_iff.1 (hall default),
      fun hplain _ => TaskId.resolve_key_iff.2 hplain⟩

/-- A manifest that says no more than it has to. -/
def Manifest.minimal (space name : String) : Manifest :=
  ⟨space, name, { (default : TaskSpec) with image := "busybox" }⟩

theorem keys_of_admitted_plain :
    let m := Manifest.minimal "ml" "train"
    let t : Task := .new ⟨"ml", "train"⟩ m.spec 0
    let u : Task := .new ⟨"ml", "prep"⟩ m.spec 0
    m.toTask 0 = .ok t ∧ t.id.key ≠ u.id.key ∧ (∀ s : StateStore, s.Written → s.KeepsApart t u) ∧
      TaskId.parse t.id.key = .ok t.id ∧ (∀ other : TaskId, other.resolve t.id.key = t.id) ∧
      ∀ phase, Manifest.toTask
        { m with spec := { m.spec with dependencies := [⟨t.id.key, phase⟩] } } 0 =
          .error (.invalid t.id .selfDependency) := by
  intro m t u
  have ht : m.toTask 0 = .ok t := by decide +kernel
  have hkey : t.id.key ≠ u.id.key := by decide +kernel
  have hplain : t.id.Plain := by decide +kernel
  obtain ⟨-, hapart, -, hparse, hresolve, hown⟩ := keys_of_admitted ht u
  exact ⟨ht, hkey, hapart.2 hkey, hparse.2 (by decide +kernel), hresolve.2 hplain,
    fun phase => (hown [] [] phase rfl).2 hplain⟩

/-- Two manifests that are admitted and make one text. Once the first task is created, the second
is refused, and the first is read under the id of the second. Nor does the text lead back to the
first: it is no id to `parse`, it is resolved to the second, and the first may depend on it. -/
theorem one_key_for_two :
    let m := Manifest.minimal "a/b" "c"
    let t : Task := .new ⟨"a/b", "c"⟩ m.spec 0
    let u : Task := .new ⟨"a", "b/c"⟩ m.spec 0
    let stored := { t with version := 1 }
    let s := StateStore.empty.store stored
    m.toTask 0 = .ok t ∧ (Manifest.minimal "a" "b/c").toTask 0 = .ok u ∧ t.id ≠ u.id ∧
      StateStore.empty.createTask t = .ok (s, stored) ∧
      s.createTask u = .error (.alreadyExists "a/b/c") ∧ s.getTask u.id = .ok (some stored) ∧
      TaskId.parse t.id.key = .error ⟨"a/b/c"⟩ ∧ t.id.resolve t.id.key = u.id ∧
      (Manifest.toTask { m with spec := { m.spec with
        dependencies := [⟨t.id.key, .completed⟩] } } 0).isOk = true := by
  intro m t u stored s
  have hcreate : StateStore.empty.createTask t = .ok (s, stored) :=
    StateStore.create_task_ok_iff.2 ⟨rfl, rfl, rfl⟩
  obtain ⟨hrefused, -⟩ := StateStore.taken_of_key_eq
    (show t.id.key = u.id.key by decide +kernel) (.inl hcreate)
  exact ⟨by decide +kernel, by decide +kernel, by decide +kernel, hcreate, hrefused,
    by decide +kernel, by decide +kernel, by decide +kernel, by decide +kernel⟩

end TaskFleet
