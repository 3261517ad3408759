import Mathlib.Algebra.Group.Nat.Defs
import TaskFleet.Proofs.Store.Readable

/-!
# Versions

What the version of a task guards when any number of clients read, write and create tasks in any
order, each with whatever it has read at whatever time: `no_lost_update`. Of the clients only their
calls count, so a run is a list of calls (`StoreCall`), and a client that writes what it read long ago
is one that writes any task at all. Both stores do the same to the place at which they keep a task
(`TaskStore.slot`): `effect_call` says what one call makes of one record.
-/

namespace TaskFleet

/-- A call of a client of a task store. -/
inductive StoreCall where
  | get (id : TaskId)
  | put (t : Task)
  | create (t : Task)

/-- A call whose task, if there is one, comes back from the database as it was. -/
def StoreCall.Legible : StoreCall → Prop
  | .get _ => True
  | .put t | .create t => t.Legible

namespace TaskStore

/-- Where a store keeps the task of an id: in memory under the id, in the database under its text. -/
def slot : TaskStore → TaskId → TaskId ⊕ String
  | .memory _, id => .inl id
  | .durable _, id => .inr id.key

/-- The store with a task in its slot. -/
def set : TaskStore → Task → TaskStore
  | .memory tasks, t => .memory (tasks.insert t.id t)
  | .durable state, t => .durable (state.store t)

/-- The store after a call that has written something, and what was stored. -/
def written (s : TaskStore) : StoreCall → Option (TaskStore × Task)
  | .get _ => none
  | .put t => (s.put t).toOption
  | .create t => (s.insert t).toOption

/-- The store after a call. -/
def after (s : TaskStore) (c : StoreCall) : TaskStore :=
  ((s.written c).map Prod.fst).getD s

/-- The store after calls. -/
def run (s : TaskStore) (calls : List StoreCall) : TaskStore :=
  calls.foldl after s

/-- Whether a call is a successful write in place of the record of an id. -/
def overwrites (s : TaskStore) (id : TaskId) : StoreCall → Bool
  | .put t => (s.put t).toOption.isSome && decide (s.slot t.id = s.slot id)
  | .get _ | .create _ => false

/-- The number of calls that have written successfully in place of the record of an id. -/
def puts (s : TaskStore) (id : TaskId) : List StoreCall → Nat
  | [] => 0
  | c :: rest => (s.overwrites id c).toNat + (s.after c).puts id rest

/-- A store without tasks. -/
def Blank : TaskStore → Prop
  | .memory tasks => tasks = .empty
  | .durable state => state.tasks = .empty

/-- A store in which every record can be read. -/
def Readable : TaskStore → Prop
  | .memory _ => True
  | .durable state => ∀ key record, state.tasks.find? key = some record →
      ∃ t, Task.decode .json record = .ok t

/-- A call that creates no task in place of another one. In the database none does. -/
def Fresh : TaskStore → StoreCall → Prop
  | .memory tasks, .create t => tasks.find? t.id = none
  | _, _ => True

/-- Calls in which every record can be read at any time, and no task is created in place of another
one. -/
def Clean (s : TaskStore) : List StoreCall → Prop
  | [] => s.Readable
  | c :: rest => s.Readable ∧ s.Fresh c ∧ (s.after c).Clean rest

variable {s s' start : TaskStore} {t u x stored : Task} {id other : TaskId} {c : StoreCall}
  {calls before between : List StoreCall}

section Slots

/-- A write changes no place. -/
@[simp] theorem slot_set : (s.set t).slot = s.slot := by
  cases s <;> rfl

/-- What is found depends on the slot alone. -/
theorem get_congr (h : s.slot id = s.slot other) : s.get id = s.get other := by
  cases s with
  | memory tasks => rw [Sum.inl.inj h]
  | durable state =>
      have hkey : id.key = other.key := Sum.inr.inj h
      simp only [TaskStore.get, StateStore.getTask, hkey]

/-- A record of a task tells the version of the task. -/
theorem version_of_read (h : Task.decode .json t.toJson = .ok u) : u.version = t.version := by
  obtain ⟨-, -, -, hversion, -⟩ := task_reads_iff.1 h
  exact (nat_reads_iff.1 hversion).2.symm

/-- What a store with a task in its slot has there is that task, as it is read. -/
theorem get_set (hreadable : (s.set t).Readable) (h : s.slot id = s.slot t.id) :
    ∃ u, (s.set t).get id = .ok u ∧ u.version = t.version ∧ (s.Keeps t → u = t) := by
  cases s with
  | memory tasks =>
      have hid : id = t.id := Sum.inl.inj h
      have hfind : (tasks.insert t.id t).find? id = some t := by
        rw [Dict.find?_insert, if_pos hid]
      exact ⟨t, get_memory_ok_iff.2 hfind, rfl, fun _ => rfl⟩
  | durable state =>
      have hkey : id.key = t.id.key := Sum.inr.inj h
      have hfind : (state.store t).tasks.find? id.key = some t.toJson := by
        rw [StateStore.store, Dict.find?_insert, if_pos hkey]
      obtain ⟨u, hread⟩ := hreadable _ _ hfind
      refine ⟨u, get_durable_ok_iff.2 ⟨_, hfind, hread⟩, version_of_read hread, fun hkeeps => ?_⟩
      exact Except.ok.inj (hread.symm.trans (task_reads_self_iff.2 hkeeps))

/-- In all other slots it has what it had. -/
theorem get_set_ne (h : s.slot id ≠ s.slot t.id) : (s.set t).get id = s.get id := by
  cases s with
  | memory tasks =>
      have hid : id ≠ t.id := fun hid => h (congrArg Sum.inl hid)
      simp only [set, TaskStore.get, Dict.find?_insert, if_neg hid]
  | durable state =>
      have hkey : id.key ≠ t.id.key := fun hkey => h (congrArg Sum.inr hkey)
      exact get_durable_congr (by rw [StateStore.store, Dict.find?_insert, if_neg hkey])

/-- The records of agents are no tasks. -/
theorem agents_set : (s.set t).state?.map StateStore.agents = s.state?.map StateStore.agents := by
  cases s <;> rfl

/-- What a write comes to is told by what is found in its place. Only the text of a conflict is the
store's own. -/
theorem put_eq (s : TaskStore) (t : Task) :
    ∃ text, s.put t = match s.get t.id with
      | .error e => .error e
      | .ok x => if x.version = t.version then .ok (s.set t.bump, t.bump)
          else .error (.conflict text) := by
  cases s with
  | memory tasks =>
      refine ⟨t.id.key, ?_⟩
      unfold TaskStore.put TaskStore.get
      dsimp only
      cases tasks.find? t.id with
      | none => rfl
      | some x => rfl
  | durable state =>
      unfold TaskStore.put TaskStore.get StateStore.putTask StateStore.getTask
      dsimp only
      cases state.tasks.find? t.id.key with
      | none => exact ⟨"", rfl⟩
      | some record =>
          dsimp only
          cases StateStore.readRecord Task.decode record with
          | error e => exact ⟨"", rfl⟩
          | ok x =>
              refine ⟨(StateError.conflict t.id.key t.version x.version).message, ?_⟩
              by_cases hversion : x.version = t.version
              · simp [Except.map, bind, Except.bind, pure, Except.pure, hversion, set]
              · simp [Except.map, bind, Except.bind, throw, throwThe, MonadExceptOf.throw, hversion]
                rfl

/-- A task is written exactly over one of its version, and as the next one. -/
theorem put_ok_iff :
    s.put t = .ok (s', stored) ↔
      (∃ x, s.get t.id = .ok x ∧ x.version = t.version) ∧ stored = t.bump ∧ s' = s.set t.bump := by
  obtain ⟨text, hput⟩ := put_eq s t
  rw [hput]
  cases s.get t.id with
  | error e => simp
  | ok x =>
      by_cases hversion : x.version = t.version
      · simp only [hversion, if_true, Except.ok.injEq, Prod.mk.injEq, exists_eq_left', true_and]
        constructor
        · rintro ⟨rfl, rfl⟩
          exact ⟨rfl, rfl⟩
        · rintro ⟨rfl, rfl⟩
          exact ⟨rfl, rfl⟩
      · simp [hversion]

/-- A task that is created is stored as version 1. In the database there was none. -/
theorem insert_ok (hfresh : s.Fresh (.create t)) (h : s.insert t = .ok (s', stored)) :
    (∀ x, s.get t.id ≠ .ok x) ∧ stored = { t with version := 1 } ∧ s' = s.set stored := by
  cases s with
  | memory tasks =>
      have hnone : tasks.find? t.id = none := hfresh
      cases h
      refine ⟨fun x hx => ?_, rfl, rfl⟩
      rw [get_memory_ok_iff, hnone] at hx
      exact nomatch hx
  | durable state =>
      obtain ⟨⟨state', created⟩, hcreate, hpair⟩ := map_eq_ok_iff.1 h
      cases hpair
      obtain ⟨hnone, rfl, rfl⟩ := StateStore.create_task_ok_iff.1 hcreate
      refine ⟨fun x hx => ?_, rfl, rfl⟩
      obtain ⟨record, hfind, -⟩ := get_durable_ok_iff.1 hx
      exact nomatch hnone.symm.trans hfind

end Slots

section Calls

/-- What is left of a result without its error is its success. -/
theorem to_option_eq_some_iff {ε α : Type} {r : Except ε α} {a : α} :
    r.toOption = some a ↔ r = .ok a := by
  cases r with
  | error e => simp [Except.toOption]
  | ok b => simp [Except.toOption]

/-- A call that writes is a put over the latest version, or creates a task where there is none. -/
theorem written_cases (hfresh : s.Fresh c) (h : s.written c = some (s', stored)) :
    s' = s.set stored ∧
      ((∃ t x, c = .put t ∧ stored = t.bump ∧ s.get t.id = .ok x ∧ x.version = t.version) ∨
        ∃ t, c = .create t ∧ stored = { t with version := 1 } ∧ ∀ x, s.get t.id ≠ .ok x) := by
  cases c with
  | get id => exact nomatch h
  | put t =>
      have hput : s.put t = .ok (s', stored) := to_option_eq_some_iff.1 h
      obtain ⟨⟨x, hx, hversion⟩, rfl, rfl⟩ := put_ok_iff.1 hput
      exact ⟨rfl, .inl ⟨t, x, rfl, rfl, hx, hversion⟩⟩
  | create t =>
      have hinsert : s.insert t = .ok (s', stored) := to_option_eq_some_iff.1 h
      obtain ⟨hnone, rfl, rfl⟩ := insert_ok hfresh hinsert
      exact ⟨rfl, .inr ⟨t, rfl, rfl, hnone⟩⟩

/-- A call that writes leaves what it has written. -/
theorem after_of_written (h : s.written c = some (s', stored)) : s.after c = s' := by
  unfold after
  rw [h]
  rfl

/-- A call that writes nothing, or fails, leaves the store as it is. -/
theorem after_of_not_written (h : s.written c = none) : s.after c = s := by
  unfold after
  rw [h]
  rfl

/-- A call changes no place. -/
theorem slot_after (hfresh : s.Fresh c) : (s.after c).slot = s.slot := by
  cases hwritten : s.written c with
  | none => rw [after_of_not_written hwritten]
  | some r =>
      rw [after_of_written hwritten, (written_cases hfresh hwritten).1, slot_set]

/-- A call that writes nothing overwrites nothing. -/
theorem overwrites_of_not_written (h : s.written c = none) : s.overwrites id c = false := by
  cases c with
  | get | create => rfl
  | put t =>
      have hnone : (s.put t).toOption = none := h
      simp [overwrites, hnone]

/-- What a call makes of the record of an id: it leaves it as it is, creates it as version 1, or puts
the next version over the one that the call has named. -/
inductive Effect (s : TaskStore) (id : TaskId) (c : StoreCall) : Prop where
  | keeps (hget : (s.after c).get id = s.get id) (hputs : s.overwrites id c = false)
  | creates (u : Task) (hnone : ∀ x, s.get id ≠ .ok x) (hget : (s.after c).get id = .ok u)
      (hversion : u.version = 1) (hputs : s.overwrites id c = false)
  | puts (t x u : Task) (hcall : c = .put t) (hslot : s.slot t.id = s.slot id)
      (hold : s.get id = .ok x) (hversion : x.version = t.version)
      (hget : (s.after c).get id = .ok u) (hnext : u.version = t.bump.version)
      (hputs : s.overwrites id c = true)

/-- A call has its effect on every task. -/
theorem effect_call (hfresh : s.Fresh c) (hreadable : (s.after c).Readable) (id : TaskId) :
    Effect s id c := by
  cases hwritten : s.written c with
  | none =>
      exact .keeps (by rw [after_of_not_written hwritten]) (overwrites_of_not_written hwritten)
  | some r =>
      obtain ⟨s', stored⟩ := r
      obtain ⟨rfl, hcases⟩ := written_cases hfresh hwritten
      have hafter := after_of_written hwritten
      rw [hafter] at hreadable
      obtain ⟨t, x, rfl, rfl, hx, hversion⟩ | ⟨t, rfl, rfl, hnone⟩ := hcases
      · have hput : (s.put t).toOption = some (s.set t.bump, t.bump) := hwritten
        by_cases hslot : s.slot t.id = s.slot id
        · obtain ⟨u, hget, hnext, -⟩ := get_set hreadable hslot.symm
          rw [← hafter] at hget
          refine .puts t x u rfl hslot ((get_congr hslot).symm.trans hx) hversion hget hnext ?_
          simp [overwrites, hput, hslot]
        · have hget : (s.set t.bump).get id = s.get id := get_set_ne (Ne.symm hslot)
          refine .keeps (by rw [hafter, hget]) ?_
          simp [overwrites, hslot]
      · by_cases hslot : s.slot t.id = s.slot id
        · obtain ⟨u, hget, hnext, -⟩ := get_set hreadable hslot.symm
          rw [← hafter] at hget
          exact .creates u (fun x => get_congr hslot ▸ hnone x) hget hnext rfl
        · have hget : (s.set { t with version := 1 }).get id = s.get id := get_set_ne (Ne.symm hslot)
          exact .keeps (by rw [hafter, hget]) rfl

end Calls

section Runs

/-- Calls may be made in two parts. -/
theorem run_append (s : TaskStore) (before after : List StoreCall) :
    s.run (before ++ after) = (s.run before).run after :=
  List.foldl_append

/-- A store that calls can be made on cleanly can be read. -/
theorem readable_of_clean (h : s.Clean calls) : s.Readable := by
  cases calls with
  | nil => exact h
  | cons c rest => exact h.1

/-- What comes after some calls of a run is a run of its own. -/
theorem clean_rest {after : List StoreCall} (h : s.Clean (before ++ after)) :
    (s.run before).Clean after := by
  induction before generalizing s with
  | nil => exact h
  | cons c rest ih => exact ih h.2.2

/-- The writes of two parts of a run add up. -/
theorem puts_append (s : TaskStore) (id : TaskId) (before after : List StoreCall) :
    s.puts id (before ++ after) = s.puts id before + (s.run before).puts id after := by
  induction before generalizing s with
  | nil => exact (Nat.zero_add _).symm
  | cons c rest ih =>
      show (s.overwrites id c).toNat + (s.after c).puts id (rest ++ after) =
        (s.overwrites id c).toNat + (s.after c).puts id rest + ((s.after c).run rest).puts id after
      rw [ih]
      omega

/-- Ids with one place are overwritten together. -/
theorem overwrites_congr (h : s.slot id = s.slot other) :
    s.overwrites id c = s.overwrites other c := by
  cases c with
  | get | create => rfl
  | put t => simp only [overwrites, h]

/-- Writes are counted by slots. -/
theorem puts_congr (hclean : s.Clean calls) (h : s.slot id = s.slot other) :
    s.puts id calls = s.puts other calls := by
  induction calls generalizing s with
  | nil => rfl
  | cons c rest ih =>
      have hlater : (s.after c).puts id rest = (s.after c).puts other rest :=
        ih hclean.2.2 (by rw [slot_after hclean.2.1, h])
      show (s.overwrites id c).toNat + _ = (s.overwrites other c).toNat + _
      rw [overwrites_congr h, hlater]

/-- No run changes a place. -/
theorem slot_run (hclean : s.Clean calls) : (s.run calls).slot = s.slot := by
  induction calls generalizing s with
  | nil => rfl
  | cons c rest ih => exact (ih hclean.2.2).trans (slot_after hclean.2.1)

/-- The calls before others of a run are a run of their own. -/
theorem clean_front {after : List StoreCall} (h : s.Clean (before ++ after)) : s.Clean before := by
  induction before generalizing s with
  | nil => exact readable_of_clean h
  | cons c rest ih => exact ⟨h.1, h.2.1, ih h.2.2⟩

/-- The version of a record grows by the number of writes in its place. -/
theorem version_of_found (hclean : s.Clean calls) (hget : s.get id = .ok x)
    (hfew : x.version + s.puts id calls < 2 ^ 64) :
    ∃ u, (s.run calls).get id = .ok u ∧ u.version = x.version + s.puts id calls := by
  induction calls generalizing s x with
  | nil => exact ⟨x, hget, rfl⟩
  | cons c rest ih =>
      obtain ⟨-, hfresh, hrest⟩ := hclean
      have hcount : s.puts id (c :: rest) = (s.overwrites id c).toNat + (s.after c).puts id rest :=
        rfl
      cases effect_call hfresh (readable_of_clean hrest) id with
      | keeps hsame hputs =>
          rw [hputs, Bool.toNat_false, Nat.zero_add] at hcount
          rw [hcount] at hfew ⊢
          exact ih hrest (hsame.trans hget) hfew
      | creates u hnone hcreated hversion hputs => exact absurd hget (hnone x)
      | puts t old u hcall hslot hold hversion hput hnext hputs =>
          obtain rfl : x = old := Except.ok.inj (hget.symm.trans hold)
          rw [hputs, Bool.toNat_true] at hcount
          have hbump : u.version = x.version + 1 := by
            rw [hnext, hversion]
            -- The next version after the last number is 0, which `hfew` keeps out of reach.
            show (t.version + 1) % 2 ^ 64 = t.version + 1
            exact Nat.mod_eq_of_lt (by omega)
          obtain ⟨v, hv, hlast⟩ := ih hrest hput (by omega)
          exact ⟨v, hv, by omega⟩

/-- A record that was created in a run has the version after as many writes in its place. -/
theorem version_of_missing (hclean : s.Clean calls) (hnone : ∀ x, s.get id ≠ .ok x)
    (hfew : s.puts id calls < 2 ^ 64 - 1) (hget : (s.run calls).get id = .ok u) :
    u.version = 1 + s.puts id calls := by
  induction calls generalizing s with
  | nil => exact absurd hget (hnone u)
  | cons c rest ih =>
      obtain ⟨-, hfresh, hrest⟩ := hclean
      have hcount : s.puts id (c :: rest) = (s.overwrites id c).toNat + (s.after c).puts id rest :=
        rfl
      cases effect_call hfresh (readable_of_clean hrest) id with
      | keeps hsame hputs =>
          rw [hputs, Bool.toNat_false, Nat.zero_add] at hcount
          rw [hcount] at hfew ⊢
          exact ih hrest (fun x => hsame ▸ hnone x) hfew hget
      | creates first hnone' hcreated hversion hputs =>
          rw [hputs, Bool.toNat_false, Nat.zero_add] at hcount
          obtain ⟨v, hv, hlast⟩ := version_of_found hrest hcreated (by omega)
          obtain rfl : v = u := Except.ok.inj (hv.symm.trans hget)
          rw [hlast, hversion, hcount]
      | puts t old v hcall hslot hold hversion hput hnext hputs => exact absurd hold (hnone old)

/-- A record stays as it is until a put names its version. -/
theorem kept_until_put (hclean : s.Clean calls) (hget : s.get id = .ok x) :
    (s.run calls).get id = .ok x ∨
      ∃ earlier u later, calls = earlier ++ .put u :: later ∧ s.slot u.id = s.slot id ∧
        u.version = x.version ∧ (s.run earlier).get id = .ok x ∧
          ∃ r, (s.run earlier).put u = .ok r := by
  induction calls generalizing s with
  | nil => exact .inl hget
  | cons c rest ih =>
      obtain ⟨-, hfresh, hrest⟩ := hclean
      cases effect_call hfresh (readable_of_clean hrest) id with
      | keeps hsame hputs =>
          obtain hlast | ⟨earlier, u, later, rfl, hslot, hversion, hkept, haccepted⟩ :=
            ih hrest (hsame.trans hget)
          · exact .inl hlast
          · rw [slot_after hfresh] at hslot
            exact .inr ⟨c :: earlier, u, later, rfl, hslot, hversion, hkept, haccepted⟩
      | creates u hnone hcreated hversion hputs => exact absurd hget (hnone x)
      | puts t old u hcall hslot hold hversion hput hnext hputs =>
          obtain rfl : x = old := Except.ok.inj (hget.symm.trans hold)
          subst hcall
          have haccepted := put_ok_iff.2
            ⟨⟨x, (get_congr hslot).trans hget, hversion⟩, rfl, rfl⟩
          exact .inr ⟨[], t, rest, rfl, hslot, hversion.symm, hget, _, haccepted⟩

/-- Nothing is found in a store without tasks. -/
theorem not_get_of_blank (h : start.Blank) (id : TaskId) : ∀ x, start.get id ≠ .ok x := by
  intro x hx
  cases start with
  | memory tasks =>
      rw [show tasks = .empty from h, get_memory_ok_iff] at hx
      exact nomatch hx
  | durable state =>
      obtain ⟨record, hfind, -⟩ := get_durable_ok_iff.1 hx
      rw [show state.tasks = .empty from h] at hfind
      exact nomatch hfind

/-- What a put stores stays until a put succeeds that names the version it has returned. -/
theorem lasts_until_put (hclean : s.Clean (.put t :: calls)) (hput : s.put t = .ok (s', stored)) :
    ∃ x, s'.get t.id = .ok x ∧ x.version = stored.version ∧ (s'.Keeps stored → x = stored) ∧
      ((s'.run calls).get t.id = .ok x ∨
        ∃ earlier u later, calls = earlier ++ .put u :: later ∧ s.slot u.id = s.slot t.id ∧
          u.version = stored.version ∧ (s'.run earlier).get t.id = .ok x ∧
          ∃ r, (s'.run earlier).put u = .ok r) := by
  obtain ⟨-, -, hlater⟩ := hclean
  have hafter : s.after (.put t) = s' := after_of_written (to_option_eq_some_iff.2 hput)
  rw [hafter] at hlater
  obtain ⟨-, rfl, rfl⟩ := put_ok_iff.1 hput
  obtain ⟨x, hx, hversion, hsame⟩ :=
    get_set (readable_of_clean hlater) (rfl : s.slot t.id = s.slot t.bump.id)
  have hkeeps : (s.set t.bump).Keeps t.bump → x = t.bump := by
    cases s with
    | memory tasks => exact hsame
    | durable state => exact hsame
  refine ⟨x, hx, hversion, hkeeps, ?_⟩
  obtain hkept | ⟨earlier, u, later, rfl, hslot, hu, hkept, haccepted⟩ := kept_until_put hlater hx
  · exact .inl hkept
  · rw [slot_set] at hslot
    exact .inr ⟨earlier, u, later, rfl, hslot, hu.trans hversion, hkept, haccepted⟩

/-- A put that succeeds is counted. -/
theorem puts_of_put (hput : s.put t = .ok (s', stored)) :
    s.puts t.id (.put t :: calls) = 1 + s'.puts t.id calls := by
  have hcounted : s.overwrites t.id (.put t) = true := by
    simp [overwrites, hput, Except.toOption]
  have hafter : s.after (.put t) = s' := after_of_written (to_option_eq_some_iff.2 hput)
  rw [puts, hcounted, hafter]
  rfl

/-- What the versions guard in the calls of a run from a store. -/
structure Guards (start : TaskStore) (calls : List StoreCall) : Prop where
  /-- A task is stored in the version after as many writes as were made in its place. -/
  version : ∀ before after, calls = before ++ after → ∀ id t, (start.run before).get id = .ok t →
    t.version = 1 + start.puts id before
  /-- A put succeeds exactly if its task is there in the version that it names. -/
  succeeds : ∀ before t after, calls = before ++ .put t :: after →
    ((∃ r, (start.run before).put t = .ok r) ↔
      ∃ x, (start.run before).get t.id = .ok x ∧ x.version = t.version)
  /-- Of two puts of one task that name the same version, at most one succeeds. -/
  once : ∀ before t between u after, calls = before ++ .put t :: (between ++ .put u :: after) →
    start.slot u.id = start.slot t.id → u.version = t.version →
    (∃ r, (start.run before).put t = .ok r) →
      ∃ e, (start.run (before ++ .put t :: between)).put u = .error e
  /-- A put stores what it was given, in the next version, and that stays until a put succeeds that
  names the version it has returned. -/
  lasts : ∀ before t between after s stored, calls = before ++ .put t :: (between ++ after) →
    (start.run before).put t = .ok (s, stored) → stored = t.bump ∧
      ∃ x, s.get t.id = .ok x ∧ x.version = stored.version ∧ (s.Keeps stored → x = stored) ∧
        ((s.run between).get t.id = .ok x ∨
          ∃ earlier u later, between = earlier ++ .put u :: later ∧
            start.slot u.id = start.slot t.id ∧ u.version = stored.version ∧
            (s.run earlier).get t.id = .ok x ∧ ∃ r, (s.run earlier).put u = .ok r)
  /-- A call that fails, or writes nothing, changes nothing. -/
  unwritten : ∀ before c after, calls = before ++ c :: after →
    (start.run before).written c = none → start.run (before ++ [c]) = start.run before
  /-- A call that writes changes the record of its task alone. -/
  alone : ∀ before c after s stored, calls = before ++ c :: after →
    (start.run before).written c = some (s, stored) → start.run (before ++ [c]) = s ∧
      (∀ id, start.slot id ≠ start.slot stored.id → s.get id = (start.run before).get id) ∧
      s.state?.map StateStore.agents = (start.run before).state?.map StateStore.agents

/-- However many clients read, write and create tasks in whatever order, on a store that starts
without tasks, whose records can all be read, and in which no task is written 2^64 - 1 times: a put
succeeds exactly if the task is there in the version that it names, the version tells how often a
task was written, no two puts from the same version succeed, what was put stays until a put that
names the version of it, and no call changes any record but its own. -/
theorem no_lost_update (hblank : start.Blank) (hclean : start.Clean calls)
    (hfew : ∀ id, start.puts id calls < 2 ^ 64 - 1) : start.Guards calls := by
  have hversion (before after : List StoreCall) (hcalls : calls = before ++ after) (id : TaskId)
      (t : Task) (hget : (start.run before).get id = .ok t) :
      t.version = 1 + start.puts id before := by
    have hbound := hfew id
    rw [hcalls, puts_append] at hbound
    rw [hcalls] at hclean
    exact version_of_missing (clean_front hclean) (not_get_of_blank hblank id) (by omega) hget
  have hsucceeds (s : TaskStore) (t : Task) :
      (∃ r, s.put t = .ok r) ↔ ∃ x, s.get t.id = .ok x ∧ x.version = t.version :=
    ⟨fun ⟨_, hput⟩ => (put_ok_iff.1 hput).1, fun hx => ⟨_, put_ok_iff.2 ⟨hx, rfl, rfl⟩⟩⟩
  have hslots (before after : List StoreCall) (hcalls : calls = before ++ after) :
      (start.run before).slot = start.slot := by
    rw [hcalls] at hclean
    exact slot_run (clean_front hclean)
  refine ⟨hversion, fun before t after _ => hsucceeds _ t, ?_, ?_, ?_, ?_⟩
  · intro before t between u after hcalls hslot hsame haccepted
    have hsplit : calls = (before ++ .put t :: between) ++ .put u :: after := by
      rw [hcalls, List.append_assoc, List.cons_append]
    obtain ⟨⟨s, stored⟩, hput⟩ := haccepted
    obtain ⟨x, hx, hnamed⟩ := (hsucceeds _ t).1 ⟨_, hput⟩
    refine StateStore.ok_or_error fun r hagain => ?_
    obtain ⟨y, hy, hnamed'⟩ := (hsucceeds _ u).1 ⟨r, hagain⟩
    -- The first put is one of the writes that the version at the second one counts.
    have hfirst := hversion before _ hcalls t.id x hx
    have hsecond := hversion _ _ hsplit u.id y hy
    rw [puts_congr (clean_front (hsplit ▸ hclean)) hslot, puts_append, puts_of_put hput] at hsecond
    omega
  · intro before t between after s stored hcalls hput
    have hrest : (start.run before).Clean (.put t :: between) := by
      rw [hcalls, ← List.cons_append] at hclean
      exact clean_front (clean_rest hclean)
    rw [← hslots before _ hcalls]
    exact ⟨(put_ok_iff.1 hput).2.1, lasts_until_put hrest hput⟩
  · intro before c after hcalls hnone
    rw [run_append]
    exact after_of_not_written hnone
  · intro before c after s stored hcalls hwritten
    rw [hcalls] at hclean
    obtain ⟨-, hfresh, -⟩ := clean_rest hclean
    obtain ⟨rfl, -⟩ := written_cases hfresh hwritten
    refine ⟨?_, fun id hslot => get_set_ne ?_, agents_set⟩
    · rw [run_append]
      exact after_of_written hwritten
    · rw [hslots before _ hcalls]
      exact hslot

/-- There are no more writes than calls. -/
theorem puts_le_length (s : TaskStore) (id : TaskId) (calls : List StoreCall) :
    s.puts id calls ≤ calls.length := by
  induction calls generalizing s with
  | nil => exact Nat.le_refl 0
  | cons c rest ih =>
      have hrest := ih (s.after c)
      have hone := Bool.toNat_le (s.overwrites id c)
      show (s.overwrites id c).toNat + (s.after c).puts id rest ≤ rest.length + 1
      omega

/-- A database that can be read still can after a legible task was stored. -/
theorem readable_store {state : StateStore} (h : (durable state).Readable) (ht : t.Legible) :
    (durable (state.store t)).Readable := by
  intro key record hfind
  rw [StateStore.store, Dict.find?_insert] at hfind
  by_cases hkey : key = t.id.key
  · rw [if_pos hkey, Option.some.injEq] at hfind
    exact ⟨t, hfind ▸ task_reads_self_iff.2 ht⟩
  · rw [if_neg hkey] at hfind
    exact h key record hfind

/-- A store with the tasks of one that can be read can be read. -/
theorem SameTasks.readable (h : s.SameTasks s') (hreadable : s.Readable) : s'.Readable := by
  cases s with
  | memory tasks =>
      cases s' with
      | memory tasks' => trivial
      | durable state => exact h.elim
  | durable state =>
      cases s' with
      | memory tasks => trivial
      | durable state' =>
          intro key record hfind
          rw [← show state.tasks = state'.tasks from h] at hfind
          exact hreadable key record hfind

/-- In a database that is given only tasks that come back as they were, every record can be read at
any time. -/
theorem clean_of_legible {state : StateStore} (hreadable : (durable state).Readable)
    (hcalls : ∀ c ∈ calls, c.Legible) : (durable state).Clean calls := by
  induction calls generalizing state with
  | nil => exact hreadable
  | cons c rest ih =>
      refine ⟨hreadable, trivial, ?_⟩
      have hrest : ∀ c ∈ rest, c.Legible := fun c hc => hcalls c (List.mem_cons_of_mem _ hc)
      cases hwritten : (durable state).written c with
      | none =>
          rw [after_of_not_written hwritten]
          exact ih hreadable hrest
      | some r =>
          obtain ⟨s', stored⟩ := r
          have hfresh : (durable state).Fresh c := trivial
          have hlegible := hcalls c List.mem_cons_self
          have hstored : stored.Legible := by
            obtain ⟨-, ⟨t, x, rfl, rfl, -⟩ | ⟨t, rfl, rfl, -⟩⟩ := written_cases hfresh hwritten
            · exact legible_bump hlegible
            · exact ⟨hlegible.spec, hlegible.status, show 1 ≤ Text.max64 by decide,
                hlegible.createdAt⟩
          rw [after_of_written hwritten, (written_cases hfresh hwritten).1]
          exact ih (readable_store hreadable hstored) hrest

/-- A task as two clients have read it. -/
def shared : Task :=
  { StateStore.lasting "t1" 90 with version := 1 }

/-- The same task as the second client is going to write it. -/
def outrun : Task :=
  { shared with status.message := "outrun" }

/-- Two clients write what they have read of a task, and the second one reads it again and tries
once more. -/
def contended : List StoreCall :=
  [.create (StateStore.lasting "t1" 90), .put { shared with cancelRequested := true }, .put outrun,
    .get shared.id, .put { outrun with version := 2 }]

/-- Of two puts of one version the second is refused, and its client reads and puts again. -/
theorem no_lost_update_contended :
    (durable .empty).Guards contended ∧
      (∃ e, ((durable .empty).run (contended.take 2)).put outrun = .error e) ∧
      (durable .empty).puts shared.id contended = 2 ∧
      (((durable .empty).run contended).get shared.id).toOption.map Task.version = some 3 := by
  have hlegible : ∀ c ∈ contended, c.Legible := by
    unfold contended
    simp only [List.forall_mem_cons]
    refine ⟨?_, ?_, ?_, trivial, ?_, List.forall_mem_nil _⟩
    · exact task_reads_self_iff.1 (by decide +kernel)
    · exact task_reads_self_iff.1 (by decide +kernel)
    · exact task_reads_self_iff.1 (by decide +kernel)
    · exact task_reads_self_iff.1 (by decide +kernel)
  have hclean : (durable .empty).Clean contended :=
    clean_of_legible (fun _ _ hfind => nomatch hfind) hlegible
  have hguards : (durable .empty).Guards contended := by
    refine no_lost_update (rfl : StateStore.empty.tasks = .empty) hclean fun id => ?_
    exact Nat.lt_of_le_of_lt (puts_le_length _ id contended) (by decide)
  refine ⟨hguards, ?_, by decide +kernel, by decide +kernel⟩
  have hcreated : (((durable .empty).run (contended.take 1)).get shared.id).toOption.map
      Task.version = some 1 := by decide +kernel
  have haccepted := (hguards.succeeds (contended.take 1) _ _ rfl).2 (get_of_map hcreated)
  exact hguards.once (contended.take 1) _ [] outrun _ rfl rfl rfl haccepted

end Runs

end TaskStore

end TaskFleet
