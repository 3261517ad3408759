import TaskFleet.Proofs.Lifecycle.Twins

/-!
# Interchangeable stores

It makes no difference to the lifecycle where tasks are kept: `interchangeable_stores`. Whatever is
done to two fleets that start without tasks, one with its store in memory and the other with a
database, step by step they give the same answers, make the same calls, and have the same ledger and
the same tasks. Only the text of a conflict tells them apart. `Operation.Fits` says of which tasks
this holds: a database cannot read back a duration of too many milliseconds, and it does not tell
`a/b` and `c` from `a` and `b/c`.
-/

namespace TaskFleet

/-- What is done to a fleet. -/
inductive Operation where
  | insert (t : Task)
  | get (id : TaskId)
  | put (t : Task)
  | phase (id : TaskId)
  | pass (id : TaskId)
  | cancel (id : TaskId)
  /-- The ledger is rebuilt from these agents. -/
  | resync (agents : List Observation) (limit : Nat)
  /-- Time passes: all but the tasks, the ledger and what has been recorded becomes as it is in
  another fleet, the faults that are due, the interrupts and the executions included. -/
  | turn (world : Fleet)

/-- What comes of it. -/
inductive Answer where
  | inserted (r : Except StateError Task)
  | task (r : Option (Except StoreError Task))
  | phase (r : Option (Except StoreError Phase))
  | outcome (o : Outcome)
  | cancelled (r : Except LifecycleError Unit)
  | resynced (r : Except LedgerError ResyncReport)
  | turned
deriving DecidableEq

/-- Two answers that differ at most in the text of a conflict. -/
inductive Answer.Alike : Answer → Answer → Prop
  | same (a : Answer) : Alike a a
  | conflict (text text' : String) :
      Alike (.task (some (.error (.conflict text)))) (.task (some (.error (.conflict text'))))

namespace Operation

/-- The id of the task that is created. -/
def created? : Operation → Option TaskId
  | .insert t => some t.id
  | _ => none

/-- Tasks that can be received and read back, ids that are told apart by their text, and numbers in
the range of their types. -/
def Fits : Operation → Prop
  | .insert t | .put t => t.Received ∧ t.spec.Countable ∧ t.id.Plain
  | .get id | .phase id | .pass id | .cancel id => id.Plain
  | .resync .. => True
  | .turn world => Fleet.Proper False world

theorem created_cons (op : Operation) (rest : List Operation) :
    (op :: rest).filterMap created? = op.created?.toList ++ rest.filterMap created? := by
  cases h : op.created? with
  | none => exact List.filterMap_cons_none h
  | some id => exact List.filterMap_cons_some h

end Operation

namespace Fleet

/-- Creates a task. -/
def insertTask (t : Task) : FleetM (Except StateError Task) := do
  let f ← get
  match f.store.insert t with
  | .ok (store, stored) =>
    set { f with store }
    return .ok stored
  | .error e => return .error e

/-- Does something to a fleet. -/
def perform : Operation → FleetM Answer
  | .insert t => return .inserted (← insertTask t)
  | .get id => return .task (← getTask id)
  | .put t => return .task (← putTask t)
  | .phase id => return .phase (← getPhase id)
  | .pass id => return .outcome (← reconcile id)
  | .cancel id => return .cancelled (← requestCancel id)
  | .resync agents limit => do
    modify fun f => { f with source := .fixed agents }
    return .resynced (← resync limit)
  | .turn world => do
    modify fun f =>
      { world with store := f.store, ledger := f.ledger, events := f.events, trail := f.trail }
    return .turned

/-- The answers to some operations, each with the fleet after it. -/
def trace (f : Fleet) : List Operation → List (Answer × Fleet)
  | [] => []
  | op :: rest => (perform op).run f :: ((perform op).run f).2.trace rest

/-- Two answers, each with the fleet after it, that differ in nothing but the text of a conflict, the
order in which all tasks are listed, and what is noted of the stores. -/
structure Coincide (r r' : Answer × Fleet) : Prop where
  answer : r.1.Alike r'.1
  events : r'.2.events = r.2.events
  ledger : r'.2.ledger = r.2.ledger
  rest : ∃ store trail, r'.2 = { r.2 with store, trail }
  found : ∀ id : TaskId, id.Plain → r'.2.store.get id = r.2.store.get id
  listed : ∃ l l', r.2.store.list = .ok l ∧ r'.2.store.list = .ok l' ∧ l'.Perm l

variable {ids : List TaskId} {f g : Fleet} {t : Task} {op : Operation}

/-- Twins cannot be told apart. -/
theorem Twin.coincide {a a' : Answer} (ht : Twin ids f g) (ha : a.Alike a') :
    Coincide (a, f) (a', g) := by
  cases ht with
  | intro store trail proper stores known =>
      obtain ⟨hlist, hlist', hperm⟩ := stores.list
      exact ⟨ha, rfl, rfl, ⟨store, trail, rfl⟩, fun _ hid => stores.get_eq hid,
        _, _, hlist, hlist', hperm⟩

/-- A task that is received is one that both stores keep as it is. -/
theorem storable_of_received (h : t.Received ∧ t.spec.Countable ∧ t.id.Plain) : t.Storable :=
  ⟨h.2.2, h.1.legible h.2.1⟩

theorem insert_task_run {store : TaskStore} {stored : Task}
    (h : f.store.insert t = .ok (store, stored)) :
    (insertTask t).run f = (.ok stored, { f with store }) := by
  show Ensures (insertTask t) f fun r f' => (r, f') = _
  unfold insertTask
  refine ensures_get ?_
  rw [h]
  exact rfl

/-- A task of a new id is created in both stores. -/
theorem insert_task_agree (ht : Twin ids f g) (hstorable : t.Storable) (hnew : t.id ∉ ids) :
    Agree (t.id :: ids) ((insertTask t).run f) ((insertTask t).run g) := by
  cases ht with
  | intro store trail proper stores known =>
      obtain ⟨hf, hg⟩ := stores.insert hstorable fun x hx => hnew (known t.id x hx)
      rw [insert_task_run hf, @insert_task_run { f with store, trail } _ _ _ hg]
      refine ⟨rfl, twin_set proper stores ?_ hstorable.created List.mem_cons_self f.trail trail⟩
      exact fun id x hx => List.mem_cons_of_mem _ (known id x hx)

/-- The ledger is rebuilt alike from a list of agents. -/
theorem resync_together (ht : Twin ids f g) (agents : List Observation) (limit : Nat) :
    Together ids (resync limit) { f with source := .fixed agents }
      { g with source := .fixed agents } := by
  have hfixed : Twin ids { f with source := .fixed agents } { g with source := .fixed agents } := by
    cases ht with
    | intro store trail proper stores known =>
        exact .intro store trail { proper with } stores known
  exact (resync_blind agents limit).together
    ((resync_spec limit hfixed.proper).imp fun _ _ hr => hr.proper) hfixed

theorem Together.map {α β : Type} {x : FleetM α} (h : Together ids x f g) (c : α → β) :
    Together ids (do return c (← x)) f g :=
  h.bind fun _ _ _ ht => together_pure ht _

/-- What agrees is alike. -/
theorem Agree.alike {r r' : Answer × Fleet} (h : Agree ids r r') :
    r.1.Alike r'.1 ∧ Twin ids r.2 r'.2 :=
  ⟨h.answer ▸ .same _, h.twin⟩

/-- Whatever is done to twins, they answer alike and are twins afterwards. -/
theorem perform_alike (ht : Twin ids f g) (hfits : op.Fits)
    (hnew : ∀ id ∈ op.created?, id ∉ ids) :
    ((perform op).run f).1.Alike ((perform op).run g).1 ∧
      Twin (op.created?.toList ++ ids) ((perform op).run f).2 ((perform op).run g).2 := by
  cases op with
  | insert t =>
      have hinsert := insert_task_agree ht (storable_of_received hfits) (hnew t.id rfl)
      have hanswer : ((perform (.insert t)).run g).1 = ((perform (.insert t)).run f).1 :=
        congrArg Answer.inserted hinsert.answer
      exact Agree.alike ⟨hanswer, hinsert.twin⟩
  | get id => exact ((get_task_together ht hfits).map Answer.task).alike
  | put t =>
      have hwrites := put_task_writes ht (storable_of_received hfits)
      refine ⟨?_, hwrites.twin⟩
      show (Answer.task ((putTask t).run f).1).Alike (.task ((putTask t).run g).1)
      obtain hsame | ⟨-, text, text', hf, hg⟩ := hwrites.answer
      · rw [hsame]
        exact .same _
      · rw [hf, hg]
        exact .conflict text text'
  | phase id => exact ((get_phase_together ht hfits).map Answer.phase).alike
  | pass id => exact ((reconcile_together ht hfits).map Answer.outcome).alike
  | cancel id => exact ((request_cancel_together ht hfits).map Answer.cancelled).alike
  | resync agents limit =>
      exact ((resync_together ht agents limit).map Answer.resynced).alike
  | turn world =>
      cases ht with
      | intro store trail proper stores known =>
          exact ⟨.same _, .intro store trail { hfits with sound := proper.sound } stores known⟩

/-- Twins cannot be told apart in a run, if no task is created twice. -/
theorem trace_coincide {ops : List Operation} (ht : Twin ids f g) (hfits : ∀ op ∈ ops, op.Fits)
    (hfresh : (ops.filterMap Operation.created? ++ ids).Nodup) :
    List.Forall₂ Coincide (f.trace ops) (g.trace ops) := by
  induction ops generalizing ids f g with
  | nil => exact .nil
  | cons op rest ih =>
      obtain ⟨hop, hrest⟩ := List.forall_mem_cons.1 hfits
      rw [Operation.created_cons, List.append_assoc] at hfresh
      have hnew : ∀ id ∈ op.created?, id ∉ ids := fun id hid hknown =>
        List.disjoint_of_nodup_append hfresh (Option.mem_toList.2 hid)
          (List.mem_append_right _ hknown)
      obtain ⟨halike, htwin⟩ := perform_alike ht hop hnew
      -- The id that was created just now is one of those that are kept from here on.
      exact .cons (htwin.coincide halike)
        (ih htwin hrest ((List.perm_append_comm_assoc _ _ _).nodup_iff.1 hfresh))

/-- Of two fleets without tasks, one with its store in memory and the other with a database, each
operation of any run gets the same answer, but for the text of a conflict, and leaves the same
events, the same ledger and the same tasks behind. -/
theorem interchangeable_stores {ops : List Operation} {state : StateStore}
    (hproper : Proper False f) (hmemory : f.store = .memory .empty) (hstate : state.tasks = .empty)
    (hfits : ∀ op ∈ ops, op.Fits) (hfresh : (ops.filterMap Operation.created?).Nodup) :
    List.Forall₂ Coincide (f.trace ops) ({ f with store := .durable state }.trace ops) := by
  have htwin : Twin [] f { f with store := .durable state } := by
    refine .intro (.durable state) f.trail hproper ?_ ?_
    · rw [hmemory]
      exact TaskStore.mirrors_empty hstate
    · intro id t hget
      rw [hmemory] at hget
      exact nomatch hget
  exact trace_coincide htwin hfits (by rwa [List.append_nil])

/-- A task as somebody writes it who has read it before it was placed. -/
def outdated : Task := { halfProcessor with version := 1 }

/-- A task is placed while somebody holds on to it, and cancelled as soon as the store takes it. -/
def dealings : List Operation :=
  [.resync [oneProcessor] 8, .insert halfProcessor, .pass halfProcessor.id, .put outdated,
    .turn { fresh 1010 runsOn with faults.put := [⟨0, .unavailable "down"⟩] },
    .cancel halfProcessor.id, .cancel halfProcessor.id, .pass halfProcessor.id,
    .get halfProcessor.id]

theorem interchangeable_stores_outdated :
    let inMemory := fresh 1000 runsOn
    let inDatabase := { inMemory with store := .durable .empty }
    List.Forall₂ Coincide (inMemory.trace dealings) (inDatabase.trace dealings) ∧
      (inMemory.trace dealings)[3]?.map Prod.fst =
        some (.task (some (.error (.conflict "n/t")))) ∧
      (inDatabase.trace dealings)[3]?.map Prod.fst =
        some (.task (some (.error
          (.conflict "version conflict on n/t: expected 1, found 3")))) := by
  have hproper {now : Nat} (hnow : now ≤ Text.max64) : Proper False (fresh now runsOn) :=
    proper_fresh hnow in_range_runs_on
  have hplain : halfProcessor.id.Plain := by decide +kernel
  have hcountable : halfProcessor.spec.Countable := by decide +kernel
  have hread : Task.decode .json halfProcessor.toJson = .ok halfProcessor := by decide +kernel
  have hreadAgain : Task.decode .json outdated.toJson = .ok outdated := by decide +kernel
  have hfits : ∀ op ∈ dealings, op.Fits := by
    unfold dealings
    simp only [List.forall_mem_cons]
    refine ⟨trivial, ⟨.document hread, hcountable, hplain⟩, hplain,
      ⟨.document hreadAgain, hcountable, hplain⟩, ?_, hplain, hplain, hplain, hplain,
      List.forall_mem_nil _⟩
    exact { hproper (by decide : 1010 ≤ Text.max64) with faults := nofun }
  refine ⟨interchangeable_stores (hproper (by decide)) rfl rfl hfits (by decide +kernel), ?_, ?_⟩
  · decide +kernel
  · decide +kernel

end Fleet

end TaskFleet
