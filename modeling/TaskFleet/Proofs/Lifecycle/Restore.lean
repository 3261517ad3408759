import TaskFleet.Proofs.Lifecycle.Passes
import TaskFleet.Proofs.Store.Versions

/-!
# Taking up reservations after a restart

When the daemon starts, the ledger knows of no reservation, and each stored task that claims one has
it taken up again or forfeits it in the database. As far as the store is concerned this is a chain of
moves like any other, whether all reservations could be looked at or not, and it ends the life of no
task (`restore_spec`). Where every task can be read it succeeds, and every task still can
(`restore_tends`).
-/

namespace TaskFleet

/-- A store in which every task that was live in another one still is, with its request for
cancellation. -/
def TaskStore.Spares (s s' : TaskStore) : Prop :=
  ∀ id t, s.get id = .ok t → t.isTerminal = false →
    ∃ t', s'.get id = .ok t' ∧ t'.isTerminal = false ∧ t'.cancelRequested = t.cancelRequested

/-- A store in which every execution that another one records is still recorded, by the same task. -/
def TaskStore.Records (s s' : TaskStore) : Prop :=
  ∀ id t handle, s.get id = .ok t → t.status.execution = some handle →
    ∃ t', s'.get id = .ok t' ∧ t'.status.execution = some handle

namespace TaskStore

variable {s s' s'' : TaskStore} {t next : Task}

/-- A store that has the tasks of another one spares them. -/
theorem spares_of_found (h : ∀ id t, s.get id = .ok t → s'.get id = .ok t) : s.Spares s' :=
  fun id t hget hlive => ⟨t, h id t hget, hlive, rfl⟩

/-- Tasks that are spared twice are spared. -/
theorem Spares.trans (h : s.Spares s') (h' : s'.Spares s'') : s.Spares s'' := by
  intro id t hget hlive
  obtain ⟨t', hget', hlive', hflag'⟩ := h id t hget hlive
  obtain ⟨t'', hget'', hlive'', hflag''⟩ := h' id t' hget' hlive'
  exact ⟨t'', hget'', hlive'', hflag''.trans hflag'⟩

/-- A write that neither ends a task nor touches its flag spares all tasks. -/
theorem Replaces.spares (h : s.Replaces t next s') (hlive : next.isTerminal = false)
    (hflag : next.cancelRequested = t.cancelRequested) : s.Spares s' := by
  intro id x hget hx
  by_cases hsame : x = t
  · subst hsame
    exact ⟨next, h.found id hget, hlive, hflag⟩
  · have hother : s.get id ≠ .ok t := fun ht => hsame (Except.ok.inj (hget.symm.trans ht))
    exact ⟨x, (h.others id hother).trans hget, hx, rfl⟩

/-- A store that has the tasks of another one records what it does. -/
theorem records_of_found (h : ∀ id t, s.get id = .ok t → s'.get id = .ok t) : s.Records s' :=
  fun id t _ hget hexecution => ⟨t, h id t hget, hexecution⟩

/-- What stays recorded twice stays recorded. -/
theorem Records.trans (h : s.Records s') (h' : s'.Records s'') : s.Records s'' := by
  intro id t handle hget hexecution
  obtain ⟨t', hget', hexecution'⟩ := h id t handle hget hexecution
  exact h' id t' handle hget' hexecution'

/-- A write that keeps the execution of its task keeps all that are recorded. -/
theorem Replaces.records (h : s.Replaces t next s')
    (hkept : ∀ handle, t.status.execution = some handle → next.status.execution = some handle) :
    s.Records s' := by
  intro id x handle hget hexecution
  by_cases hsame : x = t
  · subst hsame
    exact ⟨next, h.found id hget, hkept handle hexecution⟩
  · have hother : s.get id ≠ .ok t := fun ht => hsame (Except.ok.inj (hget.symm.trans ht))
    exact ⟨x, (h.others id hother).trans hget, hexecution⟩

end TaskStore

/-- A database before and after some of its tasks were written anew: the agents are as they were, and
if every task could be read, every task still can. -/
structure StateStore.Tends (s s' : StateStore) : Prop where
  agents : s'.agents = s.agents
  readable : (TaskStore.durable s).Readable → (TaskStore.durable s').Readable

/-- What is done to the records of live tasks may be done in two parts. -/
theorem StateStore.Tends.trans {s s' s'' : StateStore} (h : s.Tends s') (h' : s'.Tends s'') :
    s.Tends s'' :=
  ⟨h'.agents.trans h.agents, fun hreadable => h'.readable (h.readable hreadable)⟩

/-- A task that loses its reservation at a restart lives on. -/
theorem forfeit_live {t : Task} (hlive : t.isTerminal = false) (agent : String) (now : Nat) :
    (t.forfeit agent now).isTerminal = false ∧
      (t.forfeit agent now).cancelRequested = t.cancelRequested := by
  unfold Task.forfeit
  dsimp only
  split
  · exact ⟨hlive, rfl⟩
  · exact ⟨rfl, rfl⟩

/-- A task that loses its reservation at a restart keeps its execution. -/
theorem forfeit_execution (t : Task) (agent : String) (now : Nat) :
    (t.forfeit agent now).status.execution = t.status.execution := by
  unfold Task.forfeit
  dsimp only
  split
  · rfl
  · exact TaskStatus.execution_transition ..

namespace Daemon

open Fleet

variable {h h' h'' : Host} {t : Task} {state : StateStore}

/-- Running `x` on a host ends with a result and a host that satisfy `q`. -/
def Ensures {α : Type} (x : BootM α) (h : Host) (q : Except DaemonError α → Host → Prop) : Prop :=
  q (x.run.run h).1 (x.run.run h).2

section Ensures

variable {α β : Type} {x : BootM α} {g : α → BootM β} {p : Except DaemonError α → Host → Prop}
  {q : Except DaemonError β → Host → Prop}

/-- What is ensured of two stages: a failure of the first is one of both. -/
theorem Ensures.bind (hx : Ensures x h p) (hok : ∀ a h', p (.ok a) h' → Ensures (g a) h' q)
    (herror : ∀ e h', p (.error e) h' → q (.error e) h') : Ensures (x >>= g) h q := by
  unfold Ensures at hx ⊢
  rw [ExceptT.run_bind, StateT.run_bind]
  rcases hrun : x.run.run h with ⟨r, h'⟩
  rw [hrun] at hx
  cases r with
  | error e => exact herror e h' hx
  | ok a => exact hok a h' hx

/-- A look at the host answers with the host. -/
theorem ensures_get {g : Host → BootM β} (hg : Ensures (g h) h q) : Ensures (get >>= g) h q := hg

/-- A look at the database answers with what the host keeps there. -/
theorem ensures_database {g : StateStore → BootM β}
    (hstate : h.fleet.store.state?.getD .empty = state) (hg : Ensures (g state) h q) :
    Ensures (database >>= g) h q := by
  show Ensures (g (h.fleet.store.state?.getD .empty)) h q
  rw [hstate]
  exact hg

/-- A fleet that keeps its tasks in a database has that database. -/
theorem database_of_durable (hstore : h.fleet.store = .durable state) :
    h.fleet.store.state?.getD .empty = state := by
  rw [hstore]
  rfl

/-- A fleet that keeps its tasks in memory has an empty database. -/
theorem database_of_memory {tasks : Dict TaskId Task} (hstore : h.fleet.store = .memory tasks) :
    h.fleet.store.state?.getD .empty = .empty := by
  rw [hstore]
  rfl

/-- A computation on the fleet does not fail by itself. -/
theorem on_fleet_spec {y : FleetM α} {r : α → Fleet → Prop} (hy : Fleet.Ensures y h.fleet r) :
    Ensures (onFleet y) h fun result h' => ∃ a, result = .ok a ∧ r a h'.fleet :=
  ⟨_, rfl, hy⟩

/-- What is ensured may be weakened. -/
theorem Ensures.imp (hx : Ensures x h p) {r : Except DaemonError α → Host → Prop}
    (hpr : ∀ a h', p a h' → r a h') : Ensures x h r :=
  hpr _ _ hx

end Ensures

/-- A host before and after it was at work. -/
structure Restores (h h' : Host) : Prop extends Leads False h.fleet {} h'.fleet {} where
  spares : h.fleet.store.Spares h'.fleet.store
  unplaced : ∀ id t, h.fleet.store.get id = .ok t → t.status.agent = none →
    h'.fleet.store.get id = .ok t
  records : h.fleet.store.Records h'.fleet.store
  same : ∃ store ledger signals, h'.fleet = { h.fleet with store, ledger, signals }

/-- Nothing has become of the store. -/
theorem restores_of_ledger {ledger : Ledger} {signals : Nat}
    (hfleet : h'.fleet = { h.fleet with ledger, signals }) (hproper : Proper False h.fleet) :
    Restores h h' := by
  have hproper' : Proper False h'.fleet := by
    rw [hfleet]
    exact { hproper with }
  have hstore : h'.fleet.store = h.fleet.store := by rw [hfleet]
  exact
    { toLeads := leads_of_unsteady {} {} id (by rw [hfleet]) hstore hproper'
      spares := TaskStore.spares_of_found fun _ _ hget => hstore ▸ hget
      unplaced := fun _ _ hget _ => hstore ▸ hget
      records := TaskStore.records_of_found fun _ _ hget => hstore ▸ hget
      same := ⟨h.fleet.store, ledger, signals, hfleet⟩ }

/-- Reservations may be restored one after the other. -/
theorem Restores.trans (hr : Restores h h') (hr' : Restores h' h'') : Restores h h'' where
  toLeads := hr.toLeads.trans hr'.toLeads
  spares := hr.spares.trans hr'.spares
  unplaced := fun id t hget hagent => hr'.unplaced id t (hr.unplaced id t hget hagent) hagent
  records := hr.records.trans hr'.records
  same := by
    obtain ⟨store, ledger, signals, hfleet⟩ := hr.same
    obtain ⟨store', ledger', signals', hfleet'⟩ := hr'.same
    exact ⟨store', ledger', signals', by rw [hfleet', hfleet]⟩

/-- Taking up reservations keeps a fleet proper, whatever is asked of its run. -/
theorem Restores.keeps {steady : Prop} (hr : Restores h h') (hproper : Proper steady h.fleet) :
    Proper steady h'.fleet := by
  have hsound := hr.proper.sound
  obtain ⟨store, ledger, signals, hfleet⟩ := hr.same
  rw [hfleet] at hsound ⊢
  exact { hproper with sound := hsound }

/-- A task claims no reservation, or its reservation is made again, or it is forfeited in the
database. -/
theorem restore_reservation_cases {q : Except DaemonError Bool → Host → Prop}
    (hstore : h.fleet.store = .durable state)
    (hidle : t.status.agent = none ∨ t.status.resourcesUsed.isEmpty = true → q (.ok false) h)
    (htakes : ∀ agent ledger (h' : Host), t.status.agent = some agent →
      t.status.resourcesUsed.isEmpty = false →
      h.fleet.ledger.reserve agent t.status.resourcesUsed = .ok ledger →
      h'.fleet = { h.fleet with ledger, signals := h.fleet.signals + 1 } → q (.ok true) h')
    (hforfeits : ∀ agent e (h' : Host), t.status.agent = some agent →
      t.status.resourcesUsed.isEmpty = false →
      h.fleet.ledger.reserve agent t.status.resourcesUsed = .error e → h'.fleet = h.fleet →
      ∃ state' stored, state.putTask (t.forfeit agent h.fleet.now) = .ok (state', stored) ∧
        q (.ok false) { h' with fleet.store := .durable state' }) :
    Ensures (restoreReservation t) h q := by
  unfold restoreReservation
  cases hagent : t.status.agent with
  | none => exact hidle (.inl hagent)
  | some agent =>
      dsimp only
      cases hempty : t.status.resourcesUsed.isEmpty with
      | true => exact hidle (.inr hempty)
      | false =>
          have hbook := on_fleet_spec (book_ensures (.reserve agent t.status.resourcesUsed) h.fleet)
          refine hbook.bind ?_ fun e h₁ hr => nomatch hr
          rintro r h₁ ⟨_, hr, hbooked⟩
          cases hr
          cases hreserve : h.fleet.ledger.book (.reserve agent t.status.resourcesUsed) with
          | ok ledger =>
              rw [hreserve] at hbooked
              obtain ⟨rfl, hfleet⟩ := hbooked
              exact htakes agent ledger h₁ hagent hempty hreserve hfleet
          | error e =>
              rw [hreserve] at hbooked
              obtain ⟨rfl, hfleet⟩ := hbooked
              obtain ⟨state', stored, hput, hq⟩ := hforfeits agent e h₁ hagent hempty hreserve hfleet
              have hstore₁ : h₁.fleet.store = .durable state := by rw [hfleet, hstore]
              refine ensures_get (ensures_database (database_of_durable hstore₁) ?_)
              rw [hfleet, hput]
              exact hq

/-- Taking up the reservation of a stored task succeeds, and leaves the other tasks as they are. -/
theorem restore_reservation_spec (hproper : Proper False h.fleet)
    (hstore : h.fleet.store = .durable state) (hget : h.fleet.store.get t.id = .ok t)
    (hlive : t.isTerminal = false) :
    Ensures (restoreReservation t) h fun r h' => ∃ taken state', r = .ok taken ∧
      Restores h h' ∧ h'.fleet.store = .durable state' ∧ state.Tends state' ∧
        ∀ other, h.fleet.store.get other.id = .ok other → other ≠ t →
          h'.fleet.store.get other.id = .ok other := by
  refine restore_reservation_cases hstore ?_ ?_ ?_
  · exact fun _ => ⟨false, state, rfl, restores_of_ledger rfl hproper, hstore, ⟨rfl, id⟩,
      fun _ hother _ => hother⟩
  · intro agent ledger h' _ _ _ hfleet
    refine ⟨true, state, rfl, restores_of_ledger hfleet hproper, ?_, ⟨rfl, id⟩, ?_⟩
    · rw [hfleet, hstore]
    · intro other hother _
      rw [hfleet]
      exact hother
  -- What cannot be reserved again is forfeited, in the database alone.
  · intro agent e h' hagent _ _ hfleet
    have hrevision : Revision h.fleet.now t (t.forfeit agent h.fleet.now) := .forfeit agent hagent
    obtain ⟨hid, hversion, -, -⟩ := hrevision.keeps
    have hkeeps := keeps_of_revision hproper.sound hproper.now hget hrevision
    obtain ⟨s', hput, hsound, hreplaces⟩ :=
      TaskStore.put_of_get hproper.sound hget hid hversion hkeeps
    rw [hstore] at hput hkeeps
    obtain ⟨state', hstate, rfl⟩ := TaskStore.put_durable hput
    obtain ⟨hstored, -, -, hlegible⟩ := StateStore.stored_of_write (.inr hstate)
    have htends : state.Tends state' := by
      refine ⟨by rw [hstored]; rfl, fun hreadable => ?_⟩
      rw [hstored]
      exact TaskStore.readable_store hreadable (hlegible hkeeps)
    have hmove := Move.write (b := h.fleet.books) t _ _ {} hget hlive hrevision hreplaces
      (nofun : False → _)
    have hleads : Leads False h.fleet {} { h.fleet with store := .durable state' } {} :=
      ⟨rfl, { hproper with sound := hsound }, .tail (.single hmove) (.upset _ id rfl)⟩
    obtain ⟨hlive', hflag⟩ := forfeit_live hlive agent h.fleet.now
    have hkept := forfeit_execution t agent h.fleet.now
    refine ⟨state', _, hstate, false, state', rfl, ⟨?_, hreplaces.spares hlive' hflag, ?_,
      hreplaces.records fun _ hexecution => hkept.trans hexecution, ?_⟩, rfl, htends, ?_⟩
    · dsimp only
      rw [hfleet]
      exact hleads
    · intro id other hother hunplaced
      have hne : h.fleet.store.get id ≠ .ok t := by
        intro hsame
        cases hother.symm.trans hsame
        exact nomatch hagent.symm.trans hunplaced
      exact (hreplaces.others id hne).trans hother
    · exact ⟨.durable state', h.fleet.ledger, h.fleet.signals, by dsimp only; rw [hfleet]⟩
    · intro other hother hne
      show (TaskStore.durable state').get other.id = .ok other
      rw [hreplaces.others other.id fun h => hne (Except.ok.inj (hother.symm.trans h))]
      exact hother

/-- Taking up the reservations of stored tasks, all different ones, one after the other. -/
theorem restore_all_spec {tasks : List Task} {restored : Nat} (hproper : Proper False h.fleet)
    (hstore : h.fleet.store = .durable state) (hnodup : tasks.Nodup)
    (hstored : ∀ t ∈ tasks, h.fleet.store.get t.id = .ok t ∧ t.isTerminal = false) :
    Ensures (tasks.foldlM (fun n t => return n + (← restoreReservation t).toNat) restored) h
      fun r h' => ∃ count state', r = .ok count ∧ Restores h h' ∧
        h'.fleet.store = .durable state' ∧ state.Tends state' := by
  induction tasks generalizing h state restored with
  | nil => exact ⟨restored, state, rfl, restores_of_ledger rfl hproper, hstore, ⟨rfl, id⟩⟩
  | cons t rest ih =>
      obtain ⟨hnot, hrest⟩ := List.nodup_cons.1 hnodup
      obtain ⟨hget, hlive⟩ := hstored t List.mem_cons_self
      rw [List.foldlM_cons, bind_assoc]
      refine (restore_reservation_spec hproper hstore hget hlive).bind ?_ ?_
      · rintro taken h₁ ⟨_, state₁, -, hrestores, hstore₁, htends, hothers⟩
        -- The list was made before the first write; that no task is in it twice keeps it true.
        have hstored₁ : ∀ other ∈ rest, h₁.fleet.store.get other.id = .ok other ∧
            other.isTerminal = false := by
          intro other hother
          obtain ⟨hget', hlive'⟩ := hstored other (List.mem_cons_of_mem _ hother)
          have hne : other ≠ t := fun heq => hnot (heq ▸ hother)
          exact ⟨hothers other hget' hne, hlive'⟩
        refine (ih hrestores.proper hstore₁ hrest hstored₁).imp ?_
        rintro r h' ⟨count, state', hr, hrestores', hstore', htends'⟩
        exact ⟨count, state', hr, hrestores.trans hrestores', hstore', htends.trans htends'⟩
      · rintro e h₁ ⟨taken, state₁, hr, -⟩
        exact nomatch hr

/-- Where every task can be read, taking up all reservations succeeds. -/
theorem restore_tends (hproper : Proper False h.fleet) (hstore : h.fleet.store = .durable state)
    {tasks : List Task} (hlist : state.listTasks = .ok tasks) :
    Ensures restoreReservations h fun r h' => ∃ count state', r = .ok count ∧ Restores h h' ∧
      h'.fleet.store = .durable state' ∧ state.Tends state' := by
  have hsound : (TaskStore.durable state).Sound := hstore ▸ hproper.sound
  obtain ⟨hnodup, hstored⟩ := TaskStore.list_tasks_spec hsound hlist
  unfold restoreReservations
  refine ensures_database (database_of_durable hstore) ?_
  unfold StateStore.listActiveTasks
  rw [hlist]
  refine restore_all_spec hproper hstore (hnodup.filter _) fun t ht => ?_
  obtain ⟨hmem, hlive⟩ := List.mem_filter.1 ht
  refine ⟨?_, by simpa using hlive⟩
  rw [hstore]
  exact hstored t hmem

/-- Taking up all reservations is a chain of moves, whether it succeeds or not, and spares every
task, and leaves those without an agent as they are. -/
theorem restore_spec (hproper : Proper False h.fleet) :
    Ensures restoreReservations h fun _ h' => Restores h h' := by
  cases hstore : h.fleet.store with
  | memory tasks =>
      unfold restoreReservations
      refine ensures_database (database_of_memory hstore) ?_
      exact restores_of_ledger rfl hproper
  | durable state =>
      cases hlist : state.listTasks with
      | error e =>
          unfold restoreReservations
          refine ensures_database (database_of_durable hstore) ?_
          unfold StateStore.listActiveTasks
          rw [hlist]
          exact restores_of_ledger rfl hproper
      | ok tasks =>
          refine (restore_tends hproper hstore hlist).imp ?_
          rintro r h' ⟨count, state', -, hrestores, -⟩
          exact hrestores

end Daemon

end TaskFleet
