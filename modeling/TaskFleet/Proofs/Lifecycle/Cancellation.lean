import TaskFleet.Proofs.Lifecycle.Calm
import TaskFleet.Proofs.Lifecycle.Frame
import TaskFleet.Proofs.Lifecycle.StateMachine

/-!
# Requested cancellations

Once its cancellation was requested a task is on its way to being cancelled, whatever fails or is
interrupted from then on: `cancelled_as_requested`. A pass that finds the task does nothing but
stop its execution and record its end (`Cancels`), and does so if nothing disturbs it
(`reconcile_cancels`). A pass that finds another task leaves this one alone, and what happens
between passes takes the request from no task.
-/

namespace TaskFleet

open Relation (ReflTransGen)

/-- A task whose cancellation was requested and that has not ended otherwise. -/
structure Task.CalledOff (t : Task) : Prop where
  requested : t.cancelRequested = true
  open_or_cancelled : t.isTerminal = false ∨ t.phase = .cancelled

/-- A task as it is stored when it is cancelled. -/
def Task.cancelledAt (t : Task) (now : Nat) : Task :=
  (t.asCancelled now).bump

/-- The ledger after what a task holds was given back. An agent that is gone has nothing to give
back to. -/
def Ledger.relieve (l : Ledger) (t : Task) : Ledger :=
  match t.status.agent with
  | none => l
  | some agent => match l.release agent t.status.resourcesUsed with
    | .ok l' => l'
    | .error _ => l

namespace Books

/-- The books after the substrate was asked to stop the execution of a task, if it has one. -/
def stop (b : Books) (t : Task) : Books :=
  match t.status.execution with
  | none => b
  | some handle => { b with trail := .cancel handle :: b.trail }

/-- The books after a task was stored. -/
def record (b : Books) (t : Task) (store : TaskStore) : Books :=
  { b with store, trail := .store t :: b.trail }

/-- The books after what a task held was given back, and its execution dropped if it has one and
that does not fail. -/
def relieve (b : Books) (t : Task) : Books :=
  match t.status.execution with
  | none => { b with ledger := b.ledger.relieve t }
  | some handle => { b with
      ledger := b.ledger.relieve t
      substrate :=
        if (Fault.next b.forgets).1.isSome then b.substrate else b.substrate.forget handle
      forgets := (Fault.next b.forgets).2
      trail := .forget handle :: b.trail }

variable {b : Books} {t : Task}

theorem store_stop : (b.stop t).store = b.store := by
  unfold stop
  split <;> rfl

theorem store_relieve : (b.relieve t).store = b.store := by
  unfold relieve
  split <;> rfl

end Books

namespace Fleet

variable {f f' start : Fleet} {id other : TaskId} {t next : Task} {agent : String} {o : Outcome}

/-- A pass that has cancelled a task: it has stopped the execution, stored the end, and given back
what the task held, in this order, and is done. -/
structure Lands (t : Task) (f : Fleet) (o : Outcome) (f' : Fleet) : Prop where
  done : o = .done
  replaces : f.store.Replaces t (t.cancelledAt f.now) f'.store
  books : f'.books = ((f.books.stop t).record (t.cancelledAt f.now) f'.store).relieve t

/-- What comes of a pass that is to cancel a task. If a fault or an interrupt keeps the end of the
task from being stored, the execution was stopped at most and the pass is not done, unless the fault
says that the task is not there. -/
inductive Cancels (t : Task) (f : Fleet) (o : Outcome) (f' : Fleet) : Prop where
  | lands (hlands : Lands t f o f')
  | fails (hbooks : f'.books = f.books.stop t) (hagain : o ≠ .done)
  | misled (key : String) (hfault : ∃ fault ∈ f.faults.put, fault.error = .notFound key)
      (hbooks : f'.books = (f.books.stop t).relieve t)

/-- What comes of a pass as far as a task is concerned whose cancellation was requested: the pass
finds nothing to do, or it is for another task, or it is to cancel this one. -/
inductive Heeds (t : Task) (other : TaskId) (f : Fleet) (o : Outcome) (f' : Fleet) : Prop where
  | idle (hbooks : f'.books = f.books)
  | apart (u : Task) (hfound : f.store.get other = .ok u) (hother : u.id ≠ t.id)
      (htends : Tends u f f')
  | cancels (hfound : f.store.get other = .ok t) (hlive : t.isTerminal = false)
      (hcancels : Cancels t f o f')

/-- A fleet in which a pass over a task begins. -/
def begun (f : Fleet) (id : TaskId) : Fleet :=
  { f with trail := .pass id :: f.trail }

/-- A pass that began in a fleet and has come to these books without writing anything. -/
structure Reached (f : Fleet) (b : Books) (f' : Fleet) : Prop where
  clock : f'.clock = f.clock
  faults : f'.faults.put = f.faults.put
  books : f'.books = b
  proper : Proper False f'

section Cancelling

/-- What a task held is given back in this order: its reservation, then its execution. -/
theorem settle_books (h : Proper False f) (hagent : t.status.agent = some agent) :
    Ensures (settle t agent) f fun _ f' => f'.books = f.books.relieve t := by
  have hrelease : Ensures (release agent t.status.resourcesUsed) f fun _ f' =>
      f'.books = { f.books with ledger := f.ledger.relieve t } := by
    unfold release
    refine (book_spec (.release agent t.status.resourcesUsed) h).bind ?_
    rintro r f₁ ⟨-, hbooks, -, hr⟩
    have hledger : f₁.ledger = f.ledger.relieve t := by
      unfold Ledger.relieve
      rw [hagent]
      dsimp only
      cases r with
      | ok =>
          rw [show f.ledger.release agent t.status.resourcesUsed = .ok f₁.ledger from hr]
      | error e =>
          obtain ⟨herror, hsame⟩ := hr
          rw [show f.ledger.release agent t.status.resourcesUsed = .error e from herror, hsame]
    rw [← hledger]
    exact hbooks
  unfold settle
  refine hrelease.bind fun _ f₁ hbooks => ?_
  unfold Books.relieve
  cases t.status.execution with
  | none => exact hbooks
  | some handle =>
      refine (forget_execution_books handle f₁).imp fun _ f₂ hforget => ?_
      have hsubstrate : f₁.substrate = f.substrate := congrArg Books.substrate hbooks
      have hforgets : f₁.faults.forget = f.faults.forget := congrArg Books.forgets hbooks
      have htrail : f₁.trail = f.trail := congrArg Books.trail hbooks
      rw [hforget, hbooks, hsubstrate, hforgets, htrail]
      rfl

/-- The end of a task that is to be cancelled is recorded, or nothing has happened. -/
theorem put_cancelled_spec (h : Reached f (f.books.stop t) f') (hget : f.store.get id = .ok t)
    (hrequested : t.cancelRequested = true) :
    Ensures (interruptible (putTask (t.asCancelled f'.now))) f' fun r f'' =>
      Proper False f'' ∧
        match r with
        | none => f''.books = f.books.stop t
        | some (.error e) => f''.books = f.books.stop t ∧ ∃ fault ∈ f.faults.put, fault.error = e
        | some (.ok _) => ∃ store, f.store.Replaces t (t.cancelledAt f.now) store ∧
            f''.books = (f.books.stop t).record (t.cancelledAt f.now) store := by
  have hstore : f'.store = f.store := (congrArg Books.store h.books).trans Books.store_stop
  have htrail : f'.trail = (f.books.stop t).trail := congrArg Books.trail h.books
  have hget' : f'.store.get id = .ok t := hstore ▸ hget
  have hrevision : Revision f'.now t (t.asCancelled f'.now) := .cancel _ hrequested
  obtain ⟨hid, hversion, -, -⟩ := hrevision.keeps
  refine interruptible_spec ⟨h.proper, h.books⟩ ?_
  refine (put_task_spec h.proper hget' hid hversion
    (keeps_of_revision h.proper.sound h.proper.now hget' hrevision)).imp fun r f₁ hr => ?_
  match r with
  | none => exact ⟨hr.proper, hr.books.trans h.books⟩
  | some (.error e) => exact ⟨hr.1.proper, hr.1.books.trans h.books, h.faults ▸ hr.2⟩
  | some (.ok stored) =>
      obtain ⟨-, -, hbooks, hreplaces, hproper⟩ := hr
      rw [now_congr h.clock, hstore] at hreplaces
      rw [now_congr h.clock, h.books, htrail] at hbooks
      exact ⟨hproper, f₁.store, hreplaces, hbooks⟩

/-- A task was cancelled if the books say so. -/
theorem lands_of_books {store : TaskStore}
    (hreplaces : f.store.Replaces t (t.cancelledAt f.now) store)
    (hbooks : f'.books = ((f.books.stop t).record (t.cancelledAt f.now) store).relieve t) :
    Lands t f .done f' := by
  obtain rfl : f'.store = store := (congrArg Books.store hbooks).trans Books.store_relieve
  exact ⟨rfl, hreplaces, hbooks⟩

theorem finish_cancels (h : Reached f (f.books.stop t) f') (hget : f.store.get id = .ok t)
    (hrequested : t.cancelRequested = true) (hagent : t.status.agent = some agent) :
    Ensures (finish t (t.asCancelled f'.now) agent) f' (Cancels t f) := by
  unfold finish
  refine (put_cancelled_spec h hget hrequested).bind ?_
  rintro r f₁ ⟨hproper, hr⟩
  match r with
  | none => exact .fails hr nofun
  | some (.ok stored) =>
      obtain ⟨store, hreplaces, hbooks⟩ := hr
      refine (settle_books hproper hagent).bind fun _ f₂ hsettled => ?_
      rw [hbooks] at hsettled
      exact .lands (lands_of_books hreplaces hsettled)
  | some (.error (.notFound key)) =>
      refine (settle_books hproper hagent).bind fun _ f₂ hsettled => ?_
      rw [hr.1] at hsettled
      exact .misled key hr.2 hsettled
  | some (.error (.conflict key)) => exact ensures_get (.fails hr.1 nofun)
  | some (.error (.unavailable cause)) => exact ensures_get (.fails hr.1 nofun)

/-- A task that is over does not say the same as one that is not. -/
theorem not_same_of_terminal (hlive : t.isTerminal = false) (hterminal : next.isTerminal = true) :
    ¬ next.status.same t.status = true := by
  intro hsame
  have hphase := congrArg TaskStatus.phase (TaskStatus.rest_of_same hsame)
  have hphase : next.phase = t.phase := hphase
  rw [Task.isTerminal, hphase] at hterminal
  exact Bool.false_ne_true (hlive.symm.trans hterminal)

theorem write_cancels (h : Reached f (f.books.stop t) f') (hget : f.store.get id = .ok t)
    (hlive : t.isTerminal = false) (hrequested : t.cancelRequested = true)
    (hagent : t.status.agent = none) (hexecution : t.status.execution = none) :
    Ensures (write t (t.asCancelled f'.now) .done) f' (Cancels t f) := by
  have hnothing (b : Books) : b.relieve t = b := by
    unfold Books.relieve Ledger.relieve
    rw [hexecution, hagent]
  unfold write
  rw [if_neg (not_same_of_terminal hlive rfl)]
  refine (put_cancelled_spec h hget hrequested).bind ?_
  rintro r f₁ ⟨-, hr⟩
  match r with
  | none => exact .fails hr nofun
  | some (.ok stored) =>
      obtain ⟨store, hreplaces, hbooks⟩ := hr
      exact .lands (lands_of_books hreplaces (hbooks.trans (hnothing _).symm))
  | some (.error (.notFound key)) =>
      exact ensures_get (.misled key hr.2 (hr.1.trans (hnothing _).symm))
  | some (.error (.conflict key)) => exact ensures_get (.fails hr.1 nofun)
  | some (.error (.unavailable cause)) => exact ensures_get (.fails hr.1 nofun)

theorem cancel_task_cancels (h : Reached f f.books f') (hget : f.store.get id = .ok t)
    (hlive : t.isTerminal = false) (hrequested : t.cancelRequested = true)
    (hlawful : t.status.Lawful) :
    Ensures (cancelTask t) f' (Cancels t f) := by
  refine cancel_task_stages (p := Reached f (f.books.stop t)) ?_ ?_ ?_ ?_
  · intro hexecution
    have hstop : f.books.stop t = f.books := by
      unfold Books.stop
      rw [hexecution]
    exact hstop.symm ▸ h
  · intro handle hexecution
    have hfaults : Ensures (cancelExecution handle) f' fun _ f₁ =>
      f₁.faults.put = f'.faults.put := rfl
    refine ((cancel_execution_spec handle h.proper).and hfaults).imp ?_
    rintro _ f₁ ⟨hnotes, hput⟩
    refine ⟨hnotes.clock.trans h.clock, hput.trans h.faults, ?_, hnotes.proper⟩
    unfold Books.stop
    rw [hnotes.books, hexecution, show f'.trail = f.trail from congrArg Books.trail h.books,
      h.books]
    rfl
  · exact fun f₁ agent hstopped hagent => finish_cancels hstopped hget hrequested hagent
  · exact fun f₁ hstopped hagent =>
      write_cancels hstopped hget hlive hrequested hagent (hlawful.idle hagent)

end Cancelling

section Pass

/-- Reading a task uses up no fault of writing. -/
theorem get_task_faults (id : TaskId) (f : Fleet) :
    Ensures (getTask id) f fun _ f' => f'.faults.put = f.faults.put := by
  unfold Ensures
  rw [get_task_run]
  rcases f.token.meet .get with ⟨_ | _, token⟩
  · rcases Fault.next f.faults.get with ⟨_ | e, rest⟩
    · exact rfl
    · exact rfl
  · exact rfl

/-- A pass over any task, in view of one whose cancellation was requested. -/
theorem reconcile_heeds (other : TaskId) (h : Proper False f) (hlawful : f.store.Lawful)
    (hget : f.store.get id = .ok t) (ht : t.CalledOff) :
    Ensures (reconcile other) f (Heeds t other (f.begun other)) := by
  have hbegun : Proper False (f.begun other) := { h with }
  unfold reconcile
  refine ensures_modify ?_
  show Ensures _ (f.begun other) _
  have hread := (get_task_spec other hbegun).and (get_task_faults other (f.begun other))
  refine (interruptible_spec ⟨⟨hbegun.quiet, fun _ hu => nomatch hu⟩, rfl⟩ hread).bind ?_
  rintro r f₁ ⟨⟨hq, hfound⟩, hput⟩
  match r with
  | none => exact .idle hq.books
  | some (.error (.notFound key)) => exact .idle hq.books
  | some (.error (.conflict key)) => exact ensures_get (.idle hq.books)
  | some (.error (.unavailable cause)) => exact ensures_get (.idle hq.books)
  | some (.ok u) =>
      have hu : f.store.get other = .ok u := hfound u rfl
      by_cases hid : u.id = t.id
      · obtain rfl : u = t := TaskStore.eq_of_get h.sound hu hget hid
        show Ensures (advance u) f₁ _
        unfold advance
        cases hlive : u.isTerminal with
        | true => exact .idle hq.books
        | false =>
            rw [ht.requested]
            have hreached : Reached (f.begun other) (f.begun other).books f₁ :=
              ⟨hq.clock, hput, hq.books, hq.proper⟩
            exact (cancel_task_cancels hreached hu hlive ht.requested
              (hlawful u (TaskStore.mem_tasks_of_get hu))).imp fun _ _ hc => .cancels hu hlive hc
      · exact (advance_confined hq.proper (hq.get hu)).imp
          fun _ _ htends => .apart u hu hid (hq.tends htends)

/-- A pass leaves a task whose cancellation was requested as it is, or cancels it. -/
theorem Heeds.get (h : Heeds t other f o f') (hget : f.store.get id = .ok t) :
    f'.store.get id = .ok t ∨
      f'.store.get id = .ok (t.cancelledAt f.now) ∧ Lands t f o f' := by
  cases h with
  | idle hbooks =>
      rw [show f'.store = f.store from congrArg Books.store hbooks]
      exact .inl hget
  | apart u hfound hother htends =>
      obtain ⟨l, -, hconfined⟩ := htends
      exact .inl (hconfined.others id t hget (Ne.symm hother))
  | cancels hfound hlive hcancels =>
      cases hcancels with
      | lands hlands => exact .inr ⟨hlands.replaces.found id hget, hlands⟩
      | fails hbooks hagain =>
          have hstore : f'.store = f.store := (congrArg Books.store hbooks).trans Books.store_stop
          rw [hstore]
          exact .inl hget
      | misled key hfault hbooks =>
          have hstore : f'.store = f.store :=
            (congrArg Books.store hbooks).trans (Books.store_relieve.trans Books.store_stop)
          rw [hstore]
          exact .inl hget

/-- A pass that nothing disturbs cancels a task whose cancellation was requested. -/
theorem reconcile_cancels (h : Calm f) (hget : f.store.get id = .ok t)
    (hlive : t.isTerminal = false) (hrequested : t.cancelRequested = true) :
    Ensures (reconcile id) f fun o f' =>
      o = .done ∧ f'.store.get id = .ok (t.cancelledAt f.now) := by
  refine reconcile_calm h hget ?_
  unfold advance
  rw [hlive, hrequested]
  refine cancel_task_stages (p := fun f₁ => Calm f₁ ∧ f₁.now = f.now ∧ f₁.store.get id = .ok t)
    ?_ ?_ ?_ ?_
  · exact fun _ => ⟨h.note _, rfl, hget⟩
  · intro handle _
    refine (cancel_execution_calm handle (h.note _)).imp ?_
    rintro _ f₁ ⟨hfollows, hstore⟩
    exact ⟨hfollows.calm, hfollows.now_eq, hstore ▸ hget⟩
  · rintro f₁ agent ⟨hcalm, hnow, hget₁⟩ _
    rw [← hnow]
    exact finish_calm hcalm hget₁ (.cancel _ hrequested)
  · rintro f₁ ⟨hcalm, hnow, hget₁⟩ _
    rw [← hnow]
    unfold write
    rw [if_neg (not_same_of_terminal hlive rfl)]
    refine (put_calm hcalm hget₁ (.cancel _ hrequested)).bind ?_
    rintro _ f₂ ⟨rfl, -, hstored⟩
    exact ⟨rfl, hstored⟩

end Pass

section Runs

/-- A request for the cancellation of any task leaves those alone for which there is one. -/
theorem flag_cancelled_keeps (other : TaskId) (attempts : Nat) (h : Proper False f)
    (hget : f.store.get id = .ok t) (hrequested : t.cancelRequested = true) :
    Ensures (flagCancelled other attempts) f fun _ f' => f'.store.get id = .ok t := by
  induction attempts generalizing f with
  | zero => exact hget
  | succ attempts ih =>
      unfold flagCancelled
      refine (get_task_spec other h).bind ?_
      rintro r f₁ ⟨hq, hfound⟩
      have hget₁ : f₁.store.get id = .ok t := hq.get hget
      rcases r with _ | e | u
      · exact hget₁
      · exact hget₁
      · have hu : f₁.store.get other = .ok u := hq.get (hfound u rfl)
        dsimp only
        cases hover : u.isTerminal || u.cancelRequested with
        | true => exact hget₁
        | false =>
            have hid : t.id ≠ u.id := fun hid => by
              obtain rfl : t = u := TaskStore.eq_of_get hq.proper.sound hget₁ hu hid
              rw [hrequested, Bool.or_true] at hover
              cases hover
            refine (put_task_confined hq.proper hu .flag).bind ?_
            rintro r f₂ ⟨hconfined, -⟩
            have hget₂ : f₂.store.get id = .ok t := hconfined.others id t hget₁ hid
            rcases r with _ | e | stored
            · exact hget₂
            · cases e with
              | notFound => exact hget₂
              | unavailable => exact hget₂
              | conflict =>
                  dsimp only
                  cases attempts with
                  | zero => exact hget₂
                  | succ attempts => exact ih hconfined.proper hget₂
            · exact hget₂

/-- Every step keeps the request for a task's cancellation, and ends the task in no other way. -/
theorem called_off_step (h : Proper False f) (hlawful : f.store.Lawful) (hstep : Step False f f')
    (hget : f.store.get id = .ok t) (ht : t.CalledOff) :
    ∃ t', f'.store.get id = .ok t' ∧ t'.CalledOff := by
  cases hlive : t.isTerminal with
  | true => exact ⟨t, settled_step h hstep hget hlive, ht⟩
  | false =>
      cases hstep with
      | create new stored store key hinitial hnew hinsert =>
          exact ⟨t, (TaskStore.insert_spec h.sound hinsert hnew hinitial).2.found id t hget, ht⟩
      | pass other =>
          have hheeds : Heeds t other (f.begun other) _ _ := reconcile_heeds other h hlawful hget ht
          obtain hsame | ⟨hcancelled, -⟩ := hheeds.get hget
          · exact ⟨t, hsame, ht⟩
          · exact ⟨_, hcancelled, ht.requested, .inr rfl⟩
      | cancel other =>
          have hkept : Ensures (requestCancel other) f fun _ f' => f'.store.get id = .ok t :=
            (flag_cancelled_keeps other cancelAttempts h hget ht.requested).bind
              fun _ _ hkept => hkept
          exact ⟨t, hkept, ht⟩
      | resync pageSize =>
          have hrefreshes : Refreshes False f ((resync pageSize).run f).2 := resync_spec pageSize h
          exact ⟨t, hrefreshes.store.adds.found id t hget, ht⟩
      | swap observed => exact ⟨t, hget, ht⟩
      | turn _ hproper hstore hledger => exact ⟨t, hstore.adds.found id t hget, ht⟩
      | restore host hhost hrestart =>
          subst hhost
          have hrestores : Daemon.Restores host (Daemon.restoreReservations.run.run host).2 :=
            Daemon.restore_spec h
          obtain ⟨t', hget', hlive', hflag⟩ := hrestores.spares id t hget hlive
          exact ⟨t', hget', hflag.trans ht.requested, .inl hlive'⟩

/-- From the moment at which the cancellation of a live task was requested, in every run from a
fleet without tasks: whatever fails, is interrupted or restarted, the task is stored with the
request, and is live or cancelled. A pass, over whichever id, that finds this task does nothing to
it but cancel it (`Cancels`), and one that finds another task asks, starts, polls and reserves for
that one alone (`Tends`). So a pass leaves the record as it is, or makes it that of a cancelled task;
then it has stopped the execution first, and has given back afterwards what the task held by then on
its agent and dropped the execution, and is done (`Lands`). -/
theorem cancelled_as_requested (hproper : Proper False start) (htasks : start.store.tasks = [])
    (hrun : ReflTransGen (Step False) start f) (hget : f.store.get id = .ok t)
    (hlive : t.isTerminal = false) (hrequested : t.cancelRequested = true)
    (hlater : ReflTransGen (Step False) f f') :
    ∃ t', f'.store.get id = .ok t' ∧ t'.cancelRequested = true ∧
      (t'.isTerminal = false ∨ t'.phase = .cancelled) ∧
      ∀ other o f'', (reconcile other).run f' = (o, f'') →
        Heeds t' other (f'.begun other) o f'' ∧
          (f''.store.get id = .ok t' ∨
            f''.store.get id = .ok (t'.cancelledAt f'.now) ∧
              Lands t' (f'.begun other) o f'') := by
  have hempty : start.store.Lawful := by
    intro x hx
    rw [htasks] at hx
    exact nomatch hx
  have hreached : Proper False f' ∧ f'.store.Lawful ∧
      ∃ t', f'.store.get id = .ok t' ∧ t'.CalledOff := by
    induction hlater with
    | refl =>
        exact ⟨proper_of_run hproper hrun, lawful_steps hproper hempty hrun,
          t, hget, hrequested, .inl hlive⟩
    | tail _ hstep ih =>
        obtain ⟨hproper, hlawful, t', hget', ht'⟩ := ih
        exact ⟨(step_spec hproper hstep).1, lawful_step hproper hstep hlawful,
          called_off_step hproper hlawful hstep hget' ht'⟩
  obtain ⟨hproper', hlawful', t', hget', ht'⟩ := hreached
  refine ⟨t', hget', ht'.requested, ht'.open_or_cancelled, fun other o f'' hpass => ?_⟩
  have hheeds : Heeds t' other (f'.begun other) ((reconcile other).run f').1
      ((reconcile other).run f').2 := reconcile_heeds other hproper' hlawful' hget' ht'
  rw [hpass] at hheeds
  exact ⟨hheeds, hheeds.get hget'⟩

/-- The fleet with one task that was handed off, after its cancellation was requested. -/
def requested : Fleet := ((requestCancel halfProcessor.id).run placed).2

/-- The same fleet after a pass whose write was refused. -/
def refused : Fleet :=
  ((reconcile halfProcessor.id).run
    { requested with faults := { put := [⟨0, .conflict "n/t"⟩] } }).2

/-- What comes of the pass after that. -/
def retried : Outcome × Fleet := (reconcile halfProcessor.id).run refused

theorem cancelled_as_requested_refused :
    ∃ t, refused.store.get halfProcessor.id = .ok t ∧ t.phase = .scheduled ∧
      t.status.execution = some "exec-1" ∧ t.cancelRequested = true ∧
      retried.2.store.get halfProcessor.id = .ok (t.cancelledAt refused.now) ∧
      Lands t (refused.begun halfProcessor.id) retried.1 retried.2 ∧
      ((refused.ledger.reservedOn "a1").get .cpu).millis = 500 ∧
      ((retried.2.ledger.reservedOn "a1").get .cpu).millis = 0 := by
  have hproper : Proper False (fresh 1000 runsOn) := proper_fresh (by decide) in_range_runs_on
  have hrun : ReflTransGen (Step False) (fresh 1000 runsOn) requested := by
    refine .head (.swap [oneProcessor]) ?_
    refine .head (.create halfProcessor halfProcessor.bump _ _ rfl rfl rfl) ?_
    exact .head (.pass halfProcessor.id) (.single (.cancel halfProcessor.id))
  have hlater : ReflTransGen (Step False) requested refused := by
    have hturned : Proper False { requested with faults := { put := [⟨0, .conflict "n/t"⟩] } } :=
      { proper_of_run hproper hrun with faults := nofun }
    exact .head (.turn _ hturned (TaskStore.same_tasks_refl _) nofun)
      (.single (.pass halfProcessor.id))
  have hflag : (requested.store.get halfProcessor.id).toOption.map
      (fun t => (t.isTerminal, t.cancelRequested)) = some (false, true) := by decide +kernel
  have hwaits : (refused.store.get halfProcessor.id).toOption.map
      (fun t => (t.phase, t.status.execution)) = some (.scheduled, some "exec-1") := by
    decide +kernel
  have hends : (retried.2.store.get halfProcessor.id).toOption.map Task.phase =
      some .cancelled := by decide +kernel
  obtain ⟨t, hget, hfields⟩ := TaskStore.get_of_map hflag
  obtain ⟨hlive, hrequested⟩ := Prod.mk.inj hfields
  obtain ⟨t', hget', hrequested', -, hpasses⟩ :=
    cancelled_as_requested hproper rfl hrun hget hlive hrequested hlater
  obtain ⟨-, hstored⟩ := hpasses halfProcessor.id retried.1 retried.2 rfl
  rw [hget'] at hwaits
  obtain ⟨hphase, hexecution⟩ := Prod.mk.inj (Option.some.inj hwaits)
  obtain hsame | ⟨hcancelled, hlands⟩ := hstored
  · rw [hsame] at hends
    exact nomatch hphase.symm.trans (Option.some.inj hends)
  · exact ⟨t', hget', hphase, hexecution, hrequested', hcancelled, hlands, by decide +kernel,
      by decide +kernel⟩

end Runs

end Fleet

end TaskFleet
