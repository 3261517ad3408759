import TaskFleet.Lifecycle.Host
import TaskFleet.Proofs.Lifecycle.Cancellation

/-!
# What a pass comes to

A pass has many exits, and each of them decides about the worker of the task: its work is over, it
looks at the task again after a delay, or it was interrupted. `Concludes` says what a pass that has
read a task leaves with each of these outcomes, whatever fails or is interrupted, and what follows
for the worker is `leaves_nothing_undone`.
-/

namespace TaskFleet

/-- A task that has run out of time at a second. -/
def Task.Overdue (t : Task) (now : Nat) : Prop :=
  ∃ deadline ∈ t.deadline?, deadline ≤ now

/-- Two tasks with the same timeout and start are overdue together. -/
theorem Task.Overdue.of_same {t next : Task} {now : Nat} (h : next.Overdue now)
    (hspec : next.spec = t.spec) (hstart : next.status.startTime = t.status.startTime) :
    t.Overdue now := by
  unfold Task.Overdue Task.deadline? at h ⊢
  rw [← hspec, ← hstart]
  exact h

/-- A call stalls only if the token fires at it. -/
theorem Token.fired_of_stalls {token token' : Token} {call : Call}
    (h : token.meet call = (true, token')) : token'.fired = true := by
  unfold Token.meet at h
  split at h
  · exact nomatch h
  · split at h
    · split at h
      · obtain ⟨-, rfl⟩ := Prod.mk.inj h
        rfl
      · exact nomatch h
    · exact nomatch h

/-- The failures that are left in a queue are those that were in it but for the one that strikes. -/
theorem Fault.errors_next {ε : Type} (faults : List (Fault ε)) :
    faults.map Fault.error =
      (Fault.next faults).1.toList ++ (Fault.next faults).2.map Fault.error := by
  match faults with
  | [] => rfl
  | ⟨0, e⟩ :: rest => rfl
  | ⟨n + 1, e⟩ :: rest => rfl

/-- The worker of a task is at work: it goes on at once, or when its sleep ends. -/
def Host.AtWork (h : Host) (id : TaskId) (serial : Nat) : Prop :=
  ∃ w, h.workers.find? id = some w ∧ w.serial = serial ∧ w.live = true ∧
    (.worker serial ∈ h.ready ∨ h.isAsleep (.worker serial) = true)

namespace Fleet

/-- The writes of tasks that failed from one fleet to another, by their errors. -/
def Refused (errors : List StoreError) (f f' : Fleet) : Prop :=
  f.faults.put.map Fault.error = errors ++ f'.faults.put.map Fault.error

/-- The store has told a pass that its task is not there, when it was read or when it was to be
written. -/
def Missed (id : TaskId) (f f' : Fleet) : Prop :=
  (∃ key, ((getTask id).run f).1 = some (.error (.notFound key))) ∨
    ∃ errors key, Refused errors f f' ∧ .notFound key ∈ errors

/-- A pass could not read its task, for another reason than that the task is not there. -/
def Unread (id : TaskId) (f : Fleet) : Prop :=
  ∃ e, ((getTask id).run f).1 = some (.error e) ∧ ∀ key, e ≠ .notFound key

/-- The fleet after calls that write no task. -/
structure Aside (f f' : Fleet) : Prop where
  clock : f'.clock = f.clock
  store : f'.store = f.store
  writes : f'.faults.put = f.faults.put
  proper : Proper False f'

/-- What comes of such a call: it is without an answer only if the token has fired. -/
structure Answered {α : Type} (f : Fleet) (r : Option α) (f' : Fleet) : Prop
    extends Aside f f' where
  fired : r = none → f'.token.fired = true

/-- What comes of the write of `next` in place of the task that is stored. -/
structure Entered (id : TaskId) (next : Task) (f : Fleet) (r : Option (Except StoreError Task))
    (f' : Fleet) : Prop where
  clock : f'.clock = f.clock
  proper : Proper False f'
  stored : ∀ stored, r = some (.ok stored) →
    stored = next.bump ∧ f'.store.get id = .ok stored ∧ Refused [] f f'
  refused : ∀ e, r = some (.error e) → f'.store = f.store ∧ Refused [e] f f'
  stalled : r = none → f'.store = f.store ∧ f'.token.fired = true

/-- How a pass ends that has read a task whose life is not over. It times the task out only if the
task was `due`. -/
inductive Concludes (id : TaskId) (due : Prop) (f : Fleet) : Outcome → Fleet → Prop where
  | ended {f' : Fleet} (t : Task) (hget : f'.store.get id = .ok t) (hterminal : t.isTerminal = true)
      (hdue : TimedOut t → due) : Concludes id due f .done f'
  | missed {f' : Fleet} (t : Task) (hget : f'.store.get id = .ok t) (hlive : t.isTerminal = false)
      (errors : List StoreError) (key : String) (hrefused : Refused errors f f')
      (hmem : .notFound key ∈ errors) : Concludes id due f .done f'
  | ahead {f' : Fleet} (t : Task) (hget : f'.store.get id = .ok t) (hlive : t.isTerminal = false)
      (delay : Duration) : Concludes id due f (.requeue delay) f'
  | interrupted {f' : Fleet} (t : Task) (hget : f'.store.get id = .ok t)
      (hlive : t.isTerminal = false) (hfired : f'.token.fired = true) :
      Concludes id due f .interrupted f'

/-- How a pass ends, whatever it finds. -/
inductive Closes (id : TaskId) (f : Fleet) : Outcome → Fleet → Prop where
  | unasked {f' : Fleet} (hstore : f'.store = f.store) (hfired : f'.token.fired = true) :
      Closes id f .interrupted f'
  | gone {f' : Fleet} (key : String)
      (hread : ((getTask id).run f).1 = some (.error (.notFound key)))
      (hstore : f'.store = f.store) : Closes id f .done f'
  | unread {f' : Fleet} (hunread : Unread id f) (hstore : f'.store = f.store) (delay : Duration) :
      Closes id f (.requeue delay) f'
  | settled {f' : Fleet} (t : Task) (hget : f.store.get id = .ok t)
      (hterminal : t.isTerminal = true) (hstore : f'.store = f.store) : Closes id f .done f'
  | concludes {o : Outcome} {f' : Fleet} (t : Task) (hget : f.store.get id = .ok t)
      (hlive : t.isTerminal = false) (h : Concludes id (t.Overdue f.now) f o f') : Closes id f o f'

variable {f f' f'' : Fleet} {id : TaskId} {t next : Task} {agent handle : String} {due : Prop}
  {o : Outcome}

section Calls

/-- Calls that write no task may be made one after the other. -/
theorem Aside.trans (h : Aside f f') (h' : Aside f' f'') : Aside f f'' :=
  ⟨h'.clock.trans h.clock, h'.store.trans h.store, h'.writes.trans h.writes, h'.proper⟩

/-- Where nothing happens no task is written. -/
theorem Proper.aside (h : Proper False f) : Aside f f := ⟨rfl, rfl, rfl, h⟩

/-- The clock stands still during such calls. -/
theorem Aside.now_eq (h : Aside f f') : f'.now = f.now := now_congr h.clock

/-- A task is still in the store after such calls. -/
theorem Aside.get (h : Aside f f') (hget : f.store.get id = .ok t) : f'.store.get id = .ok t := by
  rw [h.store]
  exact hget

/-- A call that can be interrupted is answered, or the token has fired. -/
theorem interruptible_answered {α : Type} {call : FleetM (Option α)} (h : Proper False f)
    (hcall : Ensures call f (Answered f)) : Ensures (interruptible call) f (Answered f) :=
  interruptible_cases (fun hfired => ⟨h.aside, fun _ => hfired⟩) hcall

/-- A reading of the store is answered, or the token has fired. -/
theorem get_task_answered (id : TaskId) (h : Proper False f) :
    Ensures (getTask id) f (Answered f) := by
  unfold Ensures
  rw [get_task_run]
  rcases hmeet : f.token.meet .get with ⟨_ | _, token⟩
  · rcases Fault.next f.faults.get with ⟨_ | e, rest⟩
    · exact ⟨⟨rfl, rfl, rfl, { h with }⟩, nofun⟩
    · exact ⟨⟨rfl, rfl, rfl, { h with }⟩, nofun⟩
  · exact ⟨⟨rfl, rfl, rfl, { h with }⟩, fun _ => Token.fired_of_stalls hmeet⟩

/-- A request to the substrate is answered, or the token has fired. -/
theorem submit_answered (request : ExecutionRequest) (h : Proper False f) :
    Ensures (submit request) f (Answered f) := by
  have hrest : Ensures (submit request) f fun r f' => f'.clock = f.clock ∧ f'.store = f.store ∧
      f'.faults.put = f.faults.put ∧ (r = none → f'.token.fired = true) := by
    unfold Ensures
    rw [submit_run]
    rcases hmeet : f.token.meet .submit with ⟨_ | _, token⟩
    · rcases Fault.next f.faults.submit with ⟨_ | e, rest⟩
      · cases f.substrate.submit request with
        | error e => exact ⟨rfl, rfl, rfl, nofun⟩
        | ok r => exact ⟨rfl, rfl, rfl, nofun⟩
      · exact ⟨rfl, rfl, rfl, nofun⟩
    · exact ⟨rfl, rfl, rfl, fun _ => Token.fired_of_stalls hmeet⟩
  refine ((submit_proper request h).and hrest).imp ?_
  rintro r f₁ ⟨hproper, hclock, hstore, hwrites, hfired⟩
  exact ⟨⟨hclock, hstore, hwrites, hproper⟩, hfired⟩

/-- An observation is answered, or the token has fired. -/
theorem poll_answered (handle : String) (h : Proper False f) :
    Ensures (poll handle) f (Answered f) := by
  unfold Ensures
  rw [poll_run]
  rcases hmeet : f.token.meet .poll with ⟨_ | _, token⟩
  · rcases Fault.next f.faults.poll with ⟨_ | e, rest⟩
    · exact ⟨⟨rfl, rfl, rfl, { h with }⟩, nofun⟩
    · exact ⟨⟨rfl, rfl, rfl, { h with }⟩, nofun⟩
  · exact ⟨⟨rfl, rfl, rfl, { h with }⟩, fun _ => Token.fired_of_stalls hmeet⟩

/-- Looking the dependencies up ends without an answer only where a reading does. -/
theorem check_all_answered (id : TaskId) (dependencies : List Dependency) (h : Proper False f) :
    Ensures (checkAll id dependencies) f (Answered f) := by
  induction dependencies generalizing f with
  | nil => exact ⟨h.aside, fun hnone => absurd hnone (Option.some_ne_none _)⟩
  | cons d rest ih =>
      have hphase : Ensures (getPhase (id.resolve d.task)) f (Answered f) :=
        (get_task_answered (id.resolve d.task) h).bind fun _ _ hr =>
          ⟨hr.toAside, fun hnone => hr.fired (Option.map_eq_none_iff.1 hnone)⟩
      unfold checkAll
      refine hphase.bind fun r f₁ hr => ?_
      rcases r with _ | _ | phase
      · exact ⟨hr.toAside, fun _ => hr.fired rfl⟩
      · exact ⟨hr.toAside, fun hnone => absurd hnone (Option.some_ne_none _)⟩
      · by_cases hmet : phase = d.phase
        · simp only [hmet, if_pos]
          exact (ih hr.proper).imp fun _ _ hr₂ => ⟨hr.toAside.trans hr₂.toAside, hr₂.fired⟩
        · simp only [hmet, if_false]
          exact ⟨hr.toAside, fun hnone => absurd hnone (Option.some_ne_none _)⟩

/-- A task is placed in the ledger without a change to what is stored. -/
theorem schedule_aside (t : Task) (h : Proper False f) :
    Ensures (schedule t) f fun _ f' => Aside f f' := by
  have hwith : Ensures (scheduleWith f.strategy f.rival t) f fun _ f' =>
      f'.faults = f.faults := rfl
  have hwrites : Ensures (schedule t) f fun _ f' => f'.faults = f.faults := by
    unfold schedule
    refine ensures_get (hwith.bind fun r f₁ hsame => ?_)
    cases !(f.ledger.feasible t.requirement).isEmpty with
    | false => exact hsame
    | true => exact hsame
  refine ((schedule_spec t h).and hwrites).imp ?_
  rintro r f₁ ⟨⟨hclock, hbooks, hproper, -⟩, hfaults⟩
  exact ⟨hclock, congrArg Books.store hbooks, congrArg Faults.put hfaults, hproper⟩

/-- Stopping an execution leaves the token as it is. -/
theorem cancel_execution_aside (handle : String) (h : Proper False f) :
    Ensures (cancelExecution handle) f fun _ f' => Aside f f' ∧ f'.token = f.token :=
  ⟨⟨rfl, rfl, rfl, { h with }⟩, rfl⟩

/-- A reservation is given back without a change to what is stored. -/
theorem release_aside (amount : ResourceSet) (h : Proper False f) :
    Ensures (release agent amount) f fun _ f' => Aside f f' ∧ f'.token = f.token := by
  unfold release
  refine (book_ensures (.release agent amount) f).bind fun r f₁ hr => ?_
  cases hbook : f.ledger.book (.release agent amount) with
  | error e =>
      rw [hbook] at hr
      obtain ⟨-, rfl⟩ := hr
      exact ⟨h.aside, rfl⟩
  | ok ledger =>
      rw [hbook] at hr
      obtain ⟨-, rfl⟩ := hr
      exact ⟨⟨rfl, rfl, rfl, { h with }⟩, rfl⟩

/-- What a task held is given back without a write. -/
theorem settle_aside (t : Task) (h : Proper False f) :
    Ensures (settle t agent) f fun _ f' => Aside f f' := by
  unfold settle
  refine (release_aside t.status.resourcesUsed h).bind ?_
  rintro _ f₁ ⟨haside, -⟩
  cases t.status.execution with
  | none => exact haside
  | some handle =>
      have hwrites : Ensures (forgetExecution handle) f₁ fun _ f' =>
          f'.store = f₁.store ∧ f'.faults.put = f₁.faults.put := by
        unfold forgetExecution
        refine ensures_modify (ensures_modify (ensures_get ?_))
        dsimp only
        rcases Fault.next f₁.faults.forget with ⟨_ | e, rest⟩
        · exact ⟨rfl, rfl⟩
        · exact ⟨rfl, rfl⟩
      refine ((forget_execution_spec handle {} haside.proper).and hwrites).imp ?_
      rintro _ f₂ ⟨hleads, hstore, hput⟩
      exact haside.trans ⟨hleads.clock, hstore, hput, hleads.proper⟩

/-- A write in place of a task that was just read fails only by a failure that was due. -/
theorem put_entered (h : Proper False f) (hget : f.store.get id = .ok t)
    (hrevision : Revision f.now t next) :
    Ensures (interruptible (putTask next)) f (Entered id next f) := by
  obtain ⟨hid, hversion, -, -⟩ := hrevision.keeps
  have hkeeps := keeps_of_revision h.sound h.now hget hrevision
  obtain ⟨store, hput, -, -⟩ := TaskStore.put_of_get h.sound hget hid hversion hkeeps
  have hrest : Ensures (putTask next) f fun r f' => (r = none → f'.token.fired = true) ∧
      (∀ e, r = some (.error e) → Refused [e] f f') ∧
      ∀ stored, r = some (.ok stored) → Refused [] f f' := by
    have herrors := Fault.errors_next f.faults.put
    unfold Ensures
    rw [put_task_run, hput]
    rcases hmeet : f.token.meet .put with ⟨_ | _, token⟩
    · rcases hnext : Fault.next f.faults.put with ⟨_ | e, rest⟩
      · rw [hnext] at herrors
        exact ⟨by simp, by simp, fun _ _ => herrors⟩
      · rw [hnext] at herrors
        refine ⟨by simp, fun e' he => ?_, by simp⟩
        cases he
        exact herrors
    · exact ⟨fun _ => Token.fired_of_stalls hmeet, by simp, by simp⟩
  refine interruptible_cases (fun hfired =>
    ⟨rfl, h, by simp, by simp, fun _ => ⟨rfl, hfired⟩⟩) ?_
  refine ((put_task_spec h hget hid hversion hkeeps).and hrest).imp ?_
  rintro r f₁ ⟨hr, hfired, hrefused, hkept⟩
  rcases r with _ | e | stored
  · exact ⟨hr.clock, hr.proper, by simp, by simp, fun hnone => ⟨hr.store, hfired hnone⟩⟩
  · refine ⟨hr.1.clock, hr.1.proper, by simp, fun e' he => ?_, by simp⟩
    cases he
    exact ⟨hr.1.store, hrefused _ rfl⟩
  · obtain ⟨rfl, hclock, -, hreplaces, hproper⟩ := hr
    refine ⟨hclock, hproper, fun stored he => ?_, by simp, by simp⟩
    cases he
    exact ⟨rfl, hreplaces.found id hget, hkept _ rfl⟩

end Calls

section Exits

/-- Where no task is written no write is refused. -/
theorem Aside.unrefused (h : Aside f f') : Refused [] f f' := by
  unfold Refused
  rw [h.writes]
  rfl

/-- The end of a pass that was not refused any write before. -/
theorem Concludes.after (h : Concludes id due f' o f'') (hrefused : Refused [] f f') :
    Concludes id due f o f'' := by
  cases h with
  | ended t hget hterminal hdue => exact .ended t hget hterminal hdue
  | missed t hget hlive errors key hrest hmem =>
      exact .missed t hget hlive errors key (hrefused.trans hrest) hmem
  | ahead t hget hlive delay => exact .ahead t hget hlive delay
  | interrupted t hget hlive hfired => exact .interrupted t hget hlive hfired

/-- What is due for one reason is due for any weaker one. -/
theorem Concludes.of_due {due' : Prop} (h : Concludes id due f o f') (hdue : due → due') :
    Concludes id due' f o f' := by
  cases h with
  | ended t hget hterminal hout => exact .ended t hget hterminal fun h => hdue (hout h)
  | missed t hget hlive errors key hrest hmem => exact .missed t hget hlive errors key hrest hmem
  | ahead t hget hlive delay => exact .ahead t hget hlive delay
  | interrupted t hget hlive hfired => exact .interrupted t hget hlive hfired

/-- A pass goes on after calls that write no task. -/
theorem Aside.after {x : FleetM Outcome} (h : Aside f f')
    (hx : Ensures x f' (Concludes id due f')) : Ensures x f' (Concludes id due f) :=
  hx.imp fun _ _ hc => hc.after h.unrefused

/-- A pass ends after a write that was refused, with what the refusal says. -/
theorem Entered.concludes_refused {e : StoreError} (h : Entered id next f (some (.error e)) f')
    (hget : f.store.get id = .ok t) (hlive : t.isTerminal = false) (haside : Aside f' f'')
    (delays : Delays) : Concludes id due f (outcomeOfStoreError delays e) f'' := by
  obtain ⟨hstore, hrefused⟩ := h.refused e rfl
  have hget' : f''.store.get id = .ok t := haside.get (hstore ▸ hget)
  have hrefused' : Refused [e] f f'' := by
    unfold Refused at hrefused ⊢
    rw [haside.writes]
    exact hrefused
  cases e with
  | conflict key => exact .ahead t hget' hlive _
  | notFound key => exact .missed t hget' hlive _ key hrefused' List.mem_cons_self
  | unavailable cause => exact .ahead t hget' hlive _

/-- A pass ends after a write at which it was interrupted. -/
theorem Entered.concludes_stalled (h : Entered id next f none f') (hget : f.store.get id = .ok t)
    (hlive : t.isTerminal = false) (haside : Aside f' f'') (htoken : f''.token = f'.token) :
    Concludes id due f .interrupted f'' := by
  obtain ⟨hstore, hfired⟩ := h.stalled rfl
  exact .interrupted t (haside.get (hstore ▸ hget)) hlive (htoken ▸ hfired)

/-- A pass ends after a call at which it was interrupted. -/
theorem Answered.concludes_stalled {α : Type} (h : Answered f (none : Option α) f')
    (hget : f.store.get id = .ok t) (hlive : t.isTerminal = false) :
    Concludes id due f .interrupted f' :=
  .interrupted t (h.get hget) hlive (h.fired rfl)

/-- A write that takes a task on, or leaves it as it is. -/
theorem write_ahead (delay : Duration) (h : Proper False f) (hget : f.store.get id = .ok t)
    (hlive : t.isTerminal = false) (hrevision : Revision f.now t next)
    (hnext : next.isTerminal = false) :
    Ensures (write t next (.requeue delay)) f (Concludes id due f) := by
  unfold write
  split
  · exact .ahead t hget hlive delay
  · refine (put_entered h hget hrevision).bind fun r f₁ hr => ?_
    match r with
    | none => exact hr.concludes_stalled hget hlive hr.proper.aside rfl
    | some (.ok stored) =>
        obtain ⟨rfl, hstored, -⟩ := hr.stored stored rfl
        exact .ahead next.bump hstored hnext delay
    | some (.error e) => exact ensures_get (hr.concludes_refused hget hlive hr.proper.aside _)

/-- A write that ends a task. -/
theorem write_over (h : Proper False f) (hget : f.store.get id = .ok t)
    (hlive : t.isTerminal = false) (hrevision : Revision f.now t next)
    (hterminal : next.isTerminal = true) (hdue : TimedOut next → due) :
    Ensures (write t next .done) f (Concludes id due f) := by
  unfold write
  rw [if_neg (not_same_of_terminal hlive hterminal)]
  refine (put_entered h hget hrevision).bind fun r f₁ hr => ?_
  match r with
  | none => exact hr.concludes_stalled hget hlive hr.proper.aside rfl
  | some (.ok stored) =>
      obtain ⟨rfl, hstored, -⟩ := hr.stored stored rfl
      exact .ended next.bump hstored hterminal hdue
  | some (.error e) => exact ensures_get (hr.concludes_refused hget hlive hr.proper.aside _)

/-- The end of a task is recorded before what it held is given back, and what it held is given back
too if the task is not there any more. -/
theorem finish_over (h : Proper False f) (hget : f.store.get id = .ok t)
    (hlive : t.isTerminal = false) (hrevision : Revision f.now t next)
    (hterminal : next.isTerminal = true) (hdue : TimedOut next → due) :
    Ensures (finish t next agent) f (Concludes id due f) := by
  unfold finish
  refine (put_entered h hget hrevision).bind fun r f₁ hr => ?_
  match r with
  | none => exact hr.concludes_stalled hget hlive hr.proper.aside rfl
  | some (.ok stored) =>
      obtain ⟨rfl, hstored, -⟩ := hr.stored stored rfl
      exact (settle_aside t hr.proper).bind fun _ f₂ ha =>
        .ended next.bump (ha.get hstored) hterminal hdue
  | some (.error (.notFound key)) =>
      exact (settle_aside t hr.proper).bind fun _ _ ha =>
        hr.concludes_refused hget hlive ha f.delays
  | some (.error (.conflict key)) =>
      exact ensures_get (hr.concludes_refused hget hlive hr.proper.aside _)
  | some (.error (.unavailable cause)) =>
      exact ensures_get (hr.concludes_refused hget hlive hr.proper.aside _)

end Exits

section Passes

/-- A task that is to be cancelled is cancelled, or its pass says why not. -/
theorem cancel_task_concludes (h : Proper False f) (hget : f.store.get id = .ok t)
    (hlive : t.isTerminal = false) (hrequested : t.cancelRequested = true) :
    Ensures (cancelTask t) f (Concludes id due f) := by
  have hcut (now : Nat) : TimedOut (t.asCancelled now) → due := fun hout => nomatch hout.1
  refine cancel_task_stages (p := Aside f) ?_ ?_ ?_ ?_
  · exact fun _ => h.aside
  · exact fun handle _ => (cancel_execution_aside handle h).imp fun _ _ ha => ha.1
  · exact fun f₁ agent ha _ =>
      ha.after (finish_over ha.proper (ha.get hget) hlive (.cancel _ hrequested) rfl (hcut _))
  · exact fun f₁ ha _ =>
      ha.after (write_over ha.proper (ha.get hget) hlive (.cancel _ hrequested) rfl (hcut _))

/-- A task that is handed off comes to one of the conclusions. -/
theorem hand_off_concludes (h : Proper False f) (hget : f.store.get id = .ok t)
    (hlive : t.isTerminal = false) (hagent : t.status.agent = some agent)
    (hexecution : t.status.execution = none) :
    Ensures (handOff t agent) f (Concludes id due f) := by
  unfold handOff
  refine ensures_get ?_
  cases f.ledger.capacity? agent with
  | none =>
      exact (write_ahead _ h hget hlive (.lose agent _ hagent hexecution) rfl).imp fun _ _ hc => hc
  | some c =>
      refine (interruptible_answered h (submit_answered (.ofTask t agent) h)).bind fun r f₁ ha => ?_
      have hget₁ : f₁.store.get id = .ok t := ha.get hget
      match r with
      | none => exact ha.concludes_stalled hget hlive
      | some (.error e) =>
          exact ha.after (write_ahead _ ha.proper hget₁ hlive (.remark _) hlive)
      | some (.ok handle) =>
          have hrevision : Revision f₁.now t { t with
              status.execution := some handle
              status.startTime := some f.now
              status.message := "execution " ++ handle ++ " submitted to agent " ++ agent } := by
            rw [← ha.now_eq]
            exact .handOff agent handle _ hagent hexecution
          refine ha.after ((put_entered ha.proper hget₁ hrevision).bind fun r f₂ hr => ?_)
          match r with
          | some (.ok stored) =>
              obtain ⟨rfl, hstored, -⟩ := hr.stored stored rfl
              exact .ahead _ hstored hlive _
          | some (.error e) =>
              exact (cancel_execution_aside handle hr.proper).bind fun _ _ hc =>
                hr.concludes_refused hget₁ hlive hc.1 _
          | none =>
              exact (cancel_execution_aside handle hr.proper).bind fun _ _ hc =>
                hr.concludes_stalled hget₁ hlive hc.1 hc.2

/-- Only a task that has run out of time is timed out. -/
theorem watch_concludes (h : Proper False f) (hget : f.store.get id = .ok t)
    (hlive : t.isTerminal = false) (hagent : t.status.agent = some agent)
    (hexecution : t.status.execution = some handle) :
    Ensures (watch t agent handle) f (Concludes id (t.Overdue f.now) f) := by
  unfold watch
  refine ensures_get ?_
  cases hlate : (t.deadline?.map fun deadline => decide (deadline ≤ f.now)).getD false with
  | true =>
      have hdue : t.Overdue f.now := by
        unfold Task.Overdue
        cases hdeadline : t.deadline? with
        | none =>
            rw [hdeadline] at hlate
            exact nomatch hlate
        | some deadline =>
            rw [hdeadline] at hlate
            exact ⟨deadline, rfl, of_decide_eq_true hlate⟩
      refine (cancel_execution_aside handle h).bind fun _ f₁ hc => hc.1.after ?_
      have hrevision : Revision f₁.now t
          (t.transition .failed "Timeout" (timeoutMessage t) f.now) := by
        rw [← hc.1.now_eq]
        exact .expire agent handle _ hagent hexecution
      exact finish_over hc.1.proper (hc.1.get hget) hlive hrevision rfl fun _ => hdue
  | false =>
      have hpoll : Ensures (interruptible (poll handle)) f fun r f₁ =>
          Answered f r f₁ ∧ ∀ report, r = some (.ok report) → report.InRange :=
        interruptible_cases (fun hfired => ⟨⟨h.aside, fun _ => hfired⟩, nofun⟩)
          ((poll_answered handle h).and ((poll_proper handle h).imp fun _ _ hp => hp.2))
      refine hpoll.bind ?_
      rintro r f₁ ⟨ha, hreport⟩
      have hget₁ : f₁.store.get id = .ok t := ha.get hget
      match r with
      | none => exact ha.concludes_stalled hget hlive
      | some (.error e) =>
          exact ha.after (write_ahead _ ha.proper hget₁ hlive (.remark _) hlive)
      | some (.ok report) =>
          have hrevision : Revision f₁.now t { t with status := deriveStatus t report f.now } := by
            rw [← ha.now_eq]
            exact .observe agent handle report hagent hexecution (hreport report rfl)
          dsimp only
          cases hterminal : Task.isTerminal { t with status := deriveStatus t report f.now } with
          | true =>
              exact ha.after (finish_over ha.proper hget₁ hlive hrevision hterminal fun hout =>
                absurd (.inr hout) (not_is_cut_short_of_report hlive report f.now))
          | false => exact ha.after (write_ahead _ ha.proper hget₁ hlive hrevision hterminal)

/-- A task that has an agent comes to one of the conclusions. -/
theorem drive_concludes (h : Proper False f) (hget : f.store.get id = .ok t)
    (hlive : t.isTerminal = false) (hagent : t.status.agent = some agent) :
    Ensures (drive t agent) f (Concludes id (t.Overdue f.now) f) := by
  unfold drive
  cases hexecution : t.status.execution with
  | some handle => exact watch_concludes h hget hlive hagent hexecution
  | none => exact hand_off_concludes h hget hlive hagent hexecution

/-- A task that is placed comes to one of the conclusions. -/
theorem place_concludes (h : Proper False f) (hget : f.store.get id = .ok t)
    (hlive : t.isTerminal = false) (hagent : t.status.agent = none) :
    Ensures (place t) f (Concludes id (t.Overdue f.now) f) := by
  unfold place
  refine ensures_get ((schedule_aside t h).bind fun r f₁ ha => ha.after ?_)
  have hget₁ : f₁.store.get id = .ok t := ha.get hget
  match r with
  | .error (.noCapacity requirement task) =>
      exact write_ahead _ ha.proper hget₁ hlive (.remark _) hlive
  | .error (.ledger e) => exact write_ahead _ ha.proper hget₁ hlive (.remark _) hlive
  | .ok agent =>
      have hrevision : Revision f₁.now t ({ t with
          status.agent := some agent
          status.resourcesUsed := t.requirement }.transition .scheduled "Scheduled"
            ("scheduled on agent " ++ agent) f.now) := by
        rw [← ha.now_eq]
        exact .place agent _ hagent
      refine (put_entered ha.proper hget₁ hrevision).bind fun r f₂ hr => ?_
      match r with
      | some (.ok stored) =>
          obtain ⟨rfl, hstored, hrefused⟩ := hr.stored stored rfl
          have hnow : f₂.now = f.now := (now_congr hr.clock).trans ha.now_eq
          have hdrive := drive_concludes hr.proper hstored rfl (TaskStatus.agent_transition ..)
          refine hdrive.imp fun _ _ hc => (hc.after hrefused).of_due fun hdue => ?_
          -- The task that is driven on in the same pass has the deadline of the one that was read.
          rw [hnow] at hdue
          exact hdue.of_same rfl (TaskStatus.startTime_transition ..)
      | some (.error e) =>
          exact (release_aside t.requirement hr.proper).bind fun _ _ hc =>
            hr.concludes_refused hget₁ hlive hc.1 _
      | none =>
          exact (release_aside t.requirement hr.proper).bind fun _ _ hc =>
            hr.concludes_stalled hget₁ hlive hc.1 hc.2

/-- A task without an agent is ended, held back or placed. -/
theorem prepare_concludes (h : Proper False f) (hget : f.store.get id = .ok t)
    (hlive : t.isTerminal = false) (hagent : t.status.agent = none) :
    Ensures (prepare t) f (Concludes id (t.Overdue f.now) f) := by
  unfold prepare
  refine ensures_get ?_
  cases hvalid : t.validate with
  | error e =>
      have hinvalid : t.validate ≠ .ok () := by
        rw [hvalid]
        nofun
      exact write_over h hget hlive (.reject _ hagent hinvalid) rfl fun hout =>
        absurd (.inr hout) (not_is_cut_short_of_rejection hlive _ f.now)
  | ok =>
      refine (interruptible_answered h (check_all_answered t.id t.spec.dependencies h)).bind
        fun r f₁ ha => ?_
      have hget₁ : f₁.store.get id = .ok t := ha.get hget
      match r with
      | none => exact ha.concludes_stalled hget hlive
      | some (.ok true) =>
          rw [← ha.now_eq]
          exact ha.after (place_concludes ha.proper hget₁ hlive hagent)
      | some (.ok false) => exact ha.after (write_ahead _ ha.proper hget₁ hlive (.remark _) hlive)
      | some (.error e) => exact ha.after (write_ahead _ ha.proper hget₁ hlive (.remark _) hlive)

/-- A pass over a task whose life is not over. -/
theorem advance_concludes (h : Proper False f) (hget : f.store.get id = .ok t)
    (hlive : t.isTerminal = false) :
    Ensures (advance t) f (Concludes id (t.Overdue f.now) f) := by
  unfold advance
  rw [hlive]
  cases hrequested : t.cancelRequested with
  | true => exact cancel_task_concludes h hget hlive hrequested
  | false =>
      cases hagent : t.status.agent with
      | none => exact prepare_concludes h hget hlive hagent
      | some agent => exact drive_concludes h hget hlive hagent

/-- A reading is answered as it would have been before the pass was noted. -/
theorem get_task_begun (id : TaskId) (f : Fleet) :
    Ensures (getTask id) (f.begun id) fun r _ => r = ((getTask id).run f).1 := by
  unfold Ensures
  rw [get_task_run, get_task_run]
  dsimp only [begun]
  rcases f.token.meet .get with ⟨_ | _, token⟩
  · rcases Fault.next f.faults.get with ⟨_ | e, rest⟩
    · exact rfl
    · exact rfl
  · exact rfl

/-- A pass, whatever it finds. -/
theorem reconcile_closes (id : TaskId) (h : Proper False f) :
    Ensures (reconcile id) f (Closes id f) := by
  have hbegun : Proper False (f.begun id) := { h with }
  unfold reconcile
  refine ensures_modify ?_
  show Ensures _ (f.begun id) _
  have hread : Ensures (interruptible (getTask id)) (f.begun id) fun r f₁ =>
      Answered (f.begun id) r f₁ ∧ (∀ t, r = some (.ok t) → f.store.get id = .ok t) ∧
        ∀ e, r = some (.error e) → ((getTask id).run f).1 = some (.error e) := by
    refine interruptible_cases (fun hfired => ⟨⟨hbegun.aside, fun _ => hfired⟩,
      (fun _ he => nomatch he), fun _ he => nomatch he⟩) ?_
    refine ((get_task_answered id hbegun).and
      ((get_task_spec id hbegun).and (get_task_begun id f))).imp ?_
    rintro r f₁ ⟨ha, ⟨-, hfound⟩, hsame⟩
    exact ⟨ha, hfound, fun e he => hsame.symm.trans he⟩
  refine hread.bind ?_
  rintro r f₁ ⟨ha, hfound, hread⟩
  match r with
  | none => exact .unasked ha.store (ha.fired rfl)
  | some (.ok t) =>
      have hget : f.store.get id = .ok t := hfound t rfl
      show Ensures (advance t) f₁ _
      cases hlive : t.isTerminal with
      | true =>
          unfold advance
          rw [hlive]
          exact .settled t hget hlive ha.store
      | false =>
          have hadvance := ha.after (advance_concludes ha.proper (ha.get hget) hlive)
          rw [ha.now_eq] at hadvance
          exact hadvance.imp fun _ _ hc => .concludes t hget hlive (hc.after rfl)
  | some (.error (.notFound key)) => exact .gone key (hread _ rfl) ha.store
  | some (.error (.conflict key)) =>
      exact ensures_get (.unread ⟨_, hread _ rfl, fun _ => nofun⟩ ha.store _)
  | some (.error (.unavailable cause)) =>
      exact ensures_get (.unread ⟨_, hread _ rfl, fun _ => nofun⟩ ha.store _)

/-- A pass that is done has left its task over, or has missed it. -/
theorem Closes.warrant_done (h : Closes id f .done f') :
    (∃ t, f'.store.get id = .ok t ∧ t.isTerminal = true) ∨ Missed id f f' := by
  cases h with
  | gone key hread => exact .inr (.inl ⟨key, hread⟩)
  | settled t hget hterminal hstore => exact .inl ⟨t, hstore ▸ hget, hterminal⟩
  | concludes t hget hlive h =>
      cases h with
      | ended t hget hterminal hdue => exact .inl ⟨t, hget, hterminal⟩
      | missed t hget hlive errors key hrefused hmem =>
          exact .inr (.inr ⟨errors, key, hrefused, hmem⟩)

/-- A pass that is to be repeated has left its task live, or could not read it. -/
theorem Closes.warrant_requeue {delay : Duration} (h : Closes id f (.requeue delay) f') :
    Unread id f ∨ ∃ t, f'.store.get id = .ok t ∧ t.isTerminal = false := by
  cases h with
  | unread hunread => exact .inl hunread
  | concludes t hget hlive h =>
      cases h with
      | ahead t hget hlive => exact .inr ⟨t, hget, hlive⟩

/-- A pass is interrupted by the token alone. -/
theorem Closes.warrant_interrupted (h : Closes id f .interrupted f') : f'.token.fired = true := by
  cases h with
  | unasked hstore hfired => exact hfired
  | concludes t hget hlive h =>
      cases h with
      | interrupted t hget hlive hfired => exact hfired

end Passes

section Workers

variable {host : Host} {w : Worker}

/-- The turn of a worker is a pass, and what its outcome asks for. -/
theorem worker_turn_run (hstopped : host.stopped = false) :
    (Host.workerTurn id w).run host =
      let host' := { host with fleet := ((reconcile id).run host.fleet).2 }
      match ((reconcile id).run host.fleet).1 with
      | .done | .interrupted => (Host.setWorker id { w with live := false }).run host'
      | .requeue delay =>
        if w.woken then
          ((), { host' with
            workers := host.workers.insert id { w with woken := false }
            ready := .worker w.serial :: host.ready })
        else (Host.sleep (.worker w.serial) delay).run host' := by
  have hpass : (Host.onFleet (reconcile id)).run host =
      (((reconcile id).run host.fleet).1,
        { host with fleet := ((reconcile id).run host.fleet).2 }) := rfl
  unfold Host.workerTurn
  rw [StateT.run_bind]
  show StateT.run (if host.stopped = true then _ else _) host = _
  rw [if_neg (by rw [hstopped]; exact Bool.false_ne_true), StateT.run_bind, hpass]
  rcases (reconcile id).run host.fleet with ⟨_ | delay | _, f'⟩
  · rfl
  · cases w.woken with
    | true => rfl
    | false => rfl
  · rfl

/-- A worker goes on unless the pass was the last one or was interrupted. -/
theorem at_work_of_requeue {delay : Duration} (hstopped : host.stopped = false)
    (hworker : host.workers.find? id = some w) (hlive : w.live = true)
    (hpass : ((reconcile id).run host.fleet).1 = .requeue delay) :
    ((Host.workerTurn id w).run host).2.AtWork id w.serial := by
  rw [worker_turn_run hstopped, hpass]
  dsimp only
  cases w.woken with
  | true =>
      exact ⟨_, (Dict.find?_insert ..).trans (if_pos rfl), rfl, hlive, .inl List.mem_cons_self⟩
  | false =>
      rw [if_neg Bool.false_ne_true]
      unfold Host.sleep
      split
      · exact ⟨w, hworker, rfl, hlive, .inl List.mem_cons_self⟩
      · refine ⟨w, hworker, rfl, hlive, .inr ?_⟩
        show List.any (host.sleepers ++ [_]) _ = true
        simp

/-- What a turn does to the fleet is what the pass does. -/
theorem worker_turn_fleet (hstopped : host.stopped = false) :
    ((Host.workerTurn id w).run host).2.fleet = ((reconcile id).run host.fleet).2 := by
  rw [worker_turn_run hstopped]
  cases ((reconcile id).run host.fleet).1 with
  | done | interrupted => rfl
  | requeue delay =>
      dsimp only
      cases w.woken with
      | true => rfl
      | false =>
          rw [if_neg Bool.false_ne_true]
          unfold Host.sleep
          split
          · rfl
          · rfl

end Workers

/-- Whatever fails and wherever an interrupt strikes: a pass says that it is done only if its task
is over, or if the store has said that it is not there. It asks for another look only if it could
not read the task, or if the task is not over. It is interrupted only if the token has fired, and
there is no other way for it to fail. So the worker of a task is at work after its turn, unless
there is nothing left to do or it was interrupted. -/
theorem leaves_nothing_undone (h : Proper False f) :
    Ensures (reconcile id) f (fun o f' =>
      (o = .done → (∃ t, f'.store.get id = .ok t ∧ t.isTerminal = true) ∨ Missed id f f') ∧
      (∀ delay, o = .requeue delay →
        Unread id f ∨ ∃ t, f'.store.get id = .ok t ∧ t.isTerminal = false) ∧
      (o = .interrupted → f'.token.fired = true)) ∧
    ∀ (host host' : Host) (w : Worker), host.fleet = f → host.stopped = false →
      host.workers.find? id = some w → w.live = true →
      ((Host.workerTurn id w).run host).2 = host' →
        host'.AtWork id w.serial ∨
          (∃ t, host'.fleet.store.get id = .ok t ∧ t.isTerminal = true) ∨
          Missed id f host'.fleet ∨ host'.fleet.token.fired = true := by
  have hcloses : Closes id f ((reconcile id).run f).1 ((reconcile id).run f).2 :=
    reconcile_closes id h
  refine ⟨⟨fun ho => Closes.warrant_done (ho ▸ hcloses),
    fun delay ho => Closes.warrant_requeue (ho ▸ hcloses),
    fun ho => Closes.warrant_interrupted (ho ▸ hcloses)⟩, ?_⟩
  rintro host host' w rfl hstopped hworker hlive rfl
  rw [worker_turn_fleet hstopped]
  cases ho : ((reconcile id).run host.fleet).1 with
  | done =>
      rw [ho] at hcloses
      obtain hover | hmissed := hcloses.warrant_done
      · exact .inr (.inl hover)
      · exact .inr (.inr (.inl hmissed))
  | requeue delay => exact .inl (at_work_of_requeue hstopped hworker hlive ho)
  | interrupted =>
      rw [ho] at hcloses
      exact .inr (.inr (.inr hcloses.warrant_interrupted))

/-- A fleet whose substrate takes nothing at first, and the worker of its task. -/
def busy : Host where
  fleet := { submitted with faults.submit := [⟨0, "busy"⟩] }
  workers := Dict.empty.insert halfProcessor.id ⟨1, true, false⟩
  hired := 1

/-- A task that runs is looked at again after five seconds, and its worker is at work. -/
theorem leaves_nothing_undone_busy :
    ((reconcile halfProcessor.id).run busy.fleet).1 = .requeue (.ofSecs 5) ∧
      (Unread halfProcessor.id busy.fleet ∨
        ∃ t, ((reconcile halfProcessor.id).run busy.fleet).2.store.get halfProcessor.id = .ok t ∧
          t.isTerminal = false) ∧
      ((Host.workerTurn halfProcessor.id ⟨1, true, false⟩).run busy).2.AtWork
        halfProcessor.id 1 := by
  have hsubmitted : Proper False submitted := proper_submitted
  have hproper : Proper False busy.fleet := { hsubmitted with }
  have hdelay : ((reconcile halfProcessor.id).run busy.fleet).1 = .requeue (.ofSecs 5) := by
    decide +kernel
  obtain ⟨⟨-, hrequeue, -⟩, hworker⟩ := @leaves_nothing_undone busy.fleet halfProcessor.id hproper
  refine ⟨hdelay, hrequeue _ hdelay, ?_⟩
  obtain hwork | ⟨t, hget, hterminal⟩ | hmissed | hfired :=
    hworker busy _ ⟨1, true, false⟩ rfl rfl (by decide) rfl rfl
  · exact hwork
  · have hlive : (((Host.workerTurn halfProcessor.id ⟨1, true, false⟩).run busy).2.fleet.store.get
        halfProcessor.id).toOption.map Task.isTerminal = some false := by decide +kernel
    rw [hget] at hlive
    exact nomatch hterminal.symm.trans (Option.some.inj hlive)
  · obtain ⟨key, hread⟩ | ⟨errors, key, hrefused, hmem⟩ := hmissed
    · exact nomatch hread
    -- No failure of a write was due.
    · have hnone : [] = errors ++ _ := hrefused
      rw [(List.append_eq_nil_iff.1 hnone.symm).1] at hmem
      exact nomatch hmem
  · exact absurd hfired (by decide +kernel)

end Fleet

end TaskFleet
