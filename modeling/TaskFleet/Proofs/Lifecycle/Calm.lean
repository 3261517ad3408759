import TaskFleet.Proofs.Lifecycle.Passes

/-!
# Passes that nothing disturbs

What a pass comes to if no call fails and no interrupt is due: every call is answered, a write in
place of a task that was just read is stored, and so the outcome can be told. The lemmas follow the
code from the calls up to the pass that hands a task to the substrate (`reconcile_given`) and the
one that watches over it (`reconcile_watched`).
-/

namespace TaskFleet

/-- Whether the dependencies of the task `id` are met, as the store has them. -/
def TaskStore.verdict (s : TaskStore) (id : TaskId) :
    List Dependency → Except DependencyError Bool
  | [] => .ok true
  | d :: rest => match (s.get (id.resolve d.task)).map Task.phase with
    | .error cause => .error ⟨id.resolve d.task, cause⟩
    | .ok phase => if phase = d.phase then s.verdict id rest else .ok false

namespace Fleet

/-- A fleet in which no call fails and no interrupt is due. -/
structure Calm (f : Fleet) : Prop where
  token : f.token = {}
  faults : f.faults = {}
  sound : f.store.Sound
  now : f.now ≤ Text.max64

/-- A calm fleet after calls. -/
structure Follows (f f' : Fleet) : Prop where
  clock : f'.clock = f.clock
  delays : f'.delays = f.delays
  calm : Calm f'

variable {f f' f'' : Fleet} {id : TaskId} {t next : Task} {agent handle : String}

theorem Follows.now_eq (h : Follows f f') : f'.now = f.now := now_congr h.clock

theorem Follows.trans (h : Follows f f') (h' : Follows f' f'') : Follows f f'' :=
  ⟨h'.clock.trans h.clock, h'.delays.trans h.delays, h'.calm⟩

/-- What is noted disturbs nothing. -/
theorem Calm.note (h : Calm f) (d : Deed) : Calm { f with trail := d :: f.trail } := { h with }

section Calls

theorem interruptible_calm {α : Type} {call : FleetM (Option α)} {q : Option α → Fleet → Prop}
    (htoken : f.token = {}) (hcall : Ensures call f q) : Ensures (interruptible call) f q :=
  interruptible_cases (fun hfired => by rw [htoken] at hfired; exact nomatch hfired) hcall

/-- A reading that no fault and no interrupt meets is answered by the store, and changes nothing. -/
theorem get_task_told (id : TaskId) (htoken : f.token = {}) (hreads : f.faults.get = []) :
    Ensures (getTask id) f fun r f' => r = some (f.store.get id) ∧ f' = f := by
  unfold Ensures
  rw [get_task_run, htoken, hreads]
  refine ⟨rfl, ?_⟩
  show { f with token := {}, faults.get := [] } = f
  rw [← htoken, ← hreads]

theorem get_task_calm (id : TaskId) (h : Calm f) :
    Ensures (getTask id) f fun r f' => r = some (f.store.get id) ∧ f' = f :=
  get_task_told id h.token (congrArg Faults.get h.faults)

/-- Looking the dependencies up is answered by the store alone, too. -/
theorem check_all_told (id : TaskId) (dependencies : List Dependency) (htoken : f.token = {})
    (hreads : f.faults.get = []) :
    Ensures (checkAll id dependencies) f fun r f' =>
      r = some (f.store.verdict id dependencies) ∧ f' = f := by
  induction dependencies with
  | nil => exact ⟨rfl, rfl⟩
  | cons d rest ih =>
      have hphase : Ensures (getPhase (id.resolve d.task)) f fun r f' =>
          r = some ((f.store.get (id.resolve d.task)).map Task.phase) ∧ f' = f :=
        (get_task_told (id.resolve d.task) htoken hreads).bind
          fun r _ hr => ⟨by rw [hr.1]; rfl, hr.2⟩
      unfold checkAll TaskStore.verdict
      refine hphase.bind ?_
      rintro _ f ⟨rfl, rfl⟩
      cases (f.store.get (id.resolve d.task)).map Task.phase with
      | error cause => exact ⟨rfl, rfl⟩
      | ok phase =>
          by_cases hmet : phase = d.phase
          · simp only [hmet, if_pos]
            exact ih
          · simp only [hmet, if_false]
            exact ⟨rfl, rfl⟩

/-- Looking the dependencies up changes nothing at all. -/
theorem check_all_calm (id : TaskId) (dependencies : List Dependency) (h : Calm f) :
    Ensures (checkAll id dependencies) f fun _ f' => f' = f :=
  (check_all_told id dependencies h.token (congrArg Faults.get h.faults)).imp fun _ _ hr => hr.2

/-- A write in place of a task that was just read is stored if no interrupt is due and the write
does not fail. -/
theorem put_undisturbed (htoken : f.token = {}) (hfault : (Fault.next f.faults.put).1 = none)
    (hsound : f.store.Sound) (hnow : f.now ≤ Text.max64) (hget : f.store.get id = .ok t)
    (hrevision : Revision f.now t next) :
    Ensures (interruptible (putTask next)) f fun r f' =>
      r = some (.ok next.bump) ∧ ∃ store, store.Sound ∧ f.store.Replaces t next.bump store ∧
        f' = { f with
          store
          faults.put := (Fault.next f.faults.put).2
          trail := .store next.bump :: f.trail } := by
  obtain ⟨hid, hversion, -, -⟩ := hrevision.keeps
  obtain ⟨store, hput, hsound', hreplaces⟩ := TaskStore.put_of_get hsound hget hid hversion
    (keeps_of_revision hsound hnow hget hrevision)
  refine interruptible_calm htoken ?_
  unfold Ensures
  rw [put_task_run, htoken, hput]
  rcases hnext : Fault.next f.faults.put with ⟨fault, rest⟩
  rw [hnext] at hfault
  cases hfault
  exact ⟨rfl, store, hsound', hreplaces, rfl⟩

/-- A write in place of a task that was just read is stored. -/
theorem put_calm (h : Calm f) (hget : f.store.get id = .ok t)
    (hrevision : Revision f.now t next) :
    Ensures (interruptible (putTask next)) f fun r f' =>
      r = some (.ok next.bump) ∧ Follows f f' ∧ f'.store.get id = .ok next.bump := by
  have hfault : (Fault.next f.faults.put).1 = none := by
    rw [h.faults]
    rfl
  refine (put_undisturbed h.token hfault h.sound h.now hget hrevision).imp ?_
  rintro r f₁ ⟨hr, store, hsound, hreplaces, rfl⟩
  have hfaults : { f.faults with put := (Fault.next f.faults.put).2 } = {} := by
    rw [h.faults]
    rfl
  exact ⟨hr, ⟨rfl, rfl, h.token, hfaults, hsound, h.now⟩, hreplaces.found id hget⟩

theorem submit_calm (request : ExecutionRequest) (h : Calm f) :
    Ensures (submit request) f fun _ f' => Follows f f' ∧ f'.store = f.store := by
  unfold Ensures
  rw [submit_run, h.token, h.faults]
  cases f.substrate.submit request with
  | error e => exact ⟨⟨rfl, rfl, rfl, rfl, h.sound, h.now⟩, rfl⟩
  | ok r => exact ⟨⟨rfl, rfl, rfl, rfl, h.sound, h.now⟩, rfl⟩

/-- An execution that is polled answers what the substrate says of it. -/
theorem poll_calm (handle : String) (h : Calm f) :
    Ensures (interruptible (poll handle)) f fun r f' =>
      r = some (f.substrate.poll handle) ∧ Follows f f' ∧ f'.store = f.store := by
  refine interruptible_calm h.token ?_
  unfold Ensures
  rw [poll_run, h.token, h.faults]
  exact ⟨rfl, ⟨rfl, rfl, rfl, rfl, h.sound, h.now⟩, rfl⟩

theorem schedule_calm (t : Task) (h : Calm f) :
    Ensures (schedule t) f fun _ f' => Follows f f' ∧ f'.store = f.store := by
  have hwith : Ensures (scheduleWith f.strategy f.rival t) f fun _ f' =>
      ∃ ledger signals, f' = { f with ledger, signals } := ⟨_, _, rfl⟩
  unfold schedule
  refine ensures_get (hwith.bind ?_)
  rintro _ _ ⟨ledger, signals, rfl⟩
  cases !(f.ledger.feasible t.requirement).isEmpty with
  | false => exact ⟨⟨rfl, rfl, h.token, h.faults, h.sound, h.now⟩, rfl⟩
  | true => exact ⟨⟨rfl, rfl, h.token, h.faults, h.sound, h.now⟩, rfl⟩

theorem cancel_execution_calm (handle : String) (h : Calm f) :
    Ensures (cancelExecution handle) f fun _ f' => Follows f f' ∧ f'.store = f.store := by
  have hfaults : { f.faults with cancel := (Fault.next f.faults.cancel).2 } = {} := by
    rw [h.faults]
    rfl
  exact ⟨⟨rfl, rfl, h.token, hfaults, h.sound, h.now⟩, rfl⟩

/-- What a task holds is given back without a look at the store. -/
theorem settle_store (t : Task) (agent : String) (f : Fleet) :
    Ensures (settle t agent) f fun _ f' => f'.store = f.store := by
  have hrelease : Ensures (release agent t.status.resourcesUsed) f fun _ f' => f'.store = f.store := by
    unfold release book
    refine Ensures.bind (q := fun _ f' => f'.store = f.store) ?_ fun _ _ h => h
    refine ensures_get ?_
    cases f.ledger.book (.release agent t.status.resourcesUsed) with
    | error e => exact rfl
    | ok ledger => exact rfl
  unfold settle
  refine hrelease.bind fun _ f₁ hstore => ?_
  cases t.status.execution with
  | none => exact hstore
  | some handle =>
      unfold forgetExecution
      refine ensures_modify (ensures_modify (ensures_get ?_))
      dsimp only
      rcases Fault.next f₁.faults.forget with ⟨fault, rest⟩
      cases fault with
      | some e => exact hstore
      | none => exact hstore

end Calls

section Writes

/-- A task that is written is found as it was written, or as it was if that says nothing new. -/
theorem write_told (outcome : Outcome) (h : Calm f) (hget : f.store.get id = .ok t)
    (hrevision : Revision f.now t next) :
    Ensures (write t next outcome) f fun o f' =>
      o = outcome ∧ ∃ stored, f'.store.get id = .ok stored ∧
        (next.status.same t.status = true ∧ stored = t ∨ stored = next.bump) := by
  unfold write
  by_cases hsame : next.status.same t.status = true
  · rw [if_pos hsame]
    exact ⟨rfl, t, hget, .inl ⟨hsame, rfl⟩⟩
  · rw [if_neg hsame]
    refine (put_calm h hget hrevision).bind ?_
    rintro _ f₁ ⟨rfl, -, hstored⟩
    exact ⟨rfl, next.bump, hstored, .inr rfl⟩

theorem write_calm (outcome : Outcome) (h : Calm f) (hget : f.store.get id = .ok t)
    (hrevision : Revision f.now t next) :
    Ensures (write t next outcome) f fun o f' =>
      o = outcome ∧ ∃ stored, f'.store.get id = .ok stored ∧ (stored = t ∨ stored = next.bump) :=
  (write_told outcome h hget hrevision).imp fun _ _ ⟨ho, stored, hstored, hor⟩ =>
    ⟨ho, stored, hstored, hor.imp_left And.right⟩

/-- The end of a task is recorded. -/
theorem finish_calm (h : Calm f) (hget : f.store.get id = .ok t)
    (hrevision : Revision f.now t next) :
    Ensures (finish t next agent) f fun o f' => o = .done ∧ f'.store.get id = .ok next.bump := by
  unfold finish
  refine (put_calm h hget hrevision).bind ?_
  rintro _ f₁ ⟨rfl, -, hstored⟩
  refine (settle_store t agent f₁).bind fun _ f₂ hstore => ⟨rfl, ?_⟩
  show f₂.store.get id = .ok next.bump
  rw [hstore]
  exact hstored

end Writes

/-- A task that was handed to the substrate at a second, and that nobody wants to cancel. -/
structure Watched (timeout : Duration) (handle : String) (start : Nat) (t : Task) : Prop where
  timeout : t.spec.timeout = timeout
  live : t.isTerminal = false
  wanted : t.cancelRequested = false
  agent : ∃ agent, t.status.agent = some agent
  execution : t.status.execution = some handle
  startTime : t.status.startTime = some start

section HandOff

/-- What a pass over a task without an execution comes to: the task still has none, or it was handed
to the substrate now, and is to be looked at again after the poll interval. -/
def Given (f : Fleet) (id : TaskId) (timeout : Duration) (o : Outcome) (f' : Fleet) : Prop :=
  ∀ stored, f'.store.get id = .ok stored → stored.status.execution = none ∨
    (o = .requeue f.delays.poll ∧ ∃ handle, Watched timeout handle f.now stored)

theorem given_of_get {stored : Task} {g : Fleet} {timeout : Duration} {o : Outcome}
    (hget : f.store.get id = .ok stored)
    (h : stored.status.execution = none ∨
      (o = .requeue g.delays.poll ∧ ∃ handle, Watched timeout handle g.now stored)) :
    Given g id timeout o f := by
  intro found hfound
  rw [hget] at hfound
  cases hfound
  exact h

/-- Nothing is handed off by a write that records no execution. -/
theorem write_given (outcome : Outcome) (h : Calm f) (hget : f.store.get id = .ok t)
    (hrevision : Revision f.now t next) (hold : t.status.execution = none)
    (hnew : next.status.execution = none) (g : Fleet) (timeout : Duration) :
    Ensures (write t next outcome) f (Given g id timeout) := by
  refine (write_calm outcome h hget hrevision).imp ?_
  rintro _ f₁ ⟨-, stored, hstored, hor⟩
  refine given_of_get hstored (.inl ?_)
  obtain rfl | rfl := hor
  · exact hold
  · exact hnew

theorem remark_given (message : String) (outcome : Outcome) (h : Calm f)
    (hget : f.store.get id = .ok t) (hexecution : t.status.execution = none) (g : Fleet)
    (timeout : Duration) :
    Ensures (write t (t.withMessage message) outcome) f (Given g id timeout) :=
  write_given outcome h hget (.remark message) hexecution hexecution g timeout

theorem hand_off_given (h : Calm f) (hget : f.store.get id = .ok t) (hlive : t.isTerminal = false)
    (hwanted : t.cancelRequested = false) (hagent : t.status.agent = some agent)
    (hexecution : t.status.execution = none) :
    Ensures (handOff t agent) f (Given f id t.spec.timeout) := by
  unfold handOff
  refine ensures_get ?_
  cases hgone : f.ledger.capacity? agent with
  | none =>
      refine (write_given _ h hget (.lose agent _ hagent hexecution) hexecution ?_ f _).imp
        fun _ _ h => h
      simp [Task.transition, hexecution]
  | some c =>
      refine (interruptible_calm h.token (submit_calm (.ofTask t agent) h)).bind ?_
      rintro r f₁ ⟨hfollows, hstore⟩
      have hget₁ : f₁.store.get id = .ok t := hstore ▸ hget
      cases r with
      | none => exact given_of_get hget₁ (.inl hexecution)
      | some r =>
          cases r with
          | error e => exact remark_given _ _ hfollows.calm hget₁ hexecution f _
          | ok handle =>
            have hrevision : Revision f₁.now t { t with
                status.execution := some handle
                status.startTime := some f.now
                status.message := "execution " ++ handle ++ " submitted to agent " ++ agent } := by
              rw [← hfollows.now_eq]
              exact .handOff agent handle _ hagent hexecution
            refine (put_calm hfollows.calm hget₁ hrevision).bind ?_
            rintro _ f₂ ⟨rfl, -, hstored⟩
            refine given_of_get hstored (.inr ⟨rfl, handle, ?_⟩)
            exact ⟨rfl, hlive, hwanted, ⟨agent, hagent⟩, rfl, rfl⟩

theorem place_given (h : Calm f) (hget : f.store.get id = .ok t)
    (hwanted : t.cancelRequested = false) (hagent : t.status.agent = none)
    (hexecution : t.status.execution = none) :
    Ensures (place t) f (Given f id t.spec.timeout) := by
  unfold place
  refine ensures_get ((schedule_calm t h).bind ?_)
  rintro r f₁ ⟨hfollows, hstore⟩
  have hget₁ : f₁.store.get id = .ok t := hstore ▸ hget
  cases r with
  | error e =>
      cases e with
      | noCapacity task requirement => exact remark_given _ _ hfollows.calm hget₁ hexecution f _
      | ledger e => exact remark_given _ _ hfollows.calm hget₁ hexecution f _
  | ok agent =>
      have hrevision : Revision f₁.now t ({ t with
          status.agent := some agent
          status.resourcesUsed := t.requirement }.transition .scheduled "Scheduled"
            ("scheduled on agent " ++ agent) f.now) := by
        rw [← hfollows.now_eq]
        exact .place agent _ hagent
      refine (put_calm hfollows.calm hget₁ hrevision).bind ?_
      rintro _ f₂ ⟨rfl, hfollows₂, hstored⟩
      have hall := hfollows.trans hfollows₂
      -- The task that is driven on in the same pass is the one that was stored.
      generalize hnext : Task.bump _ = stored at hstored ⊢
      have hlive : stored.isTerminal = false := by rw [← hnext]; rfl
      have hkept : stored.cancelRequested = false := by rw [← hnext]; exact hwanted
      have hplaced : stored.status.agent = some agent := by
        simp [← hnext, Task.bump, Task.transition]
      have hnone : stored.status.execution = none := by
        simp [← hnext, Task.bump, Task.transition, hexecution]
      have hspec : stored.spec = t.spec := by rw [← hnext]; rfl
      have hgiven := hand_off_given hall.calm hstored hlive hkept hplaced hnone
      dsimp only
      unfold drive
      rw [hnone, ← hspec]
      refine hgiven.imp fun o f₃ h => ?_
      unfold Given at h ⊢
      rw [← hall.delays, ← hall.now_eq]
      exact h

/-- A pass over a task that is there takes it on. -/
theorem reconcile_calm {q : Outcome → Fleet → Prop} (h : Calm f) (hget : f.store.get id = .ok t)
    (hq : Ensures (advance t) { f with trail := .pass id :: f.trail } q) :
    Ensures (reconcile id) f q := by
  have hbegun := h.note (.pass id)
  unfold reconcile
  refine ensures_modify ((interruptible_calm hbegun.token (get_task_calm id hbegun)).bind ?_)
  rintro _ _ ⟨rfl, rfl⟩
  dsimp only
  rw [hget]
  exact hq

theorem advance_given (h : Calm f) (hget : f.store.get id = .ok t)
    (hwanted : t.cancelRequested = false) (hexecution : t.status.execution = none) :
    Ensures (advance t) f (Given f id t.spec.timeout) := by
  unfold advance
  cases hlive : t.isTerminal with
  | true => exact given_of_get hget (.inl hexecution)
  | false =>
      simp only [Bool.false_eq_true, if_false, hwanted]
      cases hagent : t.status.agent with
      | some agent =>
          dsimp only
          unfold drive
          rw [hexecution]
          exact hand_off_given h hget hlive hwanted hagent hexecution
      | none =>
          dsimp only
          unfold prepare
          refine ensures_get ?_
          cases hvalid : t.validate with
          | error e =>
              have hinvalid : t.validate ≠ .ok () := by
                rw [hvalid]
                nofun
              refine write_given _ h hget (.reject _ hagent hinvalid) hexecution ?_ f _
              simp [Task.transition, hexecution]
          | ok =>
              dsimp only
              refine (interruptible_calm h.token (check_all_calm _ _ h)).bind ?_
              rintro r f rfl
              cases r with
              | none => exact given_of_get hget (.inl hexecution)
              | some r =>
                  cases r with
                  | error e => exact remark_given _ _ h hget hexecution f _
                  | ok met =>
                      cases met with
                      | true => exact place_given h hget hwanted hagent hexecution
                      | false => exact remark_given _ _ h hget hexecution f _

/-- A pass over a task without an execution that hands it off asks for the next look after the poll
interval. -/
theorem reconcile_given (h : Calm f) (hget : f.store.get id = .ok t)
    (hwanted : t.cancelRequested = false) (hexecution : t.status.execution = none) :
    Ensures (reconcile id) f (Given f id t.spec.timeout) :=
  reconcile_calm h hget (advance_given (h.note _) hget hwanted hexecution)

end HandOff

section Watch

variable {timeout : Duration} {start : Nat} {report : ExecutionStatus}

/-- The second at which a task that was handed off at a second times out. -/
def deadline (timeout : Duration) (start : Nat) : Nat :=
  min (start + timeout.secsCeil) Text.max64

theorem Watched.deadline_eq (h : Watched timeout handle start t)
    (htimeout : timeout.isZero = false) : t.deadline? = some (deadline timeout start) := by
  unfold Task.deadline?
  rw [h.timeout, htimeout, h.startTime]
  rfl

/-- A pass over a task that has an agent and an execution is a look at it. -/
theorem reconcile_executing {q : Outcome → Fleet → Prop} (h : Calm f)
    (hget : f.store.get id = .ok t) (hlive : t.isTerminal = false)
    (hwanted : t.cancelRequested = false) (hagent : t.status.agent = some agent)
    (hexecution : t.status.execution = some handle)
    (hq : Ensures (watch t agent handle) { f with trail := .pass id :: f.trail } q) :
    Ensures (reconcile id) f q := by
  refine reconcile_calm h hget ?_
  unfold advance
  simp only [hlive, hwanted, hagent, Bool.false_eq_true, if_false]
  unfold drive
  rw [hexecution]
  exact hq

theorem reconcile_watched {q : Outcome → Fleet → Prop} (h : Calm f)
    (hget : f.store.get id = .ok t) (hwatched : Watched timeout handle start t)
    (hq : ∀ agent, Ensures (watch t agent handle) { f with trail := .pass id :: f.trail } q) :
    Ensures (reconcile id) f q := by
  obtain ⟨agent, hagent⟩ := hwatched.agent
  exact reconcile_executing h hget hwatched.live hwatched.wanted hagent hwatched.execution (hq agent)

theorem watch_expired (h : Calm f) (hget : f.store.get id = .ok t)
    (hwatched : Watched timeout handle start t) (htimeout : timeout.isZero = false)
    (hlate : deadline timeout start ≤ f.now) :
    Ensures (watch t agent handle) f fun o f' =>
      o = .done ∧ ∃ stored, f'.store.get id = .ok stored ∧ TimedOut stored := by
  obtain ⟨placed, hplaced⟩ := hwatched.agent
  unfold watch
  refine ensures_get ?_
  simp only [hwatched.deadline_eq htimeout, Option.map_some, hlate, decide_true, Option.getD_some,
    if_pos]
  refine (cancel_execution_calm handle h).bind ?_
  rintro _ f₁ ⟨hfollows, hstore⟩
  have hget₁ : f₁.store.get id = .ok t := hstore ▸ hget
  have hrevision : Revision f₁.now t (t.transition .failed "Timeout" (timeoutMessage t) f.now) := by
    rw [← hfollows.now_eq]
    exact .expire placed handle _ hplaced hwatched.execution
  refine (finish_calm hfollows.calm hget₁ hrevision).imp ?_
  rintro o f₂ ⟨hdone, hstored⟩
  have hphase : t.status.phase ≠ .failed := fun hfailed => by
    have hlive : t.status.phase.isTerminal = false := hwatched.live
    rw [hfailed] at hlive
    exact nomatch hlive
  refine ⟨hdone, _, hstored, rfl, ?_⟩
  simp [Task.bump, Task.transition, TaskStatus.conditions_transition, hphase]

/-- From its deadline on a task times out, whatever has become of its execution. -/
theorem reconcile_expired (h : Calm f) (hget : f.store.get id = .ok t)
    (hwatched : Watched timeout handle start t) (htimeout : timeout.isZero = false)
    (hlate : deadline timeout start ≤ f.now) :
    Ensures (reconcile id) f fun o f' =>
      o = .done ∧ ∃ stored, f'.store.get id = .ok stored ∧ TimedOut stored :=
  reconcile_watched h hget hwatched fun _ =>
    watch_expired (h.note _) hget hwatched htimeout hlate

/-- The execution of a task that has not run out of time is polled, and what it reports is recorded:
as the task's end, or as news of it. -/
theorem watch_polls {placed : String} (h : Calm f) (hget : f.store.get id = .ok t)
    (hplaced : t.status.agent = some placed) (hexecution : t.status.execution = some handle)
    (hearly : ∀ deadline, t.deadline? = some deadline → f.now < deadline)
    (hpoll : f.substrate.poll handle = .ok report) (hreport : report.InRange)
    (hnext : next = { t with status := deriveStatus t report f.now }) :
    Ensures (watch t agent handle) f fun o f' =>
      if next.isTerminal then o = .done ∧ f'.store.get id = .ok next.bump
      else o = .requeue (pollDelay f.delays t f.now) ∧ ∃ stored, f'.store.get id = .ok stored ∧
        (next.status.same t.status = true ∧ stored = t ∨ stored = next.bump) := by
  have hopen : ((t.deadline?.map fun deadline => decide (deadline ≤ f.now)).getD false) = false := by
    cases hdeadline : t.deadline? with
    | none => rfl
    | some deadline => simpa using hearly deadline hdeadline
  unfold watch
  refine ensures_get ?_
  simp only [hopen, Bool.false_eq_true, if_false]
  refine (poll_calm handle h).bind ?_
  rintro _ f₁ ⟨rfl, hfollows, hstore⟩
  have hget₁ : f₁.store.get id = .ok t := hstore ▸ hget
  have hrevision : Revision f₁.now t next := by
    rw [← hfollows.now_eq] at hnext
    rw [hnext]
    exact .observe placed handle report hplaced hexecution hreport
  rw [hpoll]
  dsimp only
  rw [← hnext]
  cases next.isTerminal with
  | true => exact finish_calm hfollows.calm hget₁ hrevision
  | false => exact write_told _ hfollows.calm hget₁ hrevision

/-- Before its deadline the execution of a watched task is polled. -/
theorem watch_polled (h : Calm f) (hget : f.store.get id = .ok t)
    (hwatched : Watched timeout handle start t) (htimeout : timeout.isZero = false)
    (hearly : f.now < deadline timeout start) (hpoll : f.substrate.poll handle = .ok report)
    (hreport : report.InRange) (hnext : next = { t with status := deriveStatus t report f.now }) :
    Ensures (watch t agent handle) f fun o f' =>
      if next.isTerminal then o = .done ∧ f'.store.get id = .ok next.bump
      else o = .requeue (pollDelay f.delays t f.now) ∧
        ∃ stored, f'.store.get id = .ok stored ∧ (stored = t ∨ stored = next.bump) := by
  obtain ⟨placed, hplaced⟩ := hwatched.agent
  have hopen (deadline' : Nat) (hdeadline : t.deadline? = some deadline') : f.now < deadline' := by
    rw [hwatched.deadline_eq htimeout] at hdeadline
    exact Option.some.inj hdeadline ▸ hearly
  refine (watch_polls h hget hplaced hwatched.execution hopen hpoll hreport hnext).imp ?_
  intro o f₁ hnews
  split at hnews
  · rename_i hterminal
    rw [if_pos hterminal]
    exact hnews
  · rename_i hlive
    rw [if_neg hlive]
    obtain ⟨ho, stored, hstored, hor⟩ := hnews
    exact ⟨ho, stored, hstored, hor.imp_left And.right⟩

/-- Before its deadline a task whose execution has succeeded completes. -/
theorem reconcile_succeeded (h : Calm f) (hget : f.store.get id = .ok t)
    (hwatched : Watched timeout handle start t) (htimeout : timeout.isZero = false)
    (hearly : f.now < deadline timeout start) (hpoll : f.substrate.poll handle = .ok report)
    (hreport : report.InRange) (hstate : report.state = .succeeded) :
    Ensures (reconcile id) f fun o f' =>
      o = .done ∧ ∃ stored, f'.store.get id = .ok stored ∧ stored.phase = .completed := by
  have hphase : (deriveStatus t report f.now).phase = .completed := by
    unfold deriveStatus
    rw [hstate]
    rfl
  obtain ⟨next, hnext⟩ : ∃ next : Task, next = { t with status := deriveStatus t report f.now } :=
    ⟨_, rfl⟩
  have hended : next.phase = .completed := by
    rw [hnext]
    exact hphase
  have hterminal : next.isTerminal = true := by
    rw [Task.isTerminal, hended]
    rfl
  refine reconcile_watched h hget hwatched fun agent =>
    (watch_polled (h.note _) hget hwatched htimeout hearly hpoll hreport hnext).imp ?_
  intro o f₁ hend
  rw [if_pos hterminal] at hend
  exact ⟨hend.1, _, hend.2, hended⟩

/-- Before its deadline a task whose execution is running is looked at again after the poll interval,
or at the deadline if that comes first. -/
theorem reconcile_running (h : Calm f) (hget : f.store.get id = .ok t)
    (hwatched : Watched timeout handle start t) (htimeout : timeout.isZero = false)
    (hearly : f.now < deadline timeout start) (hpoll : f.substrate.poll handle = .ok report)
    (hreport : report.InRange) (hstate : report.state = .running) :
    Ensures (reconcile id) f fun o f' =>
      o = .requeue (f.delays.poll.min (.ofSecs (deadline timeout start - f.now))) ∧
        ∃ stored, f'.store.get id = .ok stored ∧ Watched timeout handle start stored := by
  obtain ⟨next, hnext⟩ : ∃ next : Task, next = { t with status := deriveStatus t report f.now } :=
    ⟨_, rfl⟩
  have hlive : next.isTerminal = false := by
    rw [hnext]
    show (deriveStatus t report f.now).phase.isTerminal = false
    unfold deriveStatus
    rw [hstate]
    rfl
  have hdelay : pollDelay f.delays t f.now =
      f.delays.poll.min (.ofSecs (deadline timeout start - f.now)) := by
    unfold pollDelay
    rw [hwatched.deadline_eq htimeout]
    dsimp only
    rw [Nat.max_eq_left (by omega)]
  refine reconcile_watched h hget hwatched fun agent =>
    (watch_polled (h.note _) hget hwatched htimeout hearly hpoll hreport hnext).imp ?_
  intro o f₁ hnews
  rw [hlive, if_neg Bool.false_ne_true] at hnews
  obtain ⟨hrequeue, stored, hstored, hor⟩ := hnews
  refine ⟨hrequeue.trans (congrArg Outcome.requeue hdelay), stored, hstored, ?_⟩
  obtain rfl | rfl := hor
  · exact hwatched
  subst hnext
  · obtain ⟨placed, hplaced⟩ := hwatched.agent
    refine ⟨hwatched.timeout, hlive, hwatched.wanted, ⟨placed, ?_⟩, ?_, ?_⟩
    · show (deriveStatus t report f.now).agent = some placed
      rw [(derive_status_holding report f.now).1, hplaced]
    · show (deriveStatus t report f.now).execution = some handle
      simp [deriveStatus, hstate, hwatched.execution]
    · show (deriveStatus t report f.now).startTime = some start
      simp [deriveStatus, hstate, hwatched.startTime]

end Watch

end Fleet

end TaskFleet
