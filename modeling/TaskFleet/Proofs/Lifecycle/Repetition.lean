import Mathlib.Logic.Function.Iterate
import TaskFleet.Proofs.Lifecycle.Outcomes

/-!
# Passes that have nothing new to say

What a pass that keeps a task where it is writes is worked out from the status that it finds and
from what it is told: by the store about other tasks, by the ledger, and by the substrate. This is
its `News` of the task. As long as the pass is told the same, the news is the same, and a status
that already says it is not written again. So the task is written once at most, however often the
pass is repeated (`written_once`).
-/

namespace TaskFleet

/-- The next calls under a queue of faults, so many of them, meet the same failure, or none. -/
def Fault.Constant {ε : Type} (failure : Option ε) : Nat → List (Fault ε) → Prop
  | 0, _ => True
  | n + 1, faults => (Fault.next faults).1 = failure ∧ Constant failure n (Fault.next faults).2

/-- What is the same for many calls is the same for fewer. -/
theorem Fault.Constant.fewer {ε : Type} {failure : Option ε} {n : Nat} {faults : List (Fault ε)}
    (h : Fault.Constant failure (n + 1) faults) : Fault.Constant failure n faults := by
  induction n generalizing faults with
  | zero => trivial
  | succ n ih => exact ⟨h.1, ih h.2⟩

/-- Whether a task is stored. -/
def Deed.isStore : Deed → Bool
  | .store _ => true
  | _ => false

/-- What a pass has to say of a task that it keeps where it is. -/
inductive News where
  /-- Why it does not go on. -/
  | remark (message : String)
  /-- What its execution reports. -/
  | report (status : ExecutionStatus)

/-- The task with the news. -/
def News.apply (t : Task) (now : Nat) : News → Task
  | .remark message => t.withMessage message
  | .report status => { t with status := deriveStatus t status now }

/-- Two versions of a task about which a pass is told the same. -/
structure Task.Alike (t t' : Task) : Prop where
  id : t'.id = t.id
  spec : t'.spec = t.spec
  cancelRequested : t'.cancelRequested = t.cancelRequested
  agent : t'.status.agent = t.status.agent
  execution : t'.status.execution = t.status.execution
  startTime : t'.status.startTime = t.status.startTime

variable {t t' next : Task}

section News

/-- The news is about the same task. -/
theorem news_alike (t : Task) (now : Nat) (news : News) : t.Alike (news.apply t now) := by
  cases news with
  | remark message => exact ⟨rfl, rfl, rfl, rfl, rfl, rfl⟩
  | report status =>
      obtain ⟨hagent, -, hexecution⟩ := Fleet.derive_status_holding (t := t) status now
      refine ⟨rfl, rfl, rfl, hagent, hexecution, ?_⟩
      show (deriveStatus t status now).startTime = t.status.startTime
      unfold deriveStatus
      cases status.state with
      | pending | running | succeeded | failed => simp

/-- A change to what is there already changes nothing. -/
theorem TaskStatus.transition_self {s : TaskStatus} {phase : Phase} {message : String}
    {attempts : Nat} (hphase : s.phase = phase) (hmessage : s.message = message)
    (hattempts : s.attempts = attempts) (reason : String) (now : Nat) :
    { s with attempts }.transition phase reason message now = s := by
  unfold TaskStatus.transition
  rw [if_pos hphase]
  subst hphase hmessage hattempts
  rfl

/-- A report that comes again says nothing new. -/
theorem derive_status_again (t : Task) (report : ExecutionStatus) (now : Nat) :
    deriveStatus { t with status := deriveStatus t report now } report now =
      deriveStatus t report now := by
  have hattempts := TaskStatus.attempts_transition { t.status with attempts := report.attempts }
  unfold deriveStatus
  cases report.state with
  | pending =>
      have hphase (p : Phase) : (if p = .running then Phase.running else .scheduled) =
          if (if p = .running then Phase.running else .scheduled) = .running then .running
          else .scheduled := by
        by_cases hrunning : p = .running
        · simp [hrunning]
        · simp [hrunning]
      exact TaskStatus.transition_self (hphase t.status.phase) rfl (hattempts ..) _ _
  | running =>
      exact congrArg (fun s : TaskStatus => { s with progress := report.progress })
        (TaskStatus.transition_self (s := { TaskStatus.transition _ _ _ _ _ with
          progress := report.progress }) rfl rfl (hattempts ..) _ _)
  | succeeded =>
      exact congrArg (fun s : TaskStatus => { s with
          progress := 100, result := some (report.result 0) })
        (TaskStatus.transition_self (s := { TaskStatus.transition _ _ _ _ _ with
          progress := 100, result := some (report.result 0) }) rfl rfl (hattempts ..) _ _)
  | failed =>
      exact congrArg (fun s : TaskStatus => { s with result := some (report.result 1) })
        (TaskStatus.transition_self (s := { TaskStatus.transition _ _ _ _ _ with
          result := some (report.result 1) }) rfl rfl (hattempts ..) _ _)

/-- The same news once more says nothing new. -/
theorem same_of_told (news : News) (t : Task) (now : Nat) :
    (news.apply (news.apply t now).bump now).status.same (news.apply t now).bump.status = true := by
  have hagain : (news.apply (news.apply t now).bump now).status = (news.apply t now).status := by
    cases news with
    | remark message => rfl
    | report status => exact derive_status_again t status now
  rw [hagain]
  exact TaskStatus.same_refl _

/-- The next version of a task is like it. -/
theorem Task.Alike.bump (h : t.Alike t') : t.Alike t'.bump := { h with }

/-- A task is like itself. -/
theorem Task.alike_refl (t : Task) : t.Alike t := ⟨rfl, rfl, rfl, rfl, rfl, rfl⟩

/-- Stores with the same phases come to the same verdict. -/
theorem TaskStore.verdict_congr {s s' : TaskStore}
    (h : ∀ id, (s'.get id).map Task.phase = (s.get id).map Task.phase) (id : TaskId)
    (dependencies : List Dependency) : s'.verdict id dependencies = s.verdict id dependencies := by
  induction dependencies with
  | nil => rfl
  | cons d rest ih =>
      unfold TaskStore.verdict
      rw [h, ih]

/-- A store in which a task was replaced by one in the same phase tells the same phases. -/
theorem TaskStore.Replaces.phases {s s' : TaskStore} (h : s.Replaces t next s')
    (hphase : next.phase = t.phase) (id : TaskId) :
    (s'.get id).map Task.phase = (s.get id).map Task.phase := by
  by_cases hget : s.get id = .ok t
  · rw [h.found id hget, hget]
    exact congrArg Except.ok hphase
  · rw [h.others id hget]

/-- Tasks that ask for the same are placed in the same way. -/
theorem Ledger.schedule_congr (l : Ledger) (strategy : Strategy) (hid : t'.id = t.id)
    (hspec : t'.spec = t.spec) :
    l.schedule t' (strategy.score t') [] = l.schedule t (strategy.score t) [] := by
  have hrequirement : t'.requirement = t.requirement := congrArg (·.resources.effective) hspec
  have hscore : strategy.score t' = strategy.score t := by
    funext agent
    unfold Strategy.score Strategy.packed Strategy.spare
    rw [hrequirement, hspec]
  unfold Ledger.schedule
  rw [hscore, hrequirement, hid]

end News

namespace Fleet

/-- What the substrate answers the next time that an execution is asked for. -/
def pollAnswer (f : Fleet) (handle : String) : Except String ExecutionStatus :=
  match (Fault.next f.faults.poll).1 with
  | some e => .error e
  | none => f.substrate.poll handle

/-- What the substrate answers the next time that it is asked to run a task. -/
def submitAnswer (f : Fleet) (request : ExecutionRequest) : Except String String :=
  match (Fault.next f.faults.submit).1 with
  | some e => .error e
  | none => (f.substrate.submit request).map Prod.snd

/-- Why a task without an agent is not placed. -/
def obstacle (f : Fleet) (t : Task) : Option News :=
  match t.validate with
  | .error _ => none
  | .ok () => match f.store.verdict t.id t.spec.dependencies with
    | .error e => some (.remark ("FetchError: " ++ e.message))
    | .ok false => some (.remark "waiting for dependencies")
    | .ok true => match (f.ledger.schedule t (f.strategy.score t) []).result with
      | .ok _ => none
      | .error e@(.noCapacity ..) => some (.remark ("NoCapacity: " ++ e.message))
      | .error e@(.ledger _) => some (.remark ("Conflict: " ++ e.message))

/-- Why a placed task is not handed off. -/
def refusal (f : Fleet) (t : Task) (agent : String) : Option News :=
  if (f.ledger.capacity? agent).isNone then none
  else match f.submitAnswer (.ofTask t agent) with
    | .error e => some (.remark ("TransientIOError: execution handoff failed: " ++ e))
    | .ok _ => none

/-- What there is to see of a task's execution before it ends. -/
def sighting (f : Fleet) (t : Task) (handle : String) : Option News :=
  if (t.deadline?.map fun deadline => decide (deadline ≤ f.now)).getD false then none
  else match f.pollAnswer handle with
    | .error e => some (.remark ("TransientIOError: status poll failed: " ++ e))
    | .ok status => if status.state.isTerminal then none else some (.report status)

/-- What there is to say of a task with an agent. -/
def outlook (f : Fleet) (t : Task) (agent : String) : Option News :=
  match t.status.execution with
  | none => f.refusal t agent
  | some handle => f.sighting t handle

/-- What a pass has to say of a task, if it keeps it where it is. -/
def news (f : Fleet) (t : Task) : Option News :=
  if t.cancelRequested then none
  else match t.status.agent with
    | none => f.obstacle t
    | some agent => f.outlook t agent

/-- A fleet in which no interrupt is due and nobody else books anything, no reading and none of the
next writes fails, and the substrate refuses the next requests all with one error, if at all, and
likewise the next questions what an execution reports. -/
structure Undisturbed (n : Nat) (refused unseen : Option String) (f : Fleet) : Prop where
  proper : Proper False f
  token : f.token = {}
  rival : f.rival = none
  reads : f.faults.get = []
  writes : Fault.Constant none n f.faults.put
  submits : Fault.Constant refused n f.faults.submit
  polls : Fault.Constant unseen n f.faults.poll

/-- The fleet after passes that have written tasks `k` times, and have done nothing else but ask the
substrate. -/
structure Speaks (k : Nat) (f f' : Fleet) : Prop where
  rest : f' = { f with
    store := f'.store
    faults := { f.faults with
      put := f'.faults.put, submit := f'.faults.submit, poll := f'.faults.poll }
    events := f'.events
    trail := f'.trail }
  store : k = 0 → f'.store = f.store
  writes : f'.faults.put = (fun faults => (Fault.next faults).2)^[k] f.faults.put
  stored : ∃ deeds, f'.trail = deeds ++ f.trail ∧ deeds.countP Deed.isStore = k

/-- The fleet after passes over one task, so many of them. -/
def passes (id : TaskId) (n : Nat) (f : Fleet) : Fleet :=
  (fun f => ((reconcile id).run f).2)^[n] f

/-- A task that a pass does not keep where it is: it is over, or it has another agent or another
execution than before. -/
def Moved (id : TaskId) (t : Task) (f' : Fleet) : Prop :=
  ∃ u, f'.store.get id = .ok u ∧ (u.isTerminal = true ∨ u.status.agent ≠ t.status.agent ∨
    u.status.execution ≠ t.status.execution)

/-- A task with an agent that a pass does not keep where it is: it is over, or its agent has left,
or it has been handed off. -/
def Driven (id : TaskId) (t : Task) (agent : String) (f f' : Fleet) : Prop :=
  ∃ u, f'.store.get id = .ok u ∧ (u.isTerminal = true ∨
    f.ledger.capacity? agent = none ∧ u.status.agent = none ∨
    t.status.execution = none ∧ u.status.agent = some agent ∧ u.status.execution.isSome = true)

/-- What comes of a pass that has news of a task: the news is written, unless the task says it
already. -/
inductive Tells (t : Task) (news : News) (f f' : Fleet) : Prop where
  | again (hsame : (news.apply t f.now).status.same t.status = true) (h : Speaks 0 f f')
  | anew (hnew : ¬ (news.apply t f.now).status.same t.status = true)
      (hreplaces : f.store.Replaces t (news.apply t f.now).bump f'.store) (h : Speaks 1 f f')

variable {n k : Nat} {refused unseen : Option String} {f f' f'' : Fleet} {id : TaskId}
  {agent handle : String} {news : News}

section Answers

/-- A task that is not placed changes nothing. -/
theorem schedule_undisturbed (t : Task) (h : Undisturbed n refused unseen f) :
    Ensures (schedule t) f fun r f' =>
      r = (f.ledger.schedule t (f.strategy.score t) []).result ∧
        match r with
        | .error _ => f' = f
        | .ok agent => f' = { f with ledger := f'.ledger, signals := f'.signals } ∧
            (f'.ledger.capacity? agent).isSome = true := by
  have hwith : Ensures (scheduleWith f.strategy f.rival t) f fun r f' =>
      r = (f.ledger.schedule t (f.strategy.score t) []).result ∧ f' = { f with
        ledger := (f.ledger.schedule t (f.strategy.score t) []).ledger
        signals := f.signals + (f.ledger.schedule t (f.strategy.score t) []).changes } := by
    have hnone : f.rival.toList = [] := by rw [h.rival]; rfl
    rw [← hnone]
    exact ⟨rfl, rfl⟩
  have hrun : Ensures (schedule t) f fun r f' =>
      r = (f.ledger.schedule t (f.strategy.score t) []).result ∧ f' = { f with
        ledger := (f.ledger.schedule t (f.strategy.score t) []).ledger
        signals := f.signals + (f.ledger.schedule t (f.strategy.score t) []).changes } := by
    unfold schedule
    refine ensures_get (hwith.bind ?_)
    rintro _ _ ⟨rfl, rfl⟩
    cases !(f.ledger.feasible t.requirement).isEmpty with
    | false => exact ⟨rfl, rfl⟩
    | true =>
        -- There is no rival that could have struck.
        refine ⟨rfl, ?_⟩
        show { f with ledger := _, signals := _, rival := none } = _
        rw [← h.rival]
  refine hrun.imp ?_
  rintro _ _ ⟨rfl, rfl⟩
  refine ⟨rfl, ?_⟩
  unfold Ledger.schedule
  cases rankAgents (f.strategy.score t) (f.ledger.feasible t.requirement) with
  | nil => exact rfl
  | cons best rest =>
      dsimp only [Ledger.afterRivals]
      cases hreserve : f.ledger.reserve best.agent.name t.requirement with
      | error e => exact rfl
      | ok ledger =>
          obtain ⟨c, hc, -, rfl⟩ := Ledger.reserve_ok_iff.1 hreserve
          refine ⟨rfl, ?_⟩
          rw [Ledger.capacity?_insert, if_pos rfl]
          rfl

end Answers

section Writes

/-- What is undisturbed for some passes is so for one less. -/
theorem Undisturbed.fewer (h : Undisturbed (n + 1) refused unseen f) :
    Undisturbed n refused unseen f :=
  { h with writes := h.writes.fewer, submits := h.submits.fewer, polls := h.polls.fewer }

/-- What is undisturbed for some passes is so for fewer. -/
theorem Undisturbed.of_le {m : Nat} (h : Undisturbed (n + 1) refused unseen f) (hle : m ≤ n) :
    Undisturbed (m + 1) refused unseen f := by
  obtain ⟨rest, rfl⟩ := Nat.exists_eq_add_of_le hle
  induction rest with
  | zero => exact h
  | succ rest ih => exact ih h.fewer (Nat.le_add_right ..)

/-- Where nothing happens nothing is written. -/
theorem speaks_refl (f : Fleet) : Speaks 0 f f :=
  ⟨rfl, fun _ => rfl, rfl, [], rfl, rfl⟩

/-- What was noted before does not count as a write. -/
theorem speaks_of_deed (d : Deed) (hd : d.isStore = false)
    (hrest : f' = { f with
      faults := { f.faults with submit := f'.faults.submit, poll := f'.faults.poll }
      events := f'.events
      trail := d :: f.trail }) : Speaks 0 f f' := by
  have hstore : f'.store = f.store := by rw [hrest]
  have hputs : f'.faults.put = f.faults.put := by rw [hrest]
  have htrail : f'.trail = [d] ++ f.trail := by rw [hrest]; rfl
  refine ⟨?_, fun _ => hstore, hputs, [d], htrail, by simp [hd]⟩
  rw [hstore, hputs, htrail]
  exact hrest

/-- The clock stands still during such passes. -/
theorem Speaks.now_eq (h : Speaks k f f') : f'.now = f.now := by
  rw [h.rest]
  rfl

/-- Passes that have written nothing made calls that write no task. -/
theorem Speaks.aside (h : Speaks 0 f f') (hproper : Proper False f') :
    Aside f f' ∧ f'.token = f.token := by
  have hclock : f'.clock = f.clock := by rw [h.rest]
  have htoken : f'.token = f.token := by rw [h.rest]
  exact ⟨⟨hclock, h.store rfl, h.writes, hproper⟩, htoken⟩

/-- The writes of two parts add up. -/
theorem Speaks.trans {j : Nat} (h : Speaks j f f') (h' : Speaks k f' f'') :
    Speaks (j + k) f f'' := by
  obtain ⟨hrest, hstore, hwrites, deeds, htrail, hcount⟩ := h
  obtain ⟨hrest', hstore', hwrites', deeds', htrail', hcount'⟩ := h'
  refine ⟨?_, ?_, ?_, deeds' ++ deeds, ?_, ?_⟩
  · rw [hrest', hrest]
  · intro hnone
    rw [hstore' (Nat.eq_zero_of_add_eq_zero_left hnone),
      hstore (Nat.eq_zero_of_add_eq_zero_right hnone)]
  · rw [hwrites', hwrites, Nat.add_comm, Function.iterate_add_apply]
  · rw [htrail', htrail, List.append_assoc]
  · rw [List.countP_append, hcount, hcount', Nat.add_comm]

/-- One put is one write. -/
theorem speaks_of_put (next : Task) (store : TaskStore) : Speaks 1 f { f with
    store
    faults.put := (Fault.next f.faults.put).2
    trail := .store next :: f.trail } :=
  ⟨rfl, (fun hone => nomatch hone), rfl, [.store next], rfl, rfl⟩

/-- An execution is asked for, and nothing else happens. -/
theorem poll_undisturbed (handle : String) (h : Undisturbed (n + 1) refused unseen f) :
    Ensures (interruptible (poll handle)) f fun r f' =>
      r = some (f.pollAnswer handle) ∧ Speaks 0 f f' ∧ Undisturbed n refused unseen f' := by
  have hrun : Ensures (poll handle) f fun r f' => r = some (f.pollAnswer handle) ∧ f' = { f with
      faults.poll := (Fault.next f.faults.poll).2
      events := .polled handle :: f.events
      trail := .poll handle :: f.trail } := by
    unfold Ensures pollAnswer
    rw [poll_run, h.token]
    rcases Fault.next f.faults.poll with ⟨_ | e, rest⟩
    · exact ⟨rfl, rfl⟩
    · exact ⟨rfl, rfl⟩
  refine interruptible_calm h.token (hrun.imp ?_)
  rintro _ _ ⟨rfl, rfl⟩
  refine ⟨rfl, speaks_of_deed (.poll handle) rfl rfl, ?_⟩
  exact { h.fewer with proper := { h.proper with }, polls := h.polls.2 }

/-- A request that is refused changes nothing but what is noted. -/
theorem submit_undisturbed (request : ExecutionRequest)
    (h : Undisturbed (n + 1) refused unseen f) :
    Ensures (interruptible (submit request)) f fun r f' =>
      r = some (f.submitAnswer request) ∧ match f.submitAnswer request with
        | .error _ => Speaks 0 f f' ∧ Undisturbed n refused unseen f'
        | .ok _ => Aside f f' ∧ f'.token = f.token := by
  have hrun : Ensures (submit request) f fun r f' => r = some (f.submitAnswer request) ∧
      match f.submitAnswer request with
      | .error _ => f' = { f with
          faults.submit := (Fault.next f.faults.submit).2
          trail := .ask request f.ledger f.store :: f.trail }
      | .ok _ => f'.clock = f.clock ∧ f'.store = f.store ∧ f'.faults.put = f.faults.put ∧
          f'.token = f.token := by
    unfold Ensures submitAnswer
    rw [submit_run, h.token]
    rcases Fault.next f.faults.submit with ⟨_ | e, rest⟩
    · cases f.substrate.submit request with
      | error e => exact ⟨rfl, rfl⟩
      | ok r => exact ⟨rfl, rfl, rfl, rfl, rfl⟩
    · exact ⟨rfl, rfl⟩
  refine interruptible_calm h.token ((hrun.and (submit_proper request h.proper)).imp ?_)
  rintro r f₁ ⟨⟨hr, hrest⟩, hproper⟩
  refine ⟨hr, ?_⟩
  cases hanswer : f.submitAnswer request with
  | error e =>
      rw [hanswer] at hrest
      cases hrest
      refine ⟨speaks_of_deed (.ask request f.ledger f.store) rfl rfl, ?_⟩
      exact { h.fewer with proper := { h.proper with }, submits := h.submits.2 }
  | ok handle =>
      rw [hanswer] at hrest
      obtain ⟨hclock, hstore, hwrites, htoken⟩ := hrest
      exact ⟨⟨hclock, hstore, hwrites, hproper⟩, htoken⟩

/-- A write disturbs nothing. -/
theorem Undisturbed.stored {store : TaskStore} (h : Undisturbed n refused unseen f)
    (hwrites : Fault.Constant none n (Fault.next f.faults.put).2) (hsound : store.Sound)
    (d : Deed) : Undisturbed n refused unseen { f with
      store
      faults.put := (Fault.next f.faults.put).2
      trail := d :: f.trail } := by
  have hproper : Proper False { f with store } := { h.proper with sound := hsound }
  exact { h with
    proper := { hproper with faults := False.elim }
    writes := hwrites }

/-- The news is written, unless it is none. -/
theorem write_tells (outcome : Outcome) (h : Undisturbed (n + 1) refused unseen f)
    (hspeaks : Speaks 0 f f') (h' : Undisturbed n refused unseen f')
    (hget : f.store.get id = .ok t) (hrevision : Revision f.now t (news.apply t f.now)) :
    Ensures (write t (news.apply t f.now) outcome) f' fun _ f'' =>
      Tells t news f f'' ∧ Undisturbed n refused unseen f'' := by
  unfold write
  by_cases hsame : (news.apply t f.now).status.same t.status = true
  · rw [if_pos hsame]
    exact ⟨.again hsame hspeaks, h'⟩
  · rw [if_neg hsame]
    have hstore : f'.store = f.store := hspeaks.store rfl
    have hwrites : Fault.Constant none (n + 1) f'.faults.put := by
      rw [show f'.faults.put = f.faults.put from hspeaks.writes]
      exact h.writes
    refine (put_undisturbed h'.token hwrites.1 h'.proper.sound h'.proper.now (hstore ▸ hget)
      (hspeaks.now_eq ▸ hrevision)).bind ?_
    rintro _ _ ⟨rfl, store, hsound, hreplaces, rfl⟩
    refine ⟨.anew hsame (hstore ▸ hreplaces) (hspeaks.trans (speaks_of_put _ store)), ?_⟩
    exact h'.stored hwrites.2 hsound _

/-- Nothing keeps a task from being written after calls that write none. -/
theorem put_recorded (h : Undisturbed (n + 1) refused unseen f) (haside : Aside f f')
    (htoken : f'.token = f.token) (hget : f.store.get id = .ok t)
    (hrevision : Revision f.now t next) :
    Ensures (interruptible (putTask next)) f' fun r f'' =>
      r = some (.ok next.bump) ∧ f''.store.get id = .ok next.bump := by
  have hfault : (Fault.next f'.faults.put).1 = none := by
    rw [haside.writes]
    exact h.writes.1
  refine (put_undisturbed (htoken.trans h.token) hfault haside.proper.sound haside.proper.now
    (haside.get hget) (haside.now_eq ▸ hrevision)).imp ?_
  rintro _ _ ⟨rfl, store, -, hreplaces, rfl⟩
  exact ⟨rfl, hreplaces.found id (haside.get hget)⟩

/-- The end of a task is recorded where nothing disturbs. -/
theorem finish_recorded (h : Undisturbed (n + 1) refused unseen f) (haside : Aside f f')
    (htoken : f'.token = f.token) (hget : f.store.get id = .ok t)
    (hrevision : Revision f.now t next) :
    Ensures (finish t next agent) f' fun _ f'' => f''.store.get id = .ok next.bump := by
  unfold finish
  refine (put_recorded h haside htoken hget hrevision).bind ?_
  rintro _ f₁ ⟨rfl, hstored⟩
  refine (settle_store t agent f₁).bind fun _ f₂ hstore => ?_
  show f₂.store.get id = .ok next.bump
  rw [hstore]
  exact hstored

/-- A status that says something else is written. -/
theorem write_recorded (outcome : Outcome) (h : Undisturbed (n + 1) refused unseen f)
    (haside : Aside f f') (htoken : f'.token = f.token) (hget : f.store.get id = .ok t)
    (hrevision : Revision f.now t next) (hnew : ¬ next.status.same t.status = true) :
    Ensures (write t next outcome) f' fun _ f'' => f''.store.get id = .ok next.bump := by
  unfold write
  rw [if_neg hnew]
  refine (put_recorded h haside htoken hget hrevision).bind ?_
  rintro _ f₁ ⟨rfl, hstored⟩
  exact hstored

end Writes

section Passes

/-- After some news the task is stored as it was, or with the news. -/
theorem Tells.get (h : Tells t news f f') (hget : f.store.get id = .ok t) :
    ∃ u, f'.store.get id = .ok u ∧ (u = t ∨ u = (news.apply t f.now).bump) := by
  cases h with
  | again hsame h => exact ⟨t, h.store rfl ▸ hget, .inl rfl⟩
  | anew hnew hreplaces h => exact ⟨_, hreplaces.found id hget, .inr rfl⟩

/-- A placed task is handed off, unless it is refused or its agent has left. -/
theorem hand_off_tells (h : Undisturbed (n + 1) refused unseen f) (hget : f.store.get id = .ok t)
    (hagent : t.status.agent = some agent)
    (hexecution : t.status.execution = none) :
    Ensures (handOff t agent) f fun _ f' => match f.refusal t agent with
      | some news => Tells t news f f' ∧ Undisturbed n refused unseen f'
      | none => Driven id t agent f f' := by
  unfold handOff
  refine ensures_get ?_
  cases hthere : f.ledger.capacity? agent with
  | none =>
      have hrefusal : f.refusal t agent = none := by
        unfold refusal
        rw [hthere]
        rfl
      rw [hrefusal]
      have hlost : ¬ TaskStatus.same ({ t with
          status.agent := none
          status.resourcesUsed := ∅ }.transition .pending "AgentLost"
            ("agent " ++ agent ++ " left the fleet, rescheduling") f.now).status
              t.status = true := by
        intro hsame
        have hlost := congrArg TaskStatus.agent (TaskStatus.rest_of_same hsame)
        have hnone := hlost.symm.trans (TaskStatus.agent_transition ..)
        exact Option.some_ne_none agent (hagent.symm.trans hnone)
      refine (write_recorded _ h h.proper.aside rfl hget (.lose agent _ hagent hexecution)
        hlost).imp fun _ f₁ hstored => ?_
      exact ⟨_, hstored, .inr (.inl ⟨hthere, TaskStatus.agent_transition ..⟩)⟩
  | some c =>
      refine (submit_undisturbed (.ofTask t agent) h).bind ?_
      rintro _ f₁ ⟨rfl, hasked⟩
      have hrefusal : f.refusal t agent = match f.submitAnswer (.ofTask t agent) with
          | .error e => some (.remark ("TransientIOError: execution handoff failed: " ++ e))
          | .ok _ => none := by
        unfold refusal
        rw [hthere]
        rfl
      rw [hrefusal]
      cases hanswer : f.submitAnswer (.ofTask t agent) with
      | error e =>
          rw [hanswer] at hasked
          exact write_tells _ h hasked.1 hasked.2 hget (.remark _)
      | ok handle =>
          rw [hanswer] at hasked
          obtain ⟨haside, htoken⟩ := hasked
          refine (put_recorded h haside htoken hget
            (.handOff agent handle _ hagent hexecution)).bind ?_
          rintro _ f₂ ⟨rfl, hstored⟩
          exact ⟨_, hstored, .inr (.inr ⟨hexecution, hagent, rfl⟩)⟩

/-- A report of an execution that is not over does not end the task. -/
theorem terminal_of_report (report : ExecutionStatus) (now : Nat) :
    Task.isTerminal { t with status := deriveStatus t report now } = report.state.isTerminal := by
  show (deriveStatus t report now).phase.isTerminal = _
  unfold deriveStatus
  cases report.state with
  | pending =>
      by_cases hrunning : t.status.phase = .running
      · simp [hrunning, Phase.isTerminal, ExecutionState.isTerminal]
      · simp [hrunning, Phase.isTerminal, ExecutionState.isTerminal]
  | running | succeeded | failed => rfl

/-- What a poll answers is in range. -/
theorem in_range_of_answer {report : ExecutionStatus} (h : Proper False f)
    (hanswer : f.pollAnswer handle = .ok report) : report.InRange := by
  unfold pollAnswer at hanswer
  split at hanswer
  · exact nomatch hanswer
  · exact h.polled hanswer

/-- A watched task ends, or it is kept with what there is to see. -/
theorem watch_tells (h : Undisturbed (n + 1) refused unseen f) (hget : f.store.get id = .ok t)
    (hagent : t.status.agent = some agent) (hexecution : t.status.execution = some handle) :
    Ensures (watch t agent handle) f fun _ f' => match f.sighting t handle with
      | some news => Tells t news f f' ∧ Undisturbed n refused unseen f'
      | none => Driven id t agent f f' := by
  unfold watch sighting
  refine ensures_get ?_
  cases (t.deadline?.map fun deadline => decide (deadline ≤ f.now)).getD false with
  | true =>
      refine (cancel_execution_aside handle h.proper).bind ?_
      rintro _ f₁ ⟨haside, htoken⟩
      exact (finish_recorded h haside htoken hget (.expire agent handle _ hagent hexecution)).imp
        fun _ _ hstored => ⟨_, hstored, .inl rfl⟩
  | false =>
      refine (poll_undisturbed handle h).bind ?_
      rintro _ f₁ ⟨rfl, hspeaks, h₁⟩
      cases hanswer : f.pollAnswer handle with
      | error e => exact write_tells _ h hspeaks h₁ hget (.remark _)
      | ok report =>
          have hrevision : Revision f.now t ((News.report report).apply t f.now) :=
            .observe agent handle report hagent hexecution (in_range_of_answer h.proper hanswer)
          dsimp only
          rw [terminal_of_report]
          cases hover : report.state.isTerminal with
          | true =>
              obtain ⟨haside, htoken⟩ := hspeaks.aside h₁.proper
              refine (finish_recorded h haside htoken hget hrevision).imp fun _ _ hstored => ?_
              exact ⟨_, hstored, .inl ((terminal_of_report report f.now).trans hover)⟩
          | false => exact write_tells _ h hspeaks h₁ hget hrevision

/-- A task that has an agent is told its news, or driven on. -/
theorem drive_tells (h : Undisturbed (n + 1) refused unseen f) (hget : f.store.get id = .ok t)
    (hagent : t.status.agent = some agent) :
    Ensures (drive t agent) f fun _ f' => match f.outlook t agent with
      | some news => Tells t news f f' ∧ Undisturbed n refused unseen f'
      | none => Driven id t agent f f' := by
  unfold drive outlook
  cases hexecution : t.status.execution with
  | none => exact hand_off_tells h hget hagent hexecution
  | some handle => exact watch_tells h hget hagent hexecution

/-- A task whose agent is there stays with it, or it is over. -/
theorem drive_stays (h : Undisturbed (n + 1) refused unseen f) (hget : f.store.get id = .ok t)
    (hagent : t.status.agent = some agent) (hthere : (f.ledger.capacity? agent).isSome = true) :
    Ensures (drive t agent) f fun _ f' =>
      ∃ u, f'.store.get id = .ok u ∧ (u.isTerminal = true ∨ u.status.agent = some agent) := by
  refine (drive_tells h hget hagent).imp fun _ f₁ hr => ?_
  cases houtlook : f.outlook t agent with
  | some news =>
      rw [houtlook] at hr
      obtain ⟨u, hstored, hor⟩ := hr.1.get hget
      refine ⟨u, hstored, .inr ?_⟩
      obtain rfl | rfl := hor
      · exact hagent
      · exact (news_alike t f.now news).agent.trans hagent
  | none =>
      rw [houtlook] at hr
      obtain ⟨u, hstored, hterminal | ⟨hgone, -⟩ | ⟨-, hplaced, -⟩⟩ := hr
      · exact ⟨u, hstored, .inl hterminal⟩
      · rw [hgone] at hthere
        exact nomatch hthere
      · exact ⟨u, hstored, .inr hplaced⟩

/-- A task that cannot be placed is told why, and one that can is moved. -/
theorem place_tells (h : Undisturbed (n + 2) refused unseen f) (hget : f.store.get id = .ok t)
    (hagent : t.status.agent = none) :
    Ensures (place t) f fun _ f' =>
      match (f.ledger.schedule t (f.strategy.score t) []).result with
      | .ok _ => Moved id t f'
      | .error e@(.noCapacity ..) => Tells t (.remark ("NoCapacity: " ++ e.message)) f f' ∧
          Undisturbed (n + 1) refused unseen f'
      | .error e@(.ledger _) => Tells t (.remark ("Conflict: " ++ e.message)) f f' ∧
          Undisturbed (n + 1) refused unseen f' := by
  unfold place
  refine ensures_get ((schedule_undisturbed t h).bind ?_)
  rintro r f₁ ⟨hr, hrest⟩
  rw [← hr]
  match r with
  | .error (.noCapacity task requirement) =>
      cases hrest
      exact write_tells _ h (speaks_refl _) h.fewer hget (.remark _)
  | .error (.ledger e) =>
      cases hrest
      exact write_tells _ h (speaks_refl _) h.fewer hget (.remark _)
  | .ok agent =>
      obtain ⟨hsame, hthere⟩ := hrest
      have h₁ : Undisturbed (n + 2) refused unseen f₁ := by
        rw [hsame]
        exact { h with proper := { h.proper with } }
      have hget₁ : f₁.store.get id = .ok t := by
        rw [hsame]
        exact hget
      have hrevision : Revision f₁.now t ({ t with
          status.agent := some agent
          status.resourcesUsed := t.requirement }.transition .scheduled "Scheduled"
            ("scheduled on agent " ++ agent) f.now) := by
        rw [show f₁.now = f.now by rw [hsame]; rfl]
        exact .place agent _ hagent
      refine (put_undisturbed h₁.token h₁.writes.1 h₁.proper.sound h₁.proper.now hget₁
        hrevision).bind ?_
      rintro _ _ ⟨rfl, store, hsound, hreplaces, rfl⟩
      refine (drive_stays (h₁.fewer.stored h₁.writes.2 hsound _) (hreplaces.found id hget₁)
        (TaskStatus.agent_transition ..) hthere).imp fun _ f₂ hr => ?_
      obtain ⟨u, hstored, hterminal | hplaced⟩ := hr
      · exact ⟨u, hstored, .inl hterminal⟩
      · refine ⟨u, hstored, .inr (.inl ?_)⟩
        rw [hplaced, hagent]
        exact Option.some_ne_none agent

/-- A task without an agent that is not kept is over, or it is placed. -/
theorem prepare_tells (h : Undisturbed (n + 2) refused unseen f) (hget : f.store.get id = .ok t)
    (hlive : t.isTerminal = false) (hagent : t.status.agent = none) :
    Ensures (prepare t) f fun _ f' => match f.obstacle t with
      | some news => Tells t news f f' ∧ Undisturbed (n + 1) refused unseen f'
      | none => Moved id t f' := by
  unfold prepare obstacle
  refine ensures_get ?_
  cases hvalid : t.validate with
  | error e =>
      have hinvalid : t.validate ≠ .ok () := by
        rw [hvalid]
        nofun
      exact (write_recorded _ h h.proper.aside rfl hget (.reject _ hagent hinvalid)
        (not_same_of_terminal hlive rfl)).imp fun _ _ hstored => ⟨_, hstored, .inl rfl⟩
  | ok =>
      refine (interruptible_calm h.token
        (check_all_told t.id t.spec.dependencies h.token h.reads)).bind ?_
      rintro _ f ⟨rfl, rfl⟩
      match f.store.verdict t.id t.spec.dependencies with
      | .error e => exact write_tells _ h (speaks_refl _) h.fewer hget (.remark _)
      | .ok false => exact write_tells _ h (speaks_refl _) h.fewer hget (.remark _)
      | .ok true =>
          refine (place_tells h hget hagent).imp fun _ f₁ hr => ?_
          match hresult : (f.ledger.schedule t (f.strategy.score t) []).result with
          | .ok agent =>
              rw [hresult] at hr
              exact hr
          | .error (.noCapacity task requirement) =>
              rw [hresult] at hr
              exact hr
          | .error (.ledger e) =>
              rw [hresult] at hr
              exact hr

/-- A pass keeps a task of which it has news, and takes any other task on. -/
theorem advance_tells (h : Undisturbed (n + 2) refused unseen f) (hget : f.store.get id = .ok t)
    (hlive : t.isTerminal = false) :
    Ensures (advance t) f fun _ f' => match f.news t with
      | some news => Tells t news f f' ∧ Undisturbed (n + 1) refused unseen f'
      | none => Moved id t f' := by
  unfold advance news
  rw [hlive]
  cases hrequested : t.cancelRequested with
  | true =>
      have hcancelled {f₁ : Fleet} (haside : Aside f f₁) :
          Revision f.now t (t.asCancelled f₁.now) := by
        rw [haside.now_eq]
        exact .cancel _ hrequested
      refine cancel_task_stages (p := fun f₁ => Aside f f₁ ∧ f₁.token = f.token) ?_ ?_ ?_ ?_
      · exact fun _ => ⟨h.proper.aside, rfl⟩
      · exact fun handle _ => cancel_execution_aside handle h.proper
      · rintro f₁ agent ⟨haside, htoken⟩ -
        exact (finish_recorded h haside htoken hget (hcancelled haside)).imp
          fun _ _ hstored => ⟨_, hstored, .inl rfl⟩
      · rintro f₁ ⟨haside, htoken⟩ -
        exact (write_recorded _ h haside htoken hget (hcancelled haside)
          (not_same_of_terminal hlive rfl)).imp fun _ _ hstored => ⟨_, hstored, .inl rfl⟩
  | false =>
      cases hagent : t.status.agent with
      | none => exact prepare_tells h hget hlive hagent
      | some agent =>
          refine (drive_tells h hget hagent).imp fun _ f₁ hr => ?_
          show match f.outlook t agent with
            | some news => Tells t news f f₁ ∧ Undisturbed (n + 1) refused unseen f₁
            | none => Moved id t f₁
          cases houtlook : f.outlook t agent with
          | some news =>
              rw [houtlook] at hr
              exact hr
          | none =>
              rw [houtlook] at hr
              obtain ⟨u, hstored, hterminal | ⟨-, hlost⟩ | ⟨hexecution, -, hhandle⟩⟩ := hr
              · exact ⟨u, hstored, .inl hterminal⟩
              · refine ⟨u, hstored, .inr (.inl ?_)⟩
                rw [hlost, hagent]
                exact (Option.some_ne_none agent).symm
              · refine ⟨u, hstored, .inr (.inr ?_)⟩
                rw [hexecution]
                exact Option.isSome_iff_ne_none.1 hhandle

/-- What is told after the beginning of a pass is told by the pass. -/
theorem Tells.of_begun (h : Tells t news (f.begun id) f') : Tells t news f f' := by
  have hbegun : Speaks 0 f (f.begun id) := speaks_of_deed (.pass id) rfl rfl
  cases h with
  | again hsame h => exact .again hsame (hbegun.trans h)
  | anew hnew hreplaces h => exact .anew hnew hreplaces (hbegun.trans h)

/-- A pass tells its task the news that there are, or moves it. -/
theorem reconcile_tells (h : Undisturbed (n + 2) refused unseen f) (hget : f.store.get id = .ok t)
    (hlive : t.isTerminal = false) :
    Ensures (reconcile id) f fun _ f' => match f.news t with
      | some news => Tells t news f f' ∧ Undisturbed (n + 1) refused unseen f'
      | none => Moved id t f' := by
  have hbegun : Undisturbed (n + 2) refused unseen (f.begun id) :=
    { h with proper := { h.proper with } }
  unfold reconcile
  refine ensures_modify ((interruptible_calm hbegun.token
    (get_task_told id hbegun.token hbegun.reads)).bind ?_)
  rintro _ _ ⟨rfl, rfl⟩
  dsimp only [begun]
  rw [hget]
  refine (advance_tells hbegun hget hlive).imp fun _ f₁ hr => ?_
  have hnews : (f.begun id).news t = f.news t := rfl
  rw [hnews] at hr
  cases hor : f.news t with
  | none =>
      rw [hor] at hr
      exact hr
  | some news =>
      rw [hor] at hr
      exact ⟨hr.1.of_begun, hr.2⟩

end Passes

section Repeats

/-- The same obstacle is met again. -/
theorem obstacle_congr (hspeaks : Speaks k f f') (halike : t.Alike t')
    (hphases : ∀ id, (f'.store.get id).map Task.phase = (f.store.get id).map Task.phase) :
    f'.obstacle t' = f.obstacle t := by
  have hledger : f'.ledger = f.ledger := by rw [hspeaks.rest]
  have hstrategy : f'.strategy = f.strategy := by rw [hspeaks.rest]
  have hvalid : t'.validate = t.validate := by
    unfold Task.validate
    rw [halike.id, halike.spec]
  unfold obstacle
  rw [hledger, hstrategy, hvalid, halike.id, halike.spec, TaskStore.verdict_congr hphases,
    f.ledger.schedule_congr f.strategy halike.id halike.spec]

/-- The same refusal is heard again. -/
theorem refusal_congr (h : Undisturbed (n + 1) refused unseen f)
    (h' : Undisturbed (n + 1) refused unseen f') (hspeaks : Speaks k f f') (halike : t.Alike t')
    (agent : String) : f'.refusal t' agent = f.refusal t agent := by
  have hledger : f'.ledger = f.ledger := by rw [hspeaks.rest]
  have hsubstrate : f'.substrate = f.substrate := by rw [hspeaks.rest]
  have hrequest : ExecutionRequest.ofTask t' agent = .ofTask t agent := by
    unfold ExecutionRequest.ofTask Task.requirement
    rw [halike.id, halike.spec]
  unfold refusal submitAnswer
  rw [hledger, hsubstrate, hrequest, h.submits.1, h'.submits.1]

/-- The same is seen of an execution again. -/
theorem sighting_congr (h : Undisturbed (n + 1) refused unseen f)
    (h' : Undisturbed (n + 1) refused unseen f') (hspeaks : Speaks k f f') (halike : t.Alike t')
    (handle : String) : f'.sighting t' handle = f.sighting t handle := by
  have hsubstrate : f'.substrate = f.substrate := by rw [hspeaks.rest]
  have hdeadline : t'.deadline? = t.deadline? := by
    unfold Task.deadline?
    rw [halike.spec, halike.startTime]
  unfold sighting pollAnswer
  rw [hspeaks.now_eq, hsubstrate, hdeadline, h.polls.1, h'.polls.1]

/-- As long as a pass is told the same it has the same news. -/
theorem news_congr (h : Undisturbed (n + 1) refused unseen f)
    (h' : Undisturbed (n + 1) refused unseen f') (hspeaks : Speaks k f f') (halike : t.Alike t')
    (hphases : t.status.agent = none →
      ∀ id, (f'.store.get id).map Task.phase = (f.store.get id).map Task.phase) :
    f'.news t' = f.news t := by
  unfold news outlook
  rw [halike.cancelRequested, halike.agent, halike.execution]
  cases hagent : t.status.agent with
  | none => simp only [obstacle_congr hspeaks halike (hphases hagent)]
  | some agent =>
      simp only [refusal_congr h h' hspeaks halike, sighting_congr h h' hspeaks halike]

/-- Passes that have nothing new to tell write nothing. -/
theorem passes_again (h : Undisturbed (n + 1) refused unseen f) (hget : f.store.get id = .ok t)
    (hlive : t.isTerminal = false) (hnews : f.news t = some news)
    (hsame : (news.apply t f.now).status.same t.status = true) : Speaks 0 f (passes id n f) := by
  induction n generalizing f with
  | zero => exact speaks_refl f
  | succ n ih =>
      have hpass := reconcile_tells h hget hlive
      unfold Ensures at hpass
      rw [hnews] at hpass
      obtain ⟨htells, h₁⟩ := hpass
      cases htells with
      | anew hnew => exact absurd hsame hnew
      | again _ hspeaks =>
          have hstore := hspeaks.store rfl
          have hnews₁ := news_congr h.fewer h₁ hspeaks (Task.alike_refl t) fun _ _ => by rw [hstore]
          exact hspeaks.trans (ih h₁ (hstore ▸ hget) (hnews₁.trans hnews) (hspeaks.now_eq ▸ hsame))

/-- What holds a task back is only remarked. -/
theorem remark_of_obstacle (h : f.obstacle t = some news) : ∃ message, news = .remark message := by
  unfold obstacle at h
  split at h
  · exact nomatch h
  · split at h
    · exact ⟨_, (Option.some.inj h).symm⟩
    · exact ⟨_, (Option.some.inj h).symm⟩
    · split at h
      · exact nomatch h
      · exact ⟨_, (Option.some.inj h).symm⟩
      · exact ⟨_, (Option.some.inj h).symm⟩

/-- A task without an agent keeps its phase. -/
theorem phase_of_news (hagent : t.status.agent = none) (hnews : f.news t = some news) (now : Nat) :
    (news.apply t now).phase = t.phase := by
  have hobstacle : f.obstacle t = some news := by
    unfold Fleet.news at hnews
    rw [hagent] at hnews
    split at hnews
    · exact nomatch hnews
    · exact hnews
  obtain ⟨message, rfl⟩ := remark_of_obstacle hobstacle
  rfl

/-- A pass that keeps a task where it is leaves it with the news, and the next pass has the same. -/
theorem told_at_first {stored : Task} (h : Undisturbed (n + 2) refused unseen f)
    (hget : f.store.get id = .ok t) (hlive : t.isTerminal = false)
    (hstored : (passes id 1 f).store.get id = .ok stored) (hkept : stored.isTerminal = false)
    (hagent : stored.status.agent = t.status.agent)
    (hexecution : stored.status.execution = t.status.execution) :
    ∃ k ≤ 1, ∃ news, Speaks k f (passes id 1 f) ∧
      Undisturbed (n + 1) refused unseen (passes id 1 f) ∧
      (passes id 1 f).news stored = some news ∧
      (news.apply stored f.now).status.same stored.status = true := by
  have hpass : match f.news t with
      | some news => Tells t news f (passes id 1 f) ∧
          Undisturbed (n + 1) refused unseen (passes id 1 f)
      | none => Moved id t (passes id 1 f) := reconcile_tells h hget hlive
  cases hnews : f.news t with
  | none =>
      rw [hnews] at hpass
      obtain ⟨u, hu, hmoved⟩ := hpass
      rw [hstored] at hu
      cases hu
      obtain hterminal | hagent' | hexecution' := hmoved
      · exact nomatch hkept.symm.trans hterminal
      · exact absurd hagent hagent'
      · exact absurd hexecution hexecution'
  | some news =>
      rw [hnews] at hpass
      obtain ⟨htells, h₁⟩ := hpass
      cases htells with
      | again hsame hspeaks =>
          have hstore := hspeaks.store rfl
          rw [hstore, hget] at hstored
          cases hstored
          have hnews₁ := news_congr h.fewer h₁ hspeaks (Task.alike_refl t) fun _ _ => by rw [hstore]
          exact ⟨0, Nat.zero_le 1, news, hspeaks, h₁, hnews₁.trans hnews, hsame⟩
      | anew _ hreplaces hspeaks =>
          rw [hreplaces.found id hget] at hstored
          cases hstored
          have hnews₁ := news_congr h.fewer h₁ hspeaks (news_alike t f.now news).bump
            fun hnone => hreplaces.phases (phase_of_news hnone hnews f.now)
          exact ⟨1, Nat.le_refl 1, news, hspeaks, h₁, hnews₁.trans hnews, same_of_told news t f.now⟩

end Repeats

/-- As long as nothing changes but by the passes over a task, and none of their calls is disturbed:
if the first of them leaves the task alive and keeps its agent and its execution, then the task is
stored at most once by all of them, with the first, nothing is reserved or released, and all leave
it with the same record. -/
theorem written_once {stored : Task} (h : Undisturbed (n + 2) refused unseen f)
    (hget : f.store.get id = .ok t) (hlive : t.isTerminal = false)
    (hstored : (passes id 1 f).store.get id = .ok stored) (hkept : stored.isTerminal = false)
    (hagent : stored.status.agent = t.status.agent)
    (hexecution : stored.status.execution = t.status.execution) :
    ∃ k ≤ 1, ∀ i ≤ n, Speaks k f (passes id (i + 1) f) ∧
      (passes id (i + 1) f).ledger = f.ledger ∧ (passes id (i + 1) f).signals = f.signals ∧
      (passes id (i + 1) f).store.get id = .ok stored := by
  obtain ⟨k, hk, news, hspeaks, h₁, hnews, hsame⟩ :=
    told_at_first h hget hlive hstored hkept hagent hexecution
  refine ⟨k, hk, fun i hi => ?_⟩
  have hagain := passes_again (h₁.of_le hi) hstored hkept hnews (hspeaks.now_eq ▸ hsame)
  have hall : Speaks k f (passes id (i + 1) f) := hspeaks.trans hagain
  refine ⟨hall, by rw [hall.rest], by rw [hall.rest], ?_⟩
  show (passes id i (passes id 1 f)).store.get id = _
  rw [hagain.store rfl]
  exact hstored

/-- A fleet in which nothing is heard of an execution that was started. -/
def unheard : Fleet := { placed with faults.poll := List.replicate 3 ⟨0, "no route"⟩ }

/-- A poll that fails again and again is written down once. -/
theorem written_once_unheard :
    ∃ stored k, k ≤ 1 ∧ stored.status.message = "TransientIOError: status poll failed: no route" ∧
      ∀ i ≤ 1, Speaks k unheard (passes halfProcessor.id (i + 1) unheard) ∧
        (passes halfProcessor.id (i + 1) unheard).ledger = unheard.ledger ∧
        (passes halfProcessor.id (i + 1) unheard).signals = unheard.signals ∧
        (passes halfProcessor.id (i + 1) unheard).store.get halfProcessor.id = .ok stored := by
  have hplaced : Proper False placed := (pass_spec halfProcessor.id proper_submitted).proper
  have hput : unheard.faults.put = [] := by decide +kernel
  have hsubmit : unheard.faults.submit = [] := by decide +kernel
  have h : Undisturbed 3 none (some "no route") unheard := by
    refine ⟨{ hplaced with faults := False.elim }, by decide +kernel, by decide +kernel,
      by decide +kernel, ?_, ?_, ⟨rfl, rfl, rfl, trivial⟩⟩
    · rw [hput]
      exact ⟨rfl, rfl, rfl, trivial⟩
    · rw [hsubmit]
      exact ⟨rfl, rfl, rfl, trivial⟩
  have hbefore : (unheard.store.get halfProcessor.id).toOption.map (fun t =>
      (t.isTerminal, t.status.agent, t.status.execution)) =
        some (false, some "a1", some "exec-1") := by decide +kernel
  have hafter : ((passes halfProcessor.id 1 unheard).store.get halfProcessor.id).toOption.map
      (fun t => (t.isTerminal, t.status.agent, t.status.execution, t.status.message)) =
        some (false, some "a1", some "exec-1",
          "TransientIOError: status poll failed: no route") := by decide +kernel
  obtain ⟨t, hget, hfields⟩ := TaskStore.get_of_map hbefore
  obtain ⟨stored, hstored, hleft⟩ := TaskStore.get_of_map hafter
  simp only [Prod.mk.injEq] at hfields hleft
  obtain ⟨hlive, hagent, hexecution⟩ := hfields
  obtain ⟨hkept, hagent', hexecution', hmessage⟩ := hleft
  obtain ⟨k, hk, hall⟩ := written_once h hget hlive hstored hkept (hagent'.trans hagent.symm)
    (hexecution'.trans hexecution.symm)
  exact ⟨stored, k, hk, hmessage, hall⟩

end Fleet

end TaskFleet
