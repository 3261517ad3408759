import TaskFleet.Proofs.Lifecycle.Calm
import TaskFleet.Proofs.Lifecycle.Runs

/-!
# Deadlines

What becomes of a task with a timeout if nothing fails and every pass is made exactly when the one
before it asked for it. The execution is polled at the multiples of the poll interval that come
before the deadline, and never at the deadline itself: there the task times out unseen. So the task
completes exactly if its execution has succeeded by one of these polls (`ends_by_polls`), and not
exactly if it has succeeded before the deadline (`timed_out_after_success`).

Times are in nanoseconds since 1970; the clock of the fleet shows their whole seconds.
-/

namespace TaskFleet.Fleet

open Relation (ReflTransGen)

/-- What a pass at a time finds: nothing fails, the clock is right, and the execution is reported as
running before it has finished and as succeeded from then on. -/
structure Finds (handle : String) (finish : Nat) (delays : Delays) (time : Nat) (f : Fleet) :
    Prop where
  calm : Calm f
  clock : f.now = time / 10 ^ 9
  delays : f.delays = delays
  running : time < finish →
    ∃ report, f.substrate.poll handle = .ok report ∧ report.InRange ∧ report.state = .running
  succeeded : finish ≤ time →
    ∃ report, f.substrate.poll handle = .ok report ∧ report.InRange ∧ report.state = .succeeded

/-- From one pass to the next: it is made at the time that was asked for. In between everything may
change but the task, and what the next pass finds. -/
inductive Later (id : TaskId) (handle : String) (finish : Nat) (delays : Delays) :
    Nat × Fleet → Nat × Fleet → Prop where
  | pass {time : Nat} {f f' : Fleet} {delay : Duration}
      (hdelay : ((reconcile id).run f).1 = .requeue delay)
      (hfinds : Finds handle finish delays (time + delay.nanos) f')
      (hsame : f'.store.get id = ((reconcile id).run f).2.store.get id) :
      Later id handle finish delays (time, f) (time + delay.nanos, f')

/-- However a run goes on from a pass, it comes to an end, and then the task has a property. -/
inductive Ends (id : TaskId) (handle : String) (finish : Nat) (delays : Delays)
    (p : Task → Prop) : Nat × Fleet → Prop where
  | done {x : Nat × Fleet} {t : Task} (hdone : ((reconcile id).run x.2).1 = .done)
      (hget : ((reconcile id).run x.2).2.store.get id = .ok t) (h : p t) :
      Ends id handle finish delays p x
  | later {x : Nat × Fleet} {delay : Duration}
      (hdelay : ((reconcile id).run x.2).1 = .requeue delay)
      (hrest : ∀ y, Later id handle finish delays x y → Ends id handle finish delays p y) :
      Ends id handle finish delays p x

variable {id : TaskId} {handle : String} {finish start time : Nat} {delays : Delays}
  {timeout : Duration} {f : Fleet} {t given : Task}

/-- A run goes on with a pass after the delay that was asked for, over the task as it was left. -/
theorem ends_later {p : Task → Prop} {delay : Duration} {stored : Task}
    (hdelay : ((reconcile id).run f).1 = .requeue delay)
    (hget : ((reconcile id).run f).2.store.get id = .ok stored)
    (hrest : ∀ f', Finds handle finish delays (time + delay.nanos) f' →
      f'.store.get id = .ok stored → Ends id handle finish delays p (time + delay.nanos, f')) :
    Ends id handle finish delays p (time, f) := by
  refine .later hdelay ?_
  intro y hy
  cases hy with
  | pass hdelay' hfinds hsame =>
      rw [hdelay] at hdelay'
      cases hdelay'
      exact hrest _ hfinds (hsame.trans hget)

section Watch

/-- A pass over a watched task before its deadline, while the execution is running. -/
theorem running_pass (hfinds : Finds handle finish delays time f) (hget : f.store.get id = .ok t)
    (hwatched : Watched timeout handle start t) (htimeout : timeout.isZero = false)
    (hearly : time / 10 ^ 9 < deadline timeout start) (hrunning : time < finish) :
    ((reconcile id).run f).1 =
        .requeue (delays.poll.min (.ofSecs (deadline timeout start - time / 10 ^ 9))) ∧
      ∃ stored, ((reconcile id).run f).2.store.get id = .ok stored ∧
        Watched timeout handle start stored := by
  obtain ⟨report, hpoll, hreport, hstate⟩ := hfinds.running hrunning
  have hpass := reconcile_running hfinds.calm hget hwatched htimeout (hfinds.clock ▸ hearly) hpoll
    hreport hstate
  rw [hfinds.clock, hfinds.delays] at hpass
  exact hpass

theorem ends_succeeded (hfinds : Finds handle finish delays time f)
    (hget : f.store.get id = .ok t) (hwatched : Watched timeout handle start t)
    (htimeout : timeout.isZero = false) (hearly : time / 10 ^ 9 < deadline timeout start)
    (hfinished : finish ≤ time) :
    Ends id handle finish delays (fun t => t.phase = .completed) (time, f) := by
  obtain ⟨report, hpoll, hreport, hstate⟩ := hfinds.succeeded hfinished
  obtain ⟨hdone, stored, hstored, hphase⟩ :=
    reconcile_succeeded hfinds.calm hget hwatched htimeout (hfinds.clock ▸ hearly) hpoll hreport
      hstate
  exact .done hdone hstored hphase

/-- A watched task completes if its execution has succeeded at some poll before the deadline. -/
theorem ends_completed (i : Nat) (hfinds : Finds handle finish delays time f)
    (hget : f.store.get id = .ok t) (hwatched : Watched timeout handle start t)
    (htimeout : timeout.isZero = false) (hfinish : finish ≤ time + i * delays.poll.nanos)
    (hearly : (time + i * delays.poll.nanos) / 10 ^ 9 < deadline timeout start) :
    Ends id handle finish delays (fun t => t.phase = .completed) (time, f) := by
  induction i generalizing time f t with
  | zero =>
      rw [Nat.zero_mul, Nat.add_zero] at hfinish hearly
      exact ends_succeeded hfinds hget hwatched htimeout hearly hfinish
  | succ i ih =>
      rw [Nat.succ_mul] at hfinish hearly
      have hnow : time / 10 ^ 9 < deadline timeout start := by omega
      by_cases hfinished : finish ≤ time
      · exact ends_succeeded hfinds hget hwatched htimeout hnow hfinished
      · obtain ⟨hdelay, stored, hstored, hwatched'⟩ :=
          running_pass hfinds hget hwatched htimeout hnow (Nat.not_le.1 hfinished)
        -- The poll before the deadline is at least an interval away, so nothing cuts it short.
        have hwhole : (delays.poll.min (.ofSecs (deadline timeout start - time / 10 ^ 9))).nanos =
            delays.poll.nanos := by
          show min _ ((deadline timeout start - time / 10 ^ 9) * 10 ^ 9) = _
          omega
        refine ends_later hdelay hstored fun f' hfinds' hget' => ?_
        rw [hwhole] at hfinds' ⊢
        exact ih hfinds' hget' hwatched' (by omega) (by omega)

/-- A watched task times out if its execution has succeeded at no poll before the deadline. -/
theorem ends_timed_out (hfinds : Finds handle finish delays time f)
    (hget : f.store.get id = .ok t) (hwatched : Watched timeout handle start t)
    (htimeout : timeout.isZero = false)
    (hnever : ∀ i, finish ≤ time + i * delays.poll.nanos →
      deadline timeout start ≤ (time + i * delays.poll.nanos) / 10 ^ 9)
    (hmoves : 0 < delays.poll.nanos ∨ deadline timeout start ≤ time / 10 ^ 9) :
    Ends id handle finish delays TimedOut (time, f) := by
  -- Each pass before the deadline takes some of the time that is left until then.
  induction hleft : deadline timeout start * 10 ^ 9 - time using Nat.strongRecOn
    generalizing time f t with
  | ind left ih =>
      by_cases hlate : deadline timeout start ≤ time / 10 ^ 9
      · obtain ⟨hdone, stored, hstored, hout⟩ :=
          reconcile_expired hfinds.calm hget hwatched htimeout (hfinds.clock ▸ hlate)
        exact .done hdone hstored hout
      · have hearly := Nat.not_le.1 hlate
        have hzero := hnever 0
        rw [Nat.zero_mul, Nat.add_zero] at hzero
        have hrunning : time < finish := by
          by_contra hfinished
          exact hlate (hzero (Nat.not_lt.1 hfinished))
        have hpoll : 0 < delays.poll.nanos := hmoves.resolve_right hlate
        obtain ⟨hdelay, stored, hstored, hwatched'⟩ :=
          running_pass hfinds hget hwatched htimeout hearly hrunning
        refine ends_later hdelay hstored fun f' hfinds' hget' => ?_
        generalize hstep :
          (delays.poll.min (.ofSecs (deadline timeout start - time / 10 ^ 9))).nanos = step
          at hfinds' ⊢
        have hstep : min delays.poll.nanos
          ((deadline timeout start - time / 10 ^ 9) * 10 ^ 9) = step := hstep
        -- Either the next pass is the next poll, or it is at the deadline.
        have hnext : step = delays.poll.nanos ∨
            deadline timeout start ≤ (time + step) / 10 ^ 9 := by omega
        refine ih _ ?_ hfinds' hget' hwatched' ?_ (.inl hpoll) rfl
        · omega
        · intro i hi
          obtain rfl | hout := hnext
          · have hlater := hnever (i + 1)
            rw [Nat.succ_mul] at hlater
            omega
          · omega

/-- Without a poll interval time stands still as long as the execution is running. -/
theorem requeue_of_later (hpoll : delays.poll.nanos = 0) (hrunning : time < finish)
    (hearly : time / 10 ^ 9 < deadline timeout start) (htimeout : timeout.isZero = false)
    (hfinds : Finds handle finish delays time f) (hget : f.store.get id = .ok t)
    (hwatched : Watched timeout handle start t) {x : Nat × Fleet}
    (hrun : ReflTransGen (Later id handle finish delays) (time, f) x) :
    ∃ delay, ((reconcile id).run x.2).1 = .requeue delay := by
  have hstill : x.1 = time ∧ Finds handle finish delays time x.2 ∧
      ∃ t, x.2.store.get id = .ok t ∧ Watched timeout handle start t := by
    induction hrun with
    | refl => exact ⟨rfl, hfinds, t, hget, hwatched⟩
    | tail _ hlater ih =>
        cases hlater with
        | @pass again g g' delay hdelay hfinds' hsame =>
            obtain ⟨htime, hfinds, t, hget, hwatched⟩ := ih
            have htime : again = time := htime
            obtain ⟨hrequeue, stored, hstored, hwatched'⟩ :=
              running_pass hfinds hget hwatched htimeout hearly hrunning
            rw [hdelay] at hrequeue
            cases hrequeue
            have hzero : (delays.poll.min
                (.ofSecs (deadline timeout start - time / 10 ^ 9))).nanos = 0 := by
              show min delays.poll.nanos _ = 0
              omega
            rw [hzero, Nat.add_zero, htime] at hfinds'
            rw [hzero, Nat.add_zero]
            exact ⟨htime, hfinds', stored, hsame.trans hstored, hwatched'⟩
  obtain ⟨-, hfinds, t, hget, hwatched⟩ := hstill
  exact ⟨_, (running_pass hfinds hget hwatched htimeout hearly hrunning).1⟩

end Watch

/-- Some poll before the deadline comes when the execution has finished. -/
def Polled (timeout poll : Duration) (start finish : Nat) : Prop :=
  ∃ i, finish ≤ start + (i + 1) * poll.nanos ∧
    (start + (i + 1) * poll.nanos) / 10 ^ 9 < deadline timeout (start / 10 ^ 9)

/-- A pass that hands a task to the substrate asks for the next one after the poll interval. -/
theorem handed_off (hcalm : Calm f) (hget : f.store.get id = .ok t)
    (hwanted : t.cancelRequested = false) (hexecution : t.status.execution = none)
    (hgiven : ((reconcile id).run f).2.store.get id = .ok given)
    (hhandle : given.status.execution = some handle) :
    ((reconcile id).run f).1 = .requeue f.delays.poll ∧
      Watched t.spec.timeout handle f.now given := by
  have hpass := reconcile_given hcalm hget hwanted hexecution given hgiven
  rw [hhandle] at hpass
  obtain ⟨hdelay, other, hwatched⟩ := hpass.resolve_left nofun
  have hsame := hwatched.execution
  rw [hhandle] at hsame
  cases hsame
  exact ⟨hdelay, hwatched⟩

/-- A task with a timeout that is handed to the substrate at a time, and whose execution finishes at
some other, completes if one of the polls before its deadline comes late enough. Otherwise it times
out, unless the poll interval is nothing: then it is polled forever at the one time. -/
theorem ends_by_polls (hcalm : Calm f) (hclock : f.now = start / 10 ^ 9)
    (hget : f.store.get id = .ok t) (htimeout : t.spec.timeout.isZero = false)
    (hwanted : t.cancelRequested = false) (hexecution : t.status.execution = none)
    (hgiven : ((reconcile id).run f).2.store.get id = .ok given)
    (hhandle : given.status.execution = some handle) (finish : Nat) :
    (Polled t.spec.timeout f.delays.poll start finish →
      Ends id handle finish f.delays (fun t => t.phase = .completed) (start, f)) ∧
    (¬ Polled t.spec.timeout f.delays.poll start finish →
      0 < f.delays.poll.nanos ∨ deadline t.spec.timeout (start / 10 ^ 9) ≤ start / 10 ^ 9 →
        Ends id handle finish f.delays TimedOut (start, f)) ∧
    (f.delays.poll.nanos = 0 → start < finish →
      start / 10 ^ 9 < deadline t.spec.timeout (start / 10 ^ 9) →
        ∀ x, ReflTransGen (Later id handle finish f.delays) (start, f) x →
          ∃ delay, ((reconcile id).run x.2).1 = .requeue delay) := by
  obtain ⟨hdelay, hwatched⟩ := handed_off hcalm hget hwanted hexecution hgiven hhandle
  rw [hclock] at hwatched
  refine ⟨?_, ?_, ?_⟩
  · rintro ⟨i, hfinish, hearly⟩
    rw [Nat.succ_mul] at hfinish hearly
    refine ends_later hdelay hgiven fun f' hfinds hget' => ?_
    exact ends_completed i hfinds hget' hwatched htimeout (by omega) (by omega)
  · intro hnever hmoves
    refine ends_later hdelay hgiven fun f' hfinds hget' => ?_
    refine ends_timed_out hfinds hget' hwatched htimeout ?_ ?_
    · intro i hfinish
      by_contra hearly
      refine hnever ⟨i, ?_, ?_⟩
      · rw [Nat.succ_mul]
        omega
      · rw [Nat.succ_mul]
        omega
    · omega
  · intro hpoll hrunning hearly x hrun
    obtain rfl | ⟨y, hlater, hrest⟩ := ReflTransGen.cases_head hrun
    · exact ⟨_, hdelay⟩
    · cases hlater with
      | pass hdelay' hfinds hsame =>
          rw [hdelay] at hdelay'
          cases hdelay'
          rw [hpoll, Nat.add_zero] at hfinds hrest
          exact requeue_of_later hpoll hrunning hearly htimeout hfinds (hsame.trans hgiven) hwatched
            hrest

theorem ends_by_polls_submitted :
    Ends halfProcessor.id "exec-1" (1010 * 10 ^ 9) .default (fun t => t.phase = .completed)
        (1000 * 10 ^ 9, submitted) ∧
      Ends halfProcessor.id "exec-1" (1012 * 10 ^ 9) .default TimedOut
        (1000 * 10 ^ 9, submitted) := by
  have hproper : Proper True submitted := proper_submitted
  have hcalm : Calm submitted := ⟨rfl, rfl, hproper.sound, hproper.now⟩
  have hclock : submitted.now = 1000 * 10 ^ 9 / 10 ^ 9 := by decide
  have hplaced : (placed.store.get halfProcessor.id).toOption.map (fun t => t.status.execution) =
      some (some "exec-1") := by decide +kernel
  obtain ⟨given, hgiven, hhandle⟩ := TaskStore.get_of_map hplaced
  have hends := ends_by_polls (t := halfProcessor.bump) hcalm hclock rfl (by decide) rfl rfl hgiven
    hhandle
  have hpoll : submitted.delays.poll.nanos = 10 * 10 ^ 9 := rfl
  have hdeadline : deadline halfProcessor.bump.spec.timeout (1000 * 10 ^ 9 / 10 ^ 9) = 1015 := by
    decide +kernel
  refine ⟨(hends (1010 * 10 ^ 9)).1 ⟨0, ?_, ?_⟩, (hends (1012 * 10 ^ 9)).2.1 ?_ (.inl ?_)⟩
  · rw [hpoll]
    omega
  · rw [hpoll, hdeadline]
    omega
  · rintro ⟨i, hfinish, hearly⟩
    rw [hpoll] at hfinish hearly
    rw [hdeadline] at hearly
    omega
  · rw [hpoll]
    omega

/-- The fleet ten seconds after the hand-off. -/
def tenSecondsOn : Fleet := { placed with clock := ⟨1010, 0⟩ }

/-- The fleet at the deadline, when the execution has succeeded. -/
def atDeadline : Fleet :=
  let f := ((reconcile halfProcessor.id).run tenSecondsOn).2
  { f with
    clock := ⟨1015, 0⟩
    substrate := f.substrate.setReports { state := .succeeded, attempts := 1, exitCode := some 0 } }

theorem proper_ten_seconds_on : Proper True tenSecondsOn := by
  have hplaced : Proper True placed := (pass_spec halfProcessor.id proper_submitted).proper
  exact { hplaced with now := by decide }

theorem finds_ten_seconds_on :
    Finds "exec-1" (1012 * 10 ^ 9) .default (1010 * 10 ^ 9) tenSecondsOn where
  calm := ⟨by decide +kernel, by decide +kernel, proper_ten_seconds_on.sound,
    proper_ten_seconds_on.now⟩
  clock := by decide
  delays := by decide +kernel
  running := by
    intro _
    have hfind : tenSecondsOn.substrate.executions.find? "exec-1" =
        some { state := .running, attempts := 1 } := by decide +kernel
    refine ⟨{ state := .running, attempts := 1 }, ?_, ?_, rfl⟩
    · unfold Substrate.poll
      rw [hfind]
    · exact proper_ten_seconds_on.reports _ _ hfind
  succeeded := by
    intro hlate
    omega

theorem finds_at_deadline : Finds "exec-1" (1012 * 10 ^ 9) .default (1015 * 10 ^ 9) atDeadline where
  calm := by
    have hpass : Proper True ((reconcile halfProcessor.id).run tenSecondsOn).2 :=
      (pass_spec halfProcessor.id proper_ten_seconds_on).proper
    exact ⟨by decide +kernel, by decide +kernel, hpass.sound, by decide⟩
  clock := by decide
  delays := by decide +kernel
  running := by
    intro hearly
    omega
  succeeded := by
    intro _
    have hfind : atDeadline.substrate.executions.find? "exec-1" =
        some { state := .succeeded, attempts := 1, exitCode := some 0 } := by decide +kernel
    refine ⟨{ state := .succeeded, attempts := 1, exitCode := some 0 }, ?_, ⟨by decide, ?_⟩, rfl⟩
    · unfold Substrate.poll
      rw [hfind]
    · intro c hc
      cases hc
      decide

/-- An execution that succeeds three seconds before the deadline is too late all the same. -/
theorem timed_out_after_success :
    1012 * 10 ^ 9 < 1000 * 10 ^ 9 + halfProcessor.spec.timeout.nanos ∧
      Later halfProcessor.id "exec-1" (1012 * 10 ^ 9) .default (1000 * 10 ^ 9, submitted)
        (1010 * 10 ^ 9, tenSecondsOn) ∧
      Later halfProcessor.id "exec-1" (1012 * 10 ^ 9) .default (1010 * 10 ^ 9, tenSecondsOn)
        (1015 * 10 ^ 9, atDeadline) ∧
      ((reconcile halfProcessor.id).run atDeadline).1 = .done ∧
      ∃ t, ((reconcile halfProcessor.id).run atDeadline).2.store.get halfProcessor.id = .ok t ∧
        TimedOut t := by
  have hfirst : Later halfProcessor.id "exec-1" (1012 * 10 ^ 9) .default
      (1000 * 10 ^ 9, submitted)
      (1000 * 10 ^ 9 + (Duration.ofSecs 10).nanos, tenSecondsOn) :=
    .pass (by decide +kernel) finds_ten_seconds_on rfl
  have hsecond : Later halfProcessor.id "exec-1" (1012 * 10 ^ 9) .default
      (1010 * 10 ^ 9, tenSecondsOn)
      (1010 * 10 ^ 9 + (Duration.ofSecs 5).nanos, atDeadline) :=
    .pass (by decide +kernel) finds_at_deadline rfl
  have hout : (((reconcile halfProcessor.id).run atDeadline).2.store.get halfProcessor.id).toOption.map
      (fun t => (t.phase, t.status.conditions.getLast?.map Condition.reason)) =
        some (.failed, some "Timeout") := by decide +kernel
  obtain ⟨t, hget, hend⟩ := TaskStore.get_of_map hout
  obtain ⟨hphase, hreason⟩ := Prod.mk.inj hend
  exact ⟨by decide, hfirst, hsecond, by decide +kernel, t, hget, hphase, hreason⟩

end TaskFleet.Fleet
