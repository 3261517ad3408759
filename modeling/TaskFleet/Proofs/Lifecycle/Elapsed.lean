import TaskFleet.Proofs.Lifecycle.Deadline
import TaskFleet.Proofs.Lifecycle.Outcomes

/-!
# The time that a task is given

The clock runs in milliseconds, but a hand-off is recorded by its second, and it is the second that
is compared with the deadline. The timeout is rounded up to whole seconds, and the hand-off is
rounded down. So a task is given its timeout less what had passed of the second in which it was
handed off (`time_given`), and that can be less than its timeout (`timed_out_early`).
-/

namespace TaskFleet

open Relation (ReflTransGen)

/-- The time that a clock shows, in milliseconds since 1970. -/
def Clock.time (c : Clock) : Int :=
  c.base * 1000 + c.elapsed

theorem Clock.now_eq (c : Clock) : c.now = (c.time / 1000).toNat := by
  unfold Clock.now Clock.time
  omega

section Found

variable {steady : Prop} {now : Nat} {b b' : Books} {id : TaskId} {t : Task} {P : Task → Prop}

/-- What every revision of a live task keeps is kept of the task under an id. -/
theorem found_move (hP : ∀ t next, Revision now t next → t.isTerminal = false → P t → P next.bump)
    (h : Move steady now b b') (hget : b.store.get id = .ok t) (ht : P t) :
    ∃ t', b'.store.get id = .ok t' ∧ P t' := by
  cases h with
  | note | reserve | release | drop | start | giveUp | forget => exact ⟨t, hget, ht⟩
  | upset b' _ hstore => exact ⟨t, hstore ▸ hget, ht⟩
  | write old next store account hself hlive hrevision hreplaces hpermits =>
      by_cases hold : b.store.get id = .ok old
      · rw [hget] at hold
        cases hold
        exact ⟨next.bump, hreplaces.found id hget, hP t next hrevision hlive ht⟩
      · exact ⟨t, (hreplaces.others id hold).trans hget, ht⟩

theorem found_moves (hP : ∀ t next, Revision now t next → t.isTerminal = false → P t → P next.bump)
    (h : ReflTransGen (Move steady now) b b') (hget : b.store.get id = .ok t) (ht : P t) :
    ∃ t', b'.store.get id = .ok t' ∧ P t' := by
  induction h with
  | refl => exact ⟨t, hget, ht⟩
  | tail _ hmove ih =>
      obtain ⟨t', hget', ht'⟩ := ih
      exact found_move hP hmove hget' ht'

end Found

/-- A task that was handed to the substrate at a second. -/
structure Task.StartedAt (start : Nat) (t : Task) : Prop where
  execution : t.status.execution.isSome = true
  startTime : t.status.startTime = some start

section Started

variable {start now : Nat} {t next : Task}

/-- A revision hands a task off, or it leaves the execution and the second of the hand-off as they
are. -/
theorem Revision.hand_off (h : Revision now t next) :
    (t.status.execution = none ∧ next.status.startTime = some now) ∨
      (next.status.execution = t.status.execution ∧
        next.status.startTime = t.status.startTime) := by
  cases h with
  | handOff agent handle message hagent hexecution => exact .inl ⟨hexecution, rfl⟩
  | remark | flag => exact .inr ⟨rfl, rfl⟩
  | reject | place | lose | expire | cancel =>
      exact .inr ⟨TaskStatus.execution_transition .., TaskStatus.startTime_transition ..⟩
  | observe agent handle report =>
      refine .inr ⟨(Fleet.derive_status_holding report now).2.2, ?_⟩
      show (deriveStatus t report now).startTime = t.status.startTime
      unfold deriveStatus
      cases report.state with
      | pending | running | succeeded | failed => simp
  | forfeit agent =>
      unfold Task.forfeit
      dsimp only
      split
      · exact .inr ⟨rfl, rfl⟩
      · exact .inr ⟨TaskStatus.execution_transition .., TaskStatus.startTime_transition ..⟩

/-- The second of the hand-off is recorded for good. -/
theorem started_at_revised (h : Revision now t next) (ht : t.StartedAt start) :
    next.bump.StartedAt start := by
  obtain ⟨hexecution, hstart⟩ := ht
  obtain ⟨hnone, -⟩ | ⟨hsame, htime⟩ := h.hand_off
  · rw [hnone] at hexecution
    exact nomatch hexecution
  · exact ⟨hsame ▸ hexecution, htime.trans hstart⟩

/-- A task that has run out of time was handed off as many whole seconds before as its timeout
takes. -/
theorem Task.Overdue.deadline_le (h : t.Overdue now) (hstart : t.StartedAt start) :
    t.spec.timeout.isZero = false ∧ Fleet.deadline t.spec.timeout start ≤ now := by
  obtain ⟨second, hsecond, hpassed⟩ := h
  unfold Task.deadline? at hsecond
  cases hzero : t.spec.timeout.isZero with
  | true =>
      rw [hzero] at hsecond
      exact nomatch hsecond
  | false =>
      rw [hzero, hstart.startTime] at hsecond
      cases hsecond
      exact ⟨rfl, hpassed⟩

end Started

namespace Fleet

variable {steady : Prop} {f f' : Fleet} {id : TaskId} {t given before after : Task}
  {handle : String}

/-- What every revision of a live task keeps is kept by every step. -/
theorem found_step {P : Task → Prop}
    (hP : ∀ now t next, Revision now t next → t.isTerminal = false → P t → P next.bump)
    (hproper : Proper steady f) (hstep : Step steady f f') (hget : f.store.get id = .ok t)
    (ht : P t) : ∃ t', f'.store.get id = .ok t' ∧ P t' := by
  obtain ⟨-, haffects⟩ := step_spec hproper hstep
  cases haffects with
  | turns hturns =>
      obtain ⟨-, -, l, -, hmoves⟩ := hturns
      exact found_moves (hP f.now) hmoves hget ht
  | keeps hstore hledger => exact ⟨t, hstore.found id t hget, ht⟩

theorem found_run {P : Task → Prop}
    (hP : ∀ now t next, Revision now t next → t.isTerminal = false → P t → P next.bump)
    (hproper : Proper steady f) (hrun : ReflTransGen (Step steady) f f')
    (hget : f.store.get id = .ok t) (ht : P t) : ∃ t', f'.store.get id = .ok t' ∧ P t' := by
  induction hrun with
  | refl => exact ⟨t, hget, ht⟩
  | tail hrun hstep ih =>
      obtain ⟨t', hget', ht'⟩ := ih
      exact found_step hP (proper_of_run hproper hrun) hstep hget' ht'

/-- A pass that hands a task to the substrate records the second at which it does. -/
theorem started_at_pass (hproper : Proper False f) (hget : f.store.get id = .ok t)
    (hidle : t.status.execution = none)
    (hgiven : ((reconcile id).run f).2.store.get id = .ok given)
    (hhandle : given.status.execution = some handle) :
    given.StartedAt f.now ∧ given.spec = t.spec := by
  have hturns : Turns False f ((reconcile id).run f).2 := pass_spec id hproper
  obtain ⟨-, -, l, -, hmoves⟩ := hturns
  -- Within the pass every hand-off is at one second.
  have hkept : ∃ t', ((reconcile id).run f).2.store.get id = .ok t' ∧
      (t'.status.execution = none ∨ t'.status.startTime = some f.now) ∧ t'.spec = t.spec := by
    refine found_moves (P := fun u => (u.status.execution = none ∨
      u.status.startTime = some f.now) ∧ u.spec = t.spec) ?_ hmoves hget ⟨.inl hidle, rfl⟩
    rintro u next hrevision - ⟨hu, hspec⟩
    obtain ⟨-, -, hsame, -⟩ := hrevision.keeps
    refine ⟨?_, hsame.trans hspec⟩
    obtain ⟨-, hstart⟩ | ⟨hexecution, hstart⟩ := hrevision.hand_off
    · exact .inr hstart
    · exact hu.imp hexecution.trans hstart.trans
  obtain ⟨t', hget', hor, hspec⟩ := hkept
  cases hgiven.symm.trans hget'
  obtain hnone | hstart := hor
  · rw [hnone] at hhandle
    exact nomatch hhandle
  · exact ⟨⟨by rw [hhandle]; rfl, hstart⟩, hspec⟩

/-- A pass times a task out only if it has run out of time. -/
theorem overdue_of_timed_out (hproper : Proper False f) (hbefore : f.store.get id = .ok before)
    (hlive : before.isTerminal = false)
    (hafter : ((reconcile id).run f).2.store.get id = .ok after) (hout : TimedOut after) :
    before.Overdue f.now := by
  have hover : after.isTerminal = true := by
    unfold Task.isTerminal
    rw [hout.1]
    rfl
  have hsame {f' : Fleet} (hstore : f'.store = f.store)
      (hfound : f'.store.get id = .ok after) : before.Overdue f.now := by
    rw [hstore, hbefore] at hfound
    cases hfound
    exact nomatch hover.symm.trans hlive
  have hcloses : Closes id f ((reconcile id).run f).1 ((reconcile id).run f).2 :=
    reconcile_closes id hproper
  generalize ((reconcile id).run f).1 = o at hcloses
  generalize ((reconcile id).run f).2 = f' at hcloses hafter
  cases hcloses with
  | unasked hstore => exact hsame hstore hafter
  | gone key hread hstore => exact hsame hstore hafter
  | unread hunread hstore => exact hsame hstore hafter
  | settled t hget hterminal hstore => exact hsame hstore hafter
  | concludes t hget _ hconcludes =>
      cases hbefore.symm.trans hget
      cases hconcludes with
      | ended t hget hterminal hdue =>
          cases hafter.symm.trans hget
          exact hdue hout
      | missed t hget hlive | ahead t hget hlive | interrupted t hget hlive =>
          cases hafter.symm.trans hget
          exact nomatch hover.symm.trans hlive

/-- How two roundings of the clock and one of the timeout combine. -/
theorem nanos_le_of_now {timeout : Duration} {c c' : Clock}
    (htimeout : timeout.isZero = false) (h : c.now + timeout.secsCeil ≤ c'.now) :
    (timeout.nanos : Int) ≤ (c'.time - c.time + c.time % 1000) * 10 ^ 6 := by
  rw [c.now_eq, c'.now_eq] at h
  have hpositive : 0 < timeout.nanos :=
    Nat.pos_of_ne_zero (by simpa [Duration.isZero] using htimeout)
  unfold Duration.secsCeil at h
  omega

/-- However a run goes on from a pass that hands a task to the substrate, and whatever the clock
does meanwhile: a pass times the task out only if its timeout has passed since the beginning of the
second in which it was handed off. So it is given its timeout if it was handed off at the beginning
of a second, and else its timeout less what had passed of that second. -/
theorem time_given (hproper : Proper False f) (hget : f.store.get id = .ok t)
    (hidle : t.status.execution = none)
    (hgiven : ((reconcile id).run f).2.store.get id = .ok given)
    (hhandle : given.status.execution = some handle)
    (hrun : ReflTransGen (Step False) ((reconcile id).run f).2 f')
    (hbefore : f'.store.get id = .ok before) (hlive : before.isTerminal = false)
    (hafter : ((reconcile id).run f').2.store.get id = .ok after) (hout : TimedOut after) :
    t.spec.timeout.isZero = false ∧ deadline t.spec.timeout f.now ≤ f'.now ∧
      (f'.now < Text.max64 → (t.spec.timeout.nanos : Int) ≤
        (f'.clock.time - f.clock.time + f.clock.time % 1000) * 10 ^ 6) := by
  obtain ⟨hstarted, hspec⟩ := started_at_pass hproper hget hidle hgiven hhandle
  have hpassed : Proper False ((reconcile id).run f).2 := (step_spec hproper (.pass id)).1
  have hkept : ∃ u, f'.store.get id = .ok u ∧ u.StartedAt f.now ∧ u.spec = t.spec := by
    refine found_run (P := fun u => u.StartedAt f.now ∧ u.spec = t.spec) ?_ hpassed hrun hgiven
      ⟨hstarted, hspec⟩
    rintro now u next hrevision - ⟨hu, hsame⟩
    exact ⟨started_at_revised hrevision hu, hrevision.keeps.2.2.1.trans hsame⟩
  obtain ⟨u, hu, hstart, hspec⟩ := hkept
  cases hbefore.symm.trans hu
  have hdue : before.Overdue f'.now :=
    overdue_of_timed_out (proper_of_run hpassed hrun) hbefore hlive hafter hout
  obtain ⟨htimeout, hdeadline⟩ := hdue.deadline_le hstart
  rw [hspec] at htimeout hdeadline
  refine ⟨htimeout, hdeadline, fun hnow => nanos_le_of_now htimeout ?_⟩
  unfold deadline at hdeadline
  show f.now + t.spec.timeout.secsCeil ≤ f'.now
  omega

/-- A fleet with a task, nine tenths of a second later. -/
def submittedLate : Fleet := { submitted with clock := ⟨1000, 900⟩ }

/-- The same fleet after a pass. -/
def placedLate : Fleet := ((reconcile halfProcessor.id).run submittedLate).2

/-- The same fleet 14.1 seconds after that pass. -/
def fourteenSecondsOn : Fleet := { placedLate with clock := ⟨1000, 15000⟩ }

/-- The same fleet after another pass. -/
def endedEarly : Fleet := ((reconcile halfProcessor.id).run fourteenSecondsOn).2

theorem proper_submitted_late : Proper False submittedLate := by
  have hsubmitted : Proper False submitted := proper_submitted
  exact { hsubmitted with now := by decide }

theorem run_to_fourteen_seconds_on : ReflTransGen (Step False) placedLate fourteenSecondsOn := by
  have hplaced : Proper False placedLate :=
    (pass_spec halfProcessor.id proper_submitted_late).proper
  refine .single (.turn _ { hplaced with now := by decide } ?_ False.elim)
  exact TaskStore.same_tasks_refl _

/-- The task is handed off, and there is an end of it. -/
theorem ended_early : ∃ given after,
    placedLate.store.get halfProcessor.id = .ok given ∧ given.isTerminal = false ∧
      given.status.execution = some "exec-1" ∧
      endedEarly.store.get halfProcessor.id = .ok after ∧ TimedOut after := by
  have hgiven : (placedLate.store.get halfProcessor.id).toOption.map
      (fun t => (t.isTerminal, t.status.execution)) = some (false, some "exec-1") := by
    decide +kernel
  have hafter : (endedEarly.store.get halfProcessor.id).toOption.map
      (fun t => (t.phase, t.status.conditions.getLast?.map Condition.reason)) =
        some (.failed, some "Timeout") := by decide +kernel
  obtain ⟨given, hget, hfields⟩ := TaskStore.get_of_map hgiven
  obtain ⟨hlive, hhandle⟩ := Prod.mk.inj hfields
  obtain ⟨after, hend, hout⟩ := TaskStore.get_of_map hafter
  exact ⟨given, after, hget, hlive, hhandle, hend, Prod.mk.inj hout⟩

theorem time_given_late : (halfProcessor.spec.timeout.nanos : Int) ≤
    (fourteenSecondsOn.clock.time - submittedLate.clock.time + 900) * 10 ^ 6 := by
  obtain ⟨given, after, hgiven, hlive, hhandle, hafter, hout⟩ := ended_early
  exact (time_given (t := halfProcessor.bump) proper_submitted_late rfl rfl hgiven hhandle
    run_to_fourteen_seconds_on hgiven hlive hafter hout).2.2 (by decide)

/-- A task can time out before its timeout has passed since it was handed off. -/
theorem timed_out_early : ∃ given after,
    submittedLate.store.get halfProcessor.id = .ok halfProcessor.bump ∧
      placedLate = ((reconcile halfProcessor.id).run submittedLate).2 ∧
      placedLate.store.get halfProcessor.id = .ok given ∧
      given.status.execution = some "exec-1" ∧
      ReflTransGen (Step False) placedLate fourteenSecondsOn ∧
      ((reconcile halfProcessor.id).run fourteenSecondsOn).2.store.get halfProcessor.id =
        .ok after ∧
      TimedOut after ∧
      (fourteenSecondsOn.clock.time - submittedLate.clock.time) * 10 ^ 6 <
        (halfProcessor.spec.timeout.nanos : Int) := by
  obtain ⟨given, after, hgiven, -, hhandle, hafter, hout⟩ := ended_early
  exact ⟨given, after, rfl, rfl, hgiven, hhandle, run_to_fourteen_seconds_on, hafter, hout,
    by decide⟩

end Fleet

end TaskFleet
