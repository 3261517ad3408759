import TaskFleet.Proofs.Execution.Output
import TaskFleet.Proofs.Execution.Supervision
import TaskFleet.Proofs.Lifecycle.Calm
import TaskFleet.Proofs.Lifecycle.StateMachine

/-!
# Progress

What a program prints of its progress and what the record of its task says: `progress_of_run`. A
supervised execution that is running reports what its attempts have printed so far
(`Supervisor.Told`), and a pass that nothing disturbs records what the execution reports
(`reconcile_reports`). So a number comes through as itself, or as a hundred if it is more, as long
as it is no greater than the greatest of 64 bits; a greater one is taken for no number at all
(`too_great_for_progress`). Whatever is printed, no record says more than a hundred.
-/

namespace TaskFleet

open Relation (ReflTransGen)
open Text

namespace Supervisor

/-- What the attempts so far have printed, the first one first. -/
def printed (s : Supervisor) : List Bytes :=
  s.starts.reverse.filterMap fun start => (s.job.attempts start.number).toOption.map Attempt.stdout

/-- At each stage but the last, the status has the annotations in what the attempts have printed;
only while an attempt is running does it say so. -/
inductive Told (s : Supervisor) : Prop where
  | starting (hstage : s.stage = .starting 1) (hnone : s.starts = []) (hstatus : s.status = waiting)
  | running {number since : Nat} {a : Attempt} (hstage : s.stage = .running number a since)
      (htold : s.status.annotations = Output.collected s.printed)
  | resting {number wakes : Nat} (hstage : s.stage = .resting number wakes)
      (hstate : s.status.state = .pending)
      (htold : s.status.annotations = Output.collected s.printed)
  | ended (hstage : s.stage = .over) (hstate : s.status.state ≠ .running)

variable {s : Supervisor}

/-- Starting an attempt adds its output to what was printed. -/
theorem printed_start {number : Nat} {a : Attempt} (h : s.job.attempts number = .ok a)
    (status : ExecutionStatus) (stage : Stage) (cancelled : Bool) :
    printed { s with
      status := status, stage := stage, cancelled := cancelled,
      starts := ⟨number, s.clock⟩ :: s.starts } = s.printed ++ [a.stdout] := by
  unfold printed
  rw [List.reverse_cons, List.filterMap_append, List.filterMap_cons, h]
  rfl

/-- An attempt that is started adds what it prints. -/
theorem told_start {number : Nat} (h : s.status.annotations = Output.collected s.printed) :
    (s.start number).Told := by
  unfold start
  dsimp only
  cases hattempt : s.job.attempts number with
  | error e =>
      dsimp only
      exact .ended rfl nofun
  | ok a =>
      dsimp only
      cases s.cancelled with
      | true => exact .ended rfl nofun
      | false =>
          -- What the earlier attempts have printed is kept, and what this one prints comes after it.
          rw [if_neg Bool.false_ne_true]
          refine .running rfl ?_
          rw [printed_start hattempt, Output.collected, List.foldl_append]
          show Output.annotations s.status.annotations a.stdout = _
          rw [h]
          rfl

/-- The end of an attempt is told with what was printed. -/
theorem told_conclude {number : Nat} {a : Attempt}
    (h : s.status.annotations = Output.collected s.printed) : (s.conclude number a).Told := by
  unfold conclude
  split
  · exact .ended rfl nofun
  · dsimp only
    split
    · exact .ended rfl nofun
    · exact .resting rfl rfl h

/-- Time that passes tells nothing. -/
theorem Told.later (h : s.Told) (time : Nat) : Told { s with clock := time } := by
  cases h with
  | starting hstage hnone hstatus => exact .starting hstage hnone hstatus
  | running hstage htold => exact .running hstage htold
  | resting hstage hstate htold => exact .resting hstage hstate htold
  | ended hstage hstate => exact .ended hstage hstate

/-- What was told is told still after an event was handled. -/
theorem told_handle (h : s.Told) : s.handle.Told := by
  unfold handle
  cases h with
  | starting hstage hnone hstatus =>
      rw [hstage]
      refine told_start ?_
      rw [hstatus, printed, hnone]
      rfl
  | running hstage htold =>
      rw [hstage]
      dsimp only
      split
      · exact .ended rfl nofun
      · exact told_conclude htold
  | resting hstage hstate htold =>
      rw [hstage]
      dsimp only
      split
      · exact .ended rfl nofun
      · exact told_start htold
  | ended hstage hstate =>
      rw [hstage]
      exact .ended hstage hstate

/-- What was told is told still after the next event. -/
theorem told_step (h : s.Told) : s.step.Told := by
  unfold step
  split
  · exact h
  · exact told_handle (h.later _)

/-- What was told is told still after a cancellation. -/
theorem told_cancel (h : s.Told) : s.cancel.Told := by
  unfold cancel
  cases h with
  | starting hstage hnone hstatus =>
      rw [hstage]
      exact .starting rfl hnone hstatus
  | running hstage htold =>
      rw [hstage]
      exact .ended rfl nofun
  | resting hstage hstate htold =>
      rw [hstage]
      exact .ended rfl nofun
  | ended hstage hstate =>
      rw [hstage]
      exact .ended hstage hstate

/-- A job that was just submitted has told nothing. -/
theorem told_submit (reading : Nat) (j : Job) : (submit reading j).Told := by
  cases hclock : j.isBeyondClock reading with
  | true => exact .ended (by simp [submit, hclock]) nofun
  | false => exact .starting (by simp [submit, hclock]) rfl rfl

end Supervisor

namespace Watch

/-- In every state of a run the annotations are those of what was printed. -/
theorem told_of_run {reading : Nat} {j : Job} {w : Watch}
    (hrun : ReflTransGen Next ⟨.submit reading j, none⟩ w) : w.toSupervisor.Told := by
  induction hrun with
  | refl => exact Supervisor.told_submit reading j
  | tail _ hnext ih =>
      cases hnext with
      | event s cancelledAt => exact Supervisor.told_step ih
      | cancel s time => exact Supervisor.told_cancel (ih.later time)

/-- An execution that reports that it is running reports what its attempts have printed. -/
theorem annotations_of_running {reading : Nat} {j : Job} {w : Watch}
    (hrun : ReflTransGen Next ⟨.submit reading j, none⟩ w) (hstate : w.status.state = .running) :
    w.status.annotations = Output.collected w.printed := by
  cases told_of_run hrun with
  | starting hstage hnone hstatus =>
      rw [hstatus] at hstate
      exact nomatch hstate
  | running hstage htold => exact htold
  | resting hstage hpending htold => exact htold
  | ended hstage hover => exact absurd hstate hover

/-- An execution that is running, and whose last annotation of progress is a number in decimal
digits. -/
structure Counts (w : Watch) (digits percent : List Char) : Prop where
  submitted : ∃ reading j, ReflTransGen Next ⟨.submit reading j, none⟩ w
  running : w.status.state = .running
  nonempty : digits ≠ []
  decimal : ∀ c ∈ digits, isDigit c = true
  sign : percent = [] ∨ percent = ['%']
  last : Output.LastProgress (Output.progressLine digits percent) w.printed

/-- The progress of a job is the number that it has printed last, up to 100, if 64 bits hold it. -/
theorem Counts.progress {w : Watch} {digits percent : List Char} (h : w.Counts digits percent) :
    w.status.progress =
      if digitsValue digits ≤ max64 then min (digitsValue digits) 100 else 0 := by
  obtain ⟨reading, j, hrun⟩ := h.submitted
  exact Output.progress_of_last_progress h.nonempty h.decimal h.sign h.last
    (annotations_of_running hrun h.running)

/-- A program that prints a number of percent and runs on. -/
def printing (digits : List Char) : Job where
  attempts := fun _ => .ok
    { length := none, ending := .exited 0
      stdout := encode (Output.progressLine digits ['%']) ++ [Output.lineFeed], stderr := [] }
  retry := ⟨0, .zero⟩
  timeout := .zero

/-- It is running. -/
def counting (digits : List Char) : Watch := ⟨(Supervisor.submit 0 (printing digits)).step, none⟩

/-- The watch that is given here has printed its digits. -/
theorem counts_counting {digits : List Char} (hne : digits ≠ [])
    (hdigits : ∀ c ∈ digits, isDigit c = true) : (counting digits).Counts digits ['%'] where
  submitted := ⟨0, printing digits, .single (.event _ none)⟩
  running := rfl
  nonempty := hne
  decimal := hdigits
  sign := .inr rfl
  last := by
    refine .line [] [] [] [Output.lineFeed] (.inl rfl) (.inr ⟨[], rfl⟩) ?_ nofun
    rintro line hline ⟨value, hvalue⟩
    have hblank : Annotation.parseChars (Output.lineText []) = none := by
      rw [Output.lineText, decodeLossy]
      rfl
    rw [List.mem_singleton.1 hline, hblank] at hvalue
    cases hvalue

end Watch

/-- No record of a task says of its progress that it is above a hundred percent. -/
theorem lasting_progress : Task.Lasting fun t => t.status.progress ≤ 100 where
  initial := fun t ht => by
    rw [ht]
    exact Nat.zero_le _
  revised := fun now t next hrevision _ ht => by
    show next.status.progress ≤ 100
    cases hrevision with
    | remark | flag | handOff => exact ht
    | reject | place | lose | expire | cancel =>
        unfold Task.transition
        rw [TaskStatus.progress_transition]
        exact ht
    | observe agent handle report =>
        show (deriveStatus t report now).progress ≤ 100
        unfold deriveStatus
        cases report.state with
        | pending | failed =>
            dsimp only
            rw [TaskStatus.progress_transition]
            exact ht
        | running => exact progress_le report
        | succeeded => exact Nat.le_refl _
    | forfeit agent =>
        unfold Task.forfeit
        dsimp only
        split
        · exact ht
        · unfold Task.transition
          rw [TaskStatus.progress_transition]
          exact ht

namespace Fleet

variable {f start : Fleet} {id : TaskId} {t : Task} {agent handle : String}
  {report : ExecutionStatus}

/-- A pass that nothing disturbs, over a task whose execution is running, records the progress that
the execution reports. -/
theorem reconcile_reports (h : Calm f) (hget : f.store.get id = .ok t)
    (hlive : t.isTerminal = false) (hwanted : t.cancelRequested = false)
    (hagent : t.status.agent = some agent) (hexecution : t.status.execution = some handle)
    (hearly : ∀ deadline, t.deadline? = some deadline → f.now < deadline)
    (hpoll : f.substrate.poll handle = .ok report) (hreport : report.InRange)
    (hstate : report.state = .running) :
    Ensures (reconcile id) f fun _ f' => ∃ stored, f'.store.get id = .ok stored ∧
      stored.status.progress = report.progress := by
  obtain ⟨next, hnext⟩ : ∃ next : Task, next = { t with status := deriveStatus t report f.now } :=
    ⟨_, rfl⟩
  have hprogress : next.status.progress = report.progress := by
    rw [hnext]
    show (deriveStatus t report f.now).progress = report.progress
    unfold deriveStatus
    rw [hstate]
  have hgoesOn : next.isTerminal = false := by
    rw [hnext]
    show (deriveStatus t report f.now).phase.isTerminal = false
    unfold deriveStatus
    rw [hstate]
    rfl
  refine reconcile_executing h hget hlive hwanted hagent hexecution ?_
  refine (watch_polls (h.note _) hget hagent hexecution hearly hpoll hreport hnext).imp ?_
  intro o f₁ hnews
  rw [hgoesOn, if_neg Bool.false_ne_true] at hnews
  obtain ⟨-, stored, hstored, hor⟩ := hnews
  refine ⟨stored, hstored, ?_⟩
  obtain ⟨hsame, rfl⟩ | rfl := hor
  · -- Nothing is written where the record says the same already.
    have hrest := congrArg TaskStatus.progress (TaskStatus.rest_of_same hsame)
    exact hrest.symm.trans hprogress
  · exact hprogress

/-- A fleet in which no call fails and no interrupt is due, and in which a pass over a task polls
its execution: the task is neither over, nor to be cancelled, nor out of time. -/
structure Looks (f : Fleet) (id : TaskId) (handle : String) (t : Task) : Prop where
  token : f.token = {}
  faults : f.faults = {}
  found : f.store.get id = .ok t
  live : t.isTerminal = false
  wanted : t.cancelRequested = false
  execution : t.status.execution = some handle
  early : ∀ deadline, t.deadline? = some deadline → f.now < deadline

variable {w : Watch} {digits percent : List Char}

/-- What a pass in a run records of an execution that counts. -/
theorem progress_of_pass (hproper : Proper False start) (htasks : start.store.tasks = [])
    (hrun : ReflTransGen (Step False) start f) (hlooks : Looks f id handle t)
    (hpoll : f.substrate.poll handle = .ok w.status) (hcounts : w.Counts digits percent) :
    ∃ stored, ((reconcile id).run f).2.store.get id = .ok stored ∧
      stored.status.progress =
        if digitsValue digits ≤ max64 then min (digitsValue digits) 100 else 0 := by
  have hreached : Proper False f := proper_of_run hproper hrun
  have hlawful : t.status.Lawful :=
    lawful_steps hproper (by simp [TaskStore.Lawful, htasks]) hrun t
      (TaskStore.mem_tasks_of_get hlooks.found)
  obtain ⟨agent, hagent⟩ : ∃ agent, t.status.agent = some agent :=
    Option.isSome_iff_exists.1 (hlawful.handedOff (.inr (by rw [hlooks.execution]; rfl))).1
  have hcalm : Calm f := ⟨hlooks.token, hlooks.faults, hreached.sound, hreached.now⟩
  obtain ⟨stored, hstored, hprogress⟩ : ∃ stored,
      ((reconcile id).run f).2.store.get id = .ok stored ∧
        stored.status.progress = w.status.progress :=
    reconcile_reports hcalm hlooks.found hlooks.live hlooks.wanted hagent hlooks.execution
      hlooks.early hpoll (hreached.polled hpoll) hcounts.running
  exact ⟨stored, hstored, hprogress.trans hcounts.progress⟩

/-- In every state of a run from a fleet without tasks no task has more than a hundred percent of
progress, whatever its execution has printed. If a pass there that nothing disturbs polls an
execution, and that is running and has last reported its progress by a line with a number in decimal
digits, however many, with or without a percent sign, then the record has that number afterwards, or
a hundred if the number is more; but if the number does not fit into 64 bits, it has zero. -/
theorem progress_of_run (hproper : Proper False start) (htasks : start.store.tasks = [])
    (hrun : ReflTransGen (Step False) start f) :
    (∀ t ∈ f.store.tasks, t.status.progress ≤ 100) ∧
      ∀ id handle t w digits percent, Looks f id handle t →
        f.substrate.poll handle = .ok w.status → Watch.Counts w digits percent →
        ∃ stored, ((reconcile id).run f).2.store.get id = .ok stored ∧
          stored.status.progress =
            if digitsValue digits ≤ max64 then min (digitsValue digits) 100 else 0 := by
  refine ⟨lasting_steps lasting_progress hproper (by simp [htasks]) hrun, ?_⟩
  intro id handle t w digits percent hlooks hpoll hcounts
  exact progress_of_pass hproper htasks hrun hlooks hpoll hcounts

/-- The fleet once the execution of its task runs under supervision and has printed a number of
percent. -/
def counting (digits : List Char) : Fleet :=
  { placed with
    substrate := placed.substrate.setReport "exec-1" (Watch.counting digits).status }

/-- The fleet with the task placed is reached. -/
theorem run_to_placed : ReflTransGen (Step False) (fresh 1000 runsOn) placed :=
  .head (.swap [oneProcessor])
    (.head (.create halfProcessor halfProcessor.bump _ _ rfl rfl rfl)
      (.single (.pass halfProcessor.id)))

/-- So is the fleet in which its execution has printed some digits. -/
theorem run_to_counting (digits : List Char) :
    ReflTransGen (Step False) (fresh 1000 runsOn) (counting digits) := by
  have hplaced : Proper False placed := (pass_spec halfProcessor.id proper_submitted).proper
  refine run_to_placed.tail (.turn _ { hplaced with reports := ?_ } ?_ False.elim)
  · intro handle report hfind
    rw [counting, Substrate.setReport, Dict.find?_insert] at hfind
    split at hfind
    · cases hfind
      exact ⟨(by decide : 1 ≤ max32), nofun⟩
    · exact hplaced.reports _ _ hfind
  · exact TaskStore.same_tasks_refl _

/-- What the execution has printed is what a poll tells. -/
theorem polls_counting (digits : List Char) :
    (counting digits).substrate.poll "exec-1" = .ok (Watch.counting digits).status := by
  have hfind : (counting digits).substrate.executions.find? "exec-1" =
      some (Watch.counting digits).status := by
    rw [counting, Substrate.setReport, Dict.find?_insert, if_pos rfl]
  unfold Substrate.poll
  rw [hfind]

/-- A pass there observes the execution. -/
theorem looks_counting (digits : List Char) :
    ∃ t, Looks (counting digits) halfProcessor.id "exec-1" t := by
  have hgiven : (placed.store.get halfProcessor.id).toOption.map (fun t =>
      (t.isTerminal, t.cancelRequested, t.status.execution, t.deadline?)) =
        some (false, false, some "exec-1", some 1015) := by decide +kernel
  obtain ⟨t, hget, hfields⟩ := TaskStore.get_of_map hgiven
  simp only [Prod.mk.injEq] at hfields
  obtain ⟨hlive, hwanted, hexecution, hdeadline⟩ := hfields
  have htoken : placed.token = {} := by decide +kernel
  have hfaults : placed.faults = {} := by decide +kernel
  have hnow : placed.now < 1015 := by decide +kernel
  refine ⟨t, ⟨htoken, hfaults, hget, hlive, hwanted, hexecution, ?_⟩⟩
  intro deadline hsome
  obtain rfl : deadline = 1015 := Option.some.inj (hsome.symm.trans hdeadline)
  exact hnow

/-- A progress of 250 is stored as 100. -/
theorem progress_of_run_counting :
    ∃ stored, ((reconcile halfProcessor.id).run (counting "250".toList)).2.store.get
        halfProcessor.id = .ok stored ∧ stored.status.progress = 100 := by
  obtain ⟨t, hlooks⟩ := looks_counting "250".toList
  have hproper : Proper False (fresh 1000 runsOn) := proper_fresh (by decide) in_range_runs_on
  exact (progress_of_run hproper rfl (run_to_counting _)).2 _ _ t _ _ _ hlooks (polls_counting _)
    (Watch.counts_counting nofun (List.all_eq_true.1 rfl))

/-- A number that is one greater than the greatest of 64 bits is recorded as no progress, and not as
a hundred percent. -/
theorem too_great_for_progress :
    ∃ digits t stored, ReflTransGen (Step False) (fresh 1000 runsOn) (counting digits) ∧
      Looks (counting digits) halfProcessor.id "exec-1" t ∧
      (counting digits).substrate.poll "exec-1" = .ok (Watch.counting digits).status ∧
      (Watch.counting digits).Counts digits ['%'] ∧
      ((reconcile halfProcessor.id).run (counting digits)).2.store.get halfProcessor.id =
        .ok stored ∧
      stored.status.progress ≠ min (digitsValue digits) 100 := by
  obtain ⟨digits, hdigits⟩ : ∃ digits : List Char, digits = "18446744073709551616".toList :=
    ⟨_, rfl⟩
  obtain ⟨t, hlooks⟩ := looks_counting digits
  have hproper : Proper False (fresh 1000 runsOn) := proper_fresh (by decide) in_range_runs_on
  have hcounts : (Watch.counting digits).Counts digits ['%'] := by
    rw [hdigits]
    exact Watch.counts_counting nofun (List.all_eq_true.1 rfl)
  obtain ⟨stored, hstored, hprogress⟩ := progress_of_pass hproper rfl (run_to_counting digits)
    hlooks (polls_counting digits) hcounts
  refine ⟨digits, t, stored, run_to_counting digits, hlooks, polls_counting digits, hcounts,
    hstored, ?_⟩
  rw [hprogress, hdigits]
  decide

end Fleet

end TaskFleet
