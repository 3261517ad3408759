import TaskFleet.Proofs.Lifecycle.Runs

/-!
# The state machine of a task

What the fields of a task's status have to do with its phase, and with each other, in every state of
every run (`lawful_of_run`): whatever fails and wherever a pass is interrupted, and across restarts.
A status is rebuilt piece by piece, by the pass that places a task, the one that hands it off, those
that watch it, and the restart that forfeits a reservation, so `Lawful` is proved once for each
`Revision`. A task whose life is over is never written again.
-/

namespace TaskFleet

open Relation (ReflTransGen)

/-- The phases into which a task can go from a phase. -/
def Phase.next : Phase → List Phase
  | .pending => [.scheduled, .failed, .cancelled]
  | .scheduled => [.running, .completed, .failed, .cancelled, .pending]
  | .running => [.completed, .failed, .cancelled]
  | .completed | .failed | .cancelled => []

/-- A way from one phase to another, with the names of the phases that it enters. -/
inductive Phase.Path (p : Phase) : List String → Phase → Prop where
  | start : Path p [] p
  | enter {kinds : List String} {q r : Phase} (hpath : Path p kinds q) (hnext : r ∈ q.next) :
      Path p (kinds ++ [r.name]) r

/-- A phase that is not an end is one of the other three. -/
theorem Phase.live_cases {p : Phase} (h : p.isTerminal = false) :
    p = .pending ∨ p = .scheduled ∨ p = .running := by
  cases p with
  | pending => exact .inl rfl
  | scheduled => exact .inr (.inl rfl)
  | running => exact .inr (.inr rfl)
  | completed | failed | cancelled => exact nomatch h

namespace TaskStatus

/-- A status whose history leads from the first phase to the present one. -/
structure Traced (s : TaskStatus) : Prop where
  ended : s.endTime.isSome = s.phase.isTerminal
  path : Phase.Path .pending (s.conditions.map Condition.kind) s.phase

/-- A status in which every field is as the phase has it. -/
structure Lawful (s : TaskStatus) : Prop extends s.Traced where
  pending : s.phase = .pending →
    s.agent = none ∧ s.execution = none ∧ s.startTime = none ∧ s.resourcesUsed = ∅
  placed : s.phase = .scheduled ∨ s.phase = .running → s.agent.isSome = true
  handedOff : s.phase = .running ∨ s.execution.isSome = true →
    s.agent.isSome = true ∧ s.execution.isSome = true ∧ s.startTime.isSome = true
  started : s.startTime.isSome = true → s.execution.isSome = true
  completed : s.phase = .completed →
    s.execution.isSome = true ∧ s.progress = 100 ∧ s.result.isSome = true

variable {s : TaskStatus} {p : Phase} {reason message : String} {now : Nat}

theorem lawful_initial : initial.Lawful where
  ended := rfl
  path := .start
  pending := fun _ => ⟨rfl, rfl, rfl, rfl⟩
  placed := by decide
  handedOff := by decide
  started := by decide
  completed := by decide

/-- A change of phase that the state machine has is traced. -/
theorem Traced.transition (h : s.Traced) (hlive : s.phase.isTerminal = false)
    (hnext : p ∈ s.phase.next) : (s.transition p reason message now).Traced := by
  have hne : s.phase ≠ p := by
    rintro rfl
    cases hphase : s.phase <;> simp [hphase, Phase.next] at hnext
  have hpath := h.path.enter hnext
  refine ⟨?_, ?_⟩
  · rw [endTime_transition, phase_transition]
    cases hterminal : p.isTerminal with
    | true => simp [hne]
    | false => simp [h.ended, hlive]
  · rw [conditions_transition, if_neg hne, List.map_append]
    exact hpath

/-- A status in its phase with another message is traced as before. -/
theorem Traced.stay (h : s.Traced) (hp : s.phase = p) :
    (s.transition p reason message now).Traced := by
  subst hp
  unfold TaskStatus.transition
  rw [if_pos rfl]
  exact ⟨h.ended, h.path⟩

/-- A task that is not over and has no agent is waiting for one. -/
theorem Lawful.unplaced (h : s.Lawful) (hlive : s.phase.isTerminal = false)
    (hagent : s.agent = none) : s.phase = .pending := by
  have hplaced := h.placed
  rw [hagent] at hplaced
  obtain hphase | hphase | hphase := Phase.live_cases hlive
  · exact hphase
  · exact nomatch hplaced (.inl hphase)
  · exact nomatch hplaced (.inr hphase)

/-- A task without an agent has no execution. -/
theorem Lawful.idle (h : s.Lawful) (hagent : s.agent = none) : s.execution = none := by
  cases hexecution : s.execution with
  | none => rfl
  | some handle =>
      have hplaced := (h.handedOff (.inr (by rw [hexecution]; rfl))).1
      rw [hagent] at hplaced
      exact nomatch hplaced

/-- A task that is not over and has an agent but no execution is scheduled. -/
theorem Lawful.unstarted (h : s.Lawful) (hlive : s.phase.isTerminal = false)
    (hagent : s.agent.isSome = true) (hexecution : s.execution = none) : s.phase = .scheduled := by
  obtain hphase | hphase | hphase := Phase.live_cases hlive
  · rw [(h.pending hphase).1] at hagent
    exact nomatch hagent
  · exact hphase
  · have hhanded := (h.handedOff (.inl hphase)).2.1
    rw [hexecution] at hhanded
    exact nomatch hhanded

/-- A task that is not over and has an execution is scheduled or running. -/
theorem Lawful.watched (h : s.Lawful) (hlive : s.phase.isTerminal = false)
    (hexecution : s.execution.isSome = true) : s.phase = .scheduled ∨ s.phase = .running := by
  obtain hphase | hphase | hphase := Phase.live_cases hlive
  · rw [(h.pending hphase).2.1] at hexecution
    exact nomatch hexecution
  · exact .inl hphase
  · exact .inr hphase

/-- A task can fail and be cancelled at any time of its life. -/
theorem Lawful.fail (h : s.Lawful) (hlive : s.phase.isTerminal = false)
    (hp : p = .failed ∨ p = .cancelled) : (s.transition p reason message now).Lawful := by
  have hnext : p ∈ s.phase.next := by
    obtain rfl | rfl := hp <;> cases hphase : s.phase <;> simp_all [Phase.next, Phase.isTerminal]
  have htraced : (s.transition p reason message now).Traced := h.toTraced.transition hlive hnext
  refine ⟨htraced, ?_, ?_, ?_, ?_, ?_⟩
  · intro hphase
    obtain rfl | rfl := hp <;> exact nomatch hphase
  · intro hphase
    obtain rfl | rfl := hp <;> exact nomatch hphase
  · intro hor
    have hexecution : s.execution.isSome = true := by
      obtain rfl | rfl := hp <;> simpa using hor
    simpa using h.handedOff (.inr hexecution)
  · simpa using h.started
  · intro hphase
    obtain rfl | rfl := hp <;> exact nomatch hphase

/-- A message changes nothing else. -/
theorem Lawful.stay (h : s.Lawful) (hp : s.phase = p) :
    (s.transition p reason message now).Lawful := by
  subst hp
  unfold TaskStatus.transition
  rw [if_pos rfl]
  exact { h with }

/-- A task without an agent is placed. -/
theorem Lawful.place (h : s.Lawful) (hphase : s.phase = .pending) (agent : String)
    (amount : ResourceSet) :
    ({ s with agent := some agent, resourcesUsed := amount }.transition .scheduled reason message
      now).Lawful := by
  obtain ⟨-, hexecution, hstart, -⟩ := h.pending hphase
  have hlive : s.phase.isTerminal = false := by rw [hphase]; rfl
  have hnext : Phase.scheduled ∈ s.phase.next := by rw [hphase]; decide
  have htraced : { s with agent := some agent, resourcesUsed := amount }.Traced := ⟨h.ended, h.path⟩
  refine ⟨htraced.transition hlive hnext, ?_, ?_, ?_, ?_, ?_⟩
  · exact fun h => nomatch h
  · intro _
    simp
  · simp [hexecution]
  · simp [hstart]
  · exact fun h => nomatch h

/-- A task that has not been handed off is taken from its agent. -/
theorem Lawful.unplace (h : s.Lawful) (hphase : s.phase = .scheduled)
    (hexecution : s.execution = none) :
    ({ s with agent := none, resourcesUsed := ∅ }.transition .pending reason message now).Lawful := by
  have hlive : s.phase.isTerminal = false := by rw [hphase]; rfl
  have hnext : Phase.pending ∈ s.phase.next := by rw [hphase]; decide
  have htraced : { s with agent := none, resourcesUsed := ∅ }.Traced := ⟨h.ended, h.path⟩
  have hstart : s.startTime = none := by
    cases hstart : s.startTime with
    | none => rfl
    | some n =>
        have hsome := h.started (by rw [hstart]; rfl)
        rw [hexecution] at hsome
        exact nomatch hsome
  refine ⟨htraced.transition hlive hnext, ?_, ?_, ?_, ?_, ?_⟩
  · intro _
    simp [hexecution, hstart]
  · simp
  · simp [hexecution]
  · simp [hstart]
  · exact fun h => nomatch h

/-- What an execution reports makes a lawful status of one. -/
theorem Lawful.derive {t : Task} {report : ExecutionStatus} (h : t.status.Lawful)
    (hlive : t.isTerminal = false) (hexecution : t.status.execution.isSome = true) :
    (deriveStatus t report now).Lawful := by
  have hattempts : { t.status with attempts := report.attempts }.Lawful := { h with }
  have hhanded := h.handedOff (.inr hexecution)
  have hphase := h.watched hlive hexecution
  unfold deriveStatus
  cases report.state with
  | pending =>
      have hsame : t.status.phase =
          if t.status.phase = .running then Phase.running else .scheduled := by
        obtain hphase | hphase := hphase <;> rw [hphase] <;> rfl
      exact hattempts.stay hsame
  | running =>
      have htraced : ({ t.status with attempts := report.attempts }.transition .running "Started"
          (report.messageOr "running") now).Traced := by
        obtain hphase | hphase := hphase
        · exact hattempts.toTraced.transition hlive (by simp [hphase, Phase.next])
        · exact hattempts.toTraced.stay hphase
      refine ⟨⟨htraced.ended, htraced.path⟩, ?_, ?_, ?_, ?_, ?_⟩
      · exact fun h => nomatch h
      · simp [hhanded]
      · simp [hhanded]
      · simp [hhanded]
      · exact fun h => nomatch h
  | succeeded =>
      have hnext : Phase.completed ∈ t.status.phase.next := by
        obtain hphase | hphase := hphase <;> rw [hphase] <;> decide
      have htraced : ({ t.status with attempts := report.attempts }.transition .completed "Succeeded"
          (report.messageOr "finished") now).Traced := hattempts.toTraced.transition hlive hnext
      refine ⟨⟨htraced.ended, htraced.path⟩, ?_, ?_, ?_, ?_, ?_⟩
      · exact fun h => nomatch h
      · simp
      · simp [hhanded]
      · simp [hhanded]
      · simp [hhanded]
  | failed =>
      have hfailed : ({ t.status with attempts := report.attempts }.transition .failed
        "ExecutionFailed" (failureMessage t report) now).Lawful := hattempts.fail hlive (.inl rfl)
      exact { hfailed with completed := fun h => nomatch h }

end TaskStatus

section Moves

variable {steady : Prop} {now : Nat} {t next : Task} {b b' : Books}

/-- Every revision of a task whose life is not over makes a lawful status of one. -/
theorem Revision.lawful (h : Revision now t next) (ht : t.status.Lawful)
    (hlive : t.isTerminal = false) : next.status.Lawful := by
  cases h with
  | remark message => exact { ht with }
  | flag => exact ht
  | reject message hagent hinvalid => exact ht.fail hlive (.inl rfl)
  | place agent message hagent => exact ht.place (ht.unplaced hlive hagent) agent t.requirement
  | lose agent message hagent hexecution =>
      have hphase := ht.unstarted hlive (by rw [hagent]; rfl) hexecution
      exact ht.unplace hphase hexecution
  | handOff agent handle message hagent hexecution =>
      have hphase := ht.unstarted hlive (by rw [hagent]; rfl) hexecution
      refine ⟨⟨ht.ended, ht.path⟩, ?_, ht.placed, ?_, fun _ => rfl, ?_⟩
      · intro hpending
        exact nomatch hphase.symm.trans hpending
      · intro _
        exact ⟨by rw [hagent]; rfl, rfl, rfl⟩
      · intro hcompleted
        exact nomatch hphase.symm.trans hcompleted
  | observe agent handle report hagent hexecution hreport =>
      exact ht.derive hlive (by rw [hexecution]; rfl)
  | expire agent handle message => exact ht.fail hlive (.inl rfl)
  | cancel message hrequested => exact ht.fail hlive (.inr rfl)
  | forfeit agent hagent =>
      have hnone : { t.status with resourcesUsed := ∅ }.Lawful := by
        refine { ht with pending := fun hphase => ?_ }
        obtain ⟨hagent, hexecution, hstart, -⟩ := ht.pending hphase
        exact ⟨hagent, hexecution, hstart, rfl⟩
      unfold Task.forfeit
      dsimp only
      split
      · exact hnone
      -- Only a task that was not handed off is taken from its agent.
      · rename_i hexecution
        have hexecution : t.status.execution = none := by simpa using hexecution
        have hphase := ht.unstarted hlive (by rw [hagent]; rfl) hexecution
        exact ht.unplace hphase hexecution

/-- What holds of every task that nothing has happened to, and of every revision of a task that it
holds of and whose life is not over. -/
structure Task.Lasting (P : Task → Prop) : Prop where
  initial : ∀ t, t.status = .initial → P t
  revised : ∀ now t next, Revision now t next → t.isTerminal = false → P t → P next.bump

theorem lasting_move {P : Task → Prop} (hP : Task.Lasting P) (h : Move steady now b b')
    (hb : ∀ t ∈ b.store.tasks, P t) : ∀ t ∈ b'.store.tasks, P t := by
  cases h with
  | note | reserve | release | drop | start | giveUp | forget => exact hb
  | upset b' _ hstore =>
      rw [hstore]
      exact hb
  | write t next store account hself hlive hrevision hreplaces hbalance =>
      obtain ⟨pre, post, hold, hnew⟩ := hreplaces.split
      intro x hx
      rw [hnew, List.mem_append, List.mem_cons] at hx
      have hothers : ∀ x ∈ pre ++ t :: post, P x := by
        rw [← hold]
        exact hb
      obtain hx | rfl | hx := hx
      · exact hothers x (List.mem_append_left _ hx)
      · have ht := hothers t (List.mem_append_right _ List.mem_cons_self)
        exact hP.revised now t next hrevision hlive ht
      · exact hothers x (List.mem_append_right _ (List.mem_cons_of_mem _ hx))

theorem lasting_moves {P : Task → Prop} (hP : Task.Lasting P)
    (h : ReflTransGen (Move steady now) b b') (hb : ∀ t ∈ b.store.tasks, P t) :
    ∀ t ∈ b'.store.tasks, P t := by
  induction h with
  | refl => exact hb
  | tail _ hmove ih => exact lasting_move hP hmove ih

/-- A store in which the status of every task is lawful. -/
def TaskStore.Lawful (s : TaskStore) : Prop :=
  ∀ t ∈ s.tasks, t.status.Lawful

theorem lasting_lawful : Task.Lasting fun t => t.status.Lawful where
  initial := fun t ht => by
    rw [ht]
    exact TaskStatus.lawful_initial
  revised := fun _ _ _ hrevision hlive ht => hrevision.lawful ht hlive

/-- A task that is over without an agent was not valid, or its cancellation was requested. -/
def Task.Dismissed (t : Task) : Prop :=
  t.isTerminal = true → t.status.agent = none → t.cancelRequested = true ∨ t.validate ≠ .ok ()

/-- A task whose life is not over was not dismissed. -/
theorem dismissed_of_live {t : Task} (hlive : t.isTerminal = false) : t.Dismissed :=
  fun hterminal => nomatch hlive.symm.trans hterminal

/-- A task that has an agent was not dismissed. -/
theorem dismissed_of_agent {t : Task} {agent : String} (hagent : t.status.agent = some agent) :
    t.Dismissed :=
  fun _ hnone => nomatch hagent.symm.trans hnone

theorem lasting_dismissed : Task.Lasting Task.Dismissed where
  initial := fun t ht => dismissed_of_live (by
    unfold Task.isTerminal Task.phase
    rw [ht]
    rfl)
  revised := fun now t next hrevision hlive _ => by
    cases hrevision with
    | remark message => exact dismissed_of_live hlive
    | flag => exact fun _ _ => .inl rfl
    | reject message hagent hinvalid => exact fun _ _ => .inr hinvalid
    | place agent message hagent => exact dismissed_of_live rfl
    | lose agent message hagent hexecution => exact dismissed_of_live rfl
    | handOff agent handle message hagent hexecution => exact dismissed_of_live hlive
    | observe agent handle report hagent hexecution hreport =>
        exact dismissed_of_agent ((Fleet.derive_status_holding report now).1.trans hagent)
    | expire agent handle message hagent hexecution =>
        exact dismissed_of_agent ((TaskStatus.agent_transition ..).trans hagent)
    | cancel message hrequested => exact fun _ _ => .inl hrequested
    | forfeit agent hagent => exact dismissed_of_live (forfeit_live hlive agent now).1

/-- A move leaves a task whose life is over as it is. -/
theorem settled_move {id : TaskId} (h : Move steady now b b') (hget : b.store.get id = .ok t)
    (hterminal : t.isTerminal = true) : b'.store.get id = .ok t := by
  cases h with
  | note | reserve | release | drop | start | giveUp | forget => exact hget
  | upset b' _ hstore =>
      rw [hstore]
      exact hget
  | write old next store account hself hlive hrevision hreplaces hbalance =>
      -- What is written takes the place of a task whose life is not over, so of another one.
      have hother : b.store.get id ≠ .ok old := by
        intro hold
        rw [hget] at hold
        cases hold
        rw [hterminal] at hlive
        exact nomatch hlive
      show store.get id = .ok t
      rw [hreplaces.others id hother]
      exact hget

theorem settled_moves {id : TaskId} (h : ReflTransGen (Move steady now) b b')
    (hget : b.store.get id = .ok t) (hterminal : t.isTerminal = true) :
    b'.store.get id = .ok t := by
  induction h with
  | refl => exact hget
  | tail _ hmove ih => exact settled_move hmove ih hterminal

end Moves

namespace Fleet

variable {steady : Prop} {f f' start : Fleet}

/-- What lasts of a task lasts through every step. -/
theorem lasting_step {P : Task → Prop} (hP : Task.Lasting P) (hproper : Proper steady f)
    (hstep : Step steady f f') (h : ∀ t ∈ f.store.tasks, P t) : ∀ t ∈ f'.store.tasks, P t := by
  obtain ⟨-, haffects⟩ := step_spec hproper hstep
  cases haffects with
  | turns hturns =>
      obtain ⟨-, -, l, -, hmoves⟩ := hturns
      exact lasting_moves hP hmoves h
  | keeps hstore hledger =>
      intro t ht
      obtain hold | hinitial := hstore.mem_tasks.2 ht
      · exact h t hold
      · exact hP.initial t hinitial

theorem lasting_steps {P : Task → Prop} (hP : Task.Lasting P) (hproper : Proper steady start)
    (h : ∀ t ∈ start.store.tasks, P t) (hrun : ReflTransGen (Step steady) start f) :
    ∀ t ∈ f.store.tasks, P t := by
  induction hrun with
  | refl => exact h
  | tail hrun hstep ih => exact lasting_step hP (proper_of_run hproper hrun) hstep ih

/-- Every step keeps the status of every task lawful. -/
theorem lawful_step (hproper : Proper steady f) (hstep : Step steady f f')
    (h : f.store.Lawful) : f'.store.Lawful :=
  lasting_step lasting_lawful hproper hstep h

theorem lawful_steps (hproper : Proper steady start) (h : start.store.Lawful)
    (hrun : ReflTransGen (Step steady) start f) : f.store.Lawful :=
  lasting_steps lasting_lawful hproper h hrun

/-- No step changes the record of a task whose life is over. -/
theorem settled_step {id : TaskId} {t : Task} (hproper : Proper steady f)
    (hstep : Step steady f f') (hget : f.store.get id = .ok t) (hterminal : t.isTerminal = true) :
    f'.store.get id = .ok t := by
  obtain ⟨-, haffects⟩ := step_spec hproper hstep
  cases haffects with
  | turns hturns =>
      obtain ⟨-, -, l, -, hmoves⟩ := hturns
      exact settled_moves hmoves hget hterminal
  | keeps hstore hledger => exact hstore.found id t hget

/-- In every state of a run from a fleet without tasks, whatever fails or is interrupted in it and
however often it is restarted, every task's status is lawful, and a task whose life is over keeps
its record in all that follows. -/
theorem lawful_of_run (hproper : Proper False start) (htasks : start.store.tasks = [])
    (hrun : ReflTransGen (Step False) start f) :
    (∀ t ∈ f.store.tasks, t.status.Lawful) ∧
      ∀ id t f', f.store.get id = .ok t → t.isTerminal = true →
        ReflTransGen (Step False) f f' → f'.store.get id = .ok t := by
  refine ⟨?_, ?_⟩
  · show f.store.Lawful
    induction hrun with
    | refl =>
        intro t ht
        rw [htasks] at ht
        exact nomatch ht
    | tail hrun hstep ih => exact lawful_step (proper_of_run hproper hrun) hstep ih
  · intro id t f' hget hterminal hlater
    induction hlater with
    | refl => exact hget
    | tail hlater hstep ih =>
        exact settled_step (proper_of_run hproper (hrun.trans hlater)) hstep ih hterminal

/-- A fleet whose one task was placed, and then cancelled. -/
def cancelled : Fleet :=
  ((reconcile halfProcessor.id).run ((requestCancel halfProcessor.id).run placed).2).2

theorem lawful_of_run_cancelled :
    ∃ t, cancelled.store.get halfProcessor.id = .ok t ∧
      t.status.conditions.map Condition.kind = ["Scheduled", "Cancelled"] ∧ t.status.Lawful ∧
      ∀ f', ReflTransGen (Step False) cancelled f' → f'.store.get halfProcessor.id = .ok t := by
  have hproper : Proper False (fresh 1000 runsOn) := proper_fresh (by decide) in_range_runs_on
  have hrun : ReflTransGen (Step False) (fresh 1000 runsOn) cancelled := by
    refine .head (.swap [oneProcessor]) ?_
    refine .head (.create halfProcessor halfProcessor.bump _ _ rfl rfl rfl) ?_
    refine .head (.pass halfProcessor.id) ?_
    exact .head (.cancel halfProcessor.id) (.single (.pass halfProcessor.id))
  have hend : (cancelled.store.get halfProcessor.id).toOption.map
      (fun t => (t.status.conditions.map Condition.kind, t.isTerminal)) =
        some (["Scheduled", "Cancelled"], true) := by decide +kernel
  obtain ⟨hlawful, hsettled⟩ := lawful_of_run hproper rfl hrun
  obtain ⟨t, hget, hfields⟩ := TaskStore.get_of_map hend
  obtain ⟨hkinds, hterminal⟩ := Prod.mk.inj hfields
  refine ⟨t, hget, hkinds, hlawful t (TaskStore.mem_tasks_of_get hget), ?_⟩
  intro f' hlater
  exact hsettled _ t f' hget hterminal hlater

end Fleet

end TaskFleet
