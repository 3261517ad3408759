import TaskFleet.Proofs.Lifecycle.Leads

/-!
# What a pass does

Every function of the lifecycle leads from one fleet to another by moves, whatever faults are due
and wherever an interrupt strikes. The statements follow the code: a function that calls another one
uses what is known of it. A pass as a whole starts and ends with an empty account
(`reconcile_spec`): nothing is reserved that no stored task holds, and no execution is left behind
that is neither recorded nor stopped.
-/

namespace TaskFleet

/-- A task as it is to be written when it is cancelled. -/
def Task.asCancelled (t : Task) (now : Nat) : Task :=
  t.transition .cancelled "Cancelled" "Cancelled: cancellation requested" now

namespace Fleet

open Relation (ReflTransGen)

variable {steady : Prop} {f f' f'' : Fleet} {id : TaskId} {t next : Task} {agent : String}

/-- What a task holds is given back, and its execution dropped, on the account of the pass. -/
theorem settle_spec (t : Task) (account : Account) (h : Proper steady f) :
    Ensures (settle t agent) f fun _ f' =>
      Leads steady f { account with
        reserved := (agent, t.status.resourcesUsed) :: account.reserved
        ended := t.status.execution.toList ++ account.ended } f' account := by
  unfold settle
  cases t.status.execution with
  | none => exact (release_spec t.status.resourcesUsed account h).bind fun _ f₁ hl => hl
  | some handle =>
      refine (release_spec t.status.resourcesUsed
        { account with ended := handle :: account.ended } h).bind fun _ f₁ hl => ?_
      exact hl.after (forget_execution_spec handle account hl.proper)

/-- A task that ends holds nothing any more: what it held is given back, and what it ran is
forgotten. -/
theorem finish_spec (h : Proper steady f) (hget : f.store.get id = .ok t)
    (hlive : t.isTerminal = false) (hagent : t.status.agent = some agent)
    (hrevision : Revision f.now t next) (hterminal : next.isTerminal = true)
    (hexecution : next.status.execution = t.status.execution)
    (hstopped : next.IsCutShort → ∀ handle ∈ t.status.execution,
      .cancel handle ∈ thisPass f.trail) :
    Ensures (finish t next agent) f fun _ f' => Leads steady f {} f' {} := by
  have hpermits : (f.books {}).Permits t next _ :=
    Books.permits_of_end hlive hagent hterminal hexecution hstopped
  unfold finish
  refine (put_spec h hget hlive hrevision).bind fun r f₁ hr => ?_
  match r with
  | none => exact hr.leads
  | some (.ok stored) =>
      have hput := hr.2.2 {} _ fun _ => hpermits
      exact (settle_spec t {} hput.proper).bind fun _ f₂ hl => hput.trans hl
  | some (.error (.notFound key)) =>
      -- Only a fault can miss a task that is there, and what was held is given back all the same.
      by_cases hsteady : steady
      · exact absurd rfl (hr.2 hsteady key)
      · have hupset := leads_of_unsteady {} { ({} : Account) with
          reserved := [(agent, t.status.resourcesUsed)]
          ended := t.status.execution.toList ++ [] } hsteady rfl rfl hr.1.proper
        exact (settle_spec t {} hr.1.proper).bind fun _ f₂ hl => hr.1.leads.trans (hupset.trans hl)
  | some (.error (.conflict key)) => exact ensures_get hr.1.leads
  | some (.error (.unavailable cause)) => exact ensures_get hr.1.leads

/-- A cancellation stops the execution, if there is one, before it is written. -/
theorem cancel_task_eq (t : Task) : cancelTask t =
    t.status.execution.elim (pure ()) cancelExecution >>= fun _ => get >>= fun f =>
      t.status.agent.elim (write t (t.asCancelled f.now) .done)
        (finish t (t.asCancelled f.now)) := by
  unfold cancelTask Task.asCancelled
  cases t.status.execution <;> cases t.status.agent <;> rfl

/-- A task is cancelled in two stages: its execution is stopped, if it has one, and its end is
recorded. -/
theorem cancel_task_stages {p : Fleet → Prop} {q : Outcome → Fleet → Prop}
    (hidle : t.status.execution = none → p f)
    (hstop : ∀ handle, t.status.execution = some handle →
      Ensures (cancelExecution handle) f fun _ f₁ => p f₁)
    (hfinish : ∀ f₁ agent, p f₁ → t.status.agent = some agent →
      Ensures (finish t (t.asCancelled f₁.now) agent) f₁ q)
    (hwrite : ∀ f₁, p f₁ → t.status.agent = none →
      Ensures (write t (t.asCancelled f₁.now) .done) f₁ q) : Ensures (cancelTask t) f q := by
  rw [cancel_task_eq]
  refine Ensures.bind (q := fun _ f₁ => p f₁) ?_ fun _ f₁ hp => ensures_get ?_
  · cases hexecution : t.status.execution with
    | none => exact hidle hexecution
    | some handle => exact hstop handle hexecution
  · cases hagent : t.status.agent with
    | none => exact hwrite f₁ hp hagent
    | some agent => exact hfinish f₁ agent hp hagent

/-- A task is cancelled after its execution was, if it has one. -/
theorem cancel_task_spec (h : Proper steady f) (hget : f.store.get id = .ok t)
    (hlive : t.isTerminal = false) (hrequested : t.cancelRequested = true) :
    Ensures (cancelTask t) f fun _ f' => Leads steady f {} f' {} := by
  refine cancel_task_stages (p := fun f₁ => Acts steady f {} f₁ {} ∧
    ∀ handle ∈ t.status.execution, .cancel handle ∈ thisPass f₁.trail) ?_ ?_ ?_ ?_
  · intro hexecution
    refine ⟨h.quiet.acts, fun handle hhandle => ?_⟩
    rw [hexecution] at hhandle
    exact nomatch hhandle
  · intro handle hexecution
    refine (stop_spec h hget hlive hexecution).imp fun _ f₁ ha => ⟨ha.1, fun other hother => ?_⟩
    rw [hexecution] at hother
    cases hother
    rw [ha.2]
    exact mem_this_pass_cons.2 ⟨rfl, .inl rfl⟩
  · rintro f₁ agent ⟨ha, hstopped⟩ hagent
    exact ha.after (finish_spec ha.proper (ha.get hget) hlive hagent (.cancel _ hrequested) rfl
      (TaskStatus.execution_transition ..) fun _ => hstopped)
  · rintro f₁ ⟨ha, hstopped⟩ hagent
    refine ha.after (write_spec .done ha.proper (ha.get hget) hlive (.cancel _ hrequested)
      (Books.permits_of_unplaced hagent ?_ (TaskStatus.execution_transition ..)
        fun _ => hstopped))
    exact (TaskStatus.agent_transition ..).trans hagent

/-- A placed task is handed off under its reservation, or taken from an agent that has left. An
execution whose handle is not recorded is stopped. -/
theorem hand_off_spec (h : Proper steady f) (hget : f.store.get id = .ok t)
    (hlive : t.isTerminal = false) (hagent : t.status.agent = some agent)
    (hexecution : t.status.execution = none) :
    Ensures (handOff t agent) f fun _ f' => Leads steady f {} f' {} := by
  unfold handOff
  refine ensures_get ?_
  cases hgone : f.ledger.capacity? agent with
  | none =>
      refine (write_spec _ h hget hlive (.lose agent _ hagent hexecution) ?_).imp fun _ _ hl => hl
      exact Books.permits_of_loss hlive hagent hgone rfl (TaskStatus.agent_transition ..)
        (TaskStatus.execution_transition ..)
  | some c =>
      have hthere : (f.ledger.capacity? agent).isSome = true := by rw [hgone]; rfl
      refine (interruptible_spec h.quiet.acts
        (submit_spec h hget hlive hagent hexecution hthere)).bind fun r f₁ ha => ?_
      match r with
      | none => exact ha.toLeads
      | some (.error e) =>
          exact ha.after (remark_spec _ _ ha.proper (ha.get hget) hlive)
      | some (.ok handle) =>
          have hrevision := ha.revision (.handOff agent handle
            ("execution " ++ handle ++ " submitted to agent " ++ agent) hagent hexecution)
          have hgiveUp {f₂ : Fleet} (outcome : Outcome) (hq : Quiet steady f₁ f₂) :
              Ensures (do cancelExecution handle; return outcome) f₂ fun _ f' =>
                Leads steady f {} f' {} :=
            (give_up_spec handle t.id hq.proper).bind fun _ _ hg =>
              ha.toLeads.trans (hq.leads.trans hg.toLeads)
          refine (put_spec ha.proper (ha.get hget) hlive hrevision).bind fun r f₂ hr => ?_
          match r with
          | none => exact hgiveUp _ hr
          | some (.error e) => exact hgiveUp _ hr.1
          | some (.ok stored) =>
              refine ha.toLeads.trans (hr.2.2 _ _ fun _ => ?_)
              exact Books.permits_of_hand_off hlive rfl hexecution rfl rfl

/-- What an execution reports changes neither the agent nor what is reserved on it, nor the
execution. -/
theorem derive_status_holding (report : ExecutionStatus) (now : Nat) :
    (deriveStatus t report now).agent = t.status.agent ∧
      (deriveStatus t report now).resourcesUsed = t.status.resourcesUsed ∧
      (deriveStatus t report now).execution = t.status.execution := by
  unfold deriveStatus
  cases report.state with
  | pending | running | succeeded | failed => simp

/-- A live task has not failed. -/
theorem phase_ne_failed (hlive : t.isTerminal = false) : t.status.phase ≠ .failed := by
  intro hphase
  rw [Task.isTerminal, Task.phase, hphase] at hlive
  exact absurd hlive (by decide)

/-- A task that is not valid has not been cut short. -/
theorem not_is_cut_short_of_rejection (hlive : t.isTerminal = false) (message : String)
    (now : Nat) : ¬ Task.IsCutShort (t.transition .failed "ValidationFailed" message now) := by
  have hphase := phase_ne_failed hlive
  unfold Task.IsCutShort TimedOut Task.phase Task.transition
  simp [TaskStatus.conditions_transition, hphase]

/-- A task whose execution is over has not been cut short. -/
theorem not_is_cut_short_of_report (hlive : t.isTerminal = false) (report : ExecutionStatus)
    (now : Nat) : ¬ Task.IsCutShort { t with status := deriveStatus t report now } := by
  have hphase := phase_ne_failed hlive
  unfold Task.IsCutShort TimedOut Task.phase deriveStatus
  cases report.state with
  | pending => by_cases hrunning : t.status.phase = .running <;> simp [hrunning]
  | running | succeeded => simp
  | failed => simp [TaskStatus.conditions_transition, hphase]

/-- Looking after a task that has an execution leaves nothing on the account. -/
theorem watch_spec {handle : String} (h : Proper steady f) (hget : f.store.get id = .ok t)
    (hlive : t.isTerminal = false) (hagent : t.status.agent = some agent)
    (hexecution : t.status.execution = some handle) :
    Ensures (watch t agent handle) f fun _ f' => Leads steady f {} f' {} := by
  unfold watch
  refine ensures_get ?_
  cases (t.deadline?.map fun deadline => decide (deadline ≤ f.now)).getD false with
  | true =>
      refine (stop_spec h hget hlive hexecution).bind fun _ f₁ ha => ?_
      have hrevision := ha.1.revision (.expire agent handle (timeoutMessage t) hagent hexecution)
      refine ha.1.after (finish_spec ha.1.proper (ha.1.get hget) hlive hagent hrevision rfl
        (TaskStatus.execution_transition ..) ?_)
      intro _ other hother
      rw [hexecution] at hother
      cases hother
      rw [ha.2]
      exact mem_this_pass_cons.2 ⟨rfl, .inl rfl⟩
  | false =>
      refine (interruptible_spec ⟨h.quiet.acts, nofun⟩
        (poll_spec h hget hlive hexecution)).bind fun r f₁ hr => ?_
      obtain ⟨ha, hreport⟩ := hr
      have hget₁ : f₁.store.get id = .ok t := ha.get hget
      match r with
      | none => exact ha.toLeads
      | some (.error e) => exact ha.after (remark_spec _ _ ha.proper hget₁ hlive)
      | some (.ok report) =>
          have hrevision := ha.revision
            (.observe agent handle report hagent hexecution (hreport report rfl))
          obtain ⟨hsame, hused, hexec⟩ := derive_status_holding (t := t) report f.now
          dsimp only
          cases hterminal :
              Task.isTerminal { t with status := deriveStatus t report f.now } with
          | true =>
              exact ha.after (finish_spec ha.proper hget₁ hlive hagent hrevision hterminal hexec
                fun hcut => absurd hcut (not_is_cut_short_of_report hlive report f.now))
          | false =>
              refine ha.after (write_spec _ ha.proper hget₁ hlive hrevision
                (Books.permits_of_same hterminal ?_ hexec))
              rw [holding_of_live hterminal, holding_of_live hlive, hsame, hused]

/-- Looking after a task that has an agent leaves nothing on the account. -/
theorem drive_spec (h : Proper steady f) (hget : f.store.get id = .ok t)
    (hlive : t.isTerminal = false) (hagent : t.status.agent = some agent) :
    Ensures (drive t agent) f fun _ f' => Leads steady f {} f' {} := by
  unfold drive
  cases hexecution : t.status.execution with
  | some handle => exact watch_spec h hget hlive hagent hexecution
  | none => exact hand_off_spec h hget hlive hagent hexecution

/-- From one fleet to another by what others do to the ledger, and moves after that. -/
structure Turns (steady : Prop) (f f' : Fleet) : Prop where
  clock : f'.clock = f.clock
  proper : Proper steady f'
  moves : ∃ l, Shifted steady f.ledger l ∧
    ReflTransGen (Move steady f.now) { f.books with ledger := l } f'.books

/-- A pass that leaves nothing on the account takes its turn. -/
theorem Leads.turns (h : Leads steady f {} f' {}) : Turns steady f f' :=
  ⟨h.clock, h.proper, f.ledger, fun _ => .inl rfl, h.moves⟩

/-- What changes nothing that others can see may come before a turn. -/
theorem Quiet.turns (h : Quiet steady f f') (h' : Turns steady f' f'') : Turns steady f f'' := by
  obtain ⟨hclock, hproper, l, hshift, hmoves⟩ := h'
  refine ⟨hclock.trans h.clock, hproper, l, h.ledger ▸ hshift, ?_⟩
  rw [← h.now_eq, ← h.books]
  exact hmoves

/-- Noting something before does not depend on the ledger. -/
theorem Notes.turns {d : Deed} (h : Notes steady d f f')
    (hallows : ∀ l, Books.Allows { f.books with ledger := l } d) (h' : Turns steady f' f'') :
    Turns steady f f'' := by
  obtain ⟨hclock, hproper, l, hshift, hmoves⟩ := h'
  have hledger : f'.ledger = f.ledger := congrArg Books.ledger h.books
  refine ⟨hclock.trans h.clock, hproper, l, hledger ▸ hshift, ?_⟩
  rw [now_congr h.clock, h.books] at hmoves
  exact .head (.note d (hallows l)) hmoves

/-- Placing a task reserves what it asks for, and records that or gives it back. -/
theorem place_spec (h : Proper steady f) (hget : f.store.get id = .ok t)
    (hlive : t.isTerminal = false) (hagent : t.status.agent = none) :
    Ensures (place t) f fun _ f' => Turns steady f f' := by
  unfold place
  refine ensures_get ((schedule_spec t h).bind ?_)
  rintro r f₁ ⟨hclock, hbooks, hproper, l, hstruck, hr⟩
  have hshift : Shifted steady f.ledger l := hstruck.shifted h
  have hstore : f₁.store = f.store := congrArg Books.store hbooks
  have hget₁ : f₁.store.get id = .ok t := hstore ▸ hget
  have hnow : f₁.now = f.now := now_congr hclock
  have hturns {account : Account} {f' : Fleet}
      (hmoves : ReflTransGen (Move steady f.now) { f.books with ledger := l }
        { f.books account with ledger := f₁.ledger })
      (hl : Leads steady f₁ account f' {}) : Turns steady f f' := by
    refine ⟨hl.clock.trans hclock, hl.proper, l, hshift, hmoves.trans ?_⟩
    have haccount : f₁.books account = { f.books account with ledger := f₁.ledger } :=
      congrArg (fun b => { b with account }) hbooks
    rw [← haccount, ← hnow]
    exact hl.moves
  match r with
  | .error (.noCapacity requirement task) =>
      refine (remark_spec _ _ hproper hget₁ hlive).imp fun _ _ hl => hturns ?_ hl
      rw [hr]
  | .error (.ledger e) =>
      refine (remark_spec _ _ hproper hget₁ hlive).imp fun _ _ hl => hturns ?_ hl
      rw [hr]
  | .ok agent =>
      have hreserve : ReflTransGen (Move steady f.now) { f.books with ledger := l }
          { f.books { reserved := [(agent, t.requirement)] } with ledger := f₁.ledger } :=
        .single (.reserve agent t.requirement f₁.ledger hr)
      have hrevision : Revision f₁.now t ({ t with
          status.agent := some agent
          status.resourcesUsed := t.requirement }.transition .scheduled "Scheduled"
            ("scheduled on agent " ++ agent) f.now) := by
        rw [hnow]
        exact .place agent _ hagent
      refine (put_spec hproper hget₁ hlive hrevision).bind fun r f₂ hr => ?_
      match r with
      | some (.ok stored) =>
          obtain ⟨rfl, hget₂, hput⟩ := hr
          -- The task now holds what the pass has answered for until here.
          have hl := hput { reserved := [(agent, t.requirement)] } {} fun _ =>
            Books.permits_of_placement hagent rfl (TaskStatus.agent_transition ..)
              (TaskStatus.resourcesUsed_transition ..) rfl (TaskStatus.execution_transition ..)
          exact (drive_spec hl.proper hget₂ rfl (TaskStatus.agent_transition ..)).imp
            fun _ _ hl₂ => hturns hreserve (hl.trans hl₂)
      | some (.error e) =>
          exact (release_spec t.requirement {} hr.1.proper).bind
            fun _ _ hl => hturns hreserve (hr.1.leads.trans hl)
      | none =>
          exact (release_spec t.requirement {} hr.proper).bind
            fun _ _ hl => hturns hreserve (hr.leads.trans hl)

/-- A task without an agent fails, waits, or is placed. -/
theorem prepare_spec (h : Proper steady f) (hget : f.store.get id = .ok t)
    (hlive : t.isTerminal = false) (hagent : t.status.agent = none) :
    Ensures (prepare t) f fun _ f' => Turns steady f f' := by
  unfold prepare
  refine ensures_get ?_
  cases hvalid : t.validate with
  | error e =>
      have hinvalid : t.validate ≠ .ok () := by
        rw [hvalid]
        nofun
      have hpermits := Books.permits_of_unplaced (b := f.books) hagent
        ((TaskStatus.agent_transition ..).trans hagent) (TaskStatus.execution_transition ..)
        fun hcut => absurd hcut (not_is_cut_short_of_rejection hlive
          ("ValidationError: invalid spec: " ++ e.message) f.now)
      exact (write_spec _ h hget hlive (.reject _ hagent hinvalid) hpermits).imp fun _ _ hl => hl.turns
  | ok =>
      refine (interruptible_spec h.quiet (check_all_spec t.id t.spec.dependencies h)).bind
        fun r f₁ hq => ?_
      have hget₁ : f₁.store.get id = .ok t := hq.get hget
      match r with
      | none => exact hq.leads.turns
      | some (.ok true) =>
          exact (place_spec hq.proper hget₁ hlive hagent).imp fun _ _ ht => hq.turns ht
      | some (.ok false) =>
          exact (remark_spec _ _ hq.proper hget₁ hlive).imp fun _ _ hl => hq.turns hl.turns
      | some (.error e) =>
          exact (remark_spec _ _ hq.proper hget₁ hlive).imp fun _ _ hl => hq.turns hl.turns

/-- Taking a task to its next status leaves nothing on the account. -/
theorem advance_spec (h : Proper steady f) (hget : f.store.get id = .ok t) :
    Ensures (advance t) f fun _ f' => Turns steady f f' := by
  unfold advance
  cases hlive : t.isTerminal with
  | true => exact h.quiet.leads.turns
  | false =>
      cases hrequested : t.cancelRequested with
      | true => exact (cancel_task_spec h hget hlive hrequested).imp fun _ _ hl => hl.turns
      | false =>
          cases hagent : t.status.agent with
          | none => exact prepare_spec h hget hlive hagent
          | some agent => exact (drive_spec h hget hlive hagent).imp fun _ _ hl => hl.turns

/-- A pass is noted first. It starts and ends with an empty account. -/
theorem reconcile_spec (id : TaskId) (h : Proper steady f) :
    Ensures (reconcile id) f fun _ f' =>
      ∃ f₀, Notes steady (.pass id) f f₀ ∧ Turns steady f₀ f' := by
  unfold reconcile
  refine (note_spec (.pass id) h).bind fun _ f₀ hn => ?_
  suffices hbegun : Ensures _ f₀ fun _ f' => Turns steady f₀ f' from
    hbegun.imp fun _ _ ht => ⟨f₀, hn, ht⟩
  refine (interruptible_spec ⟨hn.proper.quiet, fun _ ht => nomatch ht⟩
    (get_task_spec id hn.proper)).bind ?_
  rintro r f₁ ⟨hq, hget⟩
  match r with
  | none => exact hq.leads.turns
  | some (.ok t) =>
      have hget₁ : f₁.store.get id = .ok t := hq.get (hget t rfl)
      exact (advance_spec hq.proper hget₁).imp fun _ _ ht => hq.turns ht
  | some (.error (.notFound key)) => exact hq.leads.turns
  | some (.error (.conflict key)) => exact ensures_get hq.leads.turns
  | some (.error (.unavailable cause)) => exact ensures_get hq.leads.turns

/-- A pass as a whole. -/
theorem pass_spec (id : TaskId) (h : Proper steady f) :
    Ensures (reconcile id) f fun _ f' => Turns steady f f' := by
  refine (reconcile_spec id h).imp ?_
  rintro _ _ ⟨f₀, hbegins, hturns⟩
  exact hbegins.turns (fun _ => .pass id rfl) hturns

/-- A request for cancellation sets the flag of the task, or does nothing. -/
theorem flag_cancelled_spec (id : TaskId) (attempts : Nat) (h : Proper steady f) :
    Ensures (flagCancelled id attempts) f fun _ f' => Leads steady f {} f' {} := by
  induction attempts generalizing f with
  | zero => exact h.quiet.leads
  | succ attempts ih =>
      unfold flagCancelled
      refine (get_task_spec id h).bind ?_
      rintro r f₁ ⟨hq, hget⟩
      match r with
      | none => exact hq.leads
      | some (.error e) => exact hq.leads
      | some (.ok t) =>
          have hget₁ : f₁.store.get id = .ok t := hq.get (hget t rfl)
          dsimp only
          cases hover : t.isTerminal || t.cancelRequested with
          | true => exact hq.leads
          | false =>
              have hlive : t.isTerminal = false := (Bool.or_eq_false_iff.1 hover).1
              refine (put_revision_spec hq.proper hget₁ hlive .flag).bind fun r f₂ hr => ?_
              match r with
              | none => exact (hq.trans hr).leads
              | some (.ok stored) =>
                  exact hq.leads.trans
                    (hr.2.2 {} {} fun _ => Books.permits_of_same hlive rfl rfl)
              | some (.error (.notFound key)) => exact (hq.trans hr.1).leads
              | some (.error (.unavailable cause)) => exact (hq.trans hr.1).leads
              | some (.error (.conflict key)) =>
                  have hleads : Leads steady f {} f₂ {} := (hq.trans hr.1).leads
                  dsimp only
                  cases attempts with
                  | zero => exact hleads
                  | succ attempts => exact (ih hr.1.proper).imp fun _ _ hl => hleads.trans hl

/-- A request to cancel a task leaves nothing on the account. -/
theorem request_cancel_spec (id : TaskId) (h : Proper steady f) :
    Ensures (requestCancel id) f fun _ f' => Leads steady f {} f' {} := by
  unfold requestCancel
  exact (flag_cancelled_spec id cancelAttempts h).bind fun _ _ hl => hl

end Fleet

end TaskFleet
