import TaskFleet.Proofs.Lifecycle.Calls

/-!
# Calls as moves

What a call of the lifecycle leads to is a chain of moves (`Leads`), from one account to another.
The calls to the substrate, the release of a reservation and the writing of a task are each described
so once; what a write needs to know is `Books.Permits`, proved here for each way in which a task can
go on.
-/

namespace TaskFleet

variable {t next : Task}

section Permits

variable {b : Books} {agent handle : String}

/-- Only a task that is over has been cut short. -/
theorem not_is_cut_short (h : next.isTerminal = false) : ¬ next.IsCutShort := by
  rintro (hphase | ⟨hphase, -⟩)
  · rw [Task.isTerminal, hphase] at h
    exact nomatch h
  · rw [Task.isTerminal, hphase] at h
    exact nomatch h

theorem dropped_of_live (h : next.isTerminal = false) : t.dropped next = [] := by
  unfold Task.dropped
  rw [h]
  rfl

namespace Books

/-- A task can go on with what it has. -/
theorem permits_of_same (hlive : next.isTerminal = false) (hholding : next.holding = t.holding)
    (hexecution : next.status.execution = t.status.execution) : b.Permits t next b.account where
  offsets := fun _ _ _ => by rw [hholding]
  stays := fun _ _ _ _ => hholding
  execution := .inl ⟨hexecution, rfl⟩
  ended := by rw [dropped_of_live hlive, List.nil_append]
  stopped := fun h => absurd h (not_is_cut_short hlive)

/-- A task that has no agent can end without one. -/
theorem permits_of_unplaced (hagent : t.status.agent = none) (hnext : next.status.agent = none)
    (hexecution : next.status.execution = t.status.execution)
    (hstopped : next.IsCutShort → ∀ handle ∈ t.status.execution,
      .cancel handle ∈ thisPass b.trail) : b.Permits t next b.account where
  offsets := fun _ _ _ => by rw [holding_of_no_agent hagent, holding_of_no_agent hnext]
  stays := fun _ _ _ _ => by rw [holding_of_no_agent hagent, holding_of_no_agent hnext]
  execution := .inl ⟨hexecution, rfl⟩
  ended := by
    unfold Task.dropped
    rw [hagent]
    simp
  stopped := by rwa [hexecution]

/-- What a task that ends has held and run is left to the pass. -/
theorem permits_of_end (hlive : t.isTerminal = false) (hagent : t.status.agent = some agent)
    (hterminal : next.isTerminal = true) (hexecution : next.status.execution = t.status.execution)
    (hstopped : next.IsCutShort → ∀ handle ∈ t.status.execution,
      .cancel handle ∈ thisPass b.trail) :
    b.Permits t next { b.account with
      reserved := (agent, t.status.resourcesUsed) :: b.account.reserved
      ended := t.status.execution.toList ++ b.account.ended } where
  offsets := by
    intro other _ k
    rw [holding_of_terminal hterminal, holding_of_agent hlive hagent]
    simp
  stays := fun _ _ _ hnext => absurd hterminal (by simp [hnext])
  execution := .inl ⟨hexecution, rfl⟩
  ended := by
    unfold Task.dropped
    rw [hterminal, hagent]
    simp
  stopped := by rwa [hexecution]

/-- A task can be taken from an agent that has left. -/
theorem permits_of_loss (hlive : t.isTerminal = false) (hagent : t.status.agent = some agent)
    (hgone : b.ledger.capacity? agent = none) (hnext : next.isTerminal = false)
    (hnone : next.status.agent = none) (hexecution : next.status.execution = t.status.execution) :
    b.Permits t next b.account where
  offsets := by
    intro other hother k
    have hne : agent ≠ other := fun heq => by
      rw [← heq, hgone] at hother
      exact nomatch hother
    rw [holding_of_agent hlive hagent, holding_of_no_agent hnone]
    simp [hne]
  stays := by
    intro other hother hthere
    rw [hagent] at hother
    cases hother
    rw [hgone] at hthere
    exact nomatch hthere
  execution := .inl ⟨hexecution, rfl⟩
  ended := by rw [dropped_of_live hnext, List.nil_append]
  stopped := fun h => absurd h (not_is_cut_short hnext)

/-- What a pass has reserved for a task is the task's as soon as that is recorded. -/
theorem permits_of_placement {amount : ResourceSet}
    {reserved : List (String × ResourceSet)} (hagent : t.status.agent = none)
    (hnext : next.isTerminal = false) (hplaced : next.status.agent = some agent)
    (hused : next.status.resourcesUsed = amount)
    (hreserved : b.account.reserved = (agent, amount) :: reserved)
    (hexecution : next.status.execution = t.status.execution) :
    b.Permits t next { b.account with reserved } where
  offsets := by
    intro other _ k
    rw [holding_of_no_agent hagent, holding_of_agent hnext hplaced, hreserved, hused]
    simp
  stays := by
    intro other hother
    rw [hagent] at hother
    exact nomatch hother
  execution := .inl ⟨hexecution, rfl⟩
  ended := by rw [dropped_of_live hnext, List.nil_append]
  stopped := fun h => absurd h (not_is_cut_short hnext)

/-- An execution that a pass has started for a task is the task's as soon as that is recorded. -/
theorem permits_of_hand_off {started : List (String × TaskId)} (hnext : next.isTerminal = false)
    (hholding : next.holding = t.holding) (hexecution : t.status.execution = none)
    (hhandle : next.status.execution = some handle)
    (hstarted : b.account.started = (handle, t.id) :: started) :
    b.Permits t next { b.account with started } where
  offsets := fun _ _ _ => by rw [hholding]
  stays := fun _ _ _ _ => hholding
  execution := .inr ⟨hexecution, hnext, handle, hhandle, hstarted⟩
  ended := by rw [dropped_of_live hnext, List.nil_append]
  stopped := fun h => absurd h (not_is_cut_short hnext)

end Books

end Permits

namespace Fleet

open Relation (ReflTransGen)

variable {steady : Prop} {f f' f'' : Fleet} {id : TaskId} {agent : String}
  {account account' account'' : Account}

/-- From the fleet `f` and an account to the fleet `f'` and another account by moves. -/
structure Leads (steady : Prop) (f : Fleet) (account : Account) (f' : Fleet) (account' : Account) :
    Prop where
  clock : f'.clock = f.clock
  proper : Proper steady f'
  moves : ReflTransGen (Move steady f.now) (f.books account) (f'.books account')

theorem Leads.now_eq (h : Leads steady f account f' account') : f'.now = f.now :=
  now_congr h.clock

theorem Leads.trans (h : Leads steady f account f' account')
    (h' : Leads steady f' account' f'' account'') : Leads steady f account f'' account'' :=
  ⟨h'.clock.trans h.clock, h'.proper, h.moves.trans (h.now_eq ▸ h'.moves)⟩

/-- What a program leads to from where others have led. -/
theorem Leads.after {α : Type} {x : FleetM α} (h : Leads steady f account f' account')
    (hx : Ensures x f' fun _ f'' => Leads steady f' account' f'' account'') :
    Ensures x f' fun _ f'' => Leads steady f account f'' account'' :=
  hx.imp fun _ _ hl => h.trans hl

/-- In a run that is not steady only the store counts. -/
theorem leads_of_unsteady (account account' : Account) (hunsteady : ¬ steady)
    (hclock : f'.clock = f.clock) (hstore : f'.store = f.store) (h : Proper steady f') :
    Leads steady f account f' account' :=
  ⟨hclock, h, .single (.upset _ hunsteady hstore)⟩

/-- From fleet to fleet by moves that leave the ledger and the store as they are. -/
structure Acts (steady : Prop) (f : Fleet) (account : Account) (f' : Fleet) (account' : Account) :
    Prop extends Leads steady f account f' account' where
  ledger : f'.ledger = f.ledger
  store : f'.store = f.store

theorem Acts.trans (h : Acts steady f account f' account')
    (h' : Acts steady f' account' f'' account'') : Acts steady f account f'' account'' :=
  ⟨h.toLeads.trans h'.toLeads, h'.ledger.trans h.ledger, h'.store.trans h.store⟩

/-- What was read before a call that left the store alone is still there. -/
theorem Acts.get (h : Acts steady f account f' account') (hget : f.store.get id = .ok t) :
    f'.store.get id = .ok t := by
  rw [h.store]
  exact hget

theorem Acts.revision (h : Acts steady f account f' account') (hrevision : Revision f.now t next) :
    Revision f'.now t next := by
  rw [h.now_eq]
  exact hrevision

theorem Quiet.acts (h : Quiet steady f f') : Acts steady f account f' account where
  clock := h.clock
  proper := h.proper
  moves := by
    have hbooks : f'.books account = f.books account :=
      congrArg (fun b => { b with account }) h.books
    rw [hbooks]
  ledger := h.ledger
  store := h.store

theorem Quiet.leads (h : Quiet steady f f') : Leads steady f account f' account :=
  h.acts.toLeads

theorem Acts.quiet (h : Acts steady f account f' account') (hq : Quiet steady f' f'') :
    Acts steady f account f'' account' :=
  h.trans hq.acts

section Notes

variable {d : Deed}

/-- What was noted, in the books with an account. -/
theorem Notes.books_eq (h : Notes steady d f f') (account : Account) :
    f'.books account = { f.books account with trail := d :: f.trail } :=
  congrArg (fun b => { b with account }) h.books

theorem Notes.trail (h : Notes steady d f f') : f'.trail = d :: f.trail :=
  congrArg Books.trail h.books

/-- What is noted as a move, whatever move it is. -/
theorem Notes.acts (h : Notes steady d f f')
    (hmove : Move steady f.now (f.books account)
      { f.books account' with trail := d :: f.trail }) : Acts steady f account f' account' where
  clock := h.clock
  proper := h.proper
  moves := by
    rw [h.books_eq]
    exact .single hmove
  ledger := congrArg Books.ledger h.books
  store := congrArg Books.store h.books

end Notes

section Substrate

variable {handle : String}

/-- An execution that is started is one that the pass has to answer for. -/
theorem submit_spec (h : Proper steady f) (hget : f.store.get id = .ok t)
    (hlive : t.isTerminal = false) (hagent : t.status.agent = some agent)
    (hexecution : t.status.execution = none)
    (hthere : (f.ledger.capacity? agent).isSome = true) :
    Ensures (submit (.ofTask t agent)) f fun r f' =>
      match r with
      | some (.ok handle) => Acts steady f {} f' { started := [(handle, t.id)] }
      | _ => Acts steady f {} f' {} := by
  have hself : f.store.get t.id = .ok t := TaskStore.get_id_of_get h.sound hget
  have hask : Acts steady f {} { f with
      trail := .ask (.ofTask t agent) f.ledger f.store :: f.trail } {} :=
    Notes.acts ⟨rfl, rfl, { h with }⟩
      (.note _ (.ask t agent h.sound hself hlive hagent hexecution hthere))
  unfold Ensures
  rw [submit_run]
  rcases f.token.meet .submit with ⟨_ | _, token⟩
  · rcases Fault.next f.faults.submit with ⟨_ | e, rest⟩
    · cases hsubmit : f.substrate.submit (.ofTask t agent) with
      | error e => exact hask.quiet (hask.proper.same rfl rfl rfl rfl rfl)
      | ok r =>
          refine hask.trans ⟨⟨rfl, ?_, .single (.start _ r.1 r.2 hsubmit)⟩, rfl, rfl⟩
          exact { h.started hsubmit with }
    · exact hask.quiet (hask.proper.same rfl rfl rfl rfl rfl)
  · exact hask.quiet (hask.proper.same rfl rfl rfl rfl rfl)

/-- Asking what an execution reports changes nothing. -/
theorem poll_spec (h : Proper steady f) (hget : f.store.get id = .ok t)
    (hlive : t.isTerminal = false) (hexecution : t.status.execution = some handle) :
    Ensures (poll handle) f fun r f' =>
      Acts steady f {} f' {} ∧ ∀ report, r = some (.ok report) → report.InRange := by
  have hmem : t ∈ f.store.tasks := TaskStore.mem_tasks_of_get hget
  have hask : Acts steady f {} { f with trail := .poll handle :: f.trail } {} :=
    Notes.acts ⟨rfl, rfl, { h with }⟩ (.note _ (.poll t handle hmem hlive hexecution))
  suffices hacts : Ensures (poll handle) f fun _ f' => Acts steady f {} f' {} from
    ⟨hacts, (poll_proper handle h).2⟩
  unfold Ensures
  rw [poll_run]
  rcases f.token.meet .poll with ⟨_ | _, token⟩
  · rcases Fault.next f.faults.poll with ⟨_ | e, rest⟩
    · exact hask.quiet (hask.proper.same rfl rfl rfl rfl rfl)
    · exact hask.quiet (hask.proper.same rfl rfl rfl rfl rfl)
  · exact hask.quiet (hask.proper.same rfl rfl rfl rfl rfl)

/-- Stopping the execution that a task records. -/
theorem stop_spec (h : Proper steady f) (hget : f.store.get id = .ok t)
    (hlive : t.isTerminal = false) (hexecution : t.status.execution = some handle) :
    Ensures (cancelExecution handle) f fun _ f' =>
      Acts steady f {} f' {} ∧ f'.trail = .cancel handle :: f.trail := by
  have hmem : t ∈ f.store.tasks := TaskStore.mem_tasks_of_get hget
  refine (cancel_execution_spec handle h).imp fun _ f₁ hn => ⟨hn.acts ?_, hn.trail⟩
  exact .note _ (.cancel t handle hmem hlive hexecution)

/-- Stopping an execution whose handle could not be recorded. -/
theorem give_up_spec (handle : String) (id : TaskId) (h : Proper steady f) :
    Ensures (cancelExecution handle) f fun _ f' =>
      Acts steady f { started := [(handle, id)] } f' {} :=
  (cancel_execution_spec handle h).imp fun _ _ hn => hn.acts (.giveUp handle id [] rfl)

theorem forget_execution_spec (handle : String) (account : Account) (h : Proper steady f) :
    Ensures (forgetExecution handle) f fun _ f' =>
      Leads steady f { account with ended := handle :: account.ended } f' account := by
  unfold forgetExecution
  refine (log_spec _ h).bind fun _ f₁ hq => ?_
  refine ensures_modify (ensures_get ?_)
  have hforget : Move steady f₁.now (f₁.books { account with ended := handle :: account.ended })
      { f₁.books account with
        substrate :=
          if (Fault.next f₁.faults.forget).1.isSome then f₁.substrate
          else f₁.substrate.forget handle
        forgets := (Fault.next f₁.faults.forget).2
        trail := .forget handle :: f₁.trail } := .forget handle account.ended rfl
  rcases hnext : Fault.next f₁.faults.forget with ⟨fault, rest⟩
  rw [hnext] at hforget
  cases fault with
  | some e => exact hq.leads.trans ⟨rfl, { hq.proper with }, .single hforget⟩
  | none =>
      refine hq.leads.trans ⟨rfl, ?_, .single hforget⟩
      have hreports : ∀ other report,
          (f₁.substrate.executions.erase handle).find? other = some report → report.InRange := by
        intro other report hfind
        rw [Dict.find?_erase] at hfind
        by_cases hother : other = handle
        · rw [if_pos hother] at hfind
          exact nomatch hfind
        · rw [if_neg hother] at hfind
          exact hq.proper.reports other report hfind
      exact { hq.proper with reports := hreports, starts := hq.proper.starts }

end Substrate

/-- What is released is taken from the account. -/
theorem release_spec (amount : ResourceSet) (account : Account) (h : Proper steady f) :
    Ensures (release agent amount) f fun _ f' =>
      Leads steady f { account with reserved := (agent, amount) :: account.reserved } f'
        account := by
  unfold release
  refine (book_spec (.release agent amount) h).bind ?_
  rintro r f₁ ⟨hclock, hbooks, hproper, hr⟩
  have haccount : f₁.books account = { f.books account with ledger := f₁.ledger } :=
    congrArg (fun b => { b with account }) hbooks
  refine Leads.mk hclock hproper ?_
  show ReflTransGen _ _ (f₁.books account)
  rw [haccount]
  refine .single ?_
  cases r with
  | ok => exact .release agent amount f₁.ledger account.reserved rfl hr
  | error e =>
      obtain ⟨herror, hsame⟩ := hr
      rw [hsame]
      refine .drop agent amount account.reserved rfl ?_
      have hrelease : f.ledger.release agent amount = .error e := herror
      unfold Ledger.release at hrelease
      show f.ledger.capacity? agent = none
      cases hc : f.ledger.capacity? agent with
      | none => rfl
      | some c =>
          rw [hc] at hrelease
          exact nomatch hrelease

section Writing

/-- A store keeps the revisions of the tasks that it has. -/
theorem keeps_of_revision (hsound : f.store.Sound) (hnow : f.now ≤ Text.max64)
    (hget : f.store.get id = .ok t) (hrevision : Revision f.now t next) : f.store.Keeps next := by
  have hkeeps := TaskStore.keeps_of_get hsound hget
  cases hstore : f.store with
  | memory tasks => trivial
  | durable state =>
      rw [hstore] at hkeeps
      exact hrevision.legible hkeeps hnow

/-- What has become of the revision `next` of `t` that was to be written: it is stored, or nothing
has happened. -/
def Recorded (steady : Prop) (f : Fleet) (t next : Task) (r : Option (Except StoreError Task))
    (f' : Fleet) : Prop :=
  match r with
  | none => Quiet steady f f'
  | some (.error e) => Quiet steady f f' ∧ (steady → ∀ key, e ≠ .notFound key)
  | some (.ok stored) => stored = next.bump ∧ f'.store.get stored.id = .ok stored ∧
      ∀ account account', (steady → (f.books account).Permits t next account') →
        Leads steady f account f' account'

theorem put_revision_spec (h : Proper steady f) (hget : f.store.get id = .ok t)
    (hlive : t.isTerminal = false) (hrevision : Revision f.now t next) :
    Ensures (putTask next) f (Recorded steady f t next) := by
  obtain ⟨hid, hversion, -, -⟩ := hrevision.keeps
  have hput := put_task_spec h hget hid hversion (keeps_of_revision h.sound h.now hget hrevision)
  refine hput.imp fun r f₁ hr => ?_
  match r with
  | none => exact hr
  | some (.error e) =>
      refine ⟨hr.1, fun hsteady key => ?_⟩
      obtain ⟨fault, hfault, rfl⟩ := hr.2
      exact h.faults hsteady fault hfault key
  | some (.ok stored) =>
      obtain ⟨rfl, hclock, hbooks, hreplaces, hproper⟩ := hr
      have hself : f.store.get t.id = .ok t := TaskStore.get_id_of_get h.sound hget
      refine ⟨rfl, ?_, fun account account' hpermits => ⟨hclock, hproper, ?_⟩⟩
      · exact hreplaces.found _ (hid ▸ hself)
      · have haccount : f₁.books account' = { f.books account' with
            store := f₁.store, trail := .store next.bump :: f.trail } :=
          congrArg (fun b => { b with account := account' }) hbooks
        rw [haccount]
        exact .single (.write t next f₁.store account' hself hlive hrevision hreplaces hpermits)

theorem put_spec (h : Proper steady f) (hget : f.store.get id = .ok t)
    (hlive : t.isTerminal = false) (hrevision : Revision f.now t next) :
    Ensures (interruptible (putTask next)) f (Recorded steady f t next) :=
  interruptible_spec h.quiet (put_revision_spec h hget hlive hrevision)

/-- A revision with which the account stays as it is. -/
theorem write_spec (outcome : Outcome) (h : Proper steady f) (hget : f.store.get id = .ok t)
    (hlive : t.isTerminal = false) (hrevision : Revision f.now t next)
    (hpermits : (f.books account).Permits t next account) :
    Ensures (write t next outcome) f fun _ f' => Leads steady f account f' account := by
  unfold write
  by_cases hsame : next.status.same t.status = true
  · rw [if_pos hsame]
    exact h.quiet.leads
  · rw [if_neg hsame]
    refine (put_spec h hget hlive hrevision).bind fun r f₁ hr => ?_
    match r with
    | none => exact hr.leads
    | some (.ok stored) => exact hr.2.2 account account fun _ => hpermits
    | some (.error e) => exact ensures_get hr.1.leads

theorem remark_spec (message : String) (outcome : Outcome) (h : Proper steady f)
    (hget : f.store.get id = .ok t) (hlive : t.isTerminal = false) :
    Ensures (write t (t.withMessage message) outcome) f fun _ f' =>
      Leads steady f account f' account :=
  write_spec outcome h hget hlive (.remark message) (Books.permits_of_same hlive rfl rfl)

end Writing

end Fleet

end TaskFleet
