import TaskFleet.Proofs.Ledger.Capacity
import TaskFleet.Proofs.Lifecycle.Restore

/-!
# Runs

What a fleet goes through: tasks are created, passes are made over them, cancellations are requested,
the ledger is rebuilt, and in between everything else may change, the clock, the faults that are due,
the interrupts and the executions included. `Step` is one of these, and `step_spec` says what each
does to the books: it makes moves, or it adds a task that nothing has happened to while others
rebuild the ledger.
-/

namespace TaskFleet.Fleet

open Relation (ReflTransGen)

variable {steady : Prop} {f f' f'' : Fleet}

/-- The same fleet with other records of agents. -/
theorem Proper.same_tasks {store : TaskStore} (h : Proper steady f)
    (hsame : f.store.SameTasks store) : Proper steady { f with store } :=
  { h with sound := (TaskStore.same_tasks_spec hsame).2.2 h.sound }

/-- Whatever is answered, observing changes records of agents, and no task. -/
theorem observe_spec (f : Fleet) (limit : Nat) :
    ∃ store answer, f.observe limit = ({ f with store }, answer) ∧ f.store.SameTasks store := by
  unfold observe
  split
  · exact ⟨f.store, _, rfl, TaskStore.same_tasks_refl _⟩
  · exact ⟨f.store, _, rfl, TaskStore.same_tasks_refl _⟩
  · rename_i staleAfter hosted state _ hstore
    refine ⟨_, _, rfl, ?_⟩
    rw [hstore]
    exact (state.observe_agents_tasks limit f.now staleAfter hosted).symm

/-- The fleet after a call that changes no task, and of the ledger what others change. -/
structure Refreshes (steady : Prop) (f f' : Fleet) : Prop where
  clock : f'.clock = f.clock
  proper : Proper steady f'
  books : f'.books = { f.books with store := f'.store, ledger := f'.ledger }
  store : f.store.SameTasks f'.store
  ledger : Shifted steady f.ledger f'.ledger

/-- What changes nothing that others can see changes no task. -/
theorem Quiet.refreshes (h : Quiet steady f f') : Refreshes steady f f' where
  clock := h.clock
  proper := h.proper
  books := by rw [h.store, h.ledger]; exact h.books
  store := h.store ▸ TaskStore.same_tasks_refl _
  ledger := fun _ => .inl h.ledger

/-- The booking that slips in changes the ledger alone, and is not there in a steady run. -/
theorem book_slip_in_spec (h : Proper steady f) :
    Ensures bookSlipIn f fun _ f' =>
      f'.clock = f.clock ∧ f'.books = { f.books with ledger := f'.ledger } ∧ Proper steady f' ∧
        (steady → f'.ledger = f.ledger) := by
  unfold bookSlipIn
  refine ensures_get ?_
  cases hslip : f.slipIn with
  | none => exact ⟨rfl, rfl, h, fun _ => rfl⟩
  | some b =>
      have hunsteady : ¬ steady := fun hsteady => by
        rw [h.slip hsteady] at hslip
        exact nomatch hslip
      have hcleared : Proper steady { f with slipIn := none } := { h with slip := fun _ => rfl }
      refine ensures_modify ((book_spec b hcleared).bind ?_)
      rintro r f₁ ⟨hclock, hbooks, hproper, -⟩
      exact ⟨hclock, hbooks, { hproper with }, fun hsteady => absurd hsteady hunsteady⟩

/-- Listing the agents changes no task, and in a steady run nothing of the ledger. -/
theorem list_agents_spec (limit : Nat) (h : Proper steady f) :
    Ensures (listAgents limit) f fun _ f' =>
      Refreshes steady f f' ∧ (steady → f'.ledger = f.ledger) := by
  unfold listAgents
  refine (log_spec _ h).bind fun _ f₁ hq => ensures_get ?_
  rcases Fault.next f₁.faults.list with ⟨fault, rest⟩
  have hset : Quiet steady f₁ { f₁ with faults.list := rest } :=
    hq.proper.same rfl rfl rfl rfl rfl
  cases fault with
  | some e => exact ⟨(hq.trans hset).refreshes, fun _ => hq.ledger⟩
  | none =>
      dsimp only
      obtain ⟨store, answer, hobserve, hsame⟩ := observe_spec { f₁ with faults.list := rest } limit
      rw [hobserve]
      -- The heartbeats are noted whatever the listing answers.
      have hnoted : Refreshes steady f { f₁ with faults.list := rest, store } := by
        refine ⟨hq.clock, hset.proper.same_tasks hsame, ?_, ?_, fun _ => .inl hq.ledger⟩
        · show { f₁.books with store } = { f.books with store, ledger := f₁.ledger }
          rw [← hq.books]
          rfl
        · rw [hq.store] at hsame
          exact hsame
      cases answer with
      | error e => exact ⟨hnoted, fun _ => hq.ledger⟩
      | ok observed =>
          refine ensures_set ((book_slip_in_spec hnoted.proper).bind ?_)
          rintro _ f₃ ⟨hclock, hbooks, hproper, hledger⟩
          have hstore : f₃.store = store := congrArg Books.store hbooks
          have hkept (hsteady : steady) : f₃.ledger = f.ledger :=
            (hledger hsteady).trans hq.ledger
          refine ⟨⟨hclock.trans hq.clock, hproper, ?_, hstore ▸ hnoted.store,
            fun hsteady => .inl (hkept hsteady)⟩, hkept⟩
          show f₃.books = { f.books with store := f₃.store, ledger := f₃.ledger }
          rw [hbooks, hnoted.books, hstore]

/-- A resync rebuilds the ledger from what was listed, or leaves it as it is. -/
theorem resync_spec (pageSize : Nat) (h : Proper steady f) :
    Ensures (resync pageSize) f fun _ f' => Refreshes steady f f' := by
  unfold resync
  refine (list_agents_spec pageSize h).bind ?_
  rintro r f₁ ⟨hrefreshes, hledger⟩
  match r with
  | .error e => exact hrefreshes
  | .ok observed =>
      refine ensures_get (ensures_set ?_)
      refine ⟨hrefreshes.clock, { hrefreshes.proper with }, ?_, hrefreshes.store, fun hsteady => ?_⟩
      · exact congrArg (fun b => { b with ledger := f₁.ledger.rebuild observed }) hrefreshes.books
      · rw [← hledger hsteady]
        exact .inr ⟨observed, rfl⟩

/-- A booking is one call to the ledger. -/
theorem book_eq_call (b : Booking) (f : Fleet) (fetched : List (List Observation)) :
    Ensures (book b) f fun _ f' =>
      LedgerState.call ⟨f.ledger, fetched⟩ (.book b) = ⟨f'.ledger, fetched⟩ := by
  unfold book
  refine ensures_get ?_
  unfold LedgerState.call
  cases hbook : f.ledger.book b with
  | error e =>
      simp only [hbook]
      exact rfl
  | ok ledger =>
      simp only [hbook]
      exact rfl

/-- The booking that slips in, if there is one, is one call to the ledger. -/
theorem book_slip_in_eq_calls (f : Fleet) (fetched : List (List Observation)) :
    Ensures bookSlipIn f fun _ f' =>
      (f.slipIn.toList.map LedgerCall.book).foldl LedgerState.call ⟨f.ledger, fetched⟩ =
        ⟨f'.ledger, fetched⟩ := by
  unfold bookSlipIn
  refine ensures_get ?_
  cases f.slipIn with
  | none => exact rfl
  | some b => exact ensures_modify ((book_eq_call b _ fetched).bind fun _ _ h => h)

/-- A resync is a fetch, the booking that slips in, if there is one, and the swap of what was
fetched; a resync whose fetch fails is that fetch alone. -/
theorem resync_eq_calls (pageSize : Nat) (f : Fleet) :
    Ensures (resync pageSize) f fun _ f' => ∃ calls : List LedgerCall,
      ((∃ e, calls = [.fetch (.error e)]) ∨ ∃ observed,
        calls = .fetch (.ok observed) :: (f.slipIn.toList.map .book ++ [.swap 0])) ∧
      calls.foldl LedgerState.call ⟨f.ledger, []⟩ = ⟨f'.ledger, []⟩ := by
  have hlist : Ensures (listAgents pageSize) f fun r f' =>
      (∀ e, r = .error e → f'.ledger = f.ledger) ∧
        ∀ observed, r = .ok observed → (f.slipIn.toList.map LedgerCall.book).foldl
          LedgerState.call ⟨f.ledger, [observed]⟩ = ⟨f'.ledger, [observed]⟩ := by
    unfold listAgents
    refine Ensures.bind (q := fun _ f₁ => f₁.ledger = f.ledger ∧ f₁.slipIn = f.slipIn) ⟨rfl, rfl⟩ ?_
    rintro _ f₁ ⟨hledger, hslip⟩
    refine ensures_get ?_
    rcases Fault.next f₁.faults.list with ⟨fault, rest⟩
    cases fault with
    | some e => exact ⟨fun _ _ => hledger, nofun⟩
    | none =>
        dsimp only
        obtain ⟨store, answer, hobserve, -⟩ :=
          observe_spec { f₁ with faults.list := rest } pageSize
        rw [hobserve]
        cases answer with
        | error e => exact ⟨fun _ _ => hledger, nofun⟩
        | ok listed =>
            refine ensures_set ((book_slip_in_eq_calls _ [listed]).bind ?_)
            intro _ f₃ hcalls
            refine ⟨nofun, fun _ hr => ?_⟩
            cases hr
            rw [← hledger, ← hslip]
            exact hcalls
  unfold resync
  refine hlist.bind ?_
  rintro r f₁ ⟨herror, hok⟩
  cases r with
  | error e =>
      refine ⟨_, .inl ⟨e, rfl⟩, ?_⟩
      rw [← herror e rfl]
      rfl
  | ok observed =>
      refine ensures_get (ensures_set ⟨_, .inr ⟨observed, rfl⟩, ?_⟩)
      rw [List.foldl_cons, List.foldl_append]
      show List.foldl LedgerState.call (List.foldl LedgerState.call ⟨f.ledger, [observed]⟩ _) _ = _
      rw [hok observed rfl]
      rfl

/-- One step of a run. Between the operations everything but the tasks may change (`turn`). A run
that is not steady may also lose its ledger in a `turn` and be restarted. -/
inductive Step (steady : Prop) (f : Fleet) : Fleet → Prop where
  | create (t stored : Task) (store : TaskStore) (key : String)
      (hinitial : t.status = .initial) (hnew : f.store.get t.id = .error (.notFound key))
      (hinsert : f.store.insert t = .ok (store, stored)) : Step steady f { f with store }
  | pass (id : TaskId) : Step steady f ((reconcile id).run f).2
  | cancel (id : TaskId) : Step steady f ((requestCancel id).run f).2
  | resync (pageSize : Nat) : Step steady f ((resync pageSize).run f).2
  | swap (observed : List Observation) :
      Step steady f { f with ledger := (f.ledger.resync observed).1 }
  | turn (f' : Fleet) (hproper : Proper steady f') (hstore : f.store.SameTasks f'.store)
      (hledger : steady → f'.ledger = f.ledger) : Step steady f f'
  | restore (h : Host) (hhost : h.fleet = f) (hrestart : ¬ steady) :
      Step steady f (Daemon.restoreReservations.run.run h).2.fleet

/-- What a step does to the books. -/
inductive Affects (steady : Prop) (f f' : Fleet) : Prop where
  | turns (h : Turns steady f f')
  | keeps (hstore : f.store.Adds f'.store) (hledger : Shifted steady f.ledger f'.ledger)

/-- Every step keeps a fleet proper, and either makes moves, or changes no task, but may add one that
nothing has happened to. -/
theorem step_spec (h : Proper steady f) (hstep : Step steady f f') :
    Proper steady f' ∧ Affects steady f f' := by
  cases hstep with
  | create t stored store key hinitial hnew hinsert =>
      obtain ⟨hsound, hadds⟩ := TaskStore.insert_spec h.sound hinsert hnew hinitial
      exact ⟨{ h with sound := hsound }, .keeps hadds fun _ => .inl rfl⟩
  | pass id =>
      have hturns : Turns steady f ((reconcile id).run f).2 := pass_spec id h
      exact ⟨hturns.proper, .turns hturns⟩
  | cancel id =>
      have hleads : Leads steady f {} ((requestCancel id).run f).2 {} := request_cancel_spec id h
      exact ⟨hleads.proper, .turns hleads.turns⟩
  | resync pageSize =>
      have hrefreshes : Refreshes steady f ((resync pageSize).run f).2 := resync_spec pageSize h
      exact ⟨hrefreshes.proper, .keeps hrefreshes.store.adds hrefreshes.ledger⟩
  | swap observed =>
      exact ⟨{ h with }, .keeps (TaskStore.same_tasks_refl _).adds fun _ => .inr ⟨observed, rfl⟩⟩
  | turn _ hproper hstore hledger =>
      exact ⟨hproper, .keeps hstore.adds fun hsteady => .inl (hledger hsteady)⟩
  | restore host hhost hrestart =>
      subst hhost
      have hfalse : steady = False := eq_false hrestart
      subst hfalse
      have hrestores : Daemon.Restores host (Daemon.restoreReservations.run.run host).2 :=
        Daemon.restore_spec h
      exact ⟨hrestores.proper, .turns hrestores.turns⟩

/-- Every state of a run that starts from a proper fleet is proper. -/
theorem proper_of_run (h : Proper steady f) (hrun : ReflTransGen (Step steady) f f') :
    Proper steady f' := by
  induction hrun with
  | refl => exact h
  | tail _ hstep ih => exact (step_spec ih hstep).1

section Fresh

/-- A fleet with an empty ledger and without tasks. -/
def fresh (now : Nat) (launch : Launch) : Fleet where
  clock := ⟨now, 0⟩
  ledger := .empty
  store := .memory .empty
  source := .fixed []
  substrate := { launch }
  strategy := .firstFeasible
  delays := .default

/-- A new fleet is proper. -/
theorem proper_fresh {now : Nat} {launch : Launch} (hnow : now ≤ Text.max64)
    (hstarts : ∀ {request course}, launch.start request = .ok course → course.first.InRange) :
    Proper steady (fresh now launch) where
  sound := fun _ _ h => nomatch h
  now := by
    show ((now : Int) + ((0 / 1000 : Nat) : Int)).toNat ≤ Text.max64
    omega
  reports := fun _ _ h => nomatch h
  starts := fun _ _ => hstarts
  faults := fun _ _ h => nomatch h
  slip := fun _ => rfl
  rival := fun _ _ h => nomatch h

/-- An agent of one processor. -/
def oneProcessor : Observation :=
  ⟨"a1", true, .ofList [(.cpu, .ofMillis 1000)], .empty⟩

/-- A task that takes half a processor and at most a quarter of a minute. -/
def halfProcessor : Task :=
  .new ⟨"n", "t"⟩ { (default : TaskSpec) with
    image := "busybox"
    resources := ⟨.ofList [(.cpu, .ofMillis 500)], ∅⟩
    timeout := .ofSecs 15 } 1000

/-- A substrate on which every execution runs on. -/
def runsOn : Launch where
  stem := "exec-"
  start := fun _ => .ok ⟨{ state := .running, attempts := 1 }, none⟩
  forgetful := false

/-- An execution that runs on reports numbers in their range. -/
theorem in_range_runs_on {request : ExecutionRequest} {course : Course}
    (h : runsOn.start request = .ok course) : course.first.InRange := by
  cases h
  exact ⟨by decide, fun c hc => nomatch hc⟩

/-- A fleet with an agent and a task, and no pass made yet. -/
def submitted : Fleet :=
  { fresh 1000 runsOn with
    ledger := (Ledger.empty.resync [oneProcessor]).1
    store := .memory (Dict.empty.insert halfProcessor.id halfProcessor.bump) }

/-- The fleet with its one agent and its one task is proper. -/
theorem proper_submitted : Proper steady submitted := by
  have hfresh : Proper steady (fresh 1000 runsOn) := proper_fresh (by decide) in_range_runs_on
  have hlisted := (step_spec hfresh (.swap [oneProcessor])).1
  exact (step_spec hlisted (.create halfProcessor halfProcessor.bump _ _ rfl rfl rfl)).1

/-- The same fleet after a pass. -/
def placed : Fleet := ((reconcile halfProcessor.id).run submitted).2

end Fresh

end TaskFleet.Fleet
