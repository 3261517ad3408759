import TaskFleet.Proofs.Lifecycle.Moves

/-!
# What the calls of the lifecycle do

`Ensures x f q` says that running `x` on the fleet `f` ends with a result and a fleet that satisfy
`q`; programs are taken apart by `Ensures.bind`. Each call of the lifecycle is described once, under
whatever faults and interrupts are due: most are `Quiet`, which is to say that they leave the clock
and the books as they are. A fleet is `Proper` if its store is sound and its numbers are in the range
of their types; every call keeps it so.
-/

namespace TaskFleet

namespace Fleet

/-- Running `x` on `f` ends with a result and a fleet that satisfy `q`. -/
def Ensures {α : Type} (x : FleetM α) (f : Fleet) (q : α → Fleet → Prop) : Prop :=
  q (x.run f).1 (x.run f).2

section Ensures

variable {α β : Type} {x : FleetM α} {f : Fleet} {q r : α → Fleet → Prop}

/-- What a program ensures is there for the program after it. -/
theorem Ensures.bind {g : α → FleetM β} {p : β → Fleet → Prop} (h : Ensures x f q)
    (hg : ∀ a f', q a f' → Ensures (g a) f' p) : Ensures (x >>= g) f p :=
  hg _ _ h

/-- What is ensured may be weakened. -/
theorem Ensures.imp (h : Ensures x f q) (hqr : ∀ a f', q a f' → r a f') : Ensures x f r :=
  hqr _ _ h

/-- A look at the fleet changes nothing. -/
theorem ensures_get {g : Fleet → FleetM α} (h : Ensures (g f) f q) : Ensures (get >>= g) f q := h

/-- What follows is run on the fleet that was set. -/
theorem ensures_set {f' : Fleet} {g : PUnit → FleetM α} (h : Ensures (g ⟨⟩) f' q) :
    Ensures (set f' >>= g) f q := h

/-- What follows is run on the changed fleet. -/
theorem ensures_modify {h : Fleet → Fleet} {g : PUnit → FleetM α} (hg : Ensures (g ⟨⟩) (h f) q) :
    Ensures (modify h >>= g) f q := hg

end Ensures

/-- A fleet whose store is sound and whose numbers are in the range of their types. In a `steady`
run, moreover, no write misses a task that is there, and nobody else books anything. -/
structure Proper (steady : Prop) (f : Fleet) : Prop where
  sound : f.store.Sound
  now : f.now ≤ Text.max64
  reports : ∀ handle report, f.substrate.executions.find? handle = some report → report.InRange
  starts : ∀ request course, f.substrate.launch.start request = .ok course → course.first.InRange
  faults : steady → ∀ fault ∈ f.faults.put, ∀ key, fault.error ≠ .notFound key
  slip : steady → f.slipIn = none
  rival : steady → ∀ b, f.rival ≠ some (.book b)

/-- The books of a fleet, with what a pass answers for. -/
def books (f : Fleet) (account : Account := {}) : Books :=
  ⟨f.store, f.ledger, f.substrate, f.faults.forget, f.trail, account⟩

/-- The fleet after a call that leaves the clock, the books and the rival as they are. -/
structure Quiet (steady : Prop) (f f' : Fleet) : Prop where
  clock : f'.clock = f.clock
  books : f'.books = f.books
  rival : f'.rival = f.rival
  proper : Proper steady f'

variable {steady : Prop} {f f' f'' : Fleet}

/-- Nothing is changed where nothing is done. -/
theorem Proper.quiet (h : Proper steady f) : Quiet steady f f := ⟨rfl, rfl, rfl, h⟩

/-- What changes nothing may be done one after the other. -/
theorem Quiet.trans (h : Quiet steady f f') (h' : Quiet steady f' f'') : Quiet steady f f'' :=
  ⟨h'.clock.trans h.clock, h'.books.trans h.books, h'.rival.trans h.rival, h'.proper⟩

/-- What changes nothing that others can see leaves the store alone. -/
theorem Quiet.store (h : Quiet steady f f') : f'.store = f.store :=
  congrArg Books.store h.books

/-- What changes nothing that others can see leaves the ledger alone. -/
theorem Quiet.ledger (h : Quiet steady f f') : f'.ledger = f.ledger :=
  congrArg Books.ledger h.books

/-- The second that a fleet shows depends on its clock alone. -/
theorem now_congr (h : f'.clock = f.clock) : f'.now = f.now := by
  unfold Fleet.now
  rw [h]

/-- What changes nothing that others can see leaves the clock alone. -/
theorem Quiet.now_eq (h : Quiet steady f f') : f'.now = f.now := now_congr h.clock

/-- What was read before a call that left the store alone is still there. -/
theorem Quiet.get {id : TaskId} {t : Task} (h : Quiet steady f f')
    (hget : f.store.get id = .ok t) : f'.store.get id = .ok t := by
  rw [h.store]
  exact hget

/-- A fault that is left in a queue was in it before, up to when it is due. -/
theorem mem_of_mem_rest {ε : Type} {faults rest : List (Fault ε)} {struck : Option ε}
    {fault : Fault ε} (h : Fault.next faults = (struck, rest)) (hfault : fault ∈ rest) :
    ∃ before ∈ faults, before.error = fault.error := by
  match faults with
  | [] =>
      cases h
      exact nomatch hfault
  | ⟨0, e⟩ :: later =>
      cases h
      exact ⟨fault, List.mem_cons_of_mem _ hfault, rfl⟩
  | ⟨n + 1, e⟩ :: later =>
      cases h
      rcases List.mem_cons.1 hfault with rfl | hfault
      · exact ⟨⟨n + 1, e⟩, List.mem_cons_self, rfl⟩
      · exact ⟨fault, List.mem_cons_of_mem _ hfault, rfl⟩

/-- A fault that strikes was in the queue. -/
theorem mem_of_struck {ε : Type} {faults rest : List (Fault ε)} {e : ε}
    (h : Fault.next faults = (some e, rest)) : ∃ fault ∈ faults, fault.error = e := by
  match faults with
  | [] => exact nomatch h
  | ⟨0, e'⟩ :: later =>
      cases h
      exact ⟨⟨0, e⟩, List.mem_cons_self, rfl⟩
  | ⟨n + 1, e'⟩ :: later => exact nomatch h

/-- A change of nothing that a proper fleet depends on. -/
theorem Proper.same (h : Proper steady f) (hclock : f'.clock = f.clock)
    (hbooks : f'.books = f.books) (hput : f'.faults.put = f.faults.put)
    (hslip : f'.slipIn = f.slipIn) (hrival : f'.rival = f.rival) : Quiet steady f f' := by
  have hstore : f'.store = f.store := congrArg Books.store hbooks
  have hsubstrate : f'.substrate = f.substrate := congrArg Books.substrate hbooks
  refine ⟨hclock, hbooks, hrival, ?_⟩
  refine ⟨hstore ▸ h.sound, ?_, hsubstrate ▸ h.reports, hsubstrate ▸ h.starts, hput ▸ h.faults,
    hslip ▸ h.slip, hrival ▸ h.rival⟩
  rw [now_congr hclock]
  exact h.now

/-- Recording an event changes nothing that others can see. -/
theorem log_spec (e : Event) (h : Proper steady f) :
    Ensures (log e) f fun _ f' => Quiet steady f f' :=
  h.same rfl rfl rfl rfl rfl

/-- A call is made unless the token has fired. -/
theorem interruptible_cases {α : Type} {call : FleetM (Option α)} {q : Option α → Fleet → Prop}
    (hfired : f.token.fired = true → q none f) (hcall : Ensures call f q) :
    Ensures (interruptible call) f q := by
  unfold interruptible
  refine ensures_get ?_
  split
  · rename_i hstruck
    exact hfired hstruck
  · exact hcall

/-- A call that is not made leaves everything as it is. -/
theorem interruptible_spec {α : Type} {call : FleetM (Option α)} {q : Option α → Fleet → Prop}
    (hnone : q none f) (hcall : Ensures call f q) : Ensures (interruptible call) f q :=
  interruptible_cases (fun _ => hnone) hcall

section Runs

/-- The token meets a call before anything else happens. -/
theorem meet_first {α : Type} {q : α → Fleet → Prop} {call : Call} {k : Bool → FleetM α}
    (h : Ensures (k (f.token.meet call).1) { f with token := (f.token.meet call).2 } q) :
    Ensures (meet call >>= k) f q := h

/-- What reading a task comes to. -/
theorem get_task_run (id : TaskId) (f : Fleet) :
    (getTask id).run f =
      match f.token.meet .get, Fault.next f.faults.get with
      | (true, token), _ => (none, { f with token })
      | (false, token), (some e, rest) =>
        (some (.error e), { f with token, faults.get := rest })
      | (false, token), (none, rest) =>
        (some (f.store.get id), { f with token, faults.get := rest }) := by
  show Ensures (getTask id) f fun r f' => (r, f') = _
  refine meet_first ?_
  rcases f.token.meet .get with ⟨_ | _, token⟩
  · refine ensures_get ?_
    dsimp only
    rcases Fault.next f.faults.get with ⟨_ | e, rest⟩
    · exact rfl
    · exact rfl
  · exact rfl

/-- What writing a task comes to. -/
theorem put_task_run (next : Task) (f : Fleet) :
    (putTask next).run f =
      match f.token.meet .put, Fault.next f.faults.put, f.store.put next with
      | (true, token), _, _ => (none, { f with token })
      | (false, token), (some e, rest), _ =>
        (some (.error e), { f with token, faults.put := rest })
      | (false, token), (none, rest), .error e =>
        (some (.error e), { f with token, faults.put := rest })
      | (false, token), (none, rest), .ok (store, stored) =>
        (some (.ok stored),
          { f with token, faults.put := rest, store, trail := .store stored :: f.trail }) := by
  show Ensures (putTask next) f fun r f' => (r, f') = _
  refine meet_first ?_
  rcases f.token.meet .put with ⟨_ | _, token⟩
  · refine ensures_get ?_
    dsimp only
    rcases Fault.next f.faults.put with ⟨_ | e, rest⟩
    · dsimp only
      cases f.store.put next with
      | ok r => exact rfl
      | error e => exact rfl
    · exact rfl
  · exact rfl

/-- What a request to start an execution comes to. -/
theorem submit_run (request : ExecutionRequest) (f : Fleet) :
    (submit request).run f =
      let asked := .ask request f.ledger f.store :: f.trail
      match f.token.meet .submit, Fault.next f.faults.submit, f.substrate.submit request with
      | (true, token), _, _ => (none, { f with token, trail := asked })
      | (false, token), (some e, rest), _ =>
        (some (.error e), { f with token, faults.submit := rest, trail := asked })
      | (false, token), (none, rest), .error e =>
        (some (.error e), { f with token, faults.submit := rest, trail := asked })
      | (false, token), (none, rest), .ok (substrate, handle) =>
        (some (.ok handle), { f with
          token
          faults.submit := rest
          substrate
          events := .submitted handle request.task request.agent :: f.events
          trail := .start handle request.task :: asked }) := by
  show Ensures (submit request) f fun r f' => (r, f') = _
  refine ensures_get (ensures_modify (meet_first ?_))
  dsimp only
  rcases f.token.meet .submit with ⟨_ | _, token⟩
  · refine ensures_get ?_
    dsimp only
    rcases Fault.next f.faults.submit with ⟨_ | e, rest⟩
    · dsimp only
      cases f.substrate.submit request with
      | ok r => exact rfl
      | error e => exact rfl
    · exact rfl
  · exact rfl

/-- What asking for a report comes to. -/
theorem poll_run (handle : String) (f : Fleet) :
    (poll handle).run f =
      let asked := .poll handle :: f.trail
      match f.token.meet .poll, Fault.next f.faults.poll with
      | (true, token), _ => (none, { f with token, trail := asked })
      | (false, token), (some e, rest) => (some (.error e), { f with
          token, faults.poll := rest, events := .polled handle :: f.events, trail := asked })
      | (false, token), (none, rest) => (some (f.substrate.poll handle), { f with
          token, faults.poll := rest, events := .polled handle :: f.events, trail := asked }) := by
  show Ensures (poll handle) f fun r f' => (r, f') = _
  refine ensures_modify (meet_first ?_)
  dsimp only
  rcases f.token.meet .poll with ⟨_ | _, token⟩
  · refine ensures_modify (ensures_get ?_)
    dsimp only
    rcases Fault.next f.faults.poll with ⟨_ | e, rest⟩
    · exact rfl
    · exact rfl
  · exact rfl

end Runs

/-- A task that is read is the one that the store holds. -/
theorem get_task_spec (id : TaskId) (h : Proper steady f) :
    Ensures (getTask id) f fun r f' =>
      Quiet steady f f' ∧ ∀ t, r = some (.ok t) → f.store.get id = .ok t := by
  unfold Ensures
  rw [get_task_run]
  rcases f.token.meet .get with ⟨_ | _, token⟩
  · rcases Fault.next f.faults.get with ⟨_ | e, rest⟩
    · exact ⟨h.same rfl rfl rfl rfl rfl, fun t ht => Option.some.inj ht⟩
    · exact ⟨h.same rfl rfl rfl rfl rfl, fun t ht => nomatch ht⟩
  · exact ⟨h.same rfl rfl rfl rfl rfl, fun t ht => nomatch ht⟩

/-- What becomes of a write in place of a task that was just read: it is stored, or nothing has
happened. It fails only by a fault. -/
theorem put_task_spec {id : TaskId} {t next : Task} (h : Proper steady f)
    (hget : f.store.get id = .ok t) (hid : next.id = t.id) (hversion : next.version = t.version)
    (hkeeps : f.store.Keeps next) :
    Ensures (putTask next) f fun r f' =>
      match r with
      | none => Quiet steady f f'
      | some (.error e) => Quiet steady f f' ∧ ∃ fault ∈ f.faults.put, fault.error = e
      | some (.ok stored) => stored = next.bump ∧ f'.clock = f.clock ∧
          f'.books = { f.books with
            store := f'.store, trail := .store next.bump :: f.trail } ∧
          f.store.Replaces t next.bump f'.store ∧ Proper steady f' := by
  obtain ⟨s', hput, hsound, hreplaces⟩ := TaskStore.put_of_get h.sound hget hid hversion hkeeps
  unfold Ensures
  rw [put_task_run, hput]
  rcases f.token.meet .put with ⟨_ | _, token⟩
  · rcases hnext : Fault.next f.faults.put with ⟨fault, rest⟩
    have hrest : steady → ∀ fault ∈ rest, ∀ key, fault.error ≠ .notFound key := by
      intro hsteady fault hfault key
      obtain ⟨before, hbefore, herror⟩ := mem_of_mem_rest hnext hfault
      rw [← herror]
      exact h.faults hsteady before hbefore key
    cases fault with
    | some e => exact ⟨⟨rfl, rfl, rfl, { h with faults := hrest }⟩, mem_of_struck hnext⟩
    | none => exact ⟨rfl, rfl, rfl, hreplaces, { h with faults := hrest, sound := hsound }⟩
  · exact h.same rfl rfl rfl rfl rfl

/-- The fleet after something was noted, and no more has happened. -/
structure Notes (steady : Prop) (d : Deed) (f f' : Fleet) : Prop where
  clock : f'.clock = f.clock
  books : f'.books = { f.books with trail := d :: f.trail }
  proper : Proper steady f'

/-- Noting a deed adds it to the trail. -/
theorem note_spec (d : Deed) (h : Proper steady f) :
    Ensures (note d) f fun _ f' => Notes steady d f f' :=
  ⟨rfl, rfl, { h with }⟩

/-- Stopping an execution is noted, and changes nothing else. -/
theorem cancel_execution_spec (handle : String) (h : Proper steady f) :
    Ensures (cancelExecution handle) f fun _ f' => Notes steady (.cancel handle) f f' :=
  ⟨rfl, rfl, { h with }⟩

/-- An execution that is started reports what is in range. -/
theorem Proper.started {request : ExecutionRequest} {substrate : Substrate} {handle : String}
    (h : Proper steady f) (hsubmit : f.substrate.submit request = .ok (substrate, handle)) :
    Proper steady { f with substrate } := by
  obtain ⟨course, hstart, hpair⟩ := map_eq_ok_iff.1 hsubmit
  cases hpair
  refine { h with reports := fun other report hfind => ?_, starts := h.starts }
  rw [Dict.find?_insert] at hfind
  by_cases hother : other = f.substrate.handle (f.substrate.issued + 1)
  · rw [if_pos hother] at hfind
    cases hfind
    exact h.starts _ course hstart
  · rw [if_neg hother] at hfind
    exact h.reports other report hfind

/-- A report that is polled is in range. -/
theorem Proper.polled {handle : String} {report : ExecutionStatus} (h : Proper steady f)
    (hpoll : f.substrate.poll handle = .ok report) : report.InRange := by
  unfold Substrate.poll at hpoll
  split at hpoll
  · rename_i found hfind
    cases hpoll
    exact h.reports handle _ hfind
  · split at hpoll
    · cases hpoll
      exact ⟨Nat.zero_le _, by simp⟩
    · exact nomatch hpoll

/-- A request to the substrate leaves a proper fleet proper. -/
theorem submit_proper (request : ExecutionRequest) (h : Proper steady f) :
    Ensures (submit request) f fun _ f' => Proper steady f' := by
  unfold Ensures
  rw [submit_run]
  rcases f.token.meet .submit with ⟨_ | _, token⟩
  · rcases Fault.next f.faults.submit with ⟨_ | e, rest⟩
    · cases hsubmit : f.substrate.submit request with
      | error e => exact { h with }
      | ok r => exact { h.started hsubmit with }
    · exact { h with }
  · exact { h with }

/-- An observation leaves a proper fleet proper, and what it reports is in range. -/
theorem poll_proper (handle : String) (h : Proper steady f) :
    Ensures (poll handle) f fun r f' =>
      Proper steady f' ∧ ∀ report, r = some (.ok report) → report.InRange := by
  unfold Ensures
  rw [poll_run]
  rcases f.token.meet .poll with ⟨_ | _, token⟩
  · rcases Fault.next f.faults.poll with ⟨_ | e, rest⟩
    · exact ⟨{ h with }, fun report hr => h.polled (Option.some.inj hr)⟩
    · exact ⟨{ h with }, fun report hr => nomatch hr⟩
  · exact ⟨{ h with }, fun report hr => nomatch hr⟩

/-- Reading a phase changes nothing that others can see. -/
theorem get_phase_spec (id : TaskId) (h : Proper steady f) :
    Ensures (getPhase id) f fun _ f' => Quiet steady f f' :=
  (get_task_spec id h).bind fun _ _ hq => hq.1

/-- Looking the dependencies up changes nothing, whichever of them decides. -/
theorem check_all_spec (id : TaskId) (dependencies : List Dependency) (h : Proper steady f) :
    Ensures (checkAll id dependencies) f fun _ f' => Quiet steady f f' := by
  induction dependencies generalizing f with
  | nil => exact h.quiet
  | cons d rest ih =>
      unfold checkAll
      refine (get_phase_spec (id.resolve d.task) h).bind fun r f₁ hq => ?_
      cases r with
      | none => exact hq
      | some phase =>
          cases phase with
          | error e => exact hq
          | ok phase =>
              by_cases hphase : phase = d.phase
              · simp only [hphase, if_pos]
                exact (ih hq.proper).imp fun _ _ hq₂ => hq.trans hq₂
              · simp only [hphase, if_false]
                exact hq

/-- What a booking answers and what it leaves. -/
theorem book_ensures (b : Booking) (f : Fleet) :
    Ensures (book b) f fun r f' =>
      match f.ledger.book b with
      | .ok ledger => r = .ok () ∧ f' = { f with ledger, signals := f.signals + 1 }
      | .error e => r = .error e ∧ f' = f := by
  unfold book
  refine ensures_get ?_
  cases f.ledger.book b with
  | error e => exact ⟨rfl, rfl⟩
  | ok ledger => exact ⟨rfl, rfl⟩

/-- A booking is made in the ledger, or refused and nothing has happened. -/
theorem book_spec (b : Booking) (h : Proper steady f) :
    Ensures (book b) f fun r f' =>
      f'.clock = f.clock ∧ f'.books = { f.books with ledger := f'.ledger } ∧ Proper steady f' ∧
        match r with
        | .ok () => f.ledger.book b = .ok f'.ledger
        | .error e => f.ledger.book b = .error e ∧ f'.ledger = f.ledger := by
  unfold book
  refine ensures_get ?_
  cases hbook : f.ledger.book b with
  | error e => exact ⟨rfl, rfl, h, rfl, rfl⟩
  | ok ledger =>
      refine ensures_set ⟨rfl, rfl, ?_, rfl⟩
      exact { h with }

/-- The ledger after what others may have done to it while a pass was at work. -/
def Shifted (steady : Prop) (l l' : Ledger) : Prop :=
  steady → l' = l ∨ ∃ observed, l' = l.rebuild observed

/-- The ledger that the rival of a fleet leaves behind, if it strikes. -/
def Struck (f : Fleet) (l : Ledger) : Prop :=
  l = f.ledger ∨ ∃ rival, f.rival = some rival ∧ l = (rival.apply f.ledger).1

/-- What a rival makes of the ledger is a change that a run allows. -/
theorem Struck.shifted {l : Ledger} (hstruck : f.Struck l) (h : Proper steady f) :
    Shifted steady f.ledger l := by
  intro hsteady
  obtain rfl | ⟨rival, hrival, rfl⟩ := hstruck
  · exact .inl rfl
  · cases rival with
    | book b => exact absurd hrival (h.rival hsteady b)
    | resync observed => exact .inr ⟨observed, rfl⟩

/-- The rival strikes once at most. -/
theorem struck_of_rival (f : Fleet) : f.Struck (f.ledger.afterRivals f.rival.toList).1 := by
  cases hrival : f.rival with
  | none => exact .inl rfl
  | some rival => exact .inr ⟨rival, hrival, rfl⟩

/-- A placement reserves what the task requires after the rival may have struck, or leaves the
ledger. -/
theorem schedule_ledger (f : Fleet) (t : Task) (score : Snapshot → Score) :
    ∃ l, f.Struck l ∧
      match (f.ledger.schedule t score f.rival.toList).result with
      | .ok agent =>
          l.reserve agent t.requirement = .ok (f.ledger.schedule t score f.rival.toList).ledger
      | .error _ => (f.ledger.schedule t score f.rival.toList).ledger = l := by
  unfold Ledger.schedule
  cases rankAgents score (f.ledger.feasible t.requirement) with
  | nil => exact ⟨f.ledger, .inl rfl, rfl⟩
  | cons best rest =>
      refine ⟨_, struck_of_rival f, ?_⟩
      rcases f.ledger.afterRivals f.rival.toList with ⟨l, changes⟩
      dsimp only
      cases hreserve : l.reserve best.agent.name t.requirement with
      | error e => rfl
      | ok l' => exact hreserve

/-- A task is placed by one reservation on the ledger that the rival leaves behind, or else nothing
is reserved. -/
theorem schedule_spec (t : Task) (h : Proper steady f) :
    Ensures (schedule t) f fun r f' =>
      f'.clock = f.clock ∧ f'.books = { f.books with ledger := f'.ledger } ∧ Proper steady f' ∧
        ∃ l, f.Struck l ∧
          match r with
          | .ok agent => l.reserve agent t.requirement = .ok f'.ledger
          | .error _ => f'.ledger = l := by
  have hledger := schedule_ledger f t (f.strategy.score t)
  generalize hresult : f.ledger.schedule t (f.strategy.score t) f.rival.toList = placed at hledger
  have hwith : Ensures (scheduleWith f.strategy f.rival t) f fun r f' =>
      r = placed.result ∧
        f' = { f with ledger := placed.ledger, signals := f.signals + placed.changes } := by
    rw [← hresult]
    exact ⟨rfl, rfl⟩
  unfold schedule
  refine ensures_get (hwith.bind ?_)
  rintro _ _ ⟨rfl, rfl⟩
  cases !(f.ledger.feasible t.requirement).isEmpty with
  | false => exact ⟨rfl, rfl, { h with }, hledger⟩
  | true => exact ⟨rfl, rfl, { h with rival := fun _ _ => nofun }, hledger⟩

end Fleet

end TaskFleet
