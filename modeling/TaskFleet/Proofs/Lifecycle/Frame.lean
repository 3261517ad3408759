import TaskFleet.Proofs.Lifecycle.Passes

/-!
# What a pass leaves alone

A pass is about the task that it finds. Whatever it asks of the substrate, stores or reserves is for
that task, and every other task is stored afterwards as it was before: `advance_confined`. The
statements follow the code as those on moves do; a move does not tell for whom it is made.
-/

namespace TaskFleet

open Relation (ReflTransGen)

/-- Whether something can be done for a task, after what was done earlier. An execution is stopped
that the task records, or that was started for it. -/
def Deed.Concerns (u : Task) (earlier : List Deed) : Deed → Prop
  | .pass _ => False
  | .store t => t.id = u.id
  | .ask request _ _ => request.task = u.id
  | .start _ id => id = u.id
  | .poll handle | .forget handle => u.status.execution = some handle
  | .cancel handle => u.status.execution = some handle ∨ .start handle u.id ∈ earlier

/-- Whether a booking can be made for a task: what it requires is reserved or given back, or what it
holds is given back. -/
def Booking.Serves (u : Task) : Booking → Prop
  | .reserve _ amount => amount = u.requirement
  | .release _ amount => amount = u.requirement ∨ amount = u.status.resourcesUsed

/-- One more thing was done for a task. -/
def Task.Did (u : Task) (trail trail' : List Deed) : Prop :=
  ∃ d : Deed, d.Concerns u trail ∧ trail' = d :: trail

/-- One more booking was made for a task. -/
def Task.Booked (u : Task) (l l' : Ledger) : Prop :=
  ∃ b : Booking, b.Serves u ∧ l.book b = .ok l'

namespace Fleet

variable {f f' f'' : Fleet} {id : TaskId} {u v next : Task} {agent handle : String}

/-- From fleet to fleet by what is done for one task. -/
structure Confined (u : Task) (f f' : Fleet) : Prop where
  clock : f'.clock = f.clock
  proper : Proper False f'
  deeds : ReflTransGen u.Did f.trail f'.trail
  bookings : ReflTransGen u.Booked f.ledger f'.ledger
  others : ∀ id t, f.store.get id = .ok t → t.id ≠ u.id → f'.store.get id = .ok t

/-- From fleet to fleet by what is done for one task without storing it. -/
structure Asks (u : Task) (f f' : Fleet) : Prop extends Confined u f f' where
  store : f'.store = f.store

/-- What is ensured twice of one run. -/
theorem Ensures.and {α : Type} {x : FleetM α} {q r : α → Fleet → Prop} (hq : Ensures x f q)
    (hr : Ensures x f r) : Ensures x f fun a f' => q a f' ∧ r a f' :=
  ⟨hq, hr⟩

section Confined

/-- The clock stands still while something is done for a task. -/
theorem Confined.now_eq (h : Confined u f f') : f'.now = f.now := now_congr h.clock

/-- What is done for one task, and then more of it, is done for that task. -/
theorem Confined.trans (h : Confined u f f') (h' : Confined u f' f'') : Confined u f f'' where
  clock := h'.clock.trans h.clock
  proper := h'.proper
  deeds := h.deeds.trans h'.deeds
  bookings := h.bookings.trans h'.bookings
  others := fun id t hget hid => h'.others id t (h.others id t hget hid) hid

/-- What a program does for a task from where others have led. -/
theorem Confined.after {α : Type} {x : FleetM α} (h : Confined u f f')
    (hx : Ensures x f' fun _ f'' => Confined u f' f'') :
    Ensures x f' fun _ f'' => Confined u f f'' :=
  hx.imp fun _ _ hc => h.trans hc

/-- Nothing of what was done is undone. -/
theorem Confined.mem_trail {d : Deed} (h : Confined u f f') (hd : d ∈ f.trail) : d ∈ f'.trail := by
  have hdeeds := h.deeds
  generalize f'.trail = trail at hdeeds ⊢
  induction hdeeds with
  | refl => exact hd
  | tail _ hnotes ih =>
      obtain ⟨d', -, rfl⟩ := hnotes
      exact List.mem_cons_of_mem _ ih

/-- What is done for a task that was just placed is done for the task that it was before. -/
theorem Confined.of_placed (h : Confined v f f') (hid : v.id = u.id)
    (hexecution : v.status.execution = u.status.execution)
    (hrequires : v.requirement = u.requirement) (hused : v.status.resourcesUsed = u.requirement) :
    Confined u f f' where
  clock := h.clock
  proper := h.proper
  deeds := by
    refine ReflTransGen.mono ?_ _ _ h.deeds
    rintro trail _ ⟨d, hd, rfl⟩
    refine ⟨d, ?_, rfl⟩
    cases d with
    | pass => exact hd.elim
    | store | ask | start | poll | cancel | forget =>
        simpa only [Deed.Concerns, hid, hexecution] using hd
  bookings := by
    refine ReflTransGen.mono ?_ _ _ h.bookings
    rintro l l' ⟨b, hb, hbook⟩
    refine ⟨b, ?_, hbook⟩
    cases b with
    | reserve => exact hb.trans hrequires
    | release => exact .inl (hb.elim (·.trans hrequires) (·.trans hused))
  others := fun id t hget hne => h.others id t hget (hid ▸ hne)

/-- A task that is only asked about is still in the store. -/
theorem Asks.get (h : Asks u f f') (hget : f.store.get id = .ok u) : f'.store.get id = .ok u := by
  rw [h.store]
  exact hget

/-- A revision of a task is one still after calls that store nothing. -/
theorem Asks.revision (h : Asks u f f') (hrevision : Revision f.now u next) :
    Revision f'.now u next := by
  rw [h.now_eq]
  exact hrevision

/-- What leaves the ledger and the store alone is for a task if all that is noted is. -/
theorem Acts.asks {account account' : Account} (h : Acts False f account f' account')
    (hdeeds : ReflTransGen u.Did f.trail f'.trail) : Asks u f f' where
  clock := h.clock
  proper := h.proper
  deeds := hdeeds
  bookings := by rw [h.ledger]
  others := fun _ _ hget _ => h.store ▸ hget
  store := h.store

/-- What changes nothing that others can see is done for any task. -/
theorem Quiet.asks (h : Quiet False f f') : Asks u f f' := by
  have hacts : Acts False f {} f' {} := h.acts
  refine hacts.asks ?_
  rw [show f'.trail = f.trail from congrArg Books.trail h.books]

/-- A deed that concerns a task is done for it. -/
theorem Notes.asks {d : Deed} (h : Notes False d f f') (hd : d.Concerns u f.trail) :
    Asks u f f' where
  clock := h.clock
  proper := h.proper
  deeds := .single ⟨d, hd, h.trail⟩
  bookings := by rw [show f'.ledger = f.ledger from congrArg Books.ledger h.books]
  others := fun _ _ hget _ => (show f'.store = f.store from congrArg Books.store h.books) ▸ hget
  store := congrArg Books.store h.books

end Confined

section Calls

/-- What is noted of a request to the substrate: that it was made, and the start of the execution if
there is one. -/
theorem submit_trail (request : ExecutionRequest) (f : Fleet) :
    Ensures (submit request) f fun r f' =>
      match r with
      | some (.ok handle) => f'.trail =
          .start handle request.task :: .ask request f.ledger f.store :: f.trail
      | _ => f'.trail = .ask request f.ledger f.store :: f.trail := by
  unfold Ensures
  rw [submit_run]
  rcases f.token.meet .submit with ⟨_ | _, token⟩
  · rcases Fault.next f.faults.submit with ⟨_ | e, rest⟩
    · cases f.substrate.submit request with
      | error e => exact rfl
      | ok r => exact rfl
    · exact rfl
  · exact rfl

/-- A request made of a task that is placed and has no execution is for that task, and so is the
execution that it starts. -/
theorem submit_asks (h : Proper False f) (hget : f.store.get id = .ok u)
    (hlive : u.isTerminal = false) (hagent : u.status.agent = some agent)
    (hexecution : u.status.execution = none)
    (hthere : (f.ledger.capacity? agent).isSome = true) :
    Ensures (submit (.ofTask u agent)) f fun r f' =>
      Asks u f f' ∧ ∀ handle, r = some (.ok handle) → .start handle u.id ∈ f'.trail := by
  have hask : u.Did f.trail (.ask (.ofTask u agent) f.ledger f.store :: f.trail) :=
    ⟨.ask (.ofTask u agent) f.ledger f.store, rfl, rfl⟩
  refine ((submit_spec h hget hlive hagent hexecution hthere).and
    (submit_trail (.ofTask u agent) f)).imp ?_
  rintro r f₁ ⟨hacts, htrail⟩
  match r with
  | none => exact ⟨hacts.asks (htrail ▸ .single hask), nofun⟩
  | some (.error e) => exact ⟨hacts.asks (htrail ▸ .single hask), nofun⟩
  | some (.ok handle) =>
      have hstart : u.Did _ f₁.trail := ⟨.start handle u.id, rfl, htrail⟩
      refine ⟨hacts.asks (.tail (.single hask) hstart), fun other hother => ?_⟩
      cases hother
      rw [htrail]
      exact List.mem_cons_self

/-- An observation is noted, whatever comes of it. -/
theorem poll_trail (handle : String) (f : Fleet) :
    Ensures (poll handle) f fun _ f' => f'.trail = .poll handle :: f.trail := by
  unfold Ensures
  rw [poll_run]
  rcases f.token.meet .poll with ⟨_ | _, token⟩
  · rcases Fault.next f.faults.poll with ⟨_ | e, rest⟩
    · exact rfl
    · exact rfl
  · exact rfl

/-- The execution that a task records is observed for that task. -/
theorem poll_asks (h : Proper False f) (hget : f.store.get id = .ok u)
    (hlive : u.isTerminal = false) (hexecution : u.status.execution = some handle) :
    Ensures (poll handle) f fun r f' =>
      Asks u f f' ∧ ∀ report, r = some (.ok report) → report.InRange := by
  refine ((poll_spec h hget hlive hexecution).and (poll_trail handle f)).imp ?_
  rintro r f₁ ⟨⟨hacts, hreport⟩, htrail⟩
  exact ⟨hacts.asks (.single ⟨.poll handle, hexecution, htrail⟩), hreport⟩

/-- An execution is dropped, unless that fails. -/
theorem forget_execution_books (handle : String) (f : Fleet) :
    Ensures (forgetExecution handle) f fun _ f' => f'.books = { f.books with
      substrate := if (Fault.next f.faults.forget).1.isSome then f.substrate
        else f.substrate.forget handle
      forgets := (Fault.next f.faults.forget).2
      trail := .forget handle :: f.trail } := by
  unfold forgetExecution
  refine ensures_modify (ensures_modify (ensures_get ?_))
  dsimp only
  rcases Fault.next f.faults.forget with ⟨fault, rest⟩
  cases fault with
  | some e => exact rfl
  | none => exact rfl

/-- The execution that a task records is dropped for that task. -/
theorem forget_execution_asks (h : Proper False f) (hexecution : u.status.execution = some handle) :
    Ensures (forgetExecution handle) f fun _ f' => Asks u f f' := by
  refine ((forget_execution_spec handle {} h).and (forget_execution_books handle f)).imp ?_
  rintro _ f₁ ⟨hleads, hbooks⟩
  refine Acts.asks ⟨hleads, congrArg Books.ledger hbooks, congrArg Books.store hbooks⟩ ?_
  exact .single ⟨.forget handle, hexecution, congrArg Books.trail hbooks⟩

/-- What a task holds is given back for that task. -/
theorem release_asks {amount : ResourceSet} (h : Proper False f)
    (hserves : Booking.Serves u (.release agent amount)) :
    Ensures (release agent amount) f fun _ f' => Asks u f f' := by
  unfold release
  refine (book_spec (.release agent amount) h).bind ?_
  rintro r f₁ ⟨hclock, hbooks, hproper, hr⟩
  have hstore : f₁.store = f.store := congrArg Books.store hbooks
  have htrail : f₁.trail = f.trail := congrArg Books.trail hbooks
  refine ⟨⟨hclock, hproper, htrail ▸ .refl, ?_, fun _ _ hget _ => hstore ▸ hget⟩, hstore⟩
  cases r with
  | ok => exact .single ⟨_, hserves, hr⟩
  | error e => exact hr.2 ▸ .refl

/-- A task is placed on the ledger that the rival leaves behind. -/
theorem schedule_asks (h : Proper False f) :
    Ensures (schedule u) f fun _ f' => ∃ l, f.Struck l ∧ Asks u { f with ledger := l } f' := by
  refine (schedule_spec u h).imp ?_
  rintro r f₁ ⟨hclock, hbooks, hproper, l, hstruck, hr⟩
  have hstore : f₁.store = f.store := congrArg Books.store hbooks
  have htrail : f₁.trail = f.trail := congrArg Books.trail hbooks
  refine ⟨l, hstruck, ⟨hclock, hproper, htrail ▸ .refl, ?_, ?_⟩, hstore⟩
  · cases r with
    | ok agent => exact .single ⟨.reserve agent u.requirement, rfl, hr⟩
    | error e => exact hr ▸ .refl
  · exact fun _ _ hget _ => hstore ▸ hget

/-- What is written in place of a task changes no other. -/
theorem put_task_confined (h : Proper False f) (hget : f.store.get id = .ok u)
    (hrevision : Revision f.now u next) :
    Ensures (putTask next) f fun r f' => Confined u f f' ∧ ∀ stored, r = some (.ok stored) →
      stored = next.bump ∧ f'.store.get stored.id = .ok stored := by
  obtain ⟨hid, hversion, -, -⟩ := hrevision.keeps
  have hkeeps := keeps_of_revision h.sound h.now hget hrevision
  refine (put_task_spec h hget hid hversion hkeeps).imp fun r f₁ hr => ?_
  match r with
  | none => exact ⟨hr.asks.toConfined, fun _ hstored => nomatch hstored⟩
  | some (.error e) => exact ⟨hr.1.asks.toConfined, fun _ hstored => nomatch hstored⟩
  | some (.ok stored) =>
      obtain ⟨rfl, hclock, hbooks, hreplaces, hproper⟩ := hr
      have hself : f.store.get next.id = .ok u := by
        rw [hid]
        exact TaskStore.get_id_of_get h.sound hget
      refine ⟨⟨hclock, hproper, ?_, ?_, fun other t hother hne => ?_⟩, fun stored hstored => ?_⟩
      · exact .single ⟨.store next.bump, hid, congrArg Books.trail hbooks⟩
      · rw [show f₁.ledger = f.ledger from congrArg Books.ledger hbooks]
      · have hapart : f.store.get other ≠ .ok u := fun hu =>
          hne (congrArg Task.id (Except.ok.inj (hother.symm.trans hu)))
        exact (hreplaces.others other hapart).trans hother
      · cases hstored
        exact ⟨rfl, hreplaces.found next.id hself⟩

/-- A write of a task changes no other, and what it says was stored is in the store. -/
theorem put_confined (h : Proper False f) (hget : f.store.get id = .ok u)
    (hrevision : Revision f.now u next) :
    Ensures (interruptible (putTask next)) f fun r f' => Confined u f f' ∧
      ∀ stored, r = some (.ok stored) →
        stored = next.bump ∧ f'.store.get stored.id = .ok stored :=
  interruptible_spec ⟨h.quiet.asks.toConfined, fun _ hstored => nomatch hstored⟩
    (put_task_confined h hget hrevision)

end Calls

section Passes

/-- The next status of a task is written for that task. -/
theorem write_confined (outcome : Outcome) (h : Proper False f) (hget : f.store.get id = .ok u)
    (hrevision : Revision f.now u next) :
    Ensures (write u next outcome) f fun _ f' => Confined u f f' := by
  unfold write
  by_cases hsame : next.status.same u.status = true
  · rw [if_pos hsame]
    exact h.quiet.asks.toConfined
  · rw [if_neg hsame]
    refine (put_confined h hget hrevision).bind ?_
    rintro r f₁ ⟨hconfined, -⟩
    match r with
    | none => exact hconfined
    | some (.ok stored) => exact hconfined
    | some (.error e) => exact ensures_get hconfined

/-- What a task holds is given back for that task. -/
theorem settle_confined (h : Proper False f) :
    Ensures (settle u agent) f fun _ f' => Confined u f f' := by
  unfold settle
  refine (release_asks (u := u) h (.inr rfl)).bind fun _ f₁ ha => ?_
  cases hexecution : u.status.execution with
  | none => exact ha.toConfined
  | some handle =>
      exact ha.after ((forget_execution_asks ha.proper hexecution).imp fun _ _ ha => ha.toConfined)

/-- The end of a task is written, and what it held given back, for that task. -/
theorem finish_confined (h : Proper False f) (hget : f.store.get id = .ok u)
    (hrevision : Revision f.now u next) :
    Ensures (finish u next agent) f fun _ f' => Confined u f f' := by
  unfold finish
  refine (put_confined h hget hrevision).bind ?_
  rintro r f₁ ⟨hconfined, -⟩
  have hsettled : Ensures (settle u agent) f₁ fun _ f' => Confined u f f' :=
    hconfined.after (settle_confined hconfined.proper)
  match r with
  | none => exact hconfined
  | some (.ok stored) => exact hsettled.bind fun _ _ hc => hc
  | some (.error (.notFound key)) => exact hsettled.bind fun _ _ hc => hc
  | some (.error (.conflict key)) => exact ensures_get hconfined
  | some (.error (.unavailable cause)) => exact ensures_get hconfined

/-- A task is cancelled without anything being done for another. -/
theorem cancel_task_confined (h : Proper False f) (hget : f.store.get id = .ok u)
    (hrequested : u.cancelRequested = true) :
    Ensures (cancelTask u) f fun _ f' => Confined u f f' := by
  refine cancel_task_stages (p := fun f₁ => Asks u f f₁) ?_ ?_ ?_ ?_
  · exact fun _ => h.quiet.asks
  · intro handle hexecution
    exact (cancel_execution_spec handle h).imp fun _ _ hn => hn.asks (.inl hexecution)
  · exact fun _ _ ha _ => ha.after (finish_confined ha.proper (ha.get hget) (.cancel _ hrequested))
  · exact fun _ ha _ => ha.after (write_confined _ ha.proper (ha.get hget) (.cancel _ hrequested))

/-- A task is handed off without anything being done for another. -/
theorem hand_off_confined (h : Proper False f) (hget : f.store.get id = .ok u)
    (hlive : u.isTerminal = false) (hagent : u.status.agent = some agent)
    (hexecution : u.status.execution = none) :
    Ensures (handOff u agent) f fun _ f' => Confined u f f' := by
  unfold handOff
  refine ensures_get ?_
  cases hgone : f.ledger.capacity? agent with
  | none =>
      exact (write_confined _ h hget (.lose agent _ hagent hexecution)).imp fun _ _ hc => hc
  | some c =>
      have hthere : (f.ledger.capacity? agent).isSome = true := by rw [hgone]; rfl
      refine (interruptible_spec ⟨h.quiet.asks, nofun⟩
        (submit_asks h hget hlive hagent hexecution hthere)).bind ?_
      rintro r f₁ ⟨ha, hstarted⟩
      match r with
      | none => exact ha.toConfined
      | some (.error e) =>
          exact ha.after (write_confined _ ha.proper (ha.get hget) (.remark _))
      | some (.ok handle) =>
          have hrevision := ha.revision (.handOff agent handle
            ("execution " ++ handle ++ " submitted to agent " ++ agent) hagent hexecution)
          refine (put_confined ha.proper (ha.get hget) hrevision).bind ?_
          rintro r f₂ ⟨hput, -⟩
          -- No task has recorded the handle, so it is the start that ties it to this one.
          have hgiveUp : Ensures (cancelExecution handle) f₂ fun _ f' => Confined u f f' := by
            have hstart : .start handle u.id ∈ f₂.trail := hput.mem_trail (hstarted handle rfl)
            exact (ha.trans hput).after ((cancel_execution_spec handle hput.proper).imp
              fun _ _ hn => (hn.asks (.inr hstart)).toConfined)
          match r with
          | none => exact hgiveUp.bind fun _ _ hc => hc
          | some (.error e) => exact hgiveUp.bind fun _ _ hc => hc
          | some (.ok stored) => exact ha.trans hput

/-- A task that has an execution is looked after without anything being done for another. -/
theorem watch_confined (h : Proper False f) (hget : f.store.get id = .ok u)
    (hlive : u.isTerminal = false) (hagent : u.status.agent = some agent)
    (hexecution : u.status.execution = some handle) :
    Ensures (watch u agent handle) f fun _ f' => Confined u f f' := by
  unfold watch
  refine ensures_get ?_
  cases (u.deadline?.map fun deadline => decide (deadline ≤ f.now)).getD false with
  | true =>
      refine (cancel_execution_spec handle h).bind fun _ f₁ hn => ?_
      have ha : Asks u f f₁ := hn.asks (.inl hexecution)
      have hrevision := ha.revision (.expire agent handle (timeoutMessage u) hagent hexecution)
      exact ha.after (finish_confined ha.proper (ha.get hget) hrevision)
  | false =>
      refine (interruptible_spec ⟨h.quiet.asks, nofun⟩ (poll_asks h hget hlive hexecution)).bind ?_
      rintro r f₁ ⟨ha, hreport⟩
      match r with
      | none => exact ha.toConfined
      | some (.error e) => exact ha.after (write_confined _ ha.proper (ha.get hget) (.remark _))
      | some (.ok report) =>
          have hrevision := ha.revision
            (.observe agent handle report hagent hexecution (hreport report rfl))
          dsimp only
          cases Task.isTerminal { u with status := deriveStatus u report f.now } with
          | true => exact ha.after (finish_confined ha.proper (ha.get hget) hrevision)
          | false => exact ha.after (write_confined _ ha.proper (ha.get hget) hrevision)

/-- A task that has an agent is looked after without anything being done for another. -/
theorem drive_confined (h : Proper False f) (hget : f.store.get id = .ok u)
    (hlive : u.isTerminal = false) (hagent : u.status.agent = some agent) :
    Ensures (drive u agent) f fun _ f' => Confined u f f' := by
  unfold drive
  cases hexecution : u.status.execution with
  | some handle => exact watch_confined h hget hlive hagent hexecution
  | none => exact hand_off_confined h hget hlive hagent hexecution

/-- From fleet to fleet by what is done for one task, after the rival may have struck. -/
def Tends (u : Task) (f f' : Fleet) : Prop :=
  ∃ l, f.Struck l ∧ Confined u { f with ledger := l } f'

/-- The rival need not have struck. -/
theorem Confined.tends (h : Confined u f f') : Tends u f f' := ⟨f.ledger, .inl rfl, h⟩

/-- A task is placed without anything being done for another, the rival apart. -/
theorem place_confined (h : Proper False f) (hget : f.store.get id = .ok u)
    (hagent : u.status.agent = none) :
    Ensures (place u) f fun _ f' => Tends u f f' := by
  unfold place
  refine ensures_get ((schedule_asks h).bind ?_)
  rintro r f₁ ⟨l, hstruck, ha⟩
  have hget₁ : f₁.store.get id = .ok u := ha.get hget
  match r with
  | .error (.noCapacity requirement task) =>
      exact (ha.after (write_confined _ ha.proper hget₁ (.remark _))).imp
        fun _ _ hc => ⟨l, hstruck, hc⟩
  | .error (.ledger e) =>
      exact (ha.after (write_confined _ ha.proper hget₁ (.remark _))).imp
        fun _ _ hc => ⟨l, hstruck, hc⟩
  | .ok agent =>
      have hrevision := ha.revision (.place agent ("scheduled on agent " ++ agent) hagent)
      refine (put_confined ha.proper hget₁ hrevision).bind ?_
      rintro r f₂ ⟨hput, hstored⟩
      have hreleased : Ensures (release agent u.requirement) f₂ fun _ f' => Tends u f f' :=
        ((ha.trans hput).after ((release_asks hput.proper (.inl rfl)).imp
          fun _ _ ha => ha.toConfined)).imp fun _ _ hc => ⟨l, hstruck, hc⟩
      match r with
      | none => exact hreleased.bind fun _ _ ht => ht
      | some (.error e) => exact hreleased.bind fun _ _ ht => ht
      | some (.ok stored) =>
          -- What is looked after from here on is the placed task, so it is led back to `u`.
          obtain ⟨rfl, hget₂⟩ := hstored stored rfl
          refine (drive_confined hput.proper hget₂ rfl (TaskStatus.agent_transition ..)).imp ?_
          intro _ f₃ hdriven
          refine ⟨l, hstruck, (ha.trans hput).trans (hdriven.of_placed rfl ?_ rfl ?_)⟩
          · exact TaskStatus.execution_transition ..
          · exact TaskStatus.resourcesUsed_transition ..

/-- What changes nothing that others can see may come before. -/
theorem Quiet.tends (h : Quiet False f f') (h' : Tends u f' f'') : Tends u f f'' := by
  obtain ⟨l, hstruck, hc⟩ := h'
  have htrail : f'.trail = f.trail := congrArg Books.trail h.books
  refine ⟨l, ?_, hc.clock.trans h.clock, hc.proper, htrail ▸ hc.deeds, hc.bookings, ?_⟩
  · unfold Struck at hstruck ⊢
    rwa [← h.ledger, ← h.rival]
  · exact fun other t hget => hc.others other t (h.get hget)

/-- A task without an agent is checked and placed without anything being done for another, the
rival apart. -/
theorem prepare_confined (h : Proper False f) (hget : f.store.get id = .ok u)
    (hagent : u.status.agent = none) :
    Ensures (prepare u) f fun _ f' => Tends u f f' := by
  unfold prepare
  refine ensures_get ?_
  cases hvalid : u.validate with
  | error e =>
      have hinvalid : u.validate ≠ .ok () := by
        rw [hvalid]
        nofun
      exact (write_confined _ h hget (.reject _ hagent hinvalid)).imp fun _ _ hc => hc.tends
  | ok =>
      refine (interruptible_spec h.quiet (check_all_spec u.id u.spec.dependencies h)).bind
        fun r f₁ hq => ?_
      have hget₁ : f₁.store.get id = .ok u := hq.get hget
      have hremark (message : String) (outcome : Outcome) :
          Ensures (write u (u.withMessage message) outcome) f₁ fun _ f' => Tends u f f' :=
        (write_confined outcome hq.proper hget₁ (.remark message)).imp
          fun _ _ hc => hq.tends hc.tends
      match r with
      | none => exact hq.asks.tends
      | some (.ok true) =>
          exact (place_confined hq.proper hget₁ hagent).imp fun _ _ ht => hq.tends ht
      | some (.ok false) => exact hremark _ _
      | some (.error e) => exact hremark _ _

/-- What a pass does from where it has found a task is done for that task, or by the rival, and
leaves the others as they are. -/
theorem advance_confined (h : Proper False f) (hget : f.store.get id = .ok u) :
    Ensures (advance u) f fun _ f' => Tends u f f' := by
  unfold advance
  cases hlive : u.isTerminal with
  | true => exact h.quiet.asks.tends
  | false =>
      cases hrequested : u.cancelRequested with
      | true => exact (cancel_task_confined h hget hrequested).imp fun _ _ hc => hc.tends
      | false =>
          cases hagent : u.status.agent with
          | none => exact prepare_confined h hget hagent
          | some agent => exact (drive_confined h hget hlive hagent).imp fun _ _ hc => hc.tends

end Passes

end Fleet

end TaskFleet
