import TaskFleet.Proofs.Lifecycle.Runs
import TaskFleet.Proofs.Store.Mirrors

/-!
# Two fleets over one table

Two fleets that differ only in where they keep their tasks, `Twin`: one in memory, the other in a
database that mirrors it. `Together` says that a program gives the same answer on both and leaves
twins behind. Most calls do not look at the tasks at all (`Blind`); reading and writing them is
described once, and the functions of a pass follow their code.
-/

namespace TaskFleet

/-- What the lifecycle makes of a task that a database keeps as it is, the database keeps as well. -/
theorem Task.Storable.revise {now : Nat} {t next : Task} (h : t.Storable)
    (hrevision : Revision now t next) (hnow : now ≤ Text.max64) : next.Storable where
  plain := by
    rw [hrevision.keeps.1]
    exact h.plain
  legible := hrevision.legible h.legible hnow

namespace Fleet

variable {α β : Type} {ids : List TaskId} {f g : Fleet}

section Blind

/-- A program that neither reads nor writes tasks: over another store it gives the same answer and
the same fleet, up to the store and what is noted. -/
def Blind (x : FleetM α) (f : Fleet) : Prop :=
  ∀ store trail, ∃ trail', x.run { f with store, trail } =
    ((x.run f).1, { (x.run f).2 with store, trail := trail' })

/-- Programs that do not look at the tasks can be run one after the other. -/
theorem Blind.bind {x : FleetM α} {k : α → FleetM β} (hx : Blind x f)
    (hk : ∀ a f', x.run f = (a, f') → Blind (k a) f') : Blind (x >>= k) f := by
  intro store trail
  obtain ⟨trail₁, hx⟩ := hx store trail
  obtain ⟨trail₂, hk⟩ := hk _ _ rfl store trail₁
  refine ⟨trail₂, ?_⟩
  rw [StateT.run_bind, hx]
  exact hk

/-- Giving an answer takes no look at the tasks. -/
theorem blind_pure (a : α) : Blind (pure a) f := fun _ trail => ⟨trail, rfl⟩

/-- A look at what is not about tasks. -/
theorem blind_get {k : Fleet → FleetM α} (hk : ∀ store trail, k { f with store, trail } = k f)
    (h : Blind (k f) f) : Blind (get >>= k) f := by
  intro store trail
  show ∃ trail', (k { f with store, trail }).run { f with store, trail } = _
  rw [hk store trail]
  exact h store trail

/-- A change of what is not about tasks. -/
theorem blind_change {k : Fleet → FleetM α}
    (h : ∀ store trail, ∃ trail', (k { f with store, trail }).run { f with store, trail } =
      (((k f).run f).1, { ((k f).run f).2 with store, trail := trail' })) :
    Blind (get >>= k) f := h

/-- Recording an event takes no look at the tasks. -/
theorem log_blind (e : Event) : Blind (log e) f := fun _ trail => ⟨trail, rfl⟩

/-- Noting a deed takes no look at the tasks. -/
theorem note_blind (d : Deed) : Blind (note d) f := fun _ trail => ⟨d :: trail, rfl⟩

/-- A booking depends on the ledger alone. -/
theorem book_blind (b : Booking) : Blind (book b) f := by
  refine blind_change fun store trail => ⟨trail, ?_⟩
  dsimp only
  cases f.ledger.book b with
  | ok ledger => rfl
  | error e => rfl

/-- A reservation is given back without a look at the tasks. -/
theorem release_blind (agent : String) (amount : ResourceSet) : Blind (release agent amount) f :=
  (book_blind _).bind fun _ _ _ => blind_pure _

/-- A task is placed by what the ledger holds, whatever other tasks there are. -/
theorem schedule_blind (t : Task) : Blind (schedule t) f := by
  refine blind_change fun store trail => ⟨trail, ?_⟩
  dsimp only
  cases !(f.ledger.feasible t.requirement).isEmpty with
  | true => rfl
  | false => rfl

/-- An execution is stopped without a look at the tasks. -/
theorem cancel_execution_blind (handle : String) : Blind (cancelExecution handle) f :=
  (log_blind _).bind fun _ _ _ => (note_blind _).bind fun _ _ _ => fun _ trail => ⟨trail, rfl⟩

/-- An execution is dropped without a look at the tasks. -/
theorem forget_execution_blind (handle : String) : Blind (forgetExecution handle) f := by
  refine (log_blind _).bind fun _ f₁ _ => (note_blind _).bind fun _ f₂ _ => ?_
  refine blind_change fun store trail => ⟨trail, ?_⟩
  dsimp only
  rcases Fault.next f₂.faults.forget with ⟨fault, rest⟩
  cases fault with
  | some e => rfl
  | none => rfl

/-- An execution is observed without a look at the tasks. -/
theorem poll_blind (handle : String) : Blind (poll handle) f := by
  intro store trail
  rw [poll_run, poll_run]
  dsimp only
  rcases f.token.meet .poll with ⟨_ | _, token⟩
  · rcases Fault.next f.faults.poll with ⟨_ | e, rest⟩
    · exact ⟨_, rfl⟩
    · exact ⟨_, rfl⟩
  · exact ⟨_, rfl⟩

/-- An execution is started for a request, without a look at the tasks. -/
theorem submit_blind (request : ExecutionRequest) : Blind (submit request) f := by
  intro store trail
  rw [submit_run, submit_run]
  dsimp only
  rcases f.token.meet .submit with ⟨_ | _, token⟩
  · rcases Fault.next f.faults.submit with ⟨_ | e, rest⟩
    · cases f.substrate.submit request with
      | ok r => exact ⟨_, rfl⟩
      | error e => exact ⟨_, rfl⟩
    · exact ⟨_, rfl⟩
  · exact ⟨_, rfl⟩

/-- The booking that slips in is made without a look at the tasks. -/
theorem book_slip_in_blind : Blind bookSlipIn f := by
  refine blind_get (fun _ _ => rfl) ?_
  cases f.slipIn with
  | none => exact blind_pure ()
  | some b =>
      have hclear : Blind (modify fun f : Fleet => { f with slipIn := none }) f :=
        fun _ trail => ⟨trail, rfl⟩
      exact hclear.bind fun _ _ _ => (book_blind b).bind fun _ _ _ => log_blind _

/-- A fixed list of agents is listed without a look at the store. -/
theorem list_agents_blind (agents : List Observation) (limit : Nat) :
    Blind (listAgents limit) { f with source := .fixed agents } := by
  refine (log_blind _).bind fun _ f₁ hrun => ?_
  obtain rfl : { f with source := .fixed agents, events := .listed limit :: f.events } = f₁ :=
    congrArg Prod.snd hrun
  refine blind_change fun store trail => ?_
  dsimp only
  rcases Fault.next f.faults.list with ⟨fault, rest⟩
  cases fault with
  | some e => exact ⟨trail, rfl⟩
  | none =>
      let listed : Fleet :=
        { f with source := .fixed agents, events := .listed limit :: f.events, faults.list := rest }
      have hlisted :
          Blind (do bookSlipIn; return Except.ok (ε := String) (agents.take limit)) listed :=
        book_slip_in_blind.bind fun _ _ _ => blind_pure _
      exact hlisted store trail

/-- The ledger is rebuilt from a fixed list of agents without a look at the store. -/
theorem resync_blind (agents : List Observation) (limit : Nat) :
    Blind (resync limit) { f with source := .fixed agents } := by
  refine (list_agents_blind agents limit).bind fun r f₁ _ => ?_
  cases r with
  | error e => exact blind_pure _
  | ok observed => exact fun _ trail => ⟨trail, rfl⟩

end Blind

/-- Two fleets that differ in where they keep their tasks, and in what they note of it. Only tasks of
some ids are kept. -/
inductive Twin (ids : List TaskId) (f : Fleet) : Fleet → Prop
  | intro (store : TaskStore) (trail : List Deed) (proper : Proper False f)
      (stores : f.store.Mirrors store) (known : ∀ id t, f.store.get id = .ok t → id ∈ ids) :
      Twin ids f { f with store, trail }

/-- The first of two twins is proper. -/
theorem Twin.proper (ht : Twin ids f g) : Proper False f := by
  cases ht with
  | intro _ _ proper => exact proper

/-- Two runs that give the same answer and leave twins. -/
structure Agree (ids : List TaskId) (r r' : α × Fleet) : Prop where
  answer : r'.1 = r.1
  twin : Twin ids r.2 r'.2

/-- The runs of `x` on two fleets agree. -/
def Together (ids : List TaskId) (x : FleetM α) (f g : Fleet) : Prop :=
  Agree ids (x.run f) (x.run g)

section Together

variable {x : FleetM α}

/-- Twins give the same answer to a program that does nothing else. -/
theorem together_pure (ht : Twin ids f g) (a : α) : Together ids (pure a) f g := ⟨rfl, ht⟩

/-- The second program is run on the twins that the first one leaves, with what is known of them. -/
theorem Together.bind_of {k : α → FleetM β} {q : α → Fleet → Prop} (h : Together ids x f g)
    (hx : Ensures x f q)
    (hk : ∀ a f' g', q a f' → Twin ids f' g' → Together ids (k a) f' g') :
    Together ids (x >>= k) f g := by
  have hrest : Together ids (k (x.run f).1) (x.run f).2 (x.run g).2 := hk _ _ _ hx h.twin
  show Agree ids ((k (x.run f).1).run (x.run f).2) ((k (x.run g).1).run (x.run g).2)
  rw [h.answer]
  exact hrest

/-- Two programs that agree on twins agree one after the other. -/
theorem Together.bind {k : α → FleetM β} (h : Together ids x f g)
    (hk : ∀ a f' g', Twin ids f' g' → Together ids (k a) f' g') : Together ids (x >>= k) f g :=
  h.bind_of (q := fun _ _ => True) trivial fun a f' g' _ ht => hk a f' g' ht

/-- A look at what is not about tasks. -/
theorem together_get {k : Fleet → FleetM α} (ht : Twin ids f g)
    (hk : ∀ store trail, k { f with store, trail } = k f) (h : Together ids (k f) f g) :
    Together ids (get >>= k) f g := by
  cases ht with
  | intro store trail =>
      show Agree ids ((k f).run f) ((k { f with store, trail }).run { f with store, trail })
      rw [hk store trail]
      exact h

/-- A program that does not look at the tasks agrees on twins. -/
theorem Blind.together (hx : Blind x f) (hproper : Ensures x f fun _ f' => Proper False f')
    (ht : Twin ids f g) : Together ids x f g := by
  cases ht with
  | intro store trail proper stores known =>
      obtain ⟨trail', hrun⟩ := hx store trail
      obtain ⟨_, hself⟩ := hx f.store f.trail
      have hstore : (x.run f).2.store = f.store := congrArg (fun r => r.2.store) hself
      unfold Together
      rw [hrun]
      exact ⟨rfl, .intro store trail' hproper (hstore ▸ stores) (hstore ▸ known)⟩

/-- A call that can be interrupted is, on both fleets or on neither. -/
theorem interruptible_together {call : FleetM (Option α)} (ht : Twin ids f g)
    (h : Together ids call f g) : Together ids (interruptible call) f g := by
  refine together_get ht (fun _ _ => rfl) ?_
  cases f.token.fired with
  | true => exact together_pure ht none
  | false => exact h

end Together

section Calls

variable {id : TaskId} {t next : Task} {agent handle : String}

/-- A deed is noted on both twins. -/
theorem note_together (ht : Twin ids f g) (d : Deed) : Together ids (note d) f g :=
  (note_blind d).together ((note_spec d ht.proper).imp fun _ _ hn => hn.proper) ht

/-- An execution is stopped on both twins. -/
theorem cancel_execution_together (ht : Twin ids f g) (handle : String) :
    Together ids (cancelExecution handle) f g :=
  (cancel_execution_blind handle).together
    ((cancel_execution_spec handle ht.proper).imp fun _ _ hn => hn.proper) ht

/-- An execution is dropped on both twins. -/
theorem forget_execution_together (ht : Twin ids f g) (handle : String) :
    Together ids (forgetExecution handle) f g :=
  (forget_execution_blind handle).together
    ((forget_execution_spec handle {} ht.proper).imp fun _ _ hl => hl.proper) ht

/-- A reservation is given back on both twins. -/
theorem release_together (ht : Twin ids f g) (agent : String) (amount : ResourceSet) :
    Together ids (release agent amount) f g :=
  (release_blind agent amount).together
    ((release_spec amount {} ht.proper).imp fun _ _ hl => hl.proper) ht

/-- A task is placed on the same agent in both twins, or in neither. -/
theorem schedule_together (ht : Twin ids f g) (t : Task) : Together ids (schedule t) f g :=
  (schedule_blind t).together ((schedule_spec t ht.proper).imp fun _ _ hr => hr.2.2.1) ht

/-- A task is read in both stores, or in neither. -/
theorem get_task_together (ht : Twin ids f g) (hid : id.Plain) : Together ids (getTask id) f g := by
  cases ht with
  | intro store trail proper stores known =>
      unfold Together
      rw [get_task_run, get_task_run]
      dsimp only
      rcases f.token.meet .get with ⟨_ | _, token⟩
      · rcases Fault.next f.faults.get with ⟨_ | e, rest⟩
        · exact ⟨congrArg some (stores.get_eq hid), .intro _ _ { proper with } stores known⟩
        · exact ⟨rfl, .intro _ _ { proper with } stores known⟩
      · exact ⟨rfl, .intro _ _ { proper with } stores known⟩

/-- What is read in a store stands under its own id, and a database keeps it as it is. -/
theorem get_task_storable (ht : Twin ids f g) (id : TaskId) :
    Ensures (getTask id) f fun r f' => ∀ t, r = some (.ok t) →
      f'.store.get id = .ok t ∧ t.id = id ∧ t.Storable := by
  refine (get_task_spec id ht.proper).imp fun r f' ⟨hq, hget⟩ t hr => ?_
  cases ht with
  | intro store trail proper stores known =>
      have hfound := hget t hr
      exact ⟨hq.get hfound, stores.found hfound⟩

/-- Twins are still twins after a task was written to both stores. -/
theorem twin_set {store : TaskStore} {ids' : List TaskId} (hproper : Proper False f)
    (hstores : f.store.Mirrors store) (hknown : ∀ id t, f.store.get id = .ok t → id ∈ ids')
    (ht : t.Storable) (hid : t.id ∈ ids') (trail trail' : List Deed) :
    Twin ids' { f with store := f.store.set t, trail }
      { f with store := store.set t, trail := trail' } := by
  have hset := hstores.set ht
  refine .intro (store.set t) trail' { hproper with sound := hset.sound } hset ?_
  intro id u hget
  have hsplit : (f.store.set t).get id = .ok u := hget
  rw [hstores.get_set] at hsplit
  by_cases hsame : id = t.id
  · exact hsame ▸ hid
  · rw [if_neg hsame] at hsplit
    exact hknown id u hsplit

/-- What writing a task comes to in both stores: the same, but for the text of a conflict if what is
written was outrun. -/
structure Writes (ids : List TaskId) (next : Task) (f : Fleet)
    (r r' : Option (Except StoreError Task) × Fleet) : Prop where
  twin : Twin ids r.2 r'.2
  stored : ∀ stored, r.1 = some (.ok stored) → stored = next.bump
  answer : r'.1 = r.1 ∨
    (∀ x, f.store.get next.id = .ok x → x.version ≠ next.version) ∧
      ∃ text text', r.1 = some (.error (.conflict text)) ∧ r'.1 = some (.error (.conflict text'))

/-- A write that was not made. -/
theorem writes_nothing {r : Option (Except StoreError Task)} {f' g' : Fleet} (ht : Twin ids f' g')
    (hr : ∀ stored, r ≠ some (.ok stored)) : Writes ids next f (r, f') (r, g') :=
  ⟨ht, fun stored hstored => absurd hstored (hr stored), .inl rfl⟩

/-- A task that a database keeps as it is can be written in both stores or in neither. -/
theorem put_task_writes (ht : Twin ids f g) (hnext : next.Storable) :
    Writes ids next f ((putTask next).run f) ((putTask next).run g) := by
  cases ht with
  | intro store trail proper stores known =>
      rw [put_task_run, put_task_run]
      dsimp only
      rcases f.token.meet .put with ⟨_ | _, token⟩
      · rcases Fault.next f.faults.put with ⟨_ | e, rest⟩
        · have hproper : Proper False { f with token, faults.put := rest } :=
            { proper with faults := nofun }
          obtain ⟨hf, hg⟩ | ⟨e, hf, hg⟩ | ⟨text, text', hf, hg, hstale⟩ := stores.put hnext
          · rw [hf, hg]
            obtain ⟨⟨x, hx, -⟩, -⟩ := TaskStore.put_ok_iff.1 hf
            refine ⟨twin_set hproper stores known hnext.bump (known _ x hx) _ _, ?_, .inl rfl⟩
            rintro stored hstored
            cases hstored
            rfl
          · rw [hf, hg]
            exact writes_nothing (.intro _ _ hproper stores known) fun _ => (nomatch ·)
          · rw [hf, hg]
            refine ⟨.intro _ _ hproper stores known, fun _ h => ?_, .inr ?_⟩
            · cases h
            · exact ⟨hstale, text, text', rfl, rfl⟩
        · exact writes_nothing (.intro _ _ { proper with faults := nofun } stores known)
            fun _ => (nomatch ·)
      · exact writes_nothing (.intro _ _ { proper with } stores known) fun _ => (nomatch ·)

/-- A program that goes on in the same way after any two conflicts. -/
theorem put_together {k : Option (Except StoreError Task) → FleetM α} (ht : Twin ids f g)
    (hnext : next.Storable)
    (hconflict : ∀ text text',
      k (some (.error (.conflict text))) = k (some (.error (.conflict text'))))
    (hk : ∀ r f' g', (∀ stored, r = some (.ok stored) → stored = next.bump) → Twin ids f' g' →
      Together ids (k r) f' g') : Together ids (interruptible (putTask next) >>= k) f g := by
  have hwrites := put_task_writes ht hnext
  have hrest : Together ids (k ((putTask next).run f).1) ((putTask next).run f).2
      ((putTask next).run g).2 := hk _ _ _ hwrites.stored hwrites.twin
  have hput : Together ids (putTask next >>= k) f g := by
    show Agree ids ((k ((putTask next).run f).1).run ((putTask next).run f).2)
      ((k ((putTask next).run g).1).run ((putTask next).run g).2)
    obtain hsame | ⟨-, text, text', hf, hg⟩ := hwrites.answer
    · rw [hsame]
      exact hrest
    · -- Each store has a text of its own for the conflict, and `k` does not look at it.
      rw [hf] at hrest ⊢
      rw [hg, hconflict text' text]
      exact hrest
  show Together ids
    (get >>= fun f => (if f.token.fired then pure none else putTask next) >>= k) f g
  refine together_get ht (fun _ _ => rfl) ?_
  cases f.token.fired with
  | true => exact hk none f g (fun _ => (nomatch ·)) ht
  | false => exact hput

/-- An execution is started on both twins, under the same handle. -/
theorem submit_together (ht : Twin ids f g) (request : ExecutionRequest) :
    Together ids (submit request) f g :=
  (submit_blind request).together (submit_proper request ht.proper) ht

/-- An execution is observed alike on both twins. -/
theorem poll_together (ht : Twin ids f g) (handle : String) : Together ids (poll handle) f g :=
  (poll_blind handle).together ((poll_proper handle ht.proper).imp fun _ _ hr => hr.1) ht

end Calls

section Passes

variable {id : TaskId} {t next : Task} {agent handle : String}

/-- A task is written in the course of a pass on both twins, with the same outcome. -/
theorem write_together (ht : Twin ids f g) (hnext : next.Storable) (current : Task)
    (outcome : Outcome) : Together ids (write current next outcome) f g := by
  unfold write
  cases next.status.same current.status with
  | true => exact together_pure ht outcome
  | false =>
      refine put_together ht hnext (fun _ _ => rfl) fun r f₁ g₁ _ ht₁ => ?_
      match r with
      | none => exact together_pure ht₁ _
      | some (.ok _) => exact together_pure ht₁ _
      | some (.error e) => exact together_get ht₁ (fun _ _ => rfl) (together_pure ht₁ _)

/-- What a task holds is given back on both twins. -/
theorem settle_together (ht : Twin ids f g) (t : Task) (agent : String) :
    Together ids (settle t agent) f g := by
  unfold settle
  refine (release_together ht agent _).bind fun _ f₁ g₁ ht₁ => ?_
  cases t.status.execution with
  | none => exact together_pure ht₁ PUnit.unit
  | some handle => exact forget_execution_together ht₁ handle

/-- The end of a task is written, and what it held given back, on both twins. -/
theorem finish_together (ht : Twin ids f g) (hnext : next.Storable) (current : Task)
    (agent : String) : Together ids (finish current next agent) f g := by
  have hsettle {f₁ g₁ : Fleet} (ht₁ : Twin ids f₁ g₁) :
      Together ids (do settle current agent; return Outcome.done) f₁ g₁ :=
    (settle_together ht₁ current agent).bind fun _ _ _ ht₂ => together_pure ht₂ _
  unfold finish
  refine put_together ht hnext (fun _ _ => rfl) fun r f₁ g₁ _ ht₁ => ?_
  match r with
  | none => exact together_pure ht₁ _
  | some (.ok _) => exact hsettle ht₁
  | some (.error (.notFound _)) => exact hsettle ht₁
  | some (.error (.conflict _)) => exact together_get ht₁ (fun _ _ => rfl) (together_pure ht₁ _)
  | some (.error (.unavailable _)) =>
      exact together_get ht₁ (fun _ _ => rfl) (together_pure ht₁ _)

/-- A task is cancelled alike on both twins. -/
theorem cancel_task_together (ht : Twin ids f g) (hstorable : t.Storable)
    (hrequested : t.cancelRequested = true) : Together ids (cancelTask t) f g := by
  rw [cancel_task_eq]
  refine Together.bind ?_ fun _ f₁ g₁ ht₁ => together_get ht₁ (fun _ _ => rfl) ?_
  · cases t.status.execution with
    | none => exact together_pure ht ()
    | some handle => exact cancel_execution_together ht handle
  · have hnext : (t.asCancelled f₁.now).Storable :=
      hstorable.revise (.cancel _ hrequested) ht₁.proper.now
    cases t.status.agent with
    | none => exact write_together ht₁ hnext t .done
    | some agent => exact finish_together ht₁ hnext t agent

/-- A placed task is handed off alike on both twins. -/
theorem hand_off_together (ht : Twin ids f g) (hstorable : t.Storable)
    (hagent : t.status.agent = some agent) (hexecution : t.status.execution = none) :
    Together ids (handOff t agent) f g := by
  have hnow := ht.proper.now
  unfold handOff
  refine together_get ht (fun _ _ => rfl) ?_
  cases f.ledger.capacity? agent with
  | none =>
      exact write_together ht (hstorable.revise (.lose agent _ hagent hexecution) hnow) t _
  | some c =>
      refine (interruptible_together ht (submit_together ht _)).bind fun r f₁ g₁ ht₁ => ?_
      match r with
      | none => exact together_pure ht₁ _
      | some (.error e) =>
          exact write_together ht₁ (hstorable.revise (.remark _) ht₁.proper.now) t _
      | some (.ok handle) =>
          have hnext := hstorable.revise (.handOff agent handle
            ("execution " ++ handle ++ " submitted to agent " ++ agent) hagent hexecution) hnow
          have hgiveUp {f₂ g₂ : Fleet} (outcome : Outcome) (ht₂ : Twin ids f₂ g₂) :
              Together ids (do cancelExecution handle; return outcome) f₂ g₂ :=
            (cancel_execution_together ht₂ handle).bind fun _ _ _ ht₃ => together_pure ht₃ _
          refine put_together ht₁ hnext (fun _ _ => rfl) fun r f₂ g₂ _ ht₂ => ?_
          match r with
          | none => exact hgiveUp _ ht₂
          | some (.error e) => exact hgiveUp _ ht₂
          | some (.ok stored) => exact together_pure ht₂ _

/-- A task that has an execution is looked after alike on both twins. -/
theorem watch_together (ht : Twin ids f g) (hstorable : t.Storable)
    (hagent : t.status.agent = some agent) (hexecution : t.status.execution = some handle) :
    Together ids (watch t agent handle) f g := by
  have hnow := ht.proper.now
  unfold watch
  refine together_get ht (fun _ _ => rfl) ?_
  cases (t.deadline?.map fun deadline => decide (deadline ≤ f.now)).getD false with
  | true =>
      have hnext := hstorable.revise
        (.expire agent handle (timeoutMessage t) hagent hexecution) hnow
      refine (cancel_execution_together ht handle).bind fun _ f₁ g₁ ht₁ => ?_
      exact finish_together ht₁ hnext t agent
  | false =>
      refine (interruptible_together ht (poll_together ht handle)).bind_of
        (interruptible_spec (fun _ hr => nomatch hr)
          ((poll_proper handle ht.proper).imp fun _ _ hr => hr.2)) fun r f₁ g₁ hreport ht₁ => ?_
      match r with
      | none => exact together_pure ht₁ _
      | some (.error e) =>
          exact write_together ht₁ (hstorable.revise (.remark _) ht₁.proper.now) t _
      | some (.ok report) =>
          have hnext := hstorable.revise
            (.observe agent handle report hagent hexecution (hreport report rfl)) hnow
          dsimp only
          cases Task.isTerminal { t with status := deriveStatus t report f.now } with
          | true => exact finish_together ht₁ hnext t agent
          | false => exact write_together ht₁ hnext t _

/-- A task that has an agent is looked after alike on both twins. -/
theorem drive_together (ht : Twin ids f g) (hstorable : t.Storable)
    (hagent : t.status.agent = some agent) : Together ids (drive t agent) f g := by
  unfold drive
  cases hexecution : t.status.execution with
  | some handle => exact watch_together ht hstorable hagent hexecution
  | none => exact hand_off_together ht hstorable hagent hexecution

/-- A task without an agent is placed alike on both twins. -/
theorem place_together (ht : Twin ids f g) (hstorable : t.Storable)
    (hagent : t.status.agent = none) : Together ids (place t) f g := by
  have hnow := ht.proper.now
  unfold place
  refine together_get ht (fun _ _ => rfl) ?_
  refine (schedule_together ht t).bind fun r f₁ g₁ ht₁ => ?_
  match r with
  | .error (.noCapacity ..) | .error (.ledger _) =>
      exact write_together ht₁ (hstorable.revise (.remark _) ht₁.proper.now) t _
  | .ok agent =>
      have hnext := hstorable.revise
        (.place agent ("scheduled on agent " ++ agent) hagent) hnow
      have hrelease {f₂ g₂ : Fleet} (outcome : Outcome) (ht₂ : Twin ids f₂ g₂) :
          Together ids (do release agent t.requirement; return outcome) f₂ g₂ :=
        (release_together ht₂ agent t.requirement).bind fun _ _ _ ht₃ => together_pure ht₃ _
      refine put_together ht₁ hnext (fun _ _ => rfl) fun r f₂ g₂ hstored ht₂ => ?_
      match r with
      | some (.ok stored) =>
          obtain rfl := hstored stored rfl
          exact drive_together ht₂ hnext.bump (TaskStatus.agent_transition ..)
      | some (.error e) => exact hrelease _ ht₂
      | none => exact hrelease _ ht₂

/-- The phase of a task is read alike on both twins. -/
theorem get_phase_together (ht : Twin ids f g) (hid : id.Plain) :
    Together ids (getPhase id) f g :=
  (get_task_together ht hid).bind fun _ _ _ ht₁ => together_pure ht₁ _

/-- The dependencies of a task are found in the same state on both twins. -/
theorem check_all_together (ht : Twin ids f g) (hid : id.Plain) (dependencies : List Dependency) :
    Together ids (checkAll id dependencies) f g := by
  induction dependencies generalizing f g with
  | nil => exact together_pure ht _
  | cons d rest ih =>
      have hplain := TaskId.plain_resolve hid d.task
      refine (get_phase_together ht hplain).bind fun r f₁ g₁ ht₁ => ?_
      match r with
      | none => exact together_pure ht₁ _
      | some (.error e) => exact together_pure ht₁ _
      | some (.ok phase) =>
          dsimp only
          by_cases hreached : phase = d.phase
          · rw [if_pos hreached]
            exact ih ht₁
          · rw [if_neg hreached]
            exact together_pure ht₁ _

/-- A task without an agent is checked, and placed if nothing holds it back, alike on both twins. -/
theorem prepare_together (ht : Twin ids f g) (hstorable : t.Storable)
    (hagent : t.status.agent = none) : Together ids (prepare t) f g := by
  unfold prepare
  refine together_get ht (fun _ _ => rfl) ?_
  cases hvalid : t.validate with
  | error e =>
      have hinvalid : t.validate ≠ .ok () := by
        rw [hvalid]
        nofun
      exact write_together ht (hstorable.revise (.reject _ hagent hinvalid) ht.proper.now) t _
  | ok =>
      have hcheck : Together ids (checkDependencies t) f g :=
        check_all_together ht hstorable.plain t.spec.dependencies
      refine (interruptible_together ht hcheck).bind fun r f₁ g₁ ht₁ => ?_
      match r with
      | none => exact together_pure ht₁ _
      | some (.ok true) => exact place_together ht₁ hstorable hagent
      | some (.ok false) | some (.error e) =>
          exact write_together ht₁ (hstorable.revise (.remark _) ht₁.proper.now) t _

/-- A task that was read is taken to the same next status on both twins. -/
theorem advance_together (ht : Twin ids f g) (hstorable : t.Storable) :
    Together ids (advance t) f g := by
  unfold advance
  cases t.isTerminal with
  | true => exact together_pure ht _
  | false =>
      cases hrequested : t.cancelRequested with
      | true => exact cancel_task_together ht hstorable hrequested
      | false =>
          cases hagent : t.status.agent with
          | none => exact prepare_together ht hstorable hagent
          | some agent => exact drive_together ht hstorable hagent

/-- A pass over a task has the same outcome on both twins. -/
theorem reconcile_together (ht : Twin ids f g) (hid : id.Plain) :
    Together ids (reconcile id) f g := by
  unfold reconcile
  refine (note_together ht _).bind fun _ f₁ g₁ ht₁ => ?_
  refine (interruptible_together ht₁ (get_task_together ht₁ hid)).bind_of
    (interruptible_spec (fun _ hr => nomatch hr) (get_task_storable ht₁ id))
    fun r f₂ g₂ hread ht₂ => ?_
  match r with
  | none => exact together_pure ht₂ _
  | some (.ok t) => exact advance_together ht₂ (hread t rfl).2.2
  | some (.error (.notFound _)) => exact together_pure ht₂ _
  | some (.error (.conflict _)) | some (.error (.unavailable _)) =>
      exact together_get ht₂ (fun _ _ => rfl) (together_pure ht₂ _)

/-- A task is flagged as cancelled alike on both twins, in as many attempts. -/
theorem flag_cancelled_together (ht : Twin ids f g) (hid : id.Plain) (attempts : Nat) :
    Together ids (flagCancelled id attempts) f g := by
  induction attempts generalizing f g with
  | zero => exact together_pure ht _
  | succ attempts ih =>
      unfold flagCancelled
      refine (get_task_together ht hid).bind_of (get_task_storable ht id)
        fun r f₁ g₁ hread ht₁ => ?_
      rcases r with _ | e | t
      · exact together_pure ht₁ _
      · exact together_pure ht₁ _
      · obtain ⟨hget, rfl, hstorable⟩ := hread t rfl
        dsimp only
        cases t.isTerminal || t.cancelRequested with
        | true => exact together_pure ht₁ _
        | false =>
            have hwrites := put_task_writes ht₁ (hstorable.revise .flag ht₁.proper.now)
            -- What was read just now is the latest version, so the stores have no conflict of
            -- their own.
            have hput : Together ids (putTask { t with cancelRequested := true }) f₁ g₁ := by
              refine ⟨hwrites.answer.resolve_right ?_, hwrites.twin⟩
              rintro ⟨hstale, -⟩
              exact hstale t hget rfl
            refine hput.bind fun r f₂ g₂ ht₂ => ?_
            rcases r with _ | e | stored
            · exact together_pure ht₂ _
            · cases e with
              | notFound => exact together_pure ht₂ _
              | unavailable => exact together_pure ht₂ _
              | conflict =>
                  dsimp only
                  cases attempts with
                  | zero => exact together_pure ht₂ _
                  | succ attempts => exact ih ht₂
            · exact together_pure ht₂ _

/-- A request to cancel a task is answered alike on both twins. -/
theorem request_cancel_together (ht : Twin ids f g) (hid : id.Plain) :
    Together ids (requestCancel id) f g :=
  (flag_cancelled_together ht hid cancelAttempts).bind fun _ _ _ ht₁ => together_pure ht₁ _

end Passes

end Fleet

end TaskFleet
