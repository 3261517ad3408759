import TaskFleet.Proofs.Lifecycle.Cancellation

/-!
# Waiting for other tasks

A pass places a task, reserves for it or submits it only after it has read every task that this one
waits for, and has found each in the phase that is asked for: `gated_by_dependencies`. What readings
one after the other are answered is told by the store and the faults that are due
(`TaskStore.answers`), and the first dependency whose answer does not meet it decides what comes of
the pass (`Verdict`). A pass that does not get so far is `Held`: it books, asks and starts nothing,
and leaves the task without an agent.
-/

namespace TaskFleet

open Relation (ReflTransGen)

/-- The tasks that a task waits for, in the order of declaration. -/
def Task.references (t : Task) : List TaskId :=
  t.spec.dependencies.map fun d => t.id.resolve d.task

/-- What readings one after the other are answered, under the faults of reading that are due. -/
def TaskStore.answers (s : TaskStore) :
    List (Fault StoreError) → List TaskId → List (Except StoreError Task)
  | _, [] => []
  | faults, id :: rest =>
    (match (Fault.next faults).1 with
      | some e => .error e
      | none => s.get id) :: s.answers (Fault.next faults).2 rest

/-- Whether a dependency is met by what the reading of its task was answered. -/
def Dependency.Met (d : Dependency) (answer : Except StoreError Task) : Prop :=
  ∃ u, answer = .ok u ∧ u.phase = d.phase

/-- What is made of dependencies and the answers to the readings of their tasks: all are met, or the
first that is not met is of a task in another phase, or of one that could not be read. -/
inductive Verdict : List Dependency → List (Except StoreError Task) → Except StoreError Bool → Prop
    where
  | met {dependencies : List Dependency} {answers : List (Except StoreError Task)}
      (h : List.Forall₂ Dependency.Met dependencies answers) :
      Verdict dependencies answers (.ok true)
  | unmet {earlier later : List Dependency} {before after : List (Except StoreError Task)}
      (d : Dependency) (u : Task) (hearlier : List.Forall₂ Dependency.Met earlier before)
      (hphase : u.phase ≠ d.phase) :
      Verdict (earlier ++ d :: later) (before ++ .ok u :: after) (.ok false)
  | unread {earlier later : List Dependency} {before after : List (Except StoreError Task)}
      (d : Dependency) (e : StoreError) (hearlier : List.Forall₂ Dependency.Met earlier before) :
      Verdict (earlier ++ d :: later) (before ++ .error e :: after) (.error e)

section Answers

variable {s : TaskStore} {faults : List (Fault StoreError)} {dependencies : List Dependency}
  {answers : List (Except StoreError Task)}

/-- A dependency that is met leaves the verdict to those after it. -/
theorem Verdict.cons {d : Dependency} {answer : Except StoreError Task}
    {verdict : Except StoreError Bool} (hmet : d.Met answer)
    (h : Verdict dependencies answers verdict) :
    Verdict (d :: dependencies) (answer :: answers) verdict := by
  cases h with
  | met h => exact .met (.cons hmet h)
  | unmet d' u hearlier hphase => exact .unmet d' u (.cons hmet hearlier) hphase
  | unread d' e hearlier => exact .unread d' e (.cons hmet hearlier)

/-- A verdict that nothing is missing says that every dependency is met. -/
theorem Verdict.all_met (h : Verdict dependencies answers (.ok true)) :
    List.Forall₂ Dependency.Met dependencies answers := by
  cases h with
  | met h => exact h

/-- What is read is what the store holds. -/
theorem TaskStore.get_of_met {id : TaskId}
    (h : List.Forall₂ Dependency.Met dependencies
      (s.answers faults (dependencies.map fun d => id.resolve d.task))) :
    ∀ d ∈ dependencies, ∃ u, s.get (id.resolve d.task) = .ok u ∧ u.phase = d.phase := by
  induction dependencies generalizing faults with
  | nil => exact fun d hd => nomatch hd
  | cons d rest ih =>
      rw [List.map_cons, TaskStore.answers] at h
      obtain ⟨⟨u, hanswer, hphase⟩, hrest⟩ := List.forall₂_cons.1 h
      intro d' hd'
      rcases List.mem_cons.1 hd' with rfl | hd'
      · refine ⟨u, ?_, hphase⟩
        split at hanswer
        · exact nomatch hanswer
        · exact hanswer
      · exact ih hrest d' hd'

end Answers

/-- Whether something is asked of the substrate, or started. -/
def Deed.Submits : Deed → Prop
  | .ask .. | .start .. => True
  | .pass _ | .store _ | .poll _ | .cancel _ | .forget _ => False

/-- A task that is stored anew without an agent: it is in its phase, or has ended. -/
structure Task.Shelves (t next : Task) : Prop where
  id : next.id = t.id
  spec : next.spec = t.spec
  agent : next.status.agent = none
  phase : next.phase = t.phase ∨ next.phase = .failed ∨ next.phase = .cancelled

namespace Fleet

variable {f f' f'' start : Fleet} {id : TaskId} {t next : Task} {o : Outcome}

/-- The same fleet after readings, which use up no more than an interrupt and faults. -/
def Peeks (f f' : Fleet) : Prop :=
  f' = { f with token := f'.token, faults.get := f'.faults.get }

/-- A fleet in which nothing was booked, asked of the substrate or started. -/
structure Idles (f f' : Fleet) : Prop where
  ledger : f'.ledger = f.ledger
  signals : f'.signals = f.signals
  deeds : ∃ deeds, f'.trail = deeds ++ f.trail ∧ ∀ d ∈ deeds, d.isPass = false ∧ ¬ d.Submits

/-- What comes of a pass that leaves a task without an agent: nothing is booked, asked or started,
and no other task is written. -/
structure Held (t : Task) (f f' : Fleet) : Prop extends Idles f f' where
  proper : Proper False f'
  store : f'.store = f.store ∨ ∃ next, t.Shelves next ∧ f.store.Replaces t next f'.store

section Idles

/-- A fleet that is left alone idles. -/
theorem idles_refl (f : Fleet) : Idles f f :=
  ⟨rfl, rfl, [], rfl, fun _ hd => nomatch hd⟩

/-- A fleet that idles and idles on has idled. -/
theorem Idles.trans (h : Idles f f') (h' : Idles f' f'') : Idles f f'' := by
  obtain ⟨deeds, htrail, hdeeds⟩ := h.deeds
  obtain ⟨deeds', htrail', hdeeds'⟩ := h'.deeds
  refine ⟨h'.ledger.trans h.ledger, h'.signals.trans h.signals, deeds' ++ deeds, ?_, ?_⟩
  · rw [htrail', htrail, List.append_assoc]
  · intro d hd
    exact (List.mem_append.1 hd).elim (hdeeds' d) (hdeeds d)

/-- Where the ledger, the signals and the deeds are the same nothing was done. -/
theorem idles_of_trail (hledger : f'.ledger = f.ledger) (hsignals : f'.signals = f.signals)
    (htrail : f'.trail = f.trail) : Idles f f' :=
  ⟨hledger, hsignals, [], htrail, fun _ hd => nomatch hd⟩

/-- A fleet idles through one deed that submits nothing. -/
theorem idles_of_deed {d : Deed} (hledger : f'.ledger = f.ledger)
    (hsignals : f'.signals = f.signals) (htrail : f'.trail = d :: f.trail)
    (hpass : d.isPass = false) (hsubmits : ¬ d.Submits) : Idles f f' := by
  refine ⟨hledger, hsignals, [d], htrail, fun d' hd' => ?_⟩
  obtain rfl := List.mem_singleton.1 hd'
  exact ⟨hpass, hsubmits⟩

/-- Nothing was submitted in the pass if nothing had been before. -/
theorem Idles.not_submits (h : Idles f f') (hnone : thisPass f.trail = []) :
    ∀ d ∈ thisPass f'.trail, ¬ d.Submits := by
  obtain ⟨deeds, htrail, hdeeds⟩ := h.deeds
  have hpass : thisPass f'.trail = deeds := by
    unfold thisPass at hnone ⊢
    rw [htrail, List.takeWhile_append_of_pos fun d hd => by rw [(hdeeds d hd).1]; rfl, hnone,
      List.append_nil]
  intro d hd
  rw [hpass] at hd
  exact (hdeeds d hd).2

/-- Readings may be made one after the other. -/
theorem Peeks.trans (h : Peeks f f') (h' : Peeks f' f'') : Peeks f f'' := by
  unfold Peeks at h h' ⊢
  rw [h', h]

/-- Reading is idling. -/
theorem Peeks.idles (h : Peeks f f') : Idles f f' := by
  unfold Peeks at h
  rw [h]
  exact idles_of_trail rfl rfl rfl

/-- Reading leaves the store alone. -/
theorem Peeks.store (h : Peeks f f') : f'.store = f.store := by
  unfold Peeks at h
  rw [h]

end Idles

section Readings

/-- What comes of readings: they use up no more than an interrupt and faults, and are answered if no
interrupt is due. -/
structure Reads {α : Type} (f : Fleet) (r : Option α) (f' : Fleet) : Prop where
  peeks : Peeks f f'
  undisturbed : f.token = {} → f'.token = {} ∧ r.isSome = true

/-- A reading is answered by the store, or by the fault that is due. -/
theorem get_task_answers (id : TaskId) (f : Fleet) :
    Ensures (getTask id) f fun r f' => Reads f r f' ∧ ∀ answer, r = some answer → ∀ rest,
      f.store.answers f.faults.get (id :: rest) =
        answer :: f'.store.answers f'.faults.get rest := by
  have hanswers (rest : List TaskId) := TaskStore.answers.eq_2 f.store f.faults.get id rest
  have htoken (hnone : f.token = {}) : f.token.meet .get = (false, {}) := by rw [hnone]; rfl
  unfold Ensures
  rw [get_task_run]
  rcases hmeet : f.token.meet .get with ⟨_ | _, token⟩
  · have hdone (hnone : f.token = {}) : token = {} :=
      congrArg Prod.snd (hmeet.symm.trans (htoken hnone))
    rcases hnext : Fault.next f.faults.get with ⟨_ | e, later⟩
    · simp only [hnext] at hanswers
      refine ⟨⟨rfl, fun hnone => ⟨hdone hnone, rfl⟩⟩, fun answer hr rest => ?_⟩
      cases hr
      exact hanswers rest
    · simp only [hnext] at hanswers
      refine ⟨⟨rfl, fun hnone => ⟨hdone hnone, rfl⟩⟩, fun answer hr rest => ?_⟩
      cases hr
      exact hanswers rest
  · exact ⟨⟨rfl, fun hnone => nomatch hmeet.symm.trans (htoken hnone)⟩, fun answer hr => nomatch hr⟩

/-- The phase that is read is that of the next answer of the store. -/
theorem get_phase_answers (id : TaskId) (f : Fleet) :
    Ensures (getPhase id) f fun r f' => ∃ answer : Option (Except StoreError Task),
      r = answer.map (fun a => a.map Task.phase) ∧ Reads f answer f' ∧
        ∀ a, answer = some a → ∀ rest, f.store.answers f.faults.get (id :: rest) =
          a :: f'.store.answers f'.faults.get rest := by
  unfold getPhase
  exact (get_task_answers id f).bind fun r _ hr => ⟨r, rfl, hr⟩

/-- The dependencies are looked up in the order of declaration, and what is answered is the verdict
on them. -/
theorem check_all_verdict (id : TaskId) (dependencies : List Dependency) (f : Fleet) :
    Ensures (checkAll id dependencies) f fun r f' => Reads f r f' ∧ ∀ answer, r = some answer →
      Verdict dependencies
        (f.store.answers f.faults.get (dependencies.map fun d => id.resolve d.task))
        (answer.mapError DependencyError.cause) := by
  induction dependencies generalizing f with
  | nil =>
      refine ⟨⟨rfl, fun htoken => ⟨htoken, rfl⟩⟩, fun answer hr => ?_⟩
      cases hr
      exact .met .nil
  | cons d rest ih =>
      unfold checkAll
      refine (get_phase_answers (id.resolve d.task) f).bind ?_
      rintro _ f₁ ⟨answer, rfl, hreads, hanswers⟩
      cases answer with
      | none =>
          refine ⟨⟨hreads.peeks, hreads.undisturbed⟩, fun answer hr => ?_⟩
          cases hr
      | some outcome =>
          rw [List.map_cons, hanswers _ rfl]
          cases outcome with
          | error e =>
              refine ⟨⟨hreads.peeks, fun hnone => ⟨(hreads.undisturbed hnone).1, rfl⟩⟩, ?_⟩
              intro answer hr
              cases hr
              exact @Verdict.unread [] _ [] _ d e .nil
          | ok u =>
              dsimp only [Option.map_some, Except.map]
              by_cases hphase : u.phase = d.phase
              · -- The faults that are due have moved on, so the verdict on the rest is that of the
                -- fleet after this reading.
                rw [if_pos hphase]
                refine (ih f₁).imp ?_
                rintro r f₂ ⟨hreads₂, hverdict⟩
                refine ⟨⟨hreads.peeks.trans hreads₂.peeks, fun hnone =>
                  hreads₂.undisturbed (hreads.undisturbed hnone).1⟩, fun answer hr => ?_⟩
                exact (hverdict answer hr).cons ⟨u, rfl, hphase⟩
              · rw [if_neg hphase]
                refine ⟨⟨hreads.peeks, fun hnone => ⟨(hreads.undisturbed hnone).1, rfl⟩⟩, ?_⟩
                intro answer hr
                cases hr
                exact @Verdict.unmet [] _ [] _ d u .nil hphase

end Readings

section Held

/-- Reading leaves a proper fleet proper. -/
theorem Peeks.proper (h : Peeks f f') (hproper : Proper False f) : Proper False f' := by
  unfold Peeks at h
  rw [h]
  exact { hproper with }

/-- A task is held back while nothing is written. -/
theorem held_of_idles (h : Idles f f') (hproper : Proper False f') (hstore : f'.store = f.store) :
    Held t f f' :=
  ⟨h, hproper, .inl hstore⟩

/-- A task is held by what comes after nothing has happened to it. -/
theorem Held.after (h : Idles f f') (hstore : f'.store = f.store) (h' : Held t f' f'') :
    Held t f f'' :=
  ⟨h.trans h'.toIdles, h'.proper, hstore ▸ h'.store⟩

/-- Writing a task asks for no resync. -/
theorem put_task_signals (next : Task) (f : Fleet) :
    Ensures (putTask next) f fun _ f' => f'.signals = f.signals := by
  unfold Ensures
  rw [put_task_run]
  rcases f.token.meet .put with ⟨_ | _, token⟩
  · rcases Fault.next f.faults.put with ⟨_ | e, rest⟩
    · cases f.store.put next with
      | error e => exact rfl
      | ok r => exact rfl
    · exact rfl
  · exact rfl

/-- A task is held back by a write that leaves it on its shelf. -/
theorem write_held (outcome : Outcome) (h : Proper False f) (hget : f.store.get id = .ok t)
    (hrevision : Revision f.now t next) (hshelves : t.Shelves next) :
    Ensures (write t next outcome) f fun _ f' => Held t f f' := by
  have hput : Ensures (interruptible (putTask next)) f fun _ f' => Held t f f' := by
    obtain ⟨hid, hversion, -, -⟩ := hrevision.keeps
    refine interruptible_spec (held_of_idles (idles_refl f) h rfl) ?_
    refine ((put_task_spec h hget hid hversion (keeps_of_revision h.sound h.now hget
      hrevision)).and (put_task_signals next f)).imp ?_
    rintro r f₁ ⟨hr, hsignals⟩
    have hquiet (hq : Quiet False f f₁) : Held t f f₁ :=
      held_of_idles (idles_of_trail hq.ledger hsignals (congrArg Books.trail hq.books)) hq.proper
        hq.store
    match r with
    | none => exact hquiet hr
    | some (.error e) => exact hquiet hr.1
    | some (.ok stored) =>
        obtain ⟨-, -, hbooks, hreplaces, hproper⟩ := hr
        have hidles : Idles f f₁ := idles_of_deed (congrArg Books.ledger hbooks) hsignals
          (congrArg Books.trail hbooks) rfl not_false
        exact ⟨hidles, hproper, .inr ⟨next.bump, { hshelves with }, hreplaces⟩⟩
  unfold write
  split
  · exact held_of_idles (idles_refl f) h rfl
  · refine hput.bind fun r f₁ hheld => ?_
    match r with
    | none => exact hheld
    | some (.ok stored) => exact hheld
    | some (.error e) => exact ensures_get hheld

/-- A task without an agent is held back when it is cancelled. -/
theorem cancel_task_held (h : Proper False f) (hget : f.store.get id = .ok t)
    (hrequested : t.cancelRequested = true) (hagent : t.status.agent = none) :
    Ensures (cancelTask t) f fun _ f' => Held t f f' := by
  refine cancel_task_stages
    (p := fun f₁ => Idles f f₁ ∧ Proper False f₁ ∧ f₁.store = f.store) ?_ ?_ ?_ ?_
  · exact fun _ => ⟨idles_refl f, h, rfl⟩
  · intro handle _
    have hidles : Ensures (cancelExecution handle) f fun _ f₁ => Idles f f₁ ∧ f₁.store = f.store :=
      ⟨idles_of_deed rfl rfl rfl rfl not_false, rfl⟩
    exact ((cancel_execution_spec handle h).and hidles).imp
      fun _ _ hr => ⟨hr.2.1, hr.1.proper, hr.2.2⟩
  · exact fun f₁ agent _ hsome => nomatch hagent.symm.trans hsome
  · rintro f₁ ⟨hidles, hproper, hstore⟩ _
    have hshelves : t.Shelves (t.asCancelled f₁.now) :=
      ⟨rfl, rfl, (TaskStatus.agent_transition ..).trans hagent,
        .inr (.inr (TaskStatus.phase_transition ..))⟩
    exact (write_held .done hproper (hstore ▸ hget) (.cancel _ hrequested) hshelves).imp
      fun _ _ hheld => .after hidles hstore hheld

/-- A task without an agent is held, unless it is valid and its dependencies are met. -/
theorem prepare_held (h : Proper False f) (hget : f.store.get id = .ok t)
    (hagent : t.status.agent = none) :
    Ensures (prepare t) f fun _ f' => Held t f f' ∨ t.validate = .ok () ∧
      List.Forall₂ Dependency.Met t.spec.dependencies
        (f.store.answers f.faults.get t.references) := by
  unfold prepare
  refine ensures_get ?_
  cases hvalid : t.validate with
  | error e =>
      have hinvalid : t.validate ≠ .ok () := by
        rw [hvalid]
        nofun
      have hshelves (message : String) :
          t.Shelves (t.transition .failed "ValidationFailed" message f.now) :=
        ⟨rfl, rfl, (TaskStatus.agent_transition ..).trans hagent,
          .inr (.inl (TaskStatus.phase_transition ..))⟩
      exact (write_held _ h hget (.reject _ hagent hinvalid) (hshelves _)).imp
        fun _ _ hheld => .inl hheld
  | ok =>
      have hread : Ensures (interruptible (checkDependencies t)) f fun r f₁ => Peeks f f₁ ∧
          ∀ answer, r = some answer → Verdict t.spec.dependencies
            (f.store.answers f.faults.get t.references)
            (answer.mapError DependencyError.cause) :=
        interruptible_spec ⟨rfl, fun _ hr => nomatch hr⟩
          ((check_all_verdict t.id t.spec.dependencies f).imp fun _ _ hr => ⟨hr.1.peeks, hr.2⟩)
      refine hread.bind ?_
      rintro r f₁ ⟨hpeeks, hverdict⟩
      have hproper : Proper False f₁ := hpeeks.proper h
      have hget₁ : f₁.store.get id = .ok t := hpeeks.store ▸ hget
      have hremark (message : String) (outcome : Outcome) :
          Ensures (write t (t.withMessage message) outcome) f₁ fun _ f' => Held t f f' :=
        (write_held outcome hproper hget₁ (.remark message)
          ⟨rfl, rfl, hagent, .inl rfl⟩).imp fun _ _ hheld => .after hpeeks.idles hpeeks.store hheld
      match r with
      | none => exact .inl (held_of_idles hpeeks.idles hproper hpeeks.store)
      | some (.ok false) => exact (hremark _ _).imp fun _ _ hheld => .inl hheld
      | some (.error e) => exact (hremark _ _).imp fun _ _ hheld => .inl hheld
      | some (.ok true) => exact .inr ⟨rfl, (hverdict _ rfl).all_met⟩

/-- A task without an agent is held back, unless it is valid and all its dependencies are met. -/
theorem advance_held (h : Proper False f) (hget : f.store.get id = .ok t)
    (hagent : t.status.agent = none) :
    Ensures (advance t) f fun _ f' => Held t f f' ∨ t.validate = .ok () ∧
      List.Forall₂ Dependency.Met t.spec.dependencies
        (f.store.answers f.faults.get t.references) := by
  unfold advance
  cases t.isTerminal with
  | true => exact .inl (held_of_idles (idles_refl f) h rfl)
  | false =>
      cases hrequested : t.cancelRequested with
      | true =>
          exact (cancel_task_held h hget hrequested hagent).imp fun _ _ hheld => .inl hheld
      | false =>
          rw [hagent]
          exact prepare_held h hget hagent

/-- A pass over a task without an agent holds it, unless it is valid and the pass has found its
dependencies met. -/
theorem reconcile_held (h : Proper False f) (hget : f.store.get id = .ok t)
    (hagent : t.status.agent = none) :
    Ensures (reconcile id) f fun _ f' => Held t (f.begun id) f' ∨ t.validate = .ok () ∧
      ∃ answers, f.store.answers f.faults.get (id :: t.references) = .ok t :: answers ∧
        List.Forall₂ Dependency.Met t.spec.dependencies answers := by
  have hbegun : Proper False (f.begun id) := { h with }
  unfold reconcile
  refine ensures_modify ?_
  show Ensures _ (f.begun id) _
  have hread : Ensures (interruptible (getTask id)) (f.begun id) fun r f₁ =>
      Peeks (f.begun id) f₁ ∧ ∀ u, r = some (.ok u) → u = t ∧ ∀ rest,
        f.store.answers f.faults.get (id :: rest) =
          .ok u :: f₁.store.answers f₁.faults.get rest := by
    refine interruptible_spec ⟨rfl, fun _ hr => nomatch hr⟩ ?_
    refine ((get_task_spec id hbegun).and (get_task_answers id (f.begun id))).imp ?_
    rintro r f₁ ⟨⟨-, hfound⟩, hreads, hanswers⟩
    refine ⟨hreads.peeks, fun u hr => ⟨?_, hanswers _ hr⟩⟩
    exact Except.ok.inj ((hfound u hr).symm.trans hget)
  refine hread.bind ?_
  rintro r f₁ ⟨hpeeks, hfound⟩
  have hproper : Proper False f₁ := hpeeks.proper hbegun
  have hheld : Held t (f.begun id) f₁ := held_of_idles hpeeks.idles hproper hpeeks.store
  match r with
  | none => exact .inl hheld
  | some (.error (.notFound key)) => exact .inl hheld
  | some (.error (.conflict key)) => exact ensures_get (.inl hheld)
  | some (.error (.unavailable cause)) => exact ensures_get (.inl hheld)
  | some (.ok u) =>
      obtain ⟨rfl, hanswers⟩ := hfound u rfl
      have hstore : f₁.store = f.store := hpeeks.store
      refine (advance_held hproper (hstore ▸ hget) hagent).imp ?_
      rintro _ f₂ (hheld | ⟨hvalid, hmet⟩)
      · exact .inl (.after hpeeks.idles hpeeks.store hheld)
      · exact .inr ⟨hvalid, _, hanswers _, hmet⟩

end Held

section Waits

/-- What comes of a pass over a task that has to wait for others: the ledger is as it was, at most
the task's message is another one, and the task is looked at again after a delay that depends on the
first dependency that is not met. -/
structure Waits (id : TaskId) (t : Task) (answers : List (Except StoreError Task)) (f : Fleet)
    (o : Outcome) (f' : Fleet) : Prop where
  ledger : f'.ledger = f.ledger
  stored : f'.store.get id = .ok t ∨
    ∃ message, f'.store.get id = .ok (t.withMessage message).bump
  requeued : o = .requeue f.delays.dependency ∧ Verdict t.spec.dependencies answers (.ok false) ∨
    ∃ e, o = .requeue f.delays.transient ∧ Verdict t.spec.dependencies answers (.error e)

/-- A message is written, or says nothing new. -/
theorem remark_undisturbed (message : String) (outcome : Outcome) (h : Proper False f)
    (htoken : f.token = {}) (hfault : (Fault.next f.faults.put).1 = none)
    (hget : f.store.get id = .ok t) :
    Ensures (write t (t.withMessage message) outcome) f fun o f' =>
      o = outcome ∧ f'.ledger = f.ledger ∧ (f'.store.get id = .ok t ∨
        ∃ message, f'.store.get id = .ok (t.withMessage message).bump) := by
  unfold write
  split
  · exact ⟨rfl, rfl, .inl hget⟩
  · refine (put_undisturbed htoken hfault h.sound h.now hget (.remark message)).bind ?_
    rintro _ _ ⟨rfl, store, -, hreplaces, rfl⟩
    exact ⟨rfl, rfl, .inr ⟨message, hreplaces.found id hget⟩⟩

/-- A valid task with a dependency that is not met waits for the first such one. -/
theorem prepare_waits (h : Proper False f) (hget : f.store.get id = .ok t)
    (hvalid : t.validate = .ok ()) (htoken : f.token = {})
    (hfault : (Fault.next f.faults.put).1 = none)
    (hunmet : ¬ List.Forall₂ Dependency.Met t.spec.dependencies
      (f.store.answers f.faults.get t.references)) :
    Ensures (prepare t) f fun o f' =>
      Waits id t (f.store.answers f.faults.get t.references) f o f' := by
  unfold prepare
  refine ensures_get ?_
  rw [hvalid]
  refine (interruptible_calm htoken (check_all_verdict t.id t.spec.dependencies f)).bind ?_
  rintro r f₁ ⟨hreads, hverdict⟩
  obtain ⟨htoken₁, hanswered⟩ := hreads.undisturbed htoken
  have hproper : Proper False f₁ := hreads.peeks.proper h
  have hget₁ : f₁.store.get id = .ok t := hreads.peeks.store ▸ hget
  have hledger : f₁.ledger = f.ledger := hreads.peeks.idles.ledger
  have hput : f₁.faults.put = f.faults.put := by rw [hreads.peeks]
  rw [← hput] at hfault
  match r with
  | none => exact nomatch hanswered
  | some (.ok true) => exact absurd (hverdict _ rfl).all_met hunmet
  | some (.ok false) =>
      refine (remark_undisturbed _ _ hproper htoken₁ hfault hget₁).imp ?_
      rintro _ f₂ ⟨rfl, hsame, hstored⟩
      exact ⟨hsame.trans hledger, hstored, .inl ⟨rfl, hverdict _ rfl⟩⟩
  | some (.error e) =>
      refine (remark_undisturbed _ _ hproper htoken₁ hfault hget₁).imp ?_
      rintro _ f₂ ⟨rfl, hsame, hstored⟩
      exact ⟨hsame.trans hledger, hstored, .inr ⟨e.cause, rfl, hverdict _ rfl⟩⟩

/-- A pass over a valid task that has to wait for others, with no interrupt due and no failing
write. -/
theorem reconcile_waits {answers : List (Except StoreError Task)} (h : Proper False f)
    (hget : f.store.get id = .ok t) (hlive : t.isTerminal = false)
    (hwanted : t.cancelRequested = false) (hagent : t.status.agent = none)
    (hvalid : t.validate = .ok ()) (htoken : f.token = {})
    (hfault : (Fault.next f.faults.put).1 = none)
    (hread : f.store.answers f.faults.get (id :: t.references) = .ok t :: answers)
    (hunmet : ¬ List.Forall₂ Dependency.Met t.spec.dependencies answers) :
    Ensures (reconcile id) f (Waits id t answers f) := by
  have hbegun : Proper False (f.begun id) := { h with }
  unfold reconcile
  refine ensures_modify ?_
  show Ensures _ (f.begun id) _
  have hdue : (f.begun id).token = {} := htoken
  refine (interruptible_calm hdue (get_task_answers id (f.begun id))).bind ?_
  rintro r f₁ ⟨hreads, hanswers⟩
  obtain ⟨htoken₁, hanswered⟩ := hreads.undisturbed hdue
  obtain ⟨answer, rfl⟩ := Option.isSome_iff_exists.1 hanswered
  obtain ⟨rfl, rfl⟩ := List.cons.inj ((hanswers answer rfl t.references).symm.trans hread)
  have hput : f₁.faults.put = f.faults.put := by rw [hreads.peeks]; rfl
  have hdelays : f₁.delays = f.delays := by rw [hreads.peeks]; rfl
  show Ensures (advance t) f₁ _
  unfold advance
  rw [hlive, hwanted, hagent]
  refine (prepare_waits (hreads.peeks.proper hbegun) (hreads.peeks.store ▸ hget) hvalid htoken₁
    (hput ▸ hfault) hunmet).imp ?_
  rintro o f₂ hwaits
  exact ⟨hwaits.ledger.trans hreads.peeks.idles.ledger, hwaits.stored, hdelays ▸ hwaits.requeued⟩

end Waits

section Runs

/-- Whether a pass has reserved capacity, submitted anything, or placed the task. A reservation is
seen even if it was given back, since every change of the ledger asks for a resync. -/
def Admits (id : TaskId) (f f' : Fleet) : Prop :=
  f'.ledger ≠ f.ledger ∨ f'.signals ≠ f.signals ∨ (∃ d ∈ thisPass f'.trail, d.Submits) ∨
    ∃ t, f'.store.get id = .ok t ∧ t.status.agent ≠ none

/-- A pass that holds a task admits none. -/
theorem Held.not_admits (h : Held t (f.begun id) f') (hget : f.store.get id = .ok t)
    (hagent : t.status.agent = none) : ¬ Admits id f f' := by
  rintro (hledger | hsignals | ⟨d, hd, hsubmits⟩ | ⟨t', hget', hplaced⟩)
  · exact hledger h.ledger
  · exact hsignals h.signals
  · exact h.not_submits rfl d hd hsubmits
  · obtain hstore | ⟨next, hshelves, hreplaces⟩ := h.store
    · rw [hstore] at hget'
      have hsame : f.store.get id = .ok t' := hget'
      cases hget.symm.trans hsame
      exact hplaced hagent
    · cases (hreplaces.found id hget).symm.trans hget'
      exact hplaced hshelves.agent

/-- In every state of every run from a fleet without tasks, whatever fails or is interrupted: a pass
that finds a task without an agent, be it a new one or one that has lost its agent, and that reserves
capacity, submits or places the task, has found the task valid and has read every task that it waits
for in the phase that is asked for. If the task is valid and its cancellation was not requested, and
one of them is missing, cannot be read or is in another phase, then a pass that is not interrupted
and whose write does not fail leaves the task as it is, but for its message, and looks at it again
after the delay that goes with the first dependency that is not met (`Waits`). -/
theorem gated_by_dependencies (hproper : Proper False start) (htasks : start.store.tasks = [])
    (hrun : ReflTransGen (Step False) start f) (hget : f.store.get id = .ok t)
    (hagent : t.status.agent = none) (hpass : (reconcile id).run f = (o, f')) :
    (Admits id f f' → t.validate = .ok () ∧
      (∃ answers, f.store.answers f.faults.get (id :: t.references) = .ok t :: answers ∧
        List.Forall₂ Dependency.Met t.spec.dependencies answers) ∧
      ∀ d ∈ t.spec.dependencies, ∃ u, f.store.get (t.id.resolve d.task) = .ok u ∧
        u.phase = d.phase) ∧
    ∀ answers, t.validate = .ok () → t.cancelRequested = false → f.token = {} →
      (Fault.next f.faults.put).1 = none →
      f.store.answers f.faults.get (id :: t.references) = .ok t :: answers →
      ¬ List.Forall₂ Dependency.Met t.spec.dependencies answers → Waits id t answers f o f' := by
  have hreached : Proper False f := proper_of_run hproper hrun
  refine ⟨fun hadmits => ?_, fun answers hvalid hwanted htoken hfault hread hunmet => ?_⟩
  · have hheld := reconcile_held hreached hget hagent
    unfold Ensures at hheld
    rw [hpass] at hheld
    obtain hheld | ⟨hvalid, answers, hread, hmet⟩ := hheld
    · exact absurd hadmits (hheld.not_admits hget hagent)
    · refine ⟨hvalid, ⟨answers, hread, hmet⟩, ?_⟩
      obtain ⟨-, rfl⟩ := List.cons.inj hread
      exact TaskStore.get_of_met hmet
  · have hempty : ∀ x ∈ start.store.tasks, x.Dismissed := by
      intro x hx
      rw [htasks] at hx
      exact nomatch hx
    have hdismissed : t.Dismissed := lasting_steps lasting_dismissed hproper hempty hrun t
      (TaskStore.mem_tasks_of_get hget)
    have hlive : t.isTerminal = false := by
      cases hterminal : t.isTerminal with
      | false => rfl
      | true =>
          -- Without an agent a task ends by a request or by its validation alone.
          obtain hrequested | hinvalid := hdismissed hterminal hagent
          · exact nomatch hwanted.symm.trans hrequested
          · exact absurd hvalid hinvalid
    have hwaits :=
      reconcile_waits hreached hget hlive hwanted hagent hvalid htoken hfault hread hunmet
    unfold Ensures at hwaits
    rw [hpass] at hwaits
    exact hwaits

/-- A task that waits until another one is scheduled. -/
def follower : Task :=
  .new ⟨"n", "u"⟩ { (default : TaskSpec) with
    image := "busybox"
    resources := ⟨.ofList [(.cpu, .ofMillis 250)], ∅⟩
    dependencies := [⟨"t", .scheduled⟩] } 1000

/-- A fleet with an agent and two tasks, and no pass made yet. -/
def queued : Fleet :=
  { submitted with
    store := .memory ((Dict.empty.insert halfProcessor.id halfProcessor.bump).insert follower.id
      follower.bump) }

/-- The same fleet after the first task was handed off. -/
def leaderPlaced : Fleet := ((reconcile halfProcessor.id).run queued).2

/-- An interrupt that stalls the next submission. -/
def stall : Token := { gate := some ⟨.submit, 0, true⟩ }

/-- The fleet after the second task was placed, and its submission interrupted. -/
def followerPlaced : Fleet := ((reconcile follower.id).run { leaderPlaced with token := stall }).2

/-- The fleet after the agent has left, and the second task is without one. -/
def followerLost : Fleet :=
  ((reconcile follower.id).run
    { followerPlaced with ledger := (followerPlaced.ledger.resync []).1, token := {} }).2

/-- The fleet after the first task was seen running. -/
def leaderRunning : Fleet := ((reconcile halfProcessor.id).run followerLost).2

/-- The fleet in which the first task was handed off is reached. -/
theorem run_to_leader_placed : ReflTransGen (Step False) (fresh 1000 runsOn) leaderPlaced := by
  refine .head (.swap [oneProcessor]) ?_
  refine .head (.create halfProcessor halfProcessor.bump _ _ rfl rfl rfl) ?_
  refine .head (.create follower follower.bump _ _ rfl rfl rfl) ?_
  exact .single (.pass halfProcessor.id)

/-- From there so is the fleet in which the second task has lost its agent and the first one runs. -/
theorem run_to_leader_running : ReflTransGen (Step False) leaderPlaced leaderRunning := by
  have hfresh : Proper False (fresh 1000 runsOn) := proper_fresh (by decide) in_range_runs_on
  have hplaced : Proper False leaderPlaced := proper_of_run hfresh run_to_leader_placed
  have hstalled : Step False leaderPlaced { leaderPlaced with token := stall } :=
    .turn _ { hplaced with } (TaskStore.same_tasks_refl _) nofun
  have hfollowed : Proper False followerPlaced :=
    proper_of_run hplaced (.head hstalled (.single (.pass follower.id)))
  refine .head hstalled (.head (.pass follower.id) (.head (.swap []) ?_))
  refine .head (.turn { followerPlaced with
    ledger := (followerPlaced.ledger.resync []).1, token := {} } { hfollowed with }
    (TaskStore.same_tasks_refl _) nofun) ?_
  exact .head (.pass follower.id) (.single (.pass halfProcessor.id))

/-- The follower is admitted while its dependency is in the phase required, and waits once that
phase was left. -/
theorem gated_by_dependencies_after_loss :
    (∃ t, leaderPlaced.store.get follower.id = .ok t ∧ t.validate = .ok () ∧
      Admits follower.id leaderPlaced ((reconcile follower.id).run leaderPlaced).2 ∧
      ∀ d ∈ t.spec.dependencies, ∃ u, leaderPlaced.store.get (t.id.resolve d.task) = .ok u ∧
        u.phase = d.phase) ∧
    ∃ t u, leaderRunning.store.get follower.id = .ok t ∧
      t.status.conditions.map Condition.kind = ["Scheduled", "Pending"] ∧
      leaderRunning.store.get halfProcessor.id = .ok u ∧ u.phase = .running ∧
      Waits follower.id t [.ok u] leaderRunning ((reconcile follower.id).run leaderRunning).1
        ((reconcile follower.id).run leaderRunning).2 := by
  have hfresh : Proper False (fresh 1000 runsOn) := proper_fresh (by decide) in_range_runs_on
  have hready : (leaderPlaced.store.get follower.id).toOption.map
      (fun t => t.status.agent) = some none := by decide +kernel
  have hplaces : (((reconcile follower.id).run leaderPlaced).2.store.get
      follower.id).toOption.map (fun t => t.status.agent) = some (some "a1") := by decide +kernel
  have hlost : (leaderRunning.store.get follower.id).toOption.map
      (fun t => (t.cancelRequested, t.status.agent, t.status.conditions.map Condition.kind)) =
        some (false, none, ["Scheduled", "Pending"]) := by decide +kernel
  have hasks : (leaderRunning.store.get follower.id).toOption.map
      (fun t => (t.validate, t.id, t.spec.dependencies)) =
        some (.ok (), ⟨"n", "u"⟩, [⟨"t", .scheduled⟩]) := by decide +kernel
  have hruns : (leaderRunning.store.get halfProcessor.id).toOption.map Task.phase =
      some .running := by decide +kernel
  have hfaults : leaderRunning.faults = {} := by decide +kernel
  have htoken : leaderRunning.token = {} := by decide +kernel
  refine ⟨?_, ?_⟩
  · obtain ⟨t, hget, hagent⟩ := TaskStore.get_of_map hready
    obtain ⟨t', hget', hagent'⟩ := TaskStore.get_of_map hplaces
    have hadmits : Admits follower.id leaderPlaced ((reconcile follower.id).run leaderPlaced).2 :=
      .inr (.inr (.inr ⟨t', hget', hagent' ▸ Option.some_ne_none _⟩))
    obtain ⟨hvalid, -, hmet⟩ :=
      (gated_by_dependencies hfresh rfl run_to_leader_placed hget hagent rfl).1 hadmits
    exact ⟨t, hget, hvalid, hadmits, hmet⟩
  · obtain ⟨t, hget, hfields⟩ := TaskStore.get_of_map hlost
    obtain ⟨u, hu, hphase⟩ := TaskStore.get_of_map hruns
    rw [hget] at hasks
    simp only [Except.toOption, Option.map_some, Option.some.injEq, Prod.mk.injEq] at hfields hasks
    obtain ⟨hwanted, hagent, hkinds⟩ := hfields
    obtain ⟨hvalid, hid, hdependencies⟩ := hasks
    have hrun := run_to_leader_placed.trans run_to_leader_running
    refine ⟨t, u, hget, hkinds, hu, hphase, ?_⟩
    refine (gated_by_dependencies hfresh rfl hrun hget hagent rfl).2 [.ok u] hvalid hwanted htoken
      ?_ ?_ ?_
    · rw [hfaults]
      rfl
    · have hreferences : t.references = [halfProcessor.id] := by
        unfold Task.references
        rw [hid, hdependencies]
        decide +kernel
      rw [hreferences, hfaults, ← hget, ← hu]
      rfl
    · rw [hdependencies]
      intro hmet
      obtain ⟨⟨_, hanswer, hmet⟩, -⟩ := List.forall₂_cons.1 hmet
      cases hanswer
      cases hphase.symm.trans hmet

end Runs

end Fleet

end TaskFleet
