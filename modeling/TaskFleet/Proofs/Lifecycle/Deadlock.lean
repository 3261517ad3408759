import TaskFleet.Proofs.Lifecycle.Admission

/-!
# Tasks that wait for each other

Tasks each of which waits until another one of them is scheduled, runs or has completed never start,
whatever else happens: `never_started`. That no task waits for itself is checked, longer circles are
not. The invariant is about all of them at once (`TaskStore.Lingering`): while none of them has left
the first phase other than by failing or being cancelled, no pass can find the dependencies of
another one met.
-/

namespace TaskFleet

open Relation (ReflTransGen)

/-- Stored tasks that wait for each other: none has an agent yet, and each waits until one of them
is scheduled, runs or has completed. -/
structure TaskStore.Deadlocked (s : TaskStore) (members : List Task) : Prop where
  stored : ∀ t ∈ members, s.get t.id = .ok t
  pending : ∀ t ∈ members, t.phase = .pending ∧ t.status.agent = none
  waits : ∀ t ∈ members, ∃ d ∈ t.spec.dependencies,
    d.phase ∈ [Phase.scheduled, .running, .completed] ∧
      ∃ u ∈ members, s.get (t.id.resolve d.task) = .ok u

/-- A task and what it has become without having started. -/
structure Task.Lingers (t t' : Task) : Prop where
  id : t'.id = t.id
  spec : t'.spec = t.spec
  agent : t'.status.agent = none
  phase : t'.phase ∈ [Phase.pending, .failed, .cancelled]

/-- A store in which no task of a list has started since another store. -/
def TaskStore.Lingering (members : List Task) (s s' : TaskStore) : Prop :=
  ∀ id, ∀ t ∈ members, s.get id = .ok t → ∃ t', s'.get id = .ok t' ∧ t.Lingers t'

/-- A store in which tasks have changed by requests for their cancellation at most. -/
def TaskStore.Flags (s s' : TaskStore) : Prop :=
  ∀ id t, s.get id = .ok t →
    ∃ t', s'.get id = .ok t' ∧ t'.id = t.id ∧ t'.spec = t.spec ∧ t'.status = t.status

section Lingering

variable {members : List Task} {s s' s'' : TaskStore} {t t' next : Task}

/-- A task that is written without an agent has not started. -/
theorem Task.Shelves.lingers (h : t'.Shelves next) (ht : t.Lingers t') : t.Lingers next := by
  refine ⟨h.id.trans ht.id, h.spec.trans ht.spec, h.agent, ?_⟩
  obtain hphase | hphase | hphase := h.phase
  · rw [hphase]
    exact ht.phase
  · simp [hphase]
  · simp [hphase]

theorem TaskStore.Deadlocked.lingering (h : s.Deadlocked members) : Lingering members s s := by
  intro id t ht hget
  obtain ⟨hphase, hagent⟩ := h.pending t ht
  exact ⟨t, hget, rfl, rfl, hagent, by simp [hphase]⟩

/-- What keeps the records of tasks without an agent keeps them from starting. -/
theorem TaskStore.Lingering.of_found (h : Lingering members s s')
    (hfound : ∀ id t', s'.get id = .ok t' → t'.status.agent = none → s''.get id = .ok t') :
    Lingering members s s'' := by
  intro id t ht hget
  obtain ⟨t', hget', hlingers⟩ := h id t ht hget
  exact ⟨t', hfound id t' hget' hlingers.agent, hlingers⟩

theorem TaskStore.Lingering.of_flags (h : Lingering members s s') (hflags : s'.Flags s'') :
    Lingering members s s'' := by
  intro id t ht hget
  obtain ⟨t', hget', hlingers⟩ := h id t ht hget
  obtain ⟨t'', hget'', hid, hspec, hstatus⟩ := hflags id t' hget'
  refine ⟨t'', hget'', hid.trans hlingers.id, hspec.trans hlingers.spec, ?_, ?_⟩
  · rw [hstatus]
    exact hlingers.agent
  · rw [Task.phase, hstatus]
    exact hlingers.phase

theorem TaskStore.flags_refl (s : TaskStore) : s.Flags s :=
  fun _ t hget => ⟨t, hget, rfl, rfl, rfl⟩

/-- No dependency on a task that waits for it can be met, so none of them has all of its own met. -/
theorem TaskStore.Lingering.not_met {faults : List (Fault StoreError)}
    (h : Lingering members s s') (hdead : s.Deadlocked members) (ht : t ∈ members)
    (hlingers : t.Lingers t') :
    ¬ List.Forall₂ Dependency.Met t'.spec.dependencies (s'.answers faults t'.references) := by
  intro hmet
  obtain ⟨d, hd, hbeyond, u, hu, hget⟩ := hdead.waits t ht
  rw [← hlingers.spec] at hd
  obtain ⟨u', hget', hphase⟩ := TaskStore.get_of_met hmet d hd
  rw [hlingers.id] at hget'
  obtain ⟨u'', hget'', hwaits⟩ := h _ u hu hget
  obtain rfl := Except.ok.inj (hget'.symm.trans hget'')
  -- The phase that is asked for is none of those in which a task stays that has not started.
  have hstays := hwaits.phase
  rw [hphase] at hstays
  revert hbeyond hstays
  cases d.phase <;> decide

end Lingering

namespace Fleet

variable {f f' start : Fleet} {members : List Task} {id other : TaskId} {t u : Task} {o : Outcome}

/-- What a pass comes to in view of tasks that wait for each other: it finds no task, or it finds one
of them and holds it, or it is for another task. -/
inductive Bypasses (members : List Task) (other : TaskId) (f f' : Fleet) : Prop where
  | idle (hidles : Idles (f.begun other) f') (hstore : f'.store = f.store)
  | holds (t t' : Task) (ht : t ∈ members) (hfound : f.store.get other = .ok t')
      (hlingers : t.Lingers t') (hheld : Held t' (f.begun other) f')
  | apart (u : Task) (hfound : f.store.get other = .ok u) (hother : ∀ t ∈ members, u.id ≠ t.id)
      (htends : Tends u (f.begun other) f')

section Steps

/-- A pass finds no task, or is for the one that it finds. -/
theorem reconcile_tends (other : TaskId) (h : Proper False f) :
    Ensures (reconcile other) f fun _ f' =>
      (Idles (f.begun other) f' ∧ f'.store = f.store) ∨
        ∃ u, f.store.get other = .ok u ∧ Tends u (f.begun other) f' := by
  have hbegun : Proper False (f.begun other) := { h with }
  unfold reconcile
  refine ensures_modify ?_
  show Ensures _ (f.begun other) _
  have hread : Ensures (interruptible (getTask other)) (f.begun other) fun r f₁ =>
      Peeks (f.begun other) f₁ ∧ Quiet False (f.begun other) f₁ ∧
        ∀ u, r = some (.ok u) → f.store.get other = .ok u :=
    interruptible_spec ⟨rfl, hbegun.quiet, fun _ hr => nomatch hr⟩
      (((get_task_spec other hbegun).and (get_task_answers other (f.begun other))).imp
        fun _ _ hr => ⟨hr.2.1.peeks, hr.1.1, hr.1.2⟩)
  refine hread.bind ?_
  rintro r f₁ ⟨hpeeks, hquiet, hfound⟩
  have hidle : Idles (f.begun other) f₁ ∧ f₁.store = f.store := ⟨hpeeks.idles, hpeeks.store⟩
  match r with
  | none => exact .inl hidle
  | some (.error (.notFound key)) => exact .inl hidle
  | some (.error (.conflict key)) => exact ensures_get (.inl hidle)
  | some (.error (.unavailable cause)) => exact ensures_get (.inl hidle)
  | some (.ok u) =>
      have hu : f.store.get other = .ok u := hfound u rfl
      exact (advance_confined hquiet.proper (hquiet.get hu)).imp
        fun _ _ htends => .inr ⟨u, hu, hquiet.tends htends⟩

/-- While none of them has started, a pass over one of the tasks that wait for each other holds it. -/
theorem reconcile_bypasses (other : TaskId) (hdead : start.store.Deadlocked members)
    (h : Proper False f) (hlingering : TaskStore.Lingering members start.store f.store) :
    Ensures (reconcile other) f fun _ f' => Bypasses members other f f' := by
  -- Split by what is found and not by `other`: in a database two ids can have one key.
  by_cases hmember : ∃ t ∈ members, ∃ u, f.store.get other = .ok u ∧ u.id = t.id
  · obtain ⟨t, ht, u, hget, hid⟩ := hmember
    obtain ⟨t', hget', hlingers⟩ := hlingering t.id t ht (hdead.stored t ht)
    obtain rfl : u = t' := TaskStore.eq_of_get h.sound hget hget' (hid.trans hlingers.id.symm)
    refine (reconcile_held h hget hlingers.agent).imp ?_
    rintro _ f' (hheld | ⟨-, answers, hread, hmet⟩)
    · exact .holds t u ht hget hlingers hheld
    · obtain ⟨-, rfl⟩ := List.cons.inj hread
      exact absurd hmet (hlingering.not_met hdead ht hlingers)
  · refine (reconcile_tends other h).imp ?_
    rintro _ f' (⟨hidles, hstore⟩ | ⟨u, hu, htends⟩)
    · exact .idle hidles hstore
    · exact .apart u hu (fun t ht hid => hmember ⟨t, ht, u, hu, hid⟩) htends

theorem Bypasses.lingering (h : Bypasses members other f f')
    (hlingering : TaskStore.Lingering members start.store f.store) :
    TaskStore.Lingering members start.store f'.store := by
  cases h with
  | idle hidles hstore =>
      rw [hstore]
      exact hlingering
  | apart u hfound hother htends =>
      obtain ⟨l, -, hconfined⟩ := htends
      intro id t ht hget
      obtain ⟨t', hget', hlingers⟩ := hlingering id t ht hget
      have hapart : t'.id ≠ u.id := fun hid => hother t ht (hid.symm.trans hlingers.id)
      exact ⟨t', hconfined.others id t' hget' hapart, hlingers⟩
  | holds t t' ht hfound hlingers hheld =>
      obtain hstore | ⟨next, hshelves, hreplaces⟩ := hheld.store
      · rw [hstore]
        exact hlingering
      · intro id x hx hget
        obtain ⟨x', hget', hx'⟩ := hlingering id x hx hget
        by_cases hsame : x' = t'
        · subst hsame
          exact ⟨next, hreplaces.found id hget', hshelves.lingers hx'⟩
        · have hne : f.store.get id ≠ .ok t' := fun ht' =>
            hsame (Except.ok.inj (hget'.symm.trans ht'))
          exact ⟨x', (hreplaces.others id hne).trans hget', hx'⟩

/-- A request for cancellation changes no task but for the request. -/
theorem flag_cancelled_flags (id : TaskId) (attempts : Nat) (h : Proper False f) :
    Ensures (flagCancelled id attempts) f fun _ f' => f.store.Flags f'.store := by
  induction attempts generalizing f with
  | zero => exact TaskStore.flags_refl _
  | succ attempts ih =>
      unfold flagCancelled
      refine (get_task_spec id h).bind ?_
      rintro r f₁ ⟨hq, hfound⟩
      have hquiet {f₂ : Fleet} (hq : Quiet False f f₂) : f.store.Flags f₂.store :=
        hq.store ▸ TaskStore.flags_refl _
      rcases r with _ | e | u
      · exact hquiet hq
      · exact hquiet hq
      · have hu : f₁.store.get id = .ok u := hq.get (hfound u rfl)
        dsimp only
        cases u.isTerminal || u.cancelRequested with
        | true => exact hquiet hq
        | false =>
            have hrevision : Revision f₁.now u { u with cancelRequested := true } := .flag
            obtain ⟨hid, hversion, -, -⟩ := hrevision.keeps
            refine (put_task_spec hq.proper hu hid hversion (keeps_of_revision hq.proper.sound
              hq.proper.now hu hrevision)).bind fun r f₂ hr => ?_
            rcases r with _ | e | stored
            · exact hquiet (hq.trans hr)
            · cases e with
              | notFound => exact hquiet (hq.trans hr.1)
              | unavailable => exact hquiet (hq.trans hr.1)
              | conflict =>
                  dsimp only
                  cases attempts with
                  | zero => exact hquiet (hq.trans hr.1)
                  | succ attempts =>
                      have hsame : f₂.store = f.store := (hq.trans hr.1).store
                      exact hsame ▸ ih hr.1.proper
            · obtain ⟨-, -, -, hreplaces, -⟩ := hr
              rw [hq.store] at hreplaces
              intro i x hx
              by_cases hsame : x = u
              · subst hsame
                exact ⟨_, hreplaces.found i hx, rfl, rfl, rfl⟩
              · have hne : f.store.get i ≠ .ok u := fun ht =>
                  hsame (Except.ok.inj (hx.symm.trans ht))
                exact ⟨x, (hreplaces.others i hne).trans hx, rfl, rfl, rfl⟩

/-- No step starts any of the tasks that wait for each other. -/
theorem lingering_step (hdead : start.store.Deadlocked members) (h : Proper False f)
    (hlingering : TaskStore.Lingering members start.store f.store) (hstep : Step False f f') :
    TaskStore.Lingering members start.store f'.store := by
  cases hstep with
  | create new stored store key hinitial hnew hinsert =>
      exact hlingering.of_found fun id t hget _ =>
        (TaskStore.insert_spec h.sound hinsert hnew hinitial).2.found id t hget
  | pass other =>
      have hbypasses : Bypasses members other f ((reconcile other).run f).2 :=
        reconcile_bypasses other hdead h hlingering
      exact hbypasses.lingering hlingering
  | cancel other =>
      have hflags : Ensures (requestCancel other) f fun _ f' => f.store.Flags f'.store :=
        (flag_cancelled_flags other cancelAttempts h).bind fun _ _ hflags => hflags
      exact hlingering.of_flags hflags
  | resync pageSize =>
      have hrefreshes : Refreshes False f ((resync pageSize).run f).2 := resync_spec pageSize h
      exact hlingering.of_found fun id t hget _ => hrefreshes.store.adds.found id t hget
  | swap observed => exact hlingering
  | turn _ hproper hstore hledger =>
      exact hlingering.of_found fun id t hget _ => hstore.adds.found id t hget
  | restore host hhost hrestart =>
      subst hhost
      have hrestores : Daemon.Restores host (Daemon.restoreReservations.run.run host).2 :=
        Daemon.restore_spec h
      exact hlingering.of_found hrestores.unplaced

theorem lingering_steps (hproper : Proper False start) (hdead : start.store.Deadlocked members)
    (hrun : ReflTransGen (Step False) start f) :
    TaskStore.Lingering members start.store f.store := by
  induction hrun with
  | refl => exact hdead.lingering
  | tail hrun hstep ih => exact lingering_step hdead (proper_of_run hproper hrun) ih hstep

end Steps

section Runs

/-- Tasks that wait for each other never start, whatever other tasks do, fails, is cancelled or is
restarted: in every state of every run each of them is stored without an agent, and is pending, has
failed or was cancelled. A pass from such a state books nothing, asks the substrate for nothing and
starts nothing, unless it has found a task that is none of them, and then it asks, starts and
reserves for that one alone. -/
theorem never_started (hproper : Proper False start) (hdead : start.store.Deadlocked members)
    (hrun : ReflTransGen (Step False) start f) :
    (∀ t ∈ members, ∃ t', f.store.get t.id = .ok t' ∧ t.Lingers t') ∧
      ∀ other o f', (reconcile other).run f = (o, f') → Idles (f.begun other) f' ∨
        ∃ u, f.store.get other = .ok u ∧ (∀ t ∈ members, u.id ≠ t.id) ∧
          Tends u (f.begun other) f' := by
  have hlingering := lingering_steps hproper hdead hrun
  refine ⟨fun t ht => hlingering t.id t ht (hdead.stored t ht), fun other o f' hpass => ?_⟩
  have hbypasses : Bypasses members other f ((reconcile other).run f).2 :=
    reconcile_bypasses other hdead (proper_of_run hproper hrun) hlingering
  rw [hpass] at hbypasses
  cases hbypasses with
  | idle hidles hstore => exact .inl hidles
  | holds t t' ht hfound hlingers hheld => exact .inl hheld.toIdles
  | apart u hfound hother htends => exact .inr ⟨u, hfound, hother, htends⟩

/-- A task that waits for another one to be in a phase. -/
def waiter (name other : String) (phase : Phase) : Task :=
  .new ⟨"n", name⟩ { (default : TaskSpec) with
    image := "busybox"
    dependencies := [⟨other, phase⟩] } 1000

/-- Three tasks that wait for each other, as they are stored. -/
def circle : List Task :=
  [(waiter "a" "b" .scheduled).bump, (waiter "b" "c" .running).bump,
    (waiter "c" "n/a" .completed).bump]

/-- A fleet with an agent, a task that can run, and three that wait for each other. -/
def encircled : Fleet :=
  { submitted with
    store := .memory (circle.foldl (fun d t => d.insert t.id t)
      (Dict.empty.insert halfProcessor.id halfProcessor.bump)) }

/-- The same fleet after a pass over each task. -/
def visited : Fleet :=
  circle.foldl (fun f t => ((reconcile t.id).run f).2) ((reconcile halfProcessor.id).run encircled).2

/-- The same fleet after one of the three was cancelled. -/
def unbroken : Fleet :=
  ((reconcile ⟨"n", "b"⟩).run ((requestCancel ⟨"n", "b"⟩).run visited).2).2

theorem never_started_circle :
    (circle.map fun t => (unbroken.store.get t.id).toOption.map Task.phase) =
        [some .pending, some .cancelled, some .pending] ∧
      (∀ t ∈ circle, ∃ t', unbroken.store.get t.id = .ok t' ∧ t.Lingers t') ∧
      ∀ t ∈ circle, Idles (unbroken.begun t.id) ((reconcile t.id).run unbroken).2 := by
  have hproper : Proper False encircled := by
    refine proper_of_run (proper_submitted : Proper False submitted) ?_
    refine .head (.create (waiter "a" "b" .scheduled) _ _ _ rfl rfl rfl) ?_
    refine .head (.create (waiter "b" "c" .running) _ _ _ rfl rfl rfl) ?_
    exact .single (.create (waiter "c" "n/a" .completed) _ _ _ rfl rfl rfl)
  have hdead : encircled.store.Deadlocked circle :=
    ⟨by decide +kernel, by decide +kernel, by decide +kernel⟩
  have hrun : ReflTransGen (Step False) encircled unbroken := by
    refine .head (.pass halfProcessor.id) (.head (.pass ⟨"n", "a"⟩) ?_)
    refine .head (.pass ⟨"n", "b"⟩) (.head (.pass ⟨"n", "c"⟩) ?_)
    exact .head (.cancel ⟨"n", "b"⟩) (.single (.pass ⟨"n", "b"⟩))
  obtain ⟨hlingers, hpasses⟩ := never_started hproper hdead hrun
  refine ⟨by decide +kernel, hlingers, fun t ht => ?_⟩
  obtain hidles | ⟨u, hu, hother, -⟩ := hpasses t.id _ _ rfl
  · exact hidles
  · obtain ⟨t', hget, ht'⟩ := hlingers t ht
    obtain rfl := Except.ok.inj (hget.symm.trans hu)
    exact absurd ht'.id (hother t ht)

end Runs

end Fleet

end TaskFleet
