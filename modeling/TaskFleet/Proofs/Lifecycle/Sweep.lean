import TaskFleet.Proofs.Lifecycle.Executions

/-!
# What the substrate is left with

If the substrate never fails to forget an execution, it keeps of all executions that were started
just those that nobody has forgotten, and these are the ones that no task which is over has recorded
(`swept_of_run`). An execution that was started, and whose handle could not be recorded, is stopped.
It is not forgotten then, and stays in the substrate when everything is over (`unrecorded_kept`).
-/

namespace TaskFleet

open Relation (ReflTransGen)

/-- Books in which the executions of tasks that are over are forgotten, or about to be, and no
others; and the substrate has what was started and not forgotten. -/
structure Books.Swept (b : Books) : Prop where
  lawful : b.store.Lawful
  reliable : b.forgets = []
  finished : ∀ t ∈ b.store.tasks, t.isTerminal = true → ∀ handle ∈ t.status.execution,
    .forget handle ∈ b.trail ∨ handle ∈ b.account.ended
  forgotten : ∀ handle, .forget handle ∈ b.trail →
    ∃ t ∈ b.store.tasks, t.isTerminal = true ∧ t.status.execution = some handle
  kept : ∀ handle, (b.substrate.executions.find? handle).isSome = true ↔
    (∃ id, .start handle id ∈ b.trail) ∧ .forget handle ∉ b.trail

section Sweep

variable {steady : Prop} {now : Nat} {b b' : Books} {d : Deed} {t next : Task}

namespace Books

/-- What is left has nothing to do with what is reserved. -/
theorem Swept.rebook (h : b.Swept) (ledger : Ledger) (reserved : List (String × ResourceSet)) :
    Swept { b with ledger, account.reserved := reserved } :=
  ⟨h.lawful, h.reliable, h.finished, h.forgotten, h.kept⟩

/-- A deed that neither starts nor forgets an execution leaves the books swept. -/
theorem Swept.push (h : b.Swept) {account : Account}
    (hended : account.ended = b.account.ended) (hstart : ∀ handle id, d ≠ .start handle id)
    (hforget : ∀ handle, d ≠ .forget handle) :
    Swept { b with trail := d :: b.trail, account } := by
  have hforgets (handle : String) : .forget handle ∈ d :: b.trail ↔ .forget handle ∈ b.trail := by
    simp [Ne.symm (hforget handle)]
  have hstarts (handle : String) (id : TaskId) :
      .start handle id ∈ d :: b.trail ↔ .start handle id ∈ b.trail := by
    simp [Ne.symm (hstart handle id)]
  refine ⟨h.lawful, h.reliable, ?_, ?_, ?_⟩
  · intro t ht hterminal handle hexecution
    rw [hforgets, hended]
    exact h.finished t ht hterminal handle hexecution
  · intro handle hmem
    exact h.forgotten handle ((hforgets handle).1 hmem)
  · intro handle
    simp only [hforgets, hstarts]
    exact h.kept handle

/-- A task that ends with an execution leaves it to the pass, for it has an agent. -/
theorem Swept.write {store : TaskStore} {account : Account} (h : b.Swept)
    (hlawful : store.Lawful) (ht : t ∈ b.store.tasks)
    (hreplaces : b.store.Replaces t next.bump store)
    (hover : ∀ t ∈ b.store.tasks, t.isTerminal = true → t ∈ store.tasks)
    (hpermits : b.Permits t next account) :
    Swept { b with store, trail := .store next.bump :: b.trail, account } := by
  obtain ⟨pre, post, hold, hnew⟩ := hreplaces.split
  have hpushed : Swept { b with trail := .store next.bump :: b.trail } := h.push rfl nofun nofun
  refine ⟨hlawful, h.reliable, ?_, ?_, hpushed.kept⟩
  · intro x hx hterminal handle hexecution
    rw [hpermits.ended]
    have hbefore (hmem : x ∈ b.store.tasks) : .forget handle ∈ .store next.bump :: b.trail ∨
        handle ∈ t.dropped next ++ b.account.ended :=
      (hpushed.finished x hmem hterminal handle hexecution).imp_right (List.mem_append_right _)
    change x ∈ store.tasks at hx
    rw [hnew] at hx
    rw [hold] at hbefore
    obtain hpre | rfl | hpost := by simpa using hx
    · exact hbefore (List.mem_append_left _ hpre)
    · obtain ⟨hsame, -⟩ | ⟨-, hlive, -⟩ := hpermits.execution
      · have hrecorded : t.status.execution = some handle := hsame.symm.trans hexecution
        have hplaced := ((h.lawful t ht).handedOff (.inr (by rw [hrecorded]; rfl))).1
        refine .inr (List.mem_append_left _ ?_)
        unfold Task.dropped
        rw [if_pos ⟨hterminal, hplaced⟩, hrecorded]
        exact List.mem_singleton_self _
      -- What has just been handed off is not over.
      · exact nomatch hlive.symm.trans hterminal
    · exact hbefore (List.mem_append_right _ (List.mem_cons_of_mem _ hpost))
  · intro handle hmem
    obtain ⟨t, ht, hterminal, hexecution⟩ := hpushed.forgotten handle hmem
    exact ⟨t, hover t ht hterminal, hterminal, hexecution⟩

/-- A new execution is in the substrate, and nobody has forgotten it. -/
theorem Swept.start {substrate : Substrate} {request : ExecutionRequest} {handle : String}
    (h : b.Swept) (horderly : b.Orderly)
    (hsubmit : b.substrate.submit request = .ok (substrate, handle)) :
    (b.launched substrate handle request.task).Swept := by
  obtain ⟨hfresh, -, -, status, hexecutions⟩ := Substrate.submit_spec hsubmit
  have hunforgotten : .forget handle ∉ b.trail := fun hmem =>
    horderly.known _ hmem handle rfl hfresh
  have htrail : (b.launched substrate handle request.task).trail =
      .start handle request.task :: b.trail := rfl
  have hforgets (other : String) :
      .forget other ∈ .start handle request.task :: b.trail ↔ .forget other ∈ b.trail := by simp
  refine ⟨h.lawful, h.reliable, ?_, ?_, ?_⟩
  · intro t ht hterminal other hexecution
    rw [htrail, hforgets]
    exact h.finished t ht hterminal other hexecution
  · intro other hmem
    exact h.forgotten other ((hforgets other).1 hmem)
  · intro other
    show (substrate.executions.find? other).isSome = true ↔ _
    rw [htrail, hforgets, hexecutions, Dict.find?_insert]
    by_cases hother : other = handle
    · subst hother
      simp [hunforgotten]
    · rw [if_neg hother, h.kept other]
      simp [hother]

/-- An execution that is forgotten is out of the substrate, and belongs to a task that is over. -/
theorem Swept.forget {handle : String} {ended : List String} (h : b.Swept)
    (haccounted : b.Accounted) (haccount : b.account.ended = handle :: ended) :
    Swept { b with
      substrate :=
        if (Fault.next b.forgets).1.isSome then b.substrate else b.substrate.forget handle
      forgets := (Fault.next b.forgets).2
      trail := .forget handle :: b.trail
      account.ended := ended } := by
  have hnone : (Fault.next b.forgets).1 = none := by rw [h.reliable]; rfl
  have hrest : (Fault.next b.forgets).2 = [] := by rw [h.reliable]; rfl
  have hstarts (other : String) (id : TaskId) :
      .start other id ∈ .forget handle :: b.trail ↔ .start other id ∈ b.trail := by simp
  refine ⟨h.lawful, hrest, ?_, ?_, ?_⟩
  · intro t ht hterminal other hexecution
    obtain hforgotten | hended := h.finished t ht hterminal other hexecution
    · exact .inl (List.mem_cons_of_mem _ hforgotten)
    rw [haccount] at hended
    obtain rfl | hlater := List.mem_cons.1 hended
    · exact .inl List.mem_cons_self
    · exact .inr hlater
  · intro other hmem
    obtain hlatest | hearlier := List.mem_cons.1 hmem
    · cases hlatest
      have hended : handle ∈ b.account.ended := by
        rw [haccount]
        exact List.mem_cons_self
      obtain ⟨t, ht, hterminal, hexecution, -⟩ := haccounted.ended handle hended
      exact ⟨t, ht, hterminal, hexecution⟩
    · exact h.forgotten other hearlier
  · intro other
    dsimp only
    rw [hnone]
    show ((b.substrate.executions.erase handle).find? other).isSome = true ↔ _
    rw [Dict.find?_erase]
    simp only [hstarts]
    by_cases hother : other = handle
    · subst hother
      simp
    · rw [if_neg hother, h.kept other]
      simp [hother]

/-- Each move leaves the books swept. -/
theorem swept_move (hsteady : steady) (haccounted : b.Accounted) (horderly : b.Orderly)
    (h : b.Swept) (hmove : Move steady now b b') : b'.Swept := by
  have hlawful := lasting_move lasting_lawful hmove h.lawful
  have hover := fun t => over_move (t := t) hmove
  cases hmove with
  | reserve | release | drop => exact h.rebook _ _
  | note d hallows =>
      refine h.push rfl ?_ ?_
      · rintro handle id rfl
        exact nomatch hallows
      · rintro handle rfl
        exact nomatch hallows
  | write t next store account hget hlive hrevision hreplaces hpermits =>
      exact h.write hlawful (TaskStore.mem_tasks_of_get hget) hreplaces hover (hpermits hsteady)
  | start request substrate handle hsubmit => exact h.start horderly hsubmit
  | giveUp handle id started haccount => exact h.push rfl nofun nofun
  | forget handle ended haccount => exact h.forget haccounted haccount
  | upset _ hunsteady => exact absurd hsteady hunsteady

/-- Books stay swept through all moves. -/
theorem swept_moves (hsteady : steady) (haccounted : b.Accounted) (horderly : b.Orderly)
    (h : b.Swept) (hmoves : ReflTransGen (Move steady now) b b') : b'.Swept := by
  induction hmoves with
  | refl => exact h
  | tail hmoves hmove ih =>
      exact swept_move hsteady (accounted_moves hsteady haccounted hmoves)
        (orderly_moves hsteady haccounted horderly hmoves) ih hmove

end Books

end Sweep

namespace Fleet

variable {start f f' : Fleet} {handle : String}

/-- A round after which no failure of stopping or forgetting an execution is to come. -/
structure ReliableRound (f f' : Fleet) : Prop where
  round : Round True f f'
  cancels : f'.faults.cancel = []
  forgets : f'.faults.forget = []

/-- Books stay swept while nothing is done. -/
theorem swept_rests (hlawful : f'.store.Lawful) (hreliable : f'.faults.forget = [])
    (h : f.books.Swept) (hrests : Rests True f f') : f'.books.Swept := by
  have hstore := hrests.store trivial
  have htrail : f'.books.trail = f.books.trail := hrests.trail
  refine ⟨hlawful, hreliable, ?_, ?_, ?_⟩
  · intro t ht hterminal handle hexecution
    rw [htrail]
    obtain hold | hinitial := hstore.mem_tasks.2 ht
    · exact h.finished t hold hterminal handle hexecution
    · rw [hinitial] at hexecution
      exact nomatch hexecution
  · intro handle hmem
    rw [htrail] at hmem
    obtain ⟨t, ht, hover⟩ := h.forgotten handle hmem
    exact ⟨t, hstore.mem_tasks.1 ht, hover⟩
  · intro handle
    rw [htrail, ← h.kept handle]
    exact Bool.eq_iff_iff.1 ((hrests.substrate trivial).kept handle)

/-- Books stay swept through every round in which no call to drop an execution fails. -/
theorem swept_round (hproper : Proper True f) (haccounted : f.books.Accounted)
    (horderly : f.books.Orderly) (h : f.books.Swept) (hround : ReliableRound f f') :
    f'.books.Swept := by
  have hlawful : f'.store.Lawful := lawful_step hproper hround.round.step h.lawful
  obtain ⟨-, -, l, -, hmoves⟩ | hrests := round_spec hproper hround.round
  · exact Books.swept_moves trivial (haccounted.rebook l []) (horderly.rebook l [])
      (h.rebook l []) hmoves
  · exact swept_rests hlawful hround.forgets h hrests

/-- In every state of a run of such rounds from a store without tasks the books are in order and
swept. -/
theorem swept_books_of_run (hproper : Proper True start) (htasks : start.store.tasks = [])
    (htrail : start.trail = []) (hexecutions : start.substrate.executions = .empty)
    (hforgets : start.faults.forget = []) (hrun : ReflTransGen ReliableRound start f) :
    Proper True f ∧ f.books.Accounted ∧ f.books.Orderly ∧ f.books.Swept := by
  have hnone {t : Task} (ht : t ∈ start.store.tasks) : False := by
    rw [htasks] at ht
    exact nomatch ht
  induction hrun with
  | refl =>
      have hdistinct : Distinct start := by
        refine ⟨?_, ?_⟩
        · rw [htasks]
          exact .nil
        · rw [htasks]
          exact fun _ hmem => nomatch hmem
      have hstart : ReflTransGen (Round True) start start := .refl
      have haccounted := (accounted_of_run hproper htrail hstart).2
      have horderly := orderly_of_run trivial hproper htrail hdistinct hstart
      have hnothing : start.books.trail = [] := htrail
      have hempty : start.books.substrate.executions = .empty := hexecutions
      refine ⟨hproper, haccounted, horderly, fun t ht => (hnone ht).elim, hforgets,
        fun t ht => (hnone ht).elim, ?_, ?_⟩
      · rw [hnothing]
        exact fun _ hmem => nomatch hmem
      · intro handle
        rw [hnothing, hempty]
        exact ⟨nofun, fun ⟨⟨_, hstart⟩, _⟩ => nomatch hstart⟩
  | tail _ hround ih =>
      obtain ⟨hproper, haccounted, horderly, hswept⟩ := ih
      exact ⟨proper_round hproper hround.round, accounted_round hproper haccounted hround.round,
        orderly_round trivial hproper haccounted horderly hround.round,
        swept_round hproper haccounted horderly hswept hround⟩

/-- In every state of a run from a fleet without tasks in which forgetting does not fail, the
substrate has the executions that were started and not forgotten, and the forgotten ones are those
that a task which is over has recorded. So when every task is over, each execution that was started
has been forgotten, or it was stopped and no task has recorded it. -/
theorem swept_of_run (hproper : Proper True start) (htasks : start.store.tasks = [])
    (htrail : start.trail = []) (hexecutions : start.substrate.executions = .empty)
    (hforgets : start.faults.forget = []) (hrun : ReflTransGen ReliableRound start f) :
    (∀ handle, (f.substrate.executions.find? handle).isSome = true ↔
      (∃ id, .start handle id ∈ f.trail) ∧ .forget handle ∉ f.trail) ∧
      (∀ handle, .forget handle ∈ f.trail ↔
        ∃ t ∈ f.store.tasks, t.isTerminal = true ∧ t.status.execution = some handle) ∧
      ((∀ t ∈ f.store.tasks, t.isTerminal = true) → ∀ handle id, .start handle id ∈ f.trail →
        .forget handle ∈ f.trail ∨
          .cancel handle ∈ f.trail ∧ ∀ t ∈ f.store.tasks, t.status.execution ≠ some handle) := by
  obtain ⟨-, haccounted, -, hswept⟩ :=
    swept_books_of_run hproper htasks htrail hexecutions hforgets hrun
  have hforgotten {t : Task} {handle : String} (ht : t ∈ f.store.tasks)
      (hterminal : t.isTerminal = true) (hexecution : t.status.execution = some handle) :
      .forget handle ∈ f.trail := by
    obtain hforget | hended := hswept.finished t ht hterminal handle hexecution
    · exact hforget
    -- Between two passes nothing is left to be followed up.
    · exact nomatch hended
  refine ⟨hswept.kept, fun handle => ⟨hswept.forgotten handle, ?_⟩, ?_⟩
  · rintro ⟨t, ht, hterminal, hexecution⟩
    exact hforgotten ht hterminal hexecution
  · intro hover handle id hstart
    by_cases hrecorded : ∃ t ∈ f.store.tasks, t.status.execution = some handle
    · obtain ⟨t, ht, hexecution⟩ := hrecorded
      exact .inl (hforgotten ht (hover t ht) hexecution)
    · have hnone (t : Task) (ht : t ∈ f.store.tasks) : t.status.execution ≠ some handle :=
        fun hexecution => hrecorded ⟨t, ht, hexecution⟩
      obtain ⟨later, earlier, hsplit⟩ := List.append_of_mem hstart
      obtain ⟨t, hget, hexecution⟩ | hcancel | hstarted :=
        haccounted.owned handle id later earlier hsplit
      · exact absurd hexecution (hnone t (TaskStore.mem_tasks_of_get hget))
      · have hstopped : .cancel handle ∈ f.trail := by
          rw [hsplit]
          exact List.mem_append_left _ hcancel
        exact .inr ⟨hstopped, hnone⟩
      · exact nomatch hstarted

/-- The one execution was recorded, and forgotten when its task was over. -/
theorem swept_of_run_cancelled :
    ReflTransGen ReliableRound (fresh 1000 runsOn) cancelled ∧
      (∀ t ∈ cancelled.store.tasks, t.isTerminal = true) ∧
      .forget "exec-1" ∈ cancelled.trail ∧
      (cancelled.substrate.executions.find? "exec-1").isSome = false ∧
      ∀ handle id, .start handle id ∈ cancelled.trail → .forget handle ∈ cancelled.trail ∨
        .cancel handle ∈ cancelled.trail ∧
          ∀ t ∈ cancelled.store.tasks, t.status.execution ≠ some handle := by
  have hproper : Proper True (fresh 1000 runsOn) := proper_fresh (by decide) in_range_runs_on
  have hrun : ReflTransGen ReliableRound (fresh 1000 runsOn) cancelled := by
    refine .head ⟨.swap [oneProcessor], rfl, rfl⟩ ?_
    refine .head ⟨.create halfProcessor halfProcessor.bump _ _ rfl rfl rfl, rfl, rfl⟩ ?_
    refine .head ⟨.pass halfProcessor.id, by decide +kernel, by decide +kernel⟩ ?_
    refine .head ⟨.cancel halfProcessor.id, by decide +kernel, by decide +kernel⟩ ?_
    exact .single ⟨.pass halfProcessor.id, by decide +kernel, by decide +kernel⟩
  have hover : ∀ t ∈ cancelled.store.tasks, t.isTerminal = true := by decide +kernel
  obtain ⟨-, hforgotten, hleft⟩ := swept_of_run hproper rfl rfl rfl rfl hrun
  have hforget := (hforgotten "exec-1").2 (by decide +kernel)
  exact ⟨hrun, hover, hforget, by decide +kernel, hleft hover⟩

/-- A fleet in which the handle of the first execution could not be recorded. -/
def unrecorded : Fleet :=
  ((reconcile halfProcessor.id).run { submitted with
    faults.put := [⟨1, .conflict halfProcessor.id.key⟩] }).2

/-- The task has been handed off again, and then cancelled. -/
def closed : Fleet :=
  ((reconcile halfProcessor.id).run
    ((requestCancel halfProcessor.id).run ((reconcile halfProcessor.id).run unrecorded).2).2).2

/-- Every task is over, and the substrate still has the first execution, which was not forgotten. -/
theorem unrecorded_kept :
    ReflTransGen ReliableRound (fresh 1000 runsOn) closed ∧
      (∀ t ∈ closed.store.tasks, t.isTerminal = true) ∧
      (closed.substrate.executions.find? "exec-1").isSome = true ∧
      (∃ id, .start "exec-1" id ∈ closed.trail) ∧ .forget "exec-1" ∉ closed.trail := by
  have hproper : Proper True (fresh 1000 runsOn) := proper_fresh (by decide) in_range_runs_on
  have hconflict : Proper True { submitted with
      faults.put := [⟨1, .conflict halfProcessor.id.key⟩] } :=
    { proper_submitted with
      faults := fun _ fault hfault key => by
        obtain rfl := List.mem_singleton.1 hfault
        exact nofun }
  have hrun : ReflTransGen ReliableRound (fresh 1000 runsOn) closed := by
    refine .head ⟨.swap [oneProcessor], rfl, rfl⟩ ?_
    refine .head ⟨.create halfProcessor halfProcessor.bump _ _ rfl rfl rfl, rfl, rfl⟩ ?_
    refine .head ⟨.turn _ hconflict (TaskStore.same_tasks_refl _) rfl (fun _ => rfl)
      fun _ => Substrate.goes_on_of_eq rfl, rfl, rfl⟩ ?_
    refine .head ⟨.pass halfProcessor.id, by decide +kernel, by decide +kernel⟩ ?_
    refine .head ⟨.pass halfProcessor.id, by decide +kernel, by decide +kernel⟩ ?_
    refine .head ⟨.cancel halfProcessor.id, by decide +kernel, by decide +kernel⟩ ?_
    exact .single ⟨.pass halfProcessor.id, by decide +kernel, by decide +kernel⟩
  have hkept : (closed.substrate.executions.find? "exec-1").isSome = true := by decide +kernel
  obtain ⟨-, -, -, hswept⟩ := swept_books_of_run hproper rfl rfl rfl rfl hrun
  obtain ⟨hstarted, hunforgotten⟩ := (hswept.kept "exec-1").1 hkept
  exact ⟨hrun, by decide +kernel, hkept, hstarted, hunforgotten⟩

end Fleet

end TaskFleet
