import Mathlib.Algebra.Order.BigOperators.Group.List
import Mathlib.Algebra.Order.Group.Nat
import TaskFleet.Proofs.Lifecycle.Conservation

/-!
# Agents that come back

An agent that leaves the ledger and comes back has nothing reserved then, while the tasks that were
placed on it before go on, and give back what they record when they end. So the reservations of the
tasks that were placed on it since it came back can fall short by what earlier tasks have given back,
and by no more (`newcomers_reserved`). The same bounds what may be missing when a task is handed to
the substrate (`asked_with_reservation`). That something can be missing is shown by `stale_release`
and `asked_with_nothing`.
-/

namespace TaskFleet

open Relation (ReflTransGen)

/-- What tasks record as reserved, of a kind. -/
def recorded (tasks : List Task) (k : ResourceKind) : Nat :=
  (tasks.map fun t => (t.status.resourcesUsed.get k).millis).sum

namespace TaskStore

/-- The live tasks on an agent. -/
def holders (s : TaskStore) (agent : String) : List Task :=
  s.tasks.filter fun t => !t.isTerminal && t.status.agent = some agent

/-- The live tasks on an agent that were not on it in an earlier store. -/
def newcomers (before after : TaskStore) (agent : String) : List Task :=
  (after.holders agent).filter fun t => t.id ∉ (before.holders agent).map Task.id

/-- The live tasks on an agent that are not on it any more in a later store. -/
def leavers (before after : TaskStore) (agent : String) : List Task :=
  newcomers after before agent

/-- Every live task on an agent is later as it was, or over. -/
def Kept (before after : TaskStore) (agent : String) : Prop :=
  ∀ t ∈ before.holders agent, ∃ t', after.get t.id = .ok t' ∧ t'.id = t.id ∧
    (t'.isTerminal = true ∨ t'.holding = t.holding)

end TaskStore

section Recorded

variable {before after : TaskStore} {agent : String} {k : ResourceKind} {t : Task}

theorem TaskStore.mem_holders_iff {s : TaskStore} :
    t ∈ s.holders agent ↔ t ∈ s.tasks ∧ t.isTerminal = false ∧ t.status.agent = some agent := by
  unfold TaskStore.holders
  simp

/-- Who holds something of an agent is a live task there. -/
theorem holder_of_holding {amount : ResourceSet} (h : t.holding = [(agent, amount)]) :
    t.isTerminal = false ∧ t.status.agent = some agent ∧ t.status.resourcesUsed = amount := by
  cases hlive : t.isTerminal with
  | true =>
      rw [holding_of_terminal hlive] at h
      exact nomatch h
  | false =>
      cases hagent : t.status.agent with
      | none =>
          rw [holding_of_no_agent hagent] at h
          exact nomatch h
      | some other =>
          rw [holding_of_agent hlive hagent] at h
          cases h
          exact ⟨rfl, rfl, rfl⟩

theorem TaskStore.mem_holders_of_holding {s s' : TaskStore} {t' : Task}
    (ht : t ∈ s.holders agent) (ht' : t' ∈ s'.tasks) (h : t'.holding = t.holding) :
    t' ∈ s'.holders agent := by
  obtain ⟨-, hlive, hagent⟩ := TaskStore.mem_holders_iff.1 ht
  rw [holding_of_agent hlive hagent] at h
  obtain ⟨hlive', hagent', -⟩ := holder_of_holding h
  exact TaskStore.mem_holders_iff.2 ⟨ht', hlive', hagent'⟩

/-- What tasks record is what those with a property record and what those without it do. -/
theorem recorded_filter (tasks : List Task) (p : Task → Bool) :
    recorded (tasks.filter p) k + recorded (tasks.filter fun t => !p t) k = recorded tasks k := by
  have hperm := (List.filter_append_perm p tasks).map fun t =>
    (t.status.resourcesUsed.get k).millis
  have hsum := hperm.sum_eq
  rw [List.map_append, List.sum_append] at hsum
  exact hsum

theorem le_recorded {tasks : List Task} (ht : t ∈ tasks) :
    (t.status.resourcesUsed.get k).millis ≤ recorded tasks k :=
  List.single_le_sum (fun _ _ => Nat.zero_le _) _ (List.mem_map.2 ⟨t, ht, rfl⟩)

/-- Of tasks with different ids, all of which are among others with what they record, less is
recorded. -/
theorem recorded_le {l m : List Task} (hnodup : (l.map Task.id).Nodup)
    (hsub : ∀ t ∈ l, ∃ t' ∈ m, t'.id = t.id ∧ t'.status.resourcesUsed = t.status.resourcesUsed) :
    recorded l k ≤ recorded m k := by
  let entry : Task → TaskId × Nat := fun t => (t.id, (t.status.resourcesUsed.get k).millis)
  have hentries : (l.map entry).Nodup := by
    refine List.Nodup.of_map Prod.fst ?_
    rw [List.map_map]
    exact hnodup
  have hsubset : l.map entry ⊆ m.map entry := by
    intro e he
    obtain ⟨t, ht, rfl⟩ := List.mem_map.1 he
    obtain ⟨t', ht', hid, hused⟩ := hsub t ht
    exact List.mem_map.2 ⟨t', ht', by simp [entry, hid, hused]⟩
  obtain ⟨l', hperm, hsublist⟩ := List.subperm_of_subset hentries hsubset
  have hl : recorded l k = ((l.map entry).map Prod.snd).sum := by
    rw [List.map_map]
    rfl
  have hm : recorded m k = ((m.map entry).map Prod.snd).sum := by
    rw [List.map_map]
    rfl
  rw [hl, hm, ← (hperm.map Prod.snd).sum_eq]
  exact (hsublist.map Prod.snd).sum_le_sum fun _ _ => Nat.zero_le _

/-- A live task on an agent that is still one on it later records what it did. -/
theorem TaskStore.Kept.used_eq (hafter : after.Sound) (hkept : before.Kept after agent) {t' : Task}
    (ht : t ∈ before.holders agent) (ht' : t' ∈ after.holders agent) (hid : t'.id = t.id) :
    t'.status.resourcesUsed = t.status.resourcesUsed := by
  obtain ⟨found, hget, -, hor⟩ := hkept t ht
  obtain ⟨hmem, hlive, hagent⟩ := TaskStore.mem_holders_iff.1 ht'
  have hget' := TaskStore.get_of_mem hafter hmem
  rw [hid, hget] at hget'
  cases hget'
  obtain hover | hsame := hor
  · rw [hlive] at hover
    exact nomatch hover
  · obtain ⟨-, hbefore, hplaced⟩ := TaskStore.mem_holders_iff.1 ht
    exact (holder_of_holding (hsame.trans (holding_of_agent hbefore hplaced))).2.2

/-- What is recorded on an agent has grown by what newcomers record, except for what leavers do. -/
theorem recorded_newcomers_le (hbefore : before.Sound) (hafter : after.Sound)
    (hkept : before.Kept after agent) :
    recorded (before.newcomers after agent) k + recorded (before.holders agent) k ≤
      recorded (after.holders agent) k + recorded (before.leavers after agent) k := by
  let stays : Task → Bool := fun t => !decide (t.id ∉ (before.holders agent).map Task.id)
  let remains : Task → Bool := fun t => !decide (t.id ∉ (after.holders agent).map Task.id)
  have hgrown : recorded (before.newcomers after agent) k +
      recorded ((after.holders agent).filter stays) k = recorded (after.holders agent) k :=
    recorded_filter _ _
  have hsplit : recorded (before.leavers after agent) k +
      recorded ((before.holders agent).filter remains) k = recorded (before.holders agent) k :=
    recorded_filter _ _
  have hle : recorded ((before.holders agent).filter remains) k ≤
      recorded ((after.holders agent).filter stays) k := by
    refine recorded_le ?_ ?_
    · have hids := TaskStore.nodup_ids hbefore
      exact hids.sublist ((List.filter_sublist.trans List.filter_sublist).map Task.id)
    · intro t ht
      obtain ⟨hholder, hremains⟩ := List.mem_filter.1 ht
      obtain ⟨t', ht', hid⟩ : ∃ t' ∈ after.holders agent, t'.id = t.id := by
        simpa [remains] using hremains
      have hstays : stays t' = true := by
        simpa [stays, hid] using ⟨t, hholder, rfl⟩
      exact ⟨t', List.mem_filter.2 ⟨ht', hstays⟩, hid, hkept.used_eq hafter hholder ht' hid⟩
  omega

end Recorded

/-- Books in which what is held of an agent is reserved on it, up to what was recorded on it in an
earlier store, and every task that was on it then still is or is over. -/
structure Books.Tenured (b : Books) (agent : String) (old : TaskStore) : Prop where
  covered : ∀ k, held b.holdings agent k ≤
    ((b.ledger.reservedOn agent).get k).millis + recorded (old.holders agent) k
  kept : old.Kept b.store agent

/-- What the tasks of a store hold of an agent is what its live tasks there record. -/
theorem held_eq_recorded (s : TaskStore) (agent : String) (k : ResourceKind) :
    held (s.tasks.flatMap Task.holding) agent k = recorded (s.holders agent) k :=
  Fleet.held_holdings s.tasks agent k

/-- What newcomers record is reserved, up to what leavers recorded. -/
theorem Books.Tenured.newcomers_le {b : Books} {agent : String} {old : TaskStore}
    (hb : b.Tenured agent old) (hold : old.Sound) (hsound : b.store.Sound) (k : ResourceKind) :
    recorded (old.newcomers b.store agent) k ≤
      ((b.ledger.reservedOn agent).get k).millis + recorded (old.leavers b.store agent) k := by
  have hgrown := recorded_newcomers_le (k := k) hold hsound hb.kept
  have hcovered := hb.covered k
  rw [Books.holdings, held_append, held_eq_recorded] at hcovered
  omega

section Moves

variable {steady : Prop} {now : Nat} {b b' : Books} {agent : String} {old : TaskStore}

/-- No move takes a live task from an agent of the ledger. -/
theorem kept_move (hsteady : steady) (hthere : (b.ledger.capacity? agent).isSome = true)
    (h : Move steady now b b') (hkept : old.Kept b.store agent) : old.Kept b'.store agent := by
  intro first hfirst
  obtain ⟨t', hget, hid, hor⟩ := hkept first hfirst
  cases h with
  | note | reserve | release | drop | start | giveUp | forget => exact ⟨t', hget, hid, hor⟩
  | write t next store account hself hlive hrevision hreplaces hpermits =>
      by_cases hsame : b.store.get first.id = .ok t
      · rw [hget] at hsame
        cases hsame
        refine ⟨next.bump, hreplaces.found _ hget, hrevision.keeps.1.trans hid, ?_⟩
        obtain hover | hholding := hor
        · rw [hlive] at hover
          exact nomatch hover
        cases hterminal : next.isTerminal with
        | true => exact .inl hterminal
        | false =>
            obtain ⟨-, hbefore, hplaced⟩ := TaskStore.mem_holders_iff.1 hfirst
            have hagent := (holder_of_holding
              (hholding.trans (holding_of_agent hbefore hplaced))).2.1
            -- The agent is there, so the task is not taken from it before its end.
            have hstays := (hpermits hsteady).stays agent hagent hthere hterminal
            exact .inr (hstays.trans hholding)
      · refine ⟨t', ?_, hid, hor⟩
        rw [hreplaces.others _ hsame]
        exact hget
  | upset _ hunsteady => exact absurd hsteady hunsteady

theorem tenured_move (hsteady : steady) (hroomy : b.ledger.Roomy)
    (hthere : (b'.ledger.capacity? agent).isSome = true) (hb : b.Tenured agent old)
    (h : Move steady now b b') : b'.Tenured agent old := by
  obtain ⟨c', hc'⟩ := Option.isSome_iff_exists.1 hthere
  obtain ⟨c, hc, hkinds⟩ := reserved_of_move hsteady hroomy h hc'
  refine ⟨fun k => ?_, kept_move hsteady (by rw [hc]; rfl) h hb.kept⟩
  obtain ⟨more, less, hreserved, hheld⟩ := hkinds k
  have hbefore := hb.covered k
  rw [Ledger.reserved_on_eq hc] at hbefore
  rw [Ledger.reserved_on_eq hc']
  omega

/-- An agent that is in the ledger after some moves was there before. -/
theorem there_of_moves (hsteady : steady) (h : ReflTransGen (Move steady now) b b')
    (hthere : (b'.ledger.capacity? agent).isSome = true) :
    (b.ledger.capacity? agent).isSome = true := by
  have hsame := congrArg Option.isSome (allocatable_of_moves hsteady h agent)
  rw [Option.isSome_map, Option.isSome_map] at hsame
  rw [← hsame]
  exact hthere

theorem tenured_moves (hsteady : steady) (h : ReflTransGen (Move steady now) b b')
    (hroomy : b'.ledger.Roomy) (hthere : (b'.ledger.capacity? agent).isSome = true)
    (hb : b.Tenured agent old) : b'.Tenured agent old := by
  induction h with
  | refl => exact hb
  | tail hmoves hmove ih =>
      -- Room and the agent are known of the last ledger, and moves change neither.
      have hmid := roomy_of_moves hsteady (.single hmove) hroomy
      have hbetween := there_of_moves hsteady (.single hmove) hthere
      exact tenured_move hsteady hmid hthere (ih hmid hbetween) hmove

/-- Whatever the pass at work has asked of the substrate, it was in some books before. -/
theorem asked_of_moves {request : ExecutionRequest} {ledger : Ledger} {store : TaskStore}
    (hsteady : steady) (h : ReflTransGen (Move steady now) b b')
    (hask : .ask request ledger store ∈ thisPass b'.trail) :
    .ask request ledger store ∈ thisPass b.trail ∨
      ∃ mid, ReflTransGen (Move steady now) b mid ∧ ReflTransGen (Move steady now) mid b' ∧
        mid.Allows (.ask request ledger store) := by
  induction h with
  | refl => exact .inl hask
  | tail hmoves hmove ih =>
      rename_i mid last
      have hearlier (h : .ask request ledger store ∈ thisPass mid.trail) :
          .ask request ledger store ∈ thisPass b.trail ∨
            ∃ mid, ReflTransGen (Move steady now) b mid ∧ ReflTransGen (Move steady now) mid last ∧
              mid.Allows (.ask request ledger store) := by
        obtain hbefore | ⟨first, hfirst, hrest, hallows⟩ := ih h
        · exact .inl hbefore
        · exact .inr ⟨first, hfirst, hrest.tail hmove, hallows⟩
      cases hmove with
      | reserve | release | drop => exact hearlier hask
      | write | start | giveUp | forget =>
          obtain ⟨-, hlatest | hask⟩ := mem_this_pass_cons.1 hask
          · exact nomatch hlatest
          · exact hearlier hask
      | note d hallows =>
          obtain ⟨-, hlatest | hask⟩ := mem_this_pass_cons.1 hask
          · subst hlatest
            exact .inr ⟨mid, hmoves, .single (.note _ hallows), hallows⟩
          · exact hearlier hask
      | upset _ hunsteady => exact absurd hsteady hunsteady

end Moves

namespace Fleet

variable {before f f' : Fleet} {agent : String} {old : TaskStore} {k : ResourceKind}

/-- A step after which an agent is in the ledger, and no agent offers the greatest quantity. -/
structure Stays (agent : String) (f f' : Fleet) : Prop where
  step : Step True f f'
  roomy : f'.ledger.Roomy
  there : (f'.ledger.capacity? agent).isSome = true

/-- At first everything that is held is held from before. -/
theorem tenured_refl (h : Proper True f) (agent : String) : f.books.Tenured agent f.store where
  covered := fun k => by
    rw [holdings_books, held_eq_recorded]
    exact Nat.le_add_left _ _
  kept := fun t ht =>
    ⟨t, TaskStore.get_of_mem h.sound (TaskStore.mem_holders_iff.1 ht).1, rfl, .inr rfl⟩

/-- Of an agent that stays, or comes in, the reservations are carried over. -/
theorem tenured_shifted {l : Ledger} (hb : f.books.Tenured agent old)
    (hshift : Shifted True f.ledger l) (hthere : (l.capacity? agent).isSome = true) :
    Books.Tenured { f.books with ledger := l } agent old := by
  refine ⟨fun k => ?_, hb.kept⟩
  have hsame : l.reservedOn agent = f.ledger.reservedOn agent := by
    obtain rfl | ⟨observed, rfl⟩ := hshift trivial
    · rfl
    -- An agent that was not there had nothing reserved, and has nothing when it comes in.
    · obtain ⟨c, hc⟩ := Option.isSome_iff_exists.1 hthere
      rw [Ledger.reserved_on_eq hc]
      exact Ledger.reserved_of_capacity_rebuild hc
  have hcovered := hb.covered k
  show held f.books.holdings agent k ≤ ((l.reservedOn agent).get k).millis + _
  rw [hsame]
  exact hcovered

theorem tenured_step (hproper : Proper True f) (hb : f.books.Tenured agent old)
    (h : Stays agent f f') : f'.books.Tenured agent old := by
  obtain ⟨-, haffects⟩ := step_spec hproper h.step
  cases haffects with
  | turns hturns =>
      obtain ⟨-, -, l, hshift, hmoves⟩ := hturns
      have hthere := there_of_moves trivial hmoves h.there
      exact tenured_moves trivial hmoves h.roomy h.there (tenured_shifted hb hshift hthere)
  | keeps hstore hledger =>
      have hshifted := tenured_shifted hb hledger h.there
      refine ⟨fun k => ?_, fun t ht => ?_⟩
      · have hcovered : held f.books.holdings agent k ≤ _ := hshifted.covered k
        rw [holdings_books] at hcovered ⊢
        rw [holdings_of_adds hstore]
        exact hcovered
      · obtain ⟨t', hget, hkept⟩ := hshifted.kept t ht
        exact ⟨t', hstore.found _ _ hget, hkept⟩

theorem tenured_run (hproper : Proper True before) (hrun : ReflTransGen (Stays agent) before f) :
    Proper True f ∧ f.books.Tenured agent before.store := by
  induction hrun with
  | refl => exact ⟨hproper, tenured_refl hproper agent⟩
  | tail _ hstays ih =>
      obtain ⟨hmid, htenured⟩ := ih
      exact ⟨(step_spec hmid hstays.step).1, tenured_step hmid htenured hstays⟩

/-- As long as an agent stays in the ledger, from the moment that it came in or from any other one,
what is reserved on it is at least what the tasks record that were placed on it since, except for
what was recorded by those that were on it before and are not any more. These are over. -/
theorem newcomers_reserved (hproper : Proper True before)
    (hrun : ReflTransGen (Stays agent) before f) :
    (∀ k, recorded (before.store.newcomers f.store agent) k ≤
      ((f.ledger.reservedOn agent).get k).millis +
        recorded (before.store.leavers f.store agent) k) ∧
      ∀ t ∈ before.store.leavers f.store agent,
        ∃ t', f.store.get t.id = .ok t' ∧ t'.isTerminal = true := by
  obtain ⟨hproper', htenured⟩ := tenured_run hproper hrun
  refine ⟨fun k => ?_, fun t ht => ?_⟩
  · exact htenured.newcomers_le hproper.sound hproper'.sound k
  · obtain ⟨hholder, hgone⟩ := List.mem_filter.1 ht
    obtain ⟨t', hget, hid, hor⟩ := htenured.kept t hholder
    refine ⟨t', hget, ?_⟩
    obtain hover | hsame := hor
    · exact hover
    -- A task that still holds what it held has not left.
    · have hmem := TaskStore.mem_tasks_of_get hget
      have hstill := TaskStore.mem_holders_of_holding hholder hmem hsame
      have hhere : t.id ∈ (f.store.holders agent).map Task.id :=
        List.mem_map.2 ⟨t', hstill, hid⟩
      exact absurd hhere (by simpa using hgone)

/-- A fleet whose agents are all gone. -/
def deserted (f : Fleet) : Fleet := { f with ledger := (f.ledger.resync []).1 }

/-- The fleet with its agent again. -/
def returned (f : Fleet) : Fleet := { f with ledger := (f.ledger.resync [oneProcessor]).1 }

/-- A task that takes more than half a processor. -/
def largerShare : Task :=
  { halfProcessor with
    id := ⟨"n", "u"⟩
    spec.resources := ⟨.ofList [(.cpu, .ofMillis 600)], ∅⟩ }

/-- A fleet with a task that was placed before its agent left, and one that was not. -/
def left : Fleet :=
  deserted ((reconcile halfProcessor.id).run { submitted with
    store := .memory ((Dict.empty.insert halfProcessor.id halfProcessor.bump).insert
      largerShare.id largerShare.bump) }).2

/-- The second task is placed on the agent that has come back. -/
def joined : Fleet := ((reconcile largerShare.id).run (returned left)).2

/-- The first task has been cancelled after that. -/
def drained : Fleet :=
  ((reconcile halfProcessor.id).run ((requestCancel halfProcessor.id).run joined).2).2

theorem run_to_left : ReflTransGen (Step True) (fresh 1000 runsOn) left := by
  refine .head (.swap [oneProcessor]) ?_
  refine .head (.create halfProcessor halfProcessor.bump _ _ rfl rfl rfl) ?_
  refine .head (.create largerShare largerShare.bump _ _ rfl rfl rfl) ?_
  exact .head (.pass halfProcessor.id) (.single (.swap []))

theorem run_to_drained : ReflTransGen (Stays "a1") left drained := by
  have hback : Stays "a1" left (returned left) :=
    ⟨.swap [oneProcessor], roomy_of_entries (by decide +kernel), by decide +kernel⟩
  have hjoin : Stays "a1" (returned left) joined :=
    ⟨.pass largerShare.id, roomy_of_entries (by decide +kernel), by decide +kernel⟩
  have hrequest : Stays "a1" joined ((requestCancel halfProcessor.id).run joined).2 :=
    ⟨.cancel halfProcessor.id, roomy_of_entries (by decide +kernel), by decide +kernel⟩
  have hcancel : Stays "a1" ((requestCancel halfProcessor.id).run joined).2 drained :=
    ⟨.pass halfProcessor.id, roomy_of_entries (by decide +kernel), by decide +kernel⟩
  exact .head hback (.head hjoin (.head hrequest (.single hcancel)))

theorem proper_left : Proper True left :=
  proper_of_run (proper_fresh (by decide) in_range_runs_on) run_to_left

theorem newcomers_reserved_of_return :
    left.ledger.capacity? "a1" = none ∧ ReflTransGen (Stays "a1") left drained ∧
      recorded (left.store.leavers drained.store "a1") .cpu = 500 ∧
      (∀ k, recorded (left.store.newcomers drained.store "a1") k ≤
        ((drained.ledger.reservedOn "a1").get k).millis +
          recorded (left.store.leavers drained.store "a1") k) ∧
      ∀ t ∈ left.store.leavers drained.store "a1",
        ∃ t', drained.store.get t.id = .ok t' ∧ t'.isTerminal = true :=
  ⟨by decide +kernel, run_to_drained, by decide +kernel,
    newcomers_reserved proper_left run_to_drained⟩

/-- When the first task ends, all but a tenth of a processor is given back, and the second task has
six tenths of one. -/
theorem stale_release :
    ReflTransGen (Step True) (fresh 1000 runsOn) left ∧ left.ledger.capacity? "a1" = none ∧
      ReflTransGen (Stays "a1") left drained ∧
      ((drained.ledger.reservedOn "a1").get .cpu).millis = 100 ∧
      recorded (left.store.newcomers drained.store "a1") .cpu = 600 :=
  ⟨run_to_left, by decide +kernel, run_to_drained, by decide +kernel, by decide +kernel⟩

/-- Whatever a pass asks the substrate to run, it asks on behalf of a live task that is placed on an
agent of the ledger and has no execution. If the task was placed there since some moment from which
on the agent has stayed in the ledger, then what the task records is reserved there, except for what
was recorded by those that were on the agent at that moment and are not any more. -/
theorem asked_with_reservation {id : TaskId} {request : ExecutionRequest} {ledger : Ledger}
    {store : TaskStore} (hproper : Proper True before)
    (hrun : ReflTransGen (Stays request.agent) before f)
    (hpass : Stays request.agent f ((reconcile id).run f).2)
    (hask : .ask request ledger store ∈ thisPass ((reconcile id).run f).2.trail) :
    ∃ t c, store.get request.task = .ok t ∧ request = .ofTask t request.agent ∧
      t.isTerminal = false ∧ t.status.agent = some request.agent ∧ t.status.execution = none ∧
      ledger.capacity? request.agent = some c ∧
      (t.id ∉ (before.store.holders request.agent).map Task.id → ∀ k,
        (t.status.resourcesUsed.get k).millis ≤
          (c.reserved.get k).millis + recorded (before.store.leavers store request.agent) k) := by
  obtain ⟨hproper', htenured⟩ := tenured_run hproper hrun
  obtain ⟨f₀, hbegins, hturns⟩ := reconcile_spec id hproper'
  obtain ⟨-, -, l, hshift, hmoves⟩ := hturns
  have hthere := there_of_moves trivial hmoves hpass.there
  have hbegun : f₀.books.Tenured request.agent before.store := by
    rw [hbegins.books]
    exact ⟨htenured.covered, htenured.kept⟩
  have hstart := tenured_shifted hbegun hshift hthere
  obtain hbefore | ⟨mid, hfirst, hrest, hallows⟩ := asked_of_moves trivial hmoves hask
  · -- The pass has just begun, so it had not asked for anything.
    have hnone : .ask request ledger store ∈ thisPass f₀.trail := hbefore
    rw [hbegins.trail] at hnone
    exact nomatch (mem_this_pass_cons.1 hnone).1
  have hroomy := roomy_of_moves trivial hrest hpass.roomy
  have hstays := there_of_moves trivial hrest hpass.there
  have hmid := tenured_moves trivial hfirst hroomy hstays hstart
  cases hallows with
  | ask t agent hsound hget hlive hagent hexecution hpresent =>
      obtain ⟨c, hc⟩ := Option.isSome_iff_exists.1 hpresent
      refine ⟨t, c, hget, rfl, hlive, hagent, hexecution, hc, fun hnew k => ?_⟩
      have hholder : t ∈ mid.store.holders agent :=
        TaskStore.mem_holders_iff.2 ⟨TaskStore.mem_tasks_of_get hget, hlive, hagent⟩
      have hnewcomer : t ∈ before.store.newcomers mid.store agent :=
        List.mem_filter.2 ⟨hholder, decide_eq_true hnew⟩
      have hall := hmid.newcomers_le hproper.sound hsound k
      rw [← Ledger.reserved_on_eq hc]
      exact (le_recorded hnewcomer).trans hall

/-- A fleet with a task, and no agent yet. -/
def unserved : Fleet := { fresh 1000 runsOn with store := submitted.store }

theorem asked_with_reservation_of_submitted :
    ∃ request ledger store t c,
      .ask request ledger store ∈ thisPass ((reconcile halfProcessor.id).run submitted).2.trail ∧
        store.get request.task = .ok t ∧ ledger.capacity? request.agent = some c ∧
        (t.status.resourcesUsed.get .cpu).millis = 500 ∧ ∀ k,
          (t.status.resourcesUsed.get k).millis ≤ (c.reserved.get k).millis +
            recorded (unserved.store.leavers store request.agent) k := by
  have hproper : Proper True unserved := { proper_submitted with }
  have hlisted : Stays "a1" unserved submitted :=
    ⟨.swap [oneProcessor], roomy_of_entries (by decide +kernel), by decide +kernel⟩
  have hpass : Stays "a1" submitted ((reconcile halfProcessor.id).run submitted).2 :=
    ⟨.pass halfProcessor.id, roomy_of_entries (by decide +kernel), by decide +kernel⟩
  have hany : (thisPass ((reconcile halfProcessor.id).run submitted).2.trail).any (fun
      | .ask request _ store => request.agent = "a1" &&
          ((store.get request.task).toOption.map fun t =>
            (t.status.resourcesUsed.get .cpu).millis) = some 500
      | _ => false) = true := by decide +kernel
  obtain ⟨d, hd, hcheck⟩ := List.any_eq_true.1 hany
  cases d with
  | ask request ledger store =>
      simp only [Bool.and_eq_true, decide_eq_true_eq] at hcheck
      obtain ⟨hagent, hused⟩ := hcheck
      obtain ⟨t, c, hget, -, -, -, -, hc, hcovered⟩ := asked_with_reservation hproper
        (.single (hagent ▸ hlisted)) (hagent ▸ hpass) hd
      rw [hget] at hused
      have hnew : t.id ∉ (unserved.store.holders request.agent).map Task.id := by
        have hnone : unserved.store.holders "a1" = [] := by decide +kernel
        rw [hagent, hnone]
        exact List.not_mem_nil
      exact ⟨request, ledger, store, t, c, hd, hget, hc, Option.some.inj hused, hcovered hnew⟩
  | _ => exact nomatch hcheck

/-- A fleet with a task that the substrate did not take, and whose agent has left and come back. -/
def waiting : Fleet :=
  returned (deserted ((reconcile halfProcessor.id).run
    { submitted with faults.submit := [⟨0, "busy"⟩] }).2)

theorem run_to_waiting : ReflTransGen (Step True) (fresh 1000 runsOn) waiting := by
  refine .head (.swap [oneProcessor]) ?_
  refine .head (.create halfProcessor halfProcessor.bump _ _ rfl rfl rfl) ?_
  have hproper : Proper True { submitted with faults.submit := [⟨0, "busy"⟩] } :=
    { proper_submitted with }
  refine .head (.turn _ hproper (TaskStore.same_tasks_refl _) fun _ => rfl) ?_
  exact .head (.pass halfProcessor.id) (.head (.swap []) (.single (.swap [oneProcessor])))

/-- The next pass asks for an execution of the task while nothing at all is reserved. -/
theorem asked_with_nothing :
    ReflTransGen (Step True) (fresh 1000 runsOn) waiting ∧
      ∃ request ledger store t,
        .ask request ledger store ∈ thisPass ((reconcile halfProcessor.id).run waiting).2.trail ∧
          store.get request.task = .ok t ∧ (t.status.resourcesUsed.get .cpu).millis = 500 ∧
          ((ledger.reservedOn request.agent).get .cpu).millis = 0 := by
  have hany : (thisPass ((reconcile halfProcessor.id).run waiting).2.trail).any (fun
      | .ask request ledger store =>
          ((store.get request.task).toOption.map fun t =>
            (t.status.resourcesUsed.get .cpu).millis) = some 500 &&
            ((ledger.reservedOn request.agent).get .cpu).millis = 0
      | _ => false) = true := by decide +kernel
  obtain ⟨d, hd, hcheck⟩ := List.any_eq_true.1 hany
  cases d with
  | ask request ledger store =>
      simp only [Bool.and_eq_true, decide_eq_true_eq] at hcheck
      obtain ⟨t, hget, hused⟩ := TaskStore.get_of_map hcheck.1
      exact ⟨run_to_waiting, request, ledger, store, t, hd, hget, hused, hcheck.2⟩
  | _ => exact nomatch hcheck

end Fleet

end TaskFleet
