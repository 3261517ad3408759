import TaskFleet.Proofs.Lifecycle.Runs

/-!
# Conservation of reservations

In a steady run the ledger reserves on every agent exactly what the tasks that are placed there
record: `reserved_eq_sum`. No pass leaks a reservation and none is given back twice, whichever calls
fail and wherever a pass is interrupted. What is asked of the world is that an agent does not leave
the ledger while a task is placed on it, and that no agent offers so much that sums stop at the
greatest quantity (`Intact`).
-/

namespace TaskFleet.Fleet

open Relation (ReflTransGen)

variable {f f' start : Fleet} {agent : String} {k : ResourceKind}

/-- Every agent on which a live task is placed is in the ledger, and no agent offers the greatest
quantity of anything. -/
structure Intact (f : Fleet) : Prop where
  placed : ∀ t ∈ f.store.tasks, t.isTerminal = false → ∀ agent ∈ t.status.agent,
    (f.ledger.capacity? agent).isSome = true
  roomy : f.ledger.Roomy

/-- There is room if there is in every entry of the ledger. -/
theorem roomy_of_entries {l : Ledger} (h : ∀ e ∈ l.agents.entries,
    ∀ q ∈ e.2.allocatable.entries.values, q.millis < Text.max64) : l.Roomy := by
  intro agent c hc k
  have hentry := h (agent, c) (Dict.mem_entries_iff.2 hc)
  unfold ResourceSet.get
  cases hquantity : c.allocatable.entries.find? k with
  | none => decide
  | some q => exact hentry q (Dict.mem_values_iff.2 ⟨k, hquantity⟩)

/-- What the live tasks on an agent record as reserved, summed up. -/
theorem held_holdings (tasks : List Task) (agent : String) (k : ResourceKind) :
    held (tasks.flatMap Task.holding) agent k =
      ((tasks.filter fun t => !t.isTerminal && t.status.agent = some agent).map
        fun t => (t.status.resourcesUsed.get k).millis).sum := by
  induction tasks with
  | nil => rfl
  | cons t rest ih =>
      rw [List.flatMap_cons, held_append, ih]
      cases hlive : t.isTerminal with
      | true => simp [holding_of_terminal hlive, hlive]
      | false =>
          cases hagent : t.status.agent with
          | none => simp [holding_of_no_agent hagent, hagent]
          | some other =>
              rw [holding_of_agent hlive hagent]
              by_cases hother : other = agent
              · simp [hlive, hagent, hother]
              · simp [hlive, hagent, hother]

theorem held_eq_zero {l : List (String × ResourceSet)} (h : ∀ e ∈ l, e.1 ≠ agent) :
    held l agent k = 0 := by
  induction l with
  | nil => rfl
  | cons e rest ih =>
      have hne := h e List.mem_cons_self
      rw [held_cons, if_neg hne, ih fun e he => h e (List.mem_cons_of_mem _ he)]

/-- Between two passes only the stored tasks hold anything. -/
theorem holdings_books (f : Fleet) : f.books.holdings = f.store.tasks.flatMap Task.holding :=
  List.append_nil _

/-- Of an agent that is not in the ledger nothing is held. -/
theorem held_of_gone (h : Intact f) (hgone : f.ledger.capacity? agent = none) :
    held f.books.holdings agent k = 0 := by
  rw [holdings_books]
  refine held_eq_zero fun e he heq => ?_
  obtain ⟨t, ht, hholding⟩ := List.mem_flatMap.1 he
  cases hlive : t.isTerminal with
  | true =>
      rw [holding_of_terminal hlive] at hholding
      exact nomatch hholding
  | false =>
      rw [holding_of_live hlive, List.mem_map] at hholding
      obtain ⟨other, hother, rfl⟩ := hholding
      have hthere := h.placed t ht hlive other (Option.mem_toList.1 hother)
      have hsame : other = agent := heq
      rw [hsame, hgone] at hthere
      exact nomatch hthere

/-- Rebuilding the ledger keeps the books balanced: what was reserved is carried over, and of an
agent that is new nothing is held. -/
theorem balanced_rebuild (h : Intact f) (hb : f.books.Balanced) (observed : List Observation) :
    Books.Balanced { f.books with ledger := f.ledger.rebuild observed } := by
  intro agent c hc k
  rw [Ledger.reserved_of_capacity_rebuild hc]
  cases hbefore : f.ledger.capacity? agent with
  | some before =>
      rw [Ledger.reserved_on_eq hbefore]
      exact hb agent before hbefore k
  | none =>
      -- An agent that comes in has nothing reserved, and no task can be placed on it yet.
      have hnone : f.ledger.reservedOn agent = ∅ := by simp [Ledger.reservedOn, hbefore]
      have hzero := held_of_gone (k := k) h hbefore
      rw [hnone]
      show 0 = held f.books.holdings agent k
      rw [hzero]

theorem balanced_shifted {l : Ledger} (h : Intact f) (hb : f.books.Balanced)
    (hshift : Shifted True f.ledger l) : Books.Balanced { f.books with ledger := l } := by
  obtain rfl | ⟨observed, rfl⟩ := hshift trivial
  · exact hb
  · exact balanced_rebuild h hb observed

/-- A store to which tasks were added that nothing has happened to holds what it held before. -/
theorem holdings_of_adds {s s' : TaskStore} (h : s.Adds s') :
    s'.tasks.flatMap Task.holding = s.tasks.flatMap Task.holding :=
  h.flatMap_eq fun _ hinitial => holding_of_no_agent (by rw [hinitial]; rfl)

/-- Each step keeps the books balanced. -/
theorem balanced_step (hproper : Proper True f) (h : Intact f) (hb : f.books.Balanced)
    (hstep : Step True f f') (h' : Intact f') : f'.books.Balanced := by
  obtain ⟨-, haffects⟩ := step_spec hproper hstep
  cases haffects with
  | turns hturns =>
      obtain ⟨-, -, l, hshift, hmoves⟩ := hturns
      exact balanced_moves trivial hmoves h'.roomy (balanced_shifted h hb hshift)
  | keeps hstore hledger =>
      have hshifted := balanced_shifted h hb hledger
      intro agent c hc k
      have hsum : _ = held f.books.holdings agent k := hshifted agent c hc k
      rw [holdings_books] at hsum ⊢
      rw [holdings_of_adds hstore]
      exact hsum

/-- In every state of a steady run from a fleet without tasks and without reservations, what is
reserved on an agent is, of each kind, the sum of what the live tasks on that agent record. -/
theorem reserved_eq_sum (hproper : Proper True start) (htasks : start.store.tasks = [])
    (hledger : start.ledger = .empty)
    (hrun : ReflTransGen (fun f f' => Step True f f' ∧ Intact f') start f) (agent : String)
    (k : ResourceKind) :
    ((f.ledger.reservedOn agent).get k).millis =
      ((f.store.tasks.filter fun t => !t.isTerminal && t.status.agent = some agent).map
        fun t => (t.status.resourcesUsed.get k).millis).sum := by
  have hstart : Intact start := by
    refine ⟨?_, ?_⟩
    · rw [htasks]
      exact fun _ ht => nomatch ht
    · rw [hledger]
      exact fun _ _ hc => nomatch hc
  have hinvariant : Proper True f ∧ Intact f ∧ f.books.Balanced := by
    induction hrun with
    | refl =>
        refine ⟨hproper, hstart, fun agent c hc => ?_⟩
        rw [books, hledger] at hc
        exact nomatch hc
    | tail _ hstep ih =>
        obtain ⟨hproper, hintact, hbalanced⟩ := ih
        obtain ⟨hstep, hintact'⟩ := hstep
        exact ⟨(step_spec hproper hstep).1, hintact',
          balanced_step hproper hintact hbalanced hstep hintact'⟩
  obtain ⟨-, hintact, hbalanced⟩ := hinvariant
  rw [← held_holdings, ← holdings_books]
  cases hc : f.ledger.capacity? agent with
  | some c =>
      rw [Ledger.reserved_on_eq hc]
      exact hbalanced agent c hc k
  | none =>
      have hnone : f.ledger.reservedOn agent = ∅ := by simp [Ledger.reservedOn, hc]
      rw [hnone]
      exact (held_of_gone hintact hc).symm

theorem reserved_eq_sum_of_placed :
    Intact submitted ∧ Intact placed ∧ ((placed.ledger.reservedOn "a1").get .cpu).millis = 500 ∧
      ∀ agent k, ((placed.ledger.reservedOn agent).get k).millis =
        ((placed.store.tasks.filter fun t => !t.isTerminal && t.status.agent = some agent).map
          fun t => (t.status.resourcesUsed.get k).millis).sum := by
  have hproper : Proper True (fresh 1000 runsOn) := proper_fresh (by decide) in_range_runs_on
  have hlisted : Intact { fresh 1000 runsOn with
      ledger := (Ledger.empty.resync [oneProcessor]).1 } := by
    refine ⟨?_, roomy_of_entries (by decide +kernel)⟩
    intro t ht
    exact nomatch ht
  have hsubmitted : Intact submitted := ⟨by decide +kernel, roomy_of_entries (by decide +kernel)⟩
  have hplaced : Intact placed := ⟨by decide +kernel, roomy_of_entries (by decide +kernel)⟩
  refine ⟨hsubmitted, hplaced, by decide +kernel, reserved_eq_sum hproper rfl rfl ?_⟩
  refine .head ⟨.swap [oneProcessor], hlisted⟩ ?_
  refine .head ⟨.create halfProcessor halfProcessor.bump _ _ rfl rfl rfl, hsubmitted⟩ ?_
  exact .single ⟨.pass halfProcessor.id, hplaced⟩

end TaskFleet.Fleet
