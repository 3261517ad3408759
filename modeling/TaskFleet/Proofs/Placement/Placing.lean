import TaskFleet.Proofs.Ledger.Feasibility
import TaskFleet.Proofs.Placement.Ranking

/-!
# Where a task is placed

Placing a task is one choice and one reservation. The choice is the first of the feasible agents in
their ranking; as long as nobody else touches the ledger the reservation succeeds there, and without
a feasible agent nothing happens: `placed_on_best`. Rivals may book or resync between the choice and
the reservation, any number of times; then what comes of it is told by the ledger that they leave
behind and by the chosen agent alone (`Bids`), and no other agent is tried.
-/

namespace TaskFleet

namespace Ledger

/-- The second ledger is the first one with an amount reserved on an agent: of each kind so much more
is reserved there, up to the greatest quantity there is, and no more than the agent offers. What the
agent offers is as before, and so are all other agents. -/
structure Takes (l : Ledger) (agent : String) (amount : ResourceSet) (l' : Ledger) : Prop where
  here : ∃ c reserved, l.capacity? agent = some c ∧ l'.capacity? agent = some { c with reserved } ∧
    ∀ k, reserved.get k = (c.reserved.get k).add (amount.get k) ∧
      reserved.get k ≤ c.allocatable.get k
  elsewhere : ∀ other, other ≠ agent → l'.capacity? other = l.capacity? other

/-- What can come of reserving an amount on an agent, and the ledger afterwards: the agent takes it,
or it is not there, or exactly the named kinds would be exceeded. -/
inductive Bids (l : Ledger) (agent : String) (amount : ResourceSet) :
    Except ScheduleError String → Ledger → Prop where
  | taken {l' : Ledger} (htakes : l.Takes agent amount l') : Bids l agent amount (.ok agent) l'
  | gone (hgone : l.capacity? agent = none) :
      Bids l agent amount (.error (.ledger (.notFound agent))) l
  | outbid {c : Capacity} {kinds : List ResourceKind} (hc : l.capacity? agent = some c)
      (hsome : kinds ≠ [])
      (hkinds : ∀ k, k ∈ kinds ↔ c.allocatable.get k < (c.reserved.get k).add (amount.get k)) :
      Bids l agent amount (.error (.ledger (.conflict agent kinds))) l

variable {l l' : Ledger} {agent : String} {amount : ResourceSet} {t : Task}
  {score : Snapshot → Score}

/-- A reservation that succeeds changes one agent, by the amount. -/
theorem takes_of_reserve (h : l.reserve agent amount = .ok l') : l.Takes agent amount l' := by
  obtain ⟨c, hc, hfits, rfl⟩ := reserve_ok_iff.1 h
  refine ⟨⟨c, c.reserved.add amount, hc, by rw [capacity?_insert, if_pos rfl], fun k => ?_⟩, ?_⟩
  · rw [ResourceSet.get_add]
    exact ⟨rfl, hfits k⟩
  · intro other hother
    rw [capacity?_insert, if_neg hother]

/-- A reservation that is refused changes nothing, and the refusal says why. -/
theorem bids_of_refused {e : LedgerError} (h : l.reserve agent amount = .error e) :
    l.Bids agent amount (.error (.ledger e)) l := by
  obtain ⟨hgone, rfl⟩ | ⟨c, hc, hexceeds, rfl⟩ := reserve_error_iff.1 h
  · exact .gone hgone
  · refine .outbid hc hexceeds fun k => ?_
    rw [Capacity.mem_overcommitted_iff]
    show _ < (c.reserved.add amount).get k ↔ _
    rw [ResourceSet.get_add]

/-- After the choice, placing a task is one reservation on the chosen agent, in the ledger that the
rivals have left behind. -/
theorem schedule_bids {best : Candidate} {rest : List Candidate}
    (h : rankAgents score (l.feasible t.requirement) = best :: rest) (rivals : List Rival) :
    (l.afterRivals rivals).1.Bids best.agent.name t.requirement
      (l.schedule t score rivals).result (l.schedule t score rivals).ledger := by
  simp only [schedule, h]
  cases hreserve : (l.afterRivals rivals).1.reserve best.agent.name t.requirement with
  | error e => exact bids_of_refused hreserve
  | ok l' => exact .taken (takes_of_reserve hreserve)

/-- Among the agents of a table the name tells the agent. -/
theorem eq_of_mem_feasible {a b : Snapshot} (ha : a ∈ l.feasible amount)
    (hb : b ∈ l.feasible amount) (hname : a.name = b.name) : a = b := by
  have hcapacity := (mem_feasible_iff.1 ha).1
  rw [hname, (mem_feasible_iff.1 hb).1, Option.some.injEq] at hcapacity
  cases a
  cases b
  simp_all

/-- A task requires its limits if it lists any, be it nothing of a kind, and otherwise its
requests. -/
theorem requirement_eq (t : Task) :
    t.requirement =
      if t.spec.resources.limits.kinds = [] then t.spec.resources.requests
      else t.spec.resources.limits := by
  unfold Task.requirement Requirements.effective Requirements.hasLimits ResourceSet.size Dict.size
    ResourceSet.kinds Dict.keys
  cases t.spec.resources.limits.entries.entries with
  | nil => rfl
  | cons e rest => rfl

/-- If no agent is feasible for what a task requires, placing it fails for want of capacity and
changes nothing. Otherwise one feasible agent precedes all others; if nobody else touches the
ledger, the task is placed there, of each kind exactly what it requires is added to what is reserved
there, and all other agents stay as they are. If rivals book or resync in between, the reservation
is made on that same agent with what it then offers and has reserved, or it is refused because the
agent is gone or would be exceeded, and then the ledger is what the rivals have made of it. -/
theorem placed_on_best (l : Ledger) (t : Task) (score : Snapshot → Score) :
    (t.requirement =
      if t.spec.resources.limits.kinds = [] then t.spec.resources.requests
      else t.spec.resources.limits) ∧
    (l.feasible t.requirement = [] → ∀ rivals,
      (l.schedule t score rivals).result = .error (.noCapacity t.id t.requirement) ∧
        (l.schedule t score rivals).ledger = l) ∧
    (l.feasible t.requirement ≠ [] → ∃ best ∈ l.feasible t.requirement,
      (∀ other ∈ l.feasible t.requirement, other ≠ best → best.Precedes score other) ∧
      ((l.schedule t score []).result = .ok best.name ∧
        l.Takes best.name t.requirement (l.schedule t score []).ledger ∧
        ∀ k, (best.capacity.reserved.get k).millis + (t.requirement.get k).millis ≤
          (best.capacity.allocatable.get k).millis) ∧
      ∀ rivals, (l.afterRivals rivals).1.Bids best.name t.requirement
        (l.schedule t score rivals).result (l.schedule t score rivals).ledger) := by
  refine ⟨requirement_eq t, fun hnone rivals => ?_, fun hsome => ?_⟩
  · simp [schedule, rank_agents_eq_nil_iff.2 hnone]
  · obtain ⟨best, rest, hranked⟩ :=
      List.exists_cons_of_ne_nil fun hnil => hsome (rank_agents_eq_nil_iff.1 hnil)
    obtain ⟨hbest, hfirst⟩ := rank_agents_cons hranked
    obtain ⟨hreserves, hsum⟩ := reserve_of_feasible hbest
    refine ⟨best.agent, hbest, ?_, ⟨?_, ?_, hsum⟩, schedule_bids hranked⟩
    · intro other hother hne
      exact hfirst other hother fun hname => hne (eq_of_mem_feasible hother hbest hname)
    · simp only [schedule, hranked, afterRivals, hreserves]
    · simp only [schedule, hranked, afterRivals, hreserves]
      exact takes_of_reserve hreserves

/-- Two agents that offer a processor each. -/
def twoAgents : Ledger :=
  empty.rebuild [⟨"a1", true, .ofList [(.cpu, .ofMillis 1000)], .empty⟩,
    ⟨"a2", true, .ofList [(.cpu, .ofMillis 1000)], .empty⟩]

/-- A task that asks for some of a processor and may use half of one. -/
def limited : Task :=
  .new ⟨"n", "t"⟩ { (default : TaskSpec) with
    resources := ⟨.ofList [(.cpu, .ofMillis 300)], .ofList [(.cpu, .ofMillis 500)]⟩ } 1000

/-- Zero for one agent and minus zero for all others. -/
def signedZeros (a : Snapshot) : Score :=
  if a.name = "a2" then ⟨0⟩ else ⟨0x8000000000000000⟩

/-- A rival that takes most of the second agent. -/
def grab : Rival :=
  .book (.reserve "a2" (.ofList [(.cpu, .ofMillis 800)]))

theorem placed_on_best_outbid :
    (twoAgents.schedule limited signedZeros []).result = .ok "a2" ∧
      ∃ kinds, .cpu ∈ kinds ∧ (twoAgents.schedule limited signedZeros [grab]).result =
        .error (.ledger (.conflict "a2" kinds)) := by
  obtain ⟨-, -, hplaces⟩ := placed_on_best twoAgents limited signedZeros
  obtain ⟨best, hbest, hfirst, ⟨hplaced, -⟩, hrivals⟩ := hplaces (by decide +kernel)
  have hname : best.name = "a2" := by
    have hothers : ∀ a ∈ twoAgents.feasible limited.requirement, a.name ≠ "a2" →
        ∃ other ∈ twoAgents.feasible limited.requirement,
          other ≠ a ∧ ¬ a.Precedes signedZeros other := by decide +kernel
    by_contra hne
    obtain ⟨other, hother, hdiffers, hnot⟩ := hothers best hbest hne
    exact hnot (hfirst other hother hdiffers)
  have hexceeded : ((twoAgents.afterRivals [grab]).1.capacity? "a2").any (fun c =>
      c.allocatable.get .cpu < (c.reserved.get .cpu).add (limited.requirement.get .cpu)) = true := by
    decide +kernel
  obtain ⟨c, hc, hover⟩ := (Option.any_eq_true _ _).1 hexceeded
  have hover := of_decide_eq_true hover
  have hbids := hrivals [grab]
  rw [hname] at hplaced hbids
  refine ⟨hplaced, ?_⟩
  generalize (twoAgents.schedule limited signedZeros [grab]).result = result at hbids ⊢
  generalize (twoAgents.schedule limited signedZeros [grab]).ledger = after at hbids
  cases hbids with
  | taken htakes =>
      obtain ⟨c', reserved, hc', -, hreserved⟩ := htakes.here
      obtain rfl : c = c' := Option.some.inj (hc.symm.trans hc')
      obtain ⟨hsum, hwithin⟩ := hreserved .cpu
      exact absurd hover (Quantity.not_lt.2 (hsum ▸ hwithin))
  | gone hgone => exact nomatch hc.symm.trans hgone
  | outbid hc' _ hkinds =>
      obtain rfl := Option.some.inj (hc.symm.trans hc')
      exact ⟨_, (hkinds .cpu).2 hover, rfl⟩

end Ledger

end TaskFleet
