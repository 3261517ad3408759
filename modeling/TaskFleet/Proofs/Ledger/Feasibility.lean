import TaskFleet.Proofs.Ledger.Reservations

/-!
# What is offered and what is taken

Two questions are asked of a ledger about an agent and a requirement: whether the agent is among the
feasible ones, and whether the requirement can be reserved on it. The first looks at what is free,
the second at the sum of what is reserved and what is asked for. A feasible agent always takes the
requirement (`reserve_of_feasible`). The converse holds as long as the sum stays within the greatest
quantity there is; a sum that is cut off there fits an agent that offers so much, however full the
agent is (`feasible_iff_reserves`).
-/

namespace TaskFleet

open Text (max64)

namespace Ledger

/-- A feasible agent takes the requirement, and of no kind the sum is cut off. -/
theorem reserve_of_feasible {l : Ledger} {found : Snapshot} {requirement : ResourceSet}
    (h : found ∈ l.feasible requirement) :
    l.reserve found.name requirement = .ok ⟨l.agents.insert found.name
        { found.capacity with reserved := found.capacity.reserved.add requirement }⟩ ∧
      ∀ k, (found.capacity.reserved.get k).millis + (requirement.get k).millis ≤
        (found.capacity.allocatable.get k).millis := by
  obtain ⟨hcapacity, hwithin, hfree⟩ := mem_feasible_iff.1 h
  have hsum (k : ResourceKind) :
      (found.capacity.reserved.get k).millis + (requirement.get k).millis ≤
        (found.capacity.allocatable.get k).millis := by
    have hreserved := Quantity.le_iff.1 (hwithin k)
    have hneeded := Quantity.le_iff.1 (hfree k)
    rw [Quantity.millis_sub] at hneeded
    omega
  refine ⟨reserve_ok_iff.2 ⟨_, hcapacity, fun k => ?_, rfl⟩, hsum⟩
  rw [Quantity.le_iff, Quantity.millis_add]
  exact Nat.le_trans (Nat.min_le_left ..) (hsum k)

/-- A reservation that succeeds within the greatest quantity succeeds on a feasible agent. -/
theorem mem_feasible_of_reserves {l : Ledger} {agent : String} {requirement : ResourceSet}
    {c : Capacity} (hc : l.capacity? agent = some c)
    (hfits : ∀ k, (c.reserved.get k).add (requirement.get k) ≤ c.allocatable.get k)
    (hexact : ∀ k, (c.allocatable.get k).millis = max64 →
      (c.reserved.get k).millis + (requirement.get k).millis ≤ max64) :
    ⟨agent, c⟩ ∈ l.feasible requirement := by
  have hsum (k : ResourceKind) :
      (c.reserved.get k).millis + (requirement.get k).millis ≤ (c.allocatable.get k).millis := by
    have hcut := Quantity.le_iff.1 (hfits k)
    have hmax := (c.allocatable.get k).le_max
    rw [Quantity.millis_add] at hcut
    -- Where less than the greatest quantity is offered, the sum was not cut off.
    by_cases hall : (c.allocatable.get k).millis = max64
    · exact hall ▸ hexact k hall
    · omega
  refine mem_feasible_iff.2 ⟨hc, fun k => ?_, fun k => ?_⟩
  · exact Quantity.le_iff.2 (Nat.le_trans (Nat.le_add_right ..) (hsum k))
  · rw [Quantity.le_iff, Quantity.millis_sub]
    exact Nat.le_sub_of_add_le (Nat.add_comm .. ▸ hsum k)

/-- In every ledger an agent is feasible for a requirement exactly if a reservation of it succeeds
there and, of each kind of which the agent offers the greatest quantity there is, what is reserved
and what is required come to no more than that. -/
theorem feasible_iff_reserves (l : Ledger) (agent : String) (requirement : ResourceSet) :
    (∃ found ∈ l.feasible requirement, found.name = agent) ↔
      (∃ l', l.reserve agent requirement = .ok l') ∧
        ∀ c, l.capacity? agent = some c → ∀ k, (c.allocatable.get k).millis = max64 →
          (c.reserved.get k).millis + (requirement.get k).millis ≤ max64 := by
  constructor
  · rintro ⟨found, hfound, rfl⟩
    obtain ⟨hreserves, hsum⟩ := reserve_of_feasible hfound
    refine ⟨⟨_, hreserves⟩, fun c hc k hall => ?_⟩
    obtain rfl : found.capacity = c :=
      Option.some.inj ((mem_feasible_iff.1 hfound).1.symm.trans hc)
    exact hall ▸ hsum k
  · rintro ⟨⟨l', hreserves⟩, hexact⟩
    obtain ⟨c, hc, hfits, -⟩ := reserve_ok_iff.1 hreserves
    exact ⟨⟨agent, c⟩, mem_feasible_of_reserves hc hfits (hexact c hc), rfl⟩

end Ledger

namespace LedgerState

/-- An agent that offers the greatest quantity of a processor comes into the table, and all of it
is reserved. -/
def filled : List LedgerCall :=
  [.fetch (.ok (offering max64)), .swap 0, .book (ofCpu .reserve "a1" max64)]

/-- A full agent that takes one thousandth more, although it is not feasible for it. The sum is cut
off at what was reserved before, so the ledger stays as it is. -/
theorem reserved_on_full :
    (run filled).ledger.feasible (.ofList [(.cpu, .ofMillis 1)]) = [] ∧
      (run filled).ledger.reserve "a1" (.ofList [(.cpu, .ofMillis 1)]) =
        .ok (run filled).ledger := by
  refine ⟨by decide +kernel, ?_⟩
  have hsame : ((run filled).ledger.reserve "a1" (.ofList [(.cpu, .ofMillis 1)])).toOption =
      some (run filled).ledger := by decide +kernel
  cases hreserve : (run filled).ledger.reserve "a1" (.ofList [(.cpu, .ofMillis 1)]) with
  | error e => exact nomatch hreserve ▸ hsame
  | ok l =>
      rw [hreserve] at hsame
      exact congrArg _ (Option.some.inj hsame)

end LedgerState

end TaskFleet
