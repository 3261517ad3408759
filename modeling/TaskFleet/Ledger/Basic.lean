import TaskFleet.Agent.Basic

/-!
# The capacity ledger

What each agent offers and how much of it is reserved. `reserve` refuses to go above what an agent
offers, of any kind, and `release` stops at zero. Reservations outlive a change of what the agents
offer, so an agent may come to have more reserved than it offers; such an agent is full for every
requirement (`feasible` leaves it out, `reserve` refuses) until enough is released.
-/

namespace TaskFleet

/-- What an agent offers and what is reserved of it. -/
structure Capacity where
  allocatable : ResourceSet
  reserved : ResourceSet
  labels : Dict String String
deriving DecidableEq, Repr, Inhabited

namespace Capacity

/-- What is not reserved, nothing where more is reserved than offered. -/
def free (c : Capacity) : ResourceSet :=
  c.allocatable.sub c.reserved

/-- The kinds of which more is reserved than offered. -/
def overcommitted (c : Capacity) : List ResourceKind :=
  c.reserved.exceeding c.allocatable

/-- Whether a requirement can be reserved. -/
def isFeasible (c : Capacity) (requirement : ResourceSet) : Bool :=
  c.overcommitted.isEmpty && requirement.fitsWithin c.free

theorem mem_overcommitted_iff {c : Capacity} {k : ResourceKind} :
    k ∈ c.overcommitted ↔ c.allocatable.get k < c.reserved.get k :=
  ResourceSet.mem_exceeding_iff

theorem overcommitted_eq_nil_iff {c : Capacity} :
    c.overcommitted = [] ↔ ∀ k, c.reserved.get k ≤ c.allocatable.get k :=
  ResourceSet.exceeding_eq_nil_iff

end Capacity

/-- A named agent and its capacity. -/
structure Snapshot where
  name : String
  capacity : Capacity
deriving DecidableEq, Repr, Inhabited

/-- Why the ledger could not do what was asked. -/
inductive LedgerError where
  /-- The agent is not in the table. -/
  | notFound (agent : String)
  /-- More of the kinds would be reserved than the agent offers. -/
  | conflict (agent : String) (kinds : List ResourceKind)
  /-- The agents could not be listed. -/
  | source (cause : String)
deriving DecidableEq, Repr

namespace LedgerError

def message : LedgerError → String
  | .notFound agent => "agent not found in ledger: " ++ agent
  | .conflict agent kinds =>
    "capacity exceeded on agent " ++ agent ++ " for " ++
      String.intercalate ", " (kinds.map ResourceKind.name)
  | .source cause => "agent source error: " ++ cause

/-- Whether the agent was missing. -/
def isNotFound : LedgerError → Bool
  | .notFound _ => true
  | _ => false

end LedgerError

/-- The capacity of every agent, by name. -/
structure Ledger where
  agents : Dict String Capacity
deriving DecidableEq, Repr, Inhabited

namespace Ledger

/-- The ledger without agents. -/
def empty : Ledger := ⟨.empty⟩

/-- An agent's capacity. -/
def capacity? (l : Ledger) (agent : String) : Option Capacity :=
  l.agents.find? agent

/-- All agents in the order of their names. -/
def snapshots (l : Ledger) : List Snapshot :=
  l.agents.entries.map fun e => ⟨e.1, e.2⟩

/-- The agents on which a requirement can be reserved. -/
def feasible (l : Ledger) (requirement : ResourceSet) : List Snapshot :=
  l.snapshots.filter fun s => s.capacity.isFeasible requirement

/-- Adds an amount to an agent's reservations, or refuses all of it. -/
def reserve (l : Ledger) (agent : String) (amount : ResourceSet) : Except LedgerError Ledger :=
  match l.capacity? agent with
  | none => .error (.notFound agent)
  | some c =>
    let next := { c with reserved := c.reserved.add amount }
    if next.overcommitted = [] then .ok ⟨l.agents.insert agent next⟩
    else .error (.conflict agent next.overcommitted)

/-- Takes an amount from an agent's reservations, stopping at zero. -/
def release (l : Ledger) (agent : String) (amount : ResourceSet) : Except LedgerError Ledger :=
  match l.capacity? agent with
  | none => .error (.notFound agent)
  | some c => .ok ⟨l.agents.insert agent { c with reserved := c.reserved.sub amount }⟩

@[simp] theorem capacity?_empty (agent : String) : empty.capacity? agent = none := rfl

/-- Changing one agent's capacity changes no other's. -/
@[simp] theorem capacity?_insert (agents : Dict String Capacity) (agent other : String)
    (c : Capacity) :
    (Ledger.mk (agents.insert agent c)).capacity? other =
      if other = agent then some c else (Ledger.mk agents).capacity? other :=
  Dict.find?_insert agents agent other c

/-- A reservation is made exactly when the agent is there and offers the sum, of each kind. -/
theorem reserve_ok_iff {l l' : Ledger} {agent : String} {amount : ResourceSet} :
    l.reserve agent amount = .ok l' ↔
      ∃ c, l.capacity? agent = some c ∧
        (∀ k, (c.reserved.get k).add (amount.get k) ≤ c.allocatable.get k) ∧
        l' = ⟨l.agents.insert agent { c with reserved := c.reserved.add amount }⟩ := by
  unfold reserve
  cases hc : l.capacity? agent with
  | none => simp
  | some c =>
      have hfits := Capacity.overcommitted_eq_nil_iff
        (c := { c with reserved := c.reserved.add amount })
      simp only [ResourceSet.get_add] at hfits
      simp only [Option.some.injEq, exists_eq_left', ← hfits]
      by_cases h : { c with reserved := c.reserved.add amount }.overcommitted = []
      · rw [if_pos h, Except.ok.injEq, eq_comm, and_iff_right h]
      · simp [h]

/-- A reservation is refused because the agent is not there, or because some kinds would be
exceeded; the refusal names these. -/
theorem reserve_error_iff {l : Ledger} {agent : String} {amount : ResourceSet} {e : LedgerError} :
    l.reserve agent amount = .error e ↔
      (l.capacity? agent = none ∧ e = .notFound agent) ∨
        ∃ c, l.capacity? agent = some c ∧
          { c with reserved := c.reserved.add amount }.overcommitted ≠ [] ∧
          e = .conflict agent { c with reserved := c.reserved.add amount }.overcommitted := by
  unfold reserve
  cases hc : l.capacity? agent with
  | none => simp only [Except.error.injEq, true_and, reduceCtorEq, false_and, exists_false,
      or_false, eq_comm]
  | some c =>
      simp only [reduceCtorEq, false_and, false_or, Option.some.injEq, exists_eq_left']
      by_cases h : { c with reserved := c.reserved.add amount }.overcommitted = []
      · simp [h]
      · rw [if_neg h, Except.error.injEq, eq_comm, and_iff_right h]

/-- A release succeeds exactly when the agent is there. -/
theorem release_ok_iff {l l' : Ledger} {agent : String} {amount : ResourceSet} :
    l.release agent amount = .ok l' ↔
      ∃ c, l.capacity? agent = some c ∧
        l' = ⟨l.agents.insert agent { c with reserved := c.reserved.sub amount }⟩ := by
  unfold release
  cases hc : l.capacity? agent with
  | none => simp
  | some c => simp [eq_comm]

/-- The names in the table's listing are those of the agents in the table. -/
theorem mem_snapshots_iff {l : Ledger} {s : Snapshot} :
    s ∈ l.snapshots ↔ l.capacity? s.name = some s.capacity := by
  unfold snapshots capacity?
  rw [← Dict.mem_entries_iff, List.mem_map]
  constructor
  · rintro ⟨e, he, rfl⟩
    exact he
  · intro h
    exact ⟨_, h, rfl⟩

/-- An agent is feasible exactly when nothing is overcommitted on it and what is free of each kind
covers the requirement. -/
theorem mem_feasible_iff {l : Ledger} {requirement : ResourceSet} {s : Snapshot} :
    s ∈ l.feasible requirement ↔
      l.capacity? s.name = some s.capacity ∧
        (∀ k, s.capacity.reserved.get k ≤ s.capacity.allocatable.get k) ∧
        ∀ k, requirement.get k ≤ (s.capacity.allocatable.get k).sub (s.capacity.reserved.get k) := by
  simp only [feasible, List.mem_filter, mem_snapshots_iff, Capacity.isFeasible, Capacity.free,
    Bool.and_eq_true, List.isEmpty_iff, Capacity.overcommitted_eq_nil_iff,
    ResourceSet.fits_within_iff, ResourceSet.get_sub]

end Ledger

/-- A change of an agent's reservations. -/
inductive Booking where
  | reserve (agent : String) (amount : ResourceSet)
  | release (agent : String) (amount : ResourceSet)
deriving DecidableEq, Repr

/-- Makes a change. -/
def Ledger.book (l : Ledger) : Booking → Except LedgerError Ledger
  | .reserve agent amount => l.reserve agent amount
  | .release agent amount => l.release agent amount

end TaskFleet
