import TaskFleet.Ledger.Basic

/-!
# Resync

Rebuilding the table from what is observed. The agents are listed first and the tables swapped
afterwards, so the reservations carried over are those of the moment of the swap: whatever was
reserved or released while the list was fetched counts.
-/

namespace TaskFleet

/-- What a resync has changed. -/
structure ResyncReport where
  /-- The number of agents in the new table. -/
  agents : Nat
  added : List String
  removed : List String
  /-- Agents that now offer less than is reserved. -/
  overcommitted : List String
deriving DecidableEq, Repr

def ResyncReport.toJson (r : ResyncReport) : Json :=
  .obj [("agents", natToJson r.agents), ("added", stringsToJson r.added),
    ("removed", stringsToJson r.removed), ("overcommitted", stringsToJson r.overcommitted)]

/-- How often the table is rebuilt, and from how many agents at most. -/
structure ResyncSettings where
  interval : Duration
  pageSize : Nat
deriving DecidableEq, Repr

namespace ResyncSettings

def default : ResyncSettings := ⟨.ofSecs 30, 512⟩

end ResyncSettings

namespace Ledger

/-- What is reserved on an agent, nothing if it is not in the table. -/
def reservedOn (l : Ledger) (agent : String) : ResourceSet :=
  ((l.capacity? agent).map Capacity.reserved).getD ∅

/-- The table of the observed agents that are ready, each with what `l` has reserved on it. -/
def rebuild (l : Ledger) (observed : List Observation) : Ledger :=
  ⟨(observed.filter (·.ready)).foldl
    (fun table o => table.insert o.name ⟨o.allocatable, l.reservedOn o.name, o.labels⟩) .empty⟩

/-- How one table differs from the one before it. -/
def report (before after : Ledger) : ResyncReport where
  agents := after.agents.size
  added := after.agents.keys.filter fun name => !before.agents.contains name
  removed := before.agents.keys.filter fun name => !after.agents.contains name
  overcommitted :=
    (after.snapshots.filter fun s => !s.capacity.overcommitted.isEmpty).map (·.name)

/-- Swaps the table for the one that is observed. -/
def resync (l : Ledger) (observed : List Observation) : Ledger × ResyncReport :=
  (l.rebuild observed, report l (l.rebuild observed))

/-- After a swap an agent is in the table exactly if it was observed as ready. It offers what was
observed of it last, and what was reserved on it is carried over. -/
theorem capacity?_rebuild (l : Ledger) (observed : List Observation) (agent : String) :
    (l.rebuild observed).capacity? agent =
      ((observed.filter (·.ready)).reverse.find? fun o => o.name = agent).map
        fun o => ⟨o.allocatable, l.reservedOn agent, o.labels⟩ := by
  unfold rebuild capacity?
  rw [Dict.find?_foldl_insert Observation.name]
  simp only [Dict.find?_empty, Option.or_none]
  refine Option.map_congr fun o ho => ?_
  have hname : o.name = agent := by simpa using List.find?_some ho
  rw [hname]

/-- What is reserved on an agent after a swap is what was reserved on it before. -/
theorem reserved_of_capacity_rebuild {l : Ledger} {observed : List Observation} {agent : String}
    {c : Capacity} (h : (l.rebuild observed).capacity? agent = some c) :
    c.reserved = l.reservedOn agent := by
  rw [capacity?_rebuild, Option.map_eq_some_iff] at h
  obtain ⟨_, _, rfl⟩ := h
  rfl

theorem reserved_on_eq {l : Ledger} {agent : String} {c : Capacity}
    (h : l.capacity? agent = some c) : l.reservedOn agent = c.reserved := by
  simp [reservedOn, h]

end Ledger

end TaskFleet
