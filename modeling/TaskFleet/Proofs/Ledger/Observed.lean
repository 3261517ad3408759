import TaskFleet.Ledger.Resync

/-!
# The table that is observed

What a swap makes of a listing in which names may repeat and agents may not be ready: the new table
has exactly the agents with a ready observation, each as it was observed last and with what was
reserved on it before, and the report says in order what has changed (`rebuilds_resync`).
-/

namespace TaskFleet

namespace Dict

/-- The keys are those that have a value. -/
theorem mem_keys_iff {α : Type} {d : Dict String α} {name : String} :
    name ∈ d.keys ↔ d.contains name = true := by
  unfold keys contains
  rw [List.mem_map, Option.isSome_iff_exists]
  constructor
  · rintro ⟨e, he, rfl⟩
    exact ⟨e.2, mem_entries_iff.1 he⟩
  · rintro ⟨v, hv⟩
    exact ⟨(name, v), mem_entries_iff.2 hv, rfl⟩

end Dict

namespace Ledger

/-- The last observation in a listing that finds an agent ready. -/
def LastReady (observed : List Observation) (name : String) (o : Observation) : Prop :=
  ∃ before after, observed = before ++ o :: after ∧ o.ready = true ∧ o.name = name ∧
    ∀ later ∈ after, later.ready = true → later.name ≠ name

/-- A table and a report that come of swapping a table for what was observed. -/
structure Rebuilds (l : Ledger) (observed : List Observation) (l' : Ledger)
    (report : ResyncReport) : Prop where
  names : ∀ name, (l'.capacity? name).isSome = true ↔
    ∃ o ∈ observed, o.ready = true ∧ o.name = name
  capacity : ∀ name c, l'.capacity? name = some c ↔
    ∃ o, LastReady observed name o ∧ c = ⟨o.allocatable, l.reservedOn name, o.labels⟩
  agents : report.agents = l'.agents.size
  added : report.added.Pairwise (· < ·) ∧ ∀ name, name ∈ report.added ↔
    (l'.capacity? name).isSome = true ∧ l.capacity? name = none
  removed : report.removed.Pairwise (· < ·) ∧ ∀ name, name ∈ report.removed ↔
    (l.capacity? name).isSome = true ∧ l'.capacity? name = none
  overcommitted : report.overcommitted.Pairwise (· < ·) ∧ ∀ name, name ∈ report.overcommitted ↔
    ∃ c, l'.capacity? name = some c ∧ ∃ k, c.allocatable.get k < c.reserved.get k

variable {l l' : Ledger} {observed : List Observation} {name : String}

/-- Looking for an agent from the end of the ready observations finds its last one. -/
theorem find_ready_eq_some_iff {o : Observation} :
    (observed.filter (·.ready)).reverse.find? (fun o => o.name = name) = some o ↔
      LastReady observed name o := by
  rw [← List.filter_reverse, List.find?_filter, List.find?_eq_some_iff_append]
  simp only [decide_eq_true_eq, Bool.decide_and, Bool.decide_eq_true, Bool.and_eq_true]
  constructor
  · rintro ⟨⟨hready, hname⟩, after, before, hsplit, hlast⟩
    refine ⟨before.reverse, after.reverse, ?_, hready, hname, fun later hlater hagain => ?_⟩
    · rw [← List.reverse_reverse observed, hsplit]
      simp
    · have hother := hlast later (List.mem_reverse.1 hlater)
      simpa [hagain] using hother
  · rintro ⟨before, after, rfl, hready, hname, hlast⟩
    refine ⟨⟨hready, hname⟩, after.reverse, before.reverse, by simp, fun later hlater => ?_⟩
    have hother := hlast later (List.mem_reverse.1 hlater)
    cases hagain : later.ready with
    | false => rfl
    | true => simpa using hother hagain

/-- An agent is in the table that a swap builds exactly with its last ready observation. -/
theorem capacity_rebuild_eq_some_iff {c : Capacity} :
    (l.rebuild observed).capacity? name = some c ↔
      ∃ o, LastReady observed name o ∧ c = ⟨o.allocatable, l.reservedOn name, o.labels⟩ := by
  rw [capacity?_rebuild, Option.map_eq_some_iff]
  simp only [find_ready_eq_some_iff, eq_comm (a := c)]

/-- Of the names of one table those that another one lacks are listed in order. -/
theorem names_without (l l' : Ledger) :
    (l.agents.keys.filter fun name => !l'.agents.contains name).Pairwise (· < ·) ∧
      ∀ name, (name ∈ l.agents.keys.filter fun name => !l'.agents.contains name) ↔
        (l.capacity? name).isSome = true ∧ l'.capacity? name = none := by
  refine ⟨l.agents.pairwise_keys.filter _, fun name => ?_⟩
  rw [List.mem_filter, Dict.mem_keys_iff, Bool.not_eq_true', Dict.contains, Dict.contains,
    Option.isSome_eq_false_iff, Option.isNone_iff_eq_none]
  rfl

/-- The names of the agents with a certain capacity are listed in order. -/
theorem names_where (l : Ledger) (p : Capacity → Bool) :
    ((l.snapshots.filter fun s => p s.capacity).map (·.name)).Pairwise (· < ·) ∧
      ∀ name, (name ∈ (l.snapshots.filter fun s => p s.capacity).map (·.name)) ↔
        ∃ c, l.capacity? name = some c ∧ p c = true := by
  refine ⟨?_, fun name => ?_⟩
  · have hnames : l.snapshots.map (·.name) = l.agents.keys := by
      rw [snapshots, List.map_map]
      rfl
    exact (hnames ▸ l.agents.pairwise_keys).sublist (List.filter_sublist.map _)
  · simp only [List.mem_map, List.mem_filter, mem_snapshots_iff]
    constructor
    · rintro ⟨s, ⟨hs, hp⟩, rfl⟩
      exact ⟨s.capacity, hs, hp⟩
    · rintro ⟨c, hc, hp⟩
      exact ⟨⟨name, c⟩, ⟨hc, hp⟩, rfl⟩

/-- The names of the agents that have more reserved than they offer are listed in order. -/
theorem names_overcommitted (l : Ledger) :
    ((l.snapshots.filter fun s => !s.capacity.overcommitted.isEmpty).map (·.name)).Pairwise
        (· < ·) ∧
      ∀ name, (name ∈ (l.snapshots.filter fun s => !s.capacity.overcommitted.isEmpty).map
          (·.name)) ↔
        ∃ c, l.capacity? name = some c ∧ ∃ k, c.allocatable.get k < c.reserved.get k := by
  obtain ⟨hpairwise, hmem⟩ := l.names_where fun c => !c.overcommitted.isEmpty
  refine ⟨hpairwise, fun name => (hmem name).trans ?_⟩
  simp [List.eq_nil_iff_forall_not_mem, Capacity.mem_overcommitted_iff]

/-- A swap builds what was observed, whatever that is, and reports what it changes. -/
theorem rebuilds_resync (l : Ledger) (observed : List Observation) :
    Rebuilds l observed (l.resync observed).1 (l.resync observed).2 where
  names := by
    intro name
    show ((l.rebuild observed).capacity? name).isSome = true ↔ _
    rw [capacity?_rebuild, Option.isSome_map, List.find?_isSome]
    simp only [List.mem_reverse, List.mem_filter, decide_eq_true_eq, and_assoc]
  capacity := fun _ _ => capacity_rebuild_eq_some_iff
  agents := rfl
  added := names_without _ _
  removed := names_without _ _
  overcommitted := names_overcommitted _

end Ledger

end TaskFleet
