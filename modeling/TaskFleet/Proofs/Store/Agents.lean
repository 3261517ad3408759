import TaskFleet.Agent.Source
import TaskFleet.Proofs.Store.Readable

/-!
# Registered agents

What the database holds of agents that were registered (`StateStore.Registered`): every record can
be read, a heartbeat changes the time of one record and nothing else, and a listing observes the
first names in order, the hosted ones as if they had been heard of just now (`observe_agents_spec`).
-/

namespace TaskFleet

open Record
open Text (max64)

/-- A new value for a key that has one changes no key. -/
theorem Dict.keys_insert {α : Type} {d : Dict String α} {k : String} {v : α} (w : α)
    (h : d.find? k = some v) : (d.insert k w).keys = d.keys := by
  obtain ⟨pre, post, hold, hnew⟩ := place_split (w := w) d.sorted h
  show (place k w d.entries).map (·.1) = d.entries.map (·.1)
  rw [hnew, hold]
  simp

/-- Steps that cannot fail go through a list like a plain map. -/
theorem map_m_eq_ok {α β ε : Type} {f : α → Except ε β} {g : α → β} {l : List α}
    (h : ∀ a ∈ l, f a = .ok (g a)) : l.mapM f = .ok (l.map g) := by
  rw [map_m_ok_iff, List.forall₂_map_right_iff, List.forall₂_same]
  exact h

namespace AgentRecord

/-- A record as it is read back: kinds of resources stand under the names that they are read by. -/
def stored (r : AgentRecord) : AgentRecord :=
  { r with allocatable := r.allocatable.named }

/-- The record after a heartbeat. -/
def beat (r : AgentRecord) (now : Nat) : AgentRecord :=
  { r with lastHeartbeat := now }

/-- A record whose time can be counted is read back. -/
theorem reads_iff {a b : AgentRecord} :
    ReadsAs AgentRecord.toJson AgentRecord.decode a b ↔
      a.lastHeartbeat ≤ max64 ∧ b = a.stored := by
  have hparts : ReadsAs AgentRecord.toJson AgentRecord.decode a b ↔
      ReadsAs ResourceSet.toJson Decode.resourceSet a.allocatable b.allocatable ∧
        ReadsAs natToJson Decode.nat64 a.lastHeartbeat b.lastHeartbeat ∧
        a.name = b.name ∧ a.ready = b.ready ∧ a.labels = b.labels := by
    obtain ⟨name, ready, allocatable, labels, lastHeartbeat⟩ := b
    unfold ReadsAs AgentRecord.toJson AgentRecord.decode
    rw [decode_obj_ok_iff (by simp [AgentRecord.record])]
    simp [AgentRecord.record, occurrences]
  rw [hparts, resources_reads_iff, Decode.nat64, nat_reads_iff]
  constructor
  · rintro ⟨hresources, ⟨hmax, htime⟩, hname, hready, hlabels⟩
    refine ⟨hmax, ?_⟩
    cases b
    simp_all [stored]
  · rintro ⟨hmax, rfl⟩
    exact ⟨rfl, ⟨hmax, rfl⟩, rfl, rfl, rfl⟩

/-- An agent is seen to be ready if it was registered so and was heard of lately enough. -/
theorem ready_observe_iff {r : AgentRecord} {now staleAfter : Nat} :
    (r.observe now staleAfter).ready = true ↔
      r.ready = true ∧ (staleAfter = 0 ∨ now - r.lastHeartbeat ≤ staleAfter) := by
  unfold observe isStale
  simp only [Bool.and_eq_true, Bool.not_eq_true', Bool.and_eq_false_iff, decide_eq_false_iff_not,
    Nat.not_lt, Nat.le_zero]

/-- An agent that is heard of now is seen as it was registered. -/
theorem ready_observe_beat_iff {r : AgentRecord} {now staleAfter : Nat} {hosted : Prop}
    [Decidable hosted] :
    ((if hosted then r.beat now else r).observe now staleAfter).ready = true ↔
      r.ready = true ∧ (hosted ∨ staleAfter = 0 ∨ now - r.lastHeartbeat ≤ staleAfter) := by
  by_cases h : hosted
  · simp [h, ready_observe_iff, beat]
  · simp [h, ready_observe_iff]

/-- What was read once comes back as it was, whatever the time of its heartbeat. -/
theorem stored_beat_stored (r : AgentRecord) (now : Nat) :
    (r.stored.beat now).stored = r.stored.beat now := by
  have hread : ReadsAs ResourceSet.toJson Decode.resourceSet r.allocatable r.allocatable.named :=
    resources_reads_iff.2 rfl
  have hnamed : r.allocatable.named = r.allocatable.named.named :=
    resources_reads_iff.1 (resources_settles hread)
  show ({ r with allocatable := r.allocatable.named.named, lastHeartbeat := now } : AgentRecord) = _
  rw [← hnamed]
  rfl

end AgentRecord

namespace StateStore

/-- A database as registering agents leaves it: what stands under a name is the record of the agent
of that name, and the time of its heartbeat can be counted. -/
def Registered (s : StateStore) : Prop :=
  ∀ name record, s.agents.find? name = some record →
    ∃ r : AgentRecord, r.name = name ∧ r.lastHeartbeat ≤ max64 ∧ record = r.toJson

/-- The record of an agent, if there is one that can be read. -/
def agent? (s : StateStore) (name : String) : Option AgentRecord :=
  (s.getAgent name).toOption.join

variable {s s' : StateStore} {name other : String} {r : AgentRecord} {limit now : Nat}

/-- In such a database every record is read. -/
theorem Registered.get_agent (h : s.Registered) (name : String) :
    s.getAgent name = .ok (s.agent? name) := by
  unfold agent? getAgent
  cases hfind : s.agents.find? name with
  | none => rfl
  | some record =>
      obtain ⟨r, -, hmax, rfl⟩ := h name record hfind
      have hread : readRecord AgentRecord.decode r.toJson = .ok r.stored :=
        read_record_ok_iff.2 (AgentRecord.reads_iff.2 ⟨hmax, rfl⟩)
      dsimp only
      rw [hread]
      rfl

/-- A record that is read stands under the name of its agent, and comes back as it was. -/
theorem Registered.of_agent (h : s.Registered) (hagent : s.agent? name = some r) :
    ∃ record, s.agents.find? name = some record ∧ r.name = name ∧
      readRecord AgentRecord.decode record = .ok r ∧ ∀ now, (r.beat now).stored = r.beat now := by
  have hget := h.get_agent name
  rw [hagent] at hget
  unfold getAgent at hget
  cases hfind : s.agents.find? name with
  | none =>
      rw [hfind] at hget
      exact nomatch hget
  | some record =>
      rw [hfind] at hget
      obtain ⟨_, hread, hr⟩ := map_eq_ok_iff.1 hget
      cases hr
      obtain ⟨r', rfl, -, rfl⟩ := h name record hfind
      obtain ⟨-, rfl⟩ := AgentRecord.reads_iff.1 (read_record_ok_iff.1 hread)
      exact ⟨_, rfl, rfl, hread, r'.stored_beat_stored⟩

/-- Registering an agent, for the first time or anew. -/
theorem Registered.put_agent (h : s.Registered) (hmax : r.lastHeartbeat ≤ max64) :
    (s.putAgent r).Registered ∧
      ∀ name, (s.putAgent r).agent? name =
        if name = r.name then some r.stored else s.agent? name := by
  have hfind (name : String) : (s.putAgent r).agents.find? name =
      if name = r.name then some r.toJson else s.agents.find? name :=
    Dict.find?_insert _ _ _ _
  refine ⟨fun name record hrecord => ?_, fun name => ?_⟩
  · rw [hfind] at hrecord
    by_cases hname : name = r.name
    · rw [if_pos hname] at hrecord
      cases hrecord
      exact ⟨r, hname.symm, hmax, rfl⟩
    · rw [if_neg hname] at hrecord
      exact h name record hrecord
  · unfold agent? getAgent
    rw [hfind]
    by_cases hname : name = r.name
    · have hread : readRecord AgentRecord.decode r.toJson = .ok r.stored :=
        read_record_ok_iff.2 (AgentRecord.reads_iff.2 ⟨hmax, rfl⟩)
      simp only [hname, if_true]
      rw [hread]
      rfl
    · rw [if_neg hname, if_neg hname]

/-- A heartbeat is noted in the record of the agent, if there is one, and nowhere else. -/
theorem heartbeat_spec (h : s.Registered) (hnow : now ≤ max64) (name : String) :
    ∃ s' known, s.heartbeat name now = .ok (s', known) ∧ s'.Registered ∧
      s'.agents.keys = s.agents.keys ∧
      ∀ other, s'.agent? other =
        (s.agent? other).map fun r => if other = name then r.beat now else r := by
  unfold heartbeat
  rw [h.get_agent name]
  cases hagent : s.agent? name with
  | none =>
      refine ⟨s, false, rfl, h, rfl, fun other => ?_⟩
      by_cases hother : other = name
      · rw [hother, hagent]
        rfl
      · simp [hother]
  | some r =>
      obtain ⟨record, hfind, rfl, -, hbeat⟩ := h.of_agent hagent
      obtain ⟨hregistered, hlookup⟩ := h.put_agent (r := r.beat now) hnow
      refine ⟨s.putAgent (r.beat now), true, rfl, hregistered, Dict.keys_insert _ hfind,
        fun other => ?_⟩
      rw [hlookup, hbeat]
      by_cases hother : other = r.name
      · rw [if_pos (show other = (r.beat now).name from hother), hother, hagent]
        simp
      · rw [if_neg (show other ≠ (r.beat now).name from hother)]
        simp [hother]

/-- Heartbeats of several agents are noted in their records, and nowhere else. -/
theorem heartbeat_all_spec (h : s.Registered) (hnow : now ≤ max64) (names : List String) :
    ∃ s', s.heartbeatAll now names = (s', .ok ()) ∧ s'.Registered ∧
      s'.agents.keys = s.agents.keys ∧
      ∀ name, s'.agent? name =
        (s.agent? name).map fun r => if name ∈ names then r.beat now else r := by
  induction names generalizing s with
  | nil => exact ⟨s, rfl, h, rfl, fun name => by simp⟩
  | cons first rest ih =>
      obtain ⟨s₁, known, hfirst, hregistered, hkeys, hagents⟩ := heartbeat_spec h hnow first
      obtain ⟨s', hrest, hregistered', hkeys', hagents'⟩ := ih hregistered
      refine ⟨s', ?_, hregistered', hkeys'.trans hkeys, fun name => ?_⟩
      · rw [heartbeatAll, hfirst]
        exact hrest
      · rw [hagents', hagents, Option.map_map]
        refine Option.map_congr fun r _ => ?_
        by_cases hname : name = first
        · by_cases hmem : name ∈ rest
          · simp [hname, AgentRecord.beat]
          · simp [hname, AgentRecord.beat]
        · simp [hname]

/-- The first record that cannot be read puts an end to the heartbeats, and those before it stay. -/
theorem heartbeat_all_stops {names rest : List String} {e : StateError}
    (hnoted : s.heartbeatAll now names = (s', .ok ())) (hfails : s'.heartbeat name now = .error e) :
    s.heartbeatAll now (names ++ name :: rest) = (s', .error e) := by
  induction names generalizing s with
  | nil =>
      cases hnoted
      rw [List.nil_append, heartbeatAll, hfails]
  | cons first others ih =>
      rw [heartbeatAll] at hnoted
      rw [List.cons_append, heartbeatAll]
      cases hfirst : s.heartbeat first now with
      | error e =>
          rw [hfirst] at hnoted
          exact nomatch hnoted
      | ok r =>
          rw [hfirst] at hnoted
          exact ih hnoted

/-- The first records in order are listed, all of them. -/
theorem list_agents_spec (h : s.Registered) (limit : Nat) :
    ∃ records, s.listAgents limit = .ok records ∧
      ∀ r, r ∈ records ↔ r.name ∈ s.agents.keys.take limit ∧ s.agent? r.name = some r := by
  have hread (e : String × Json) (he : e ∈ s.agents.entries) :
      ∃ r, r.name = e.1 ∧ s.agent? e.1 = some r ∧ readRecord AgentRecord.decode e.2 = .ok r := by
    have hfind := Dict.mem_entries_iff.1 he
    obtain ⟨r, hname, hmax, hrecord⟩ := h e.1 e.2 hfind
    have hread : readRecord AgentRecord.decode e.2 = .ok r.stored := by
      rw [hrecord]
      exact read_record_ok_iff.2 (AgentRecord.reads_iff.2 ⟨hmax, rfl⟩)
    refine ⟨r.stored, hname, ?_, hread⟩
    unfold agent? getAgent
    rw [hfind]
    dsimp only
    rw [hread]
    rfl
  refine ⟨(s.agents.entries.take limit).map fun e => (s.agent? e.1).getD default, ?_, fun r => ?_⟩
  · unfold listAgents Dict.values
    rw [← List.map_take, List.mapM_map]
    refine map_m_eq_ok fun e he => ?_
    obtain ⟨r, -, hagent, hr⟩ := hread e (List.mem_of_mem_take he)
    rw [hagent]
    exact hr
  · unfold Dict.keys
    simp only [← List.map_take, List.mem_map]
    constructor
    · rintro ⟨e, he, rfl⟩
      obtain ⟨r, hname, hagent, -⟩ := hread e (List.mem_of_mem_take he)
      rw [hagent]
      exact ⟨⟨e, he, hname.symm⟩, hname.symm ▸ hagent⟩
    · rintro ⟨⟨e, he, hname⟩, hagent⟩
      exact ⟨e, he, by rw [hname, hagent]; rfl⟩

/-- What is observed of the registered agents, and what that leaves of their records: an agent is
seen to be ready if it is among the first and registered so, and if it is hosted or was heard of
lately enough. -/
theorem observe_agents_spec (h : s.Registered) (hnow : now ≤ max64) (limit staleAfter : Nat)
    (hosted : List String) :
    ∃ s' observed, s.observeAgents limit now staleAfter hosted = (s', .ok observed) ∧
      s'.Registered ∧ s'.agents.keys = s.agents.keys ∧
      (∀ name, s'.agent? name =
        (s.agent? name).map fun r => if name ∈ hosted then r.beat now else r) ∧
      ∀ name, (∃ o ∈ observed, o.ready = true ∧ o.name = name) ↔
        name ∈ s.agents.keys.take limit ∧ ∃ r, s.agent? name = some r ∧ r.ready = true ∧
          (name ∈ hosted ∨ staleAfter = 0 ∨ now - r.lastHeartbeat ≤ staleAfter) := by
  -- The heartbeats come first, so what is listed are the records with them.
  obtain ⟨s', hbeats, hregistered, hkeys, hagents⟩ := heartbeat_all_spec h hnow hosted
  obtain ⟨records, hlist, hmem⟩ := list_agents_spec hregistered limit
  refine ⟨s', records.map fun r : AgentRecord => r.observe now staleAfter, ?_, hregistered, hkeys,
    hagents, ?_⟩
  · unfold observeAgents
    rw [hbeats]
    dsimp only
    rw [hlist]
    rfl
  · intro name
    simp only [List.mem_map, hmem, hkeys, hagents]
    constructor
    · rintro ⟨_, ⟨r', ⟨hpage, hr'⟩, rfl⟩, hready, rfl⟩
      obtain ⟨r, hr, hbeat⟩ := Option.map_eq_some_iff.1 hr'
      rw [← hbeat] at hready
      exact ⟨hpage, r, hr, AgentRecord.ready_observe_beat_iff.1 hready⟩
    · rintro ⟨hpage, r, hr, hheard⟩
      obtain ⟨-, -, rfl, -⟩ := h.of_agent hr
      have hname : (if r.name ∈ hosted then r.beat now else r).name = r.name := by
        split
        · rfl
        · rfl
      refine ⟨_, ⟨if r.name ∈ hosted then r.beat now else r, ?_, rfl⟩,
        AgentRecord.ready_observe_beat_iff.2 hheard, hname⟩
      rw [hname]
      exact ⟨hpage, Option.map_eq_some_iff.2 ⟨r, hr, rfl⟩⟩

end StateStore

end TaskFleet
