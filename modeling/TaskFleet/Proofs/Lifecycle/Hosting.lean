import TaskFleet.Proofs.Ledger.Reservations
import TaskFleet.Proofs.Lifecycle.Resyncs
import TaskFleet.Proofs.Lifecycle.Runs
import TaskFleet.Proofs.Store.Agents

/-!
# Agents that a host vouches for

A host gives its own agents a heartbeat whenever it lists the registry, and before it looks at how
old the records are. So whatever the clock does, an agent of the host that is registered as ready
and is listed at every resync is in the ledger from the first resync on, and what is reserved on it
is never lost. Any other agent is in the table exactly as long as its own heartbeats are recent
enough: `hosted_stay`.
-/

namespace TaskFleet

open Text (max64)

/-- The change of an agent's reservations that comes of a booking that is made if it can be. -/
def Ledger.accepted? (l : Ledger) (agent : String) (slipIn : Option Booking) : Option Booking :=
  slipIn.bind fun b => LedgerState.booked? ⟨l, []⟩ agent (.book b)

/-- A booking leaves an agent in the table and changes what it books of it. -/
theorem Ledger.capacity_slip {l : Ledger} {agent : String} {c : Capacity}
    (hc : l.capacity? agent = some c) (slipIn : Option Booking) :
    ∃ c', (l.slip slipIn).capacity? agent = some c' ∧ ∀ k, (c'.reserved.get k).millis =
      (l.accepted? agent slipIn).toList.foldl (Booking.tally k) (c.reserved.get k).millis := by
  cases slipIn with
  | none => exact ⟨c, hc, fun _ => rfl⟩
  | some b =>
      have hcall : (LedgerState.call ⟨l, []⟩ (.book b)).ledger = l.slip (some b) := by
        unfold LedgerState.call slip
        dsimp only
        cases l.book b with
        | ok ledger => rfl
        | error e => rfl
      have hthere : ∃ c', (l.slip (some b)).capacity? agent = some c' := by
        cases hbook : l.book b with
        | error e => exact ⟨c, by simp [slip, hbook, hc]⟩
        | ok l' =>
            obtain ⟨next, hnext, -⟩ := capacity_book hbook agent
            exact ⟨next c, by simp [slip, hbook, hnext, hc]⟩
      obtain ⟨c', hc'⟩ := hthere
      exact ⟨c', hc', LedgerState.tally_call (s := ⟨l, []⟩) (.book b) hc (hcall ▸ hc')⟩

namespace Fleet

variable {staleAfter pageSize : Nat} {hosted : List String} {agent : String} {f f' : Fleet}

/-- What happens to a fleet that learns of its agents from a registry. -/
inductive RegistryStep where
  | resync (pageSize : Nat)
  | book (b : Booking)
  /-- An agent is registered, for the first time or anew. -/
  | register (r : AgentRecord)
  /-- The clock is set, and what will fail and what will slip in is settled. -/
  | meanwhile (clock : Clock) (faults : Faults) (slipIn : Option Booking)

/-- The database that agents are registered in. -/
def registry (f : Fleet) : StateStore :=
  f.store.state?.getD .empty

/-- The record of an agent. -/
def record? (f : Fleet) (agent : String) : Option AgentRecord :=
  f.registry.agent? agent

/-- The names that are listed of the registry, the first ones in order. -/
def page (f : Fleet) (pageSize : Nat) : List String :=
  f.registry.agents.keys.take pageSize

/-- An agent is registered as ready. -/
def Offers (f : Fleet) (agent : String) : Prop :=
  ∃ r, f.record? agent = some r ∧ r.ready = true

namespace RegistryStep

/-- The fleet after a step. -/
def perform (f : Fleet) : RegistryStep → Fleet
  | .resync pageSize => ((Fleet.resync pageSize).run f).2
  | .book b => ((Fleet.book b).run f).2
  | .register r => { f with store := .durable (f.registry.putAgent r) }
  | .meanwhile clock faults slipIn => { f with clock, faults, slipIn }

/-- Times can be counted. -/
def InRange : RegistryStep → Prop
  | .register r => r.lastHeartbeat ≤ max64
  | .meanwhile clock _ _ => clock.now ≤ max64
  | .resync _ | .book _ => True

/-- A resync lists an agent, and nobody else registers it. -/
def Spares (agent : String) (f : Fleet) : RegistryStep → Prop
  | .resync pageSize => agent ∈ f.page pageSize
  | .register r => r.name ≠ agent
  | .book _ | .meanwhile .. => True

/-- The change of an agent's reservations that is made in a step, be it by a booking that slips
in. -/
def booked? (agent : String) (f : Fleet) : RegistryStep → Option Booking
  | .book b => f.ledger.accepted? agent (some b)
  | .resync _ =>
    if (Fault.next f.faults.list).1.isNone then f.ledger.accepted? agent f.slipIn else none
  | .register _ | .meanwhile .. => none

end RegistryStep

open RegistryStep

/-- The fleet after some steps. -/
def after (f : Fleet) (steps : List RegistryStep) : Fleet :=
  steps.foldl perform f

/-- An agent that is listed at each resync of some steps, and that none of them registers anew. -/
def Vouched (agent : String) : Fleet → List RegistryStep → Prop
  | _, [] => True
  | f, step :: steps => step.Spares agent f ∧ Vouched agent (step.perform f) steps

/-- The changes of an agent's reservations that are made in some steps, in their order. -/
def bookings (agent : String) : Fleet → List RegistryStep → List Booking
  | _, [] => []
  | f, step :: steps => (step.booked? agent f).toList ++ bookings agent (step.perform f) steps

/-- A fleet that learns of its agents from a registry in its database. -/
structure Serves (staleAfter : Nat) (hosted : List String) (f : Fleet) : Prop where
  source : f.source = .registry staleAfter hosted
  store : f.store = .durable f.registry
  registered : f.registry.Registered
  now : f.now ≤ max64

theorem registry_congr (h : f'.store = f.store) : f'.registry = f.registry := by
  unfold registry
  rw [h]

theorem serves_congr (h : Serves staleAfter hosted f) (hclock : f'.clock = f.clock)
    (hsource : f'.source = f.source) (hstore : f'.store = f.store) :
    Serves staleAfter hosted f' := by
  have hregistry := registry_congr hstore
  refine ⟨hsource.trans h.source, ?_, hregistry ▸ h.registered, now_congr hclock ▸ h.now⟩
  rw [hstore, hregistry]
  exact h.store

/-- The registry is listed, and the hosted agents have been heard of now. -/
theorem observe_serves (h : Serves staleAfter hosted f) (pageSize : Nat) :
    ∃ state observed, f.observe pageSize = ({ f with store := .durable state }, .ok observed) ∧
      state.Registered ∧
      (∀ name, state.agent? name =
        (f.record? name).map fun r => if name ∈ hosted then r.beat f.now else r) ∧
      ∀ name, (∃ o ∈ observed, o.ready = true ∧ o.name = name) ↔
        name ∈ f.page pageSize ∧ ∃ r, f.record? name = some r ∧ r.ready = true ∧
          (name ∈ hosted ∨ staleAfter = 0 ∨ f.now - r.lastHeartbeat ≤ staleAfter) := by
  obtain ⟨state, observed, hstate, hregistered, -, hrecords, hready⟩ :=
    StateStore.observe_agents_spec h.registered h.now pageSize staleAfter hosted
  refine ⟨state, observed, ?_, hregistered, hrecords, hready⟩
  unfold observe
  rw [h.source, h.store]
  dsimp only
  rw [hstate]
  rfl

/-- What a resync makes of the registry and of the table. -/
theorem resync_serves (h : Serves staleAfter hosted f) (pageSize : Nat) :
    Ensures (resync pageSize) f fun r f' => Serves staleAfter hosted f' ∧
      (∀ agent, f.Offers agent → f'.Offers agent) ∧
      match (Fault.next f.faults.list).1 with
      | some _ => f'.ledger = f.ledger
      | none => (∃ report, r = .ok report) ∧
        (∀ agent, (f'.ledger.capacity? agent).isSome = true ↔ agent ∈ f.page pageSize ∧
          ∃ r, f.record? agent = some r ∧ r.ready = true ∧
            (agent ∈ hosted ∨ staleAfter = 0 ∨ f.now - r.lastHeartbeat ≤ staleAfter)) ∧
        ∀ agent c, f'.ledger.capacity? agent = some c →
          c.reserved = (f.ledger.slip f.slipIn).reservedOn agent := by
  obtain ⟨state, observed, hobserve, hregistered, hrecords, hready⟩ := observe_serves h pageSize
  refine (resync_answers pageSize f).imp ?_
  rintro r f' ⟨hclock, hsource, hanswers⟩
  have hnow : f'.now ≤ max64 := now_congr hclock ▸ h.now
  rw [hobserve] at hanswers
  cases hnext : (Fault.next f.faults.list).1 with
  | some e =>
      rw [hnext] at hanswers
      obtain ⟨hstore, hledger, -⟩ := hanswers
      refine ⟨serves_congr h hclock hsource hstore, fun agent hoffers => ?_, hledger⟩
      rwa [Offers, record?, registry_congr hstore]
  | none =>
      rw [hnext] at hanswers
      obtain ⟨hstore, report, rfl, hresync⟩ := hanswers
      have hregistry : f'.registry = state := by rw [registry, hstore]; rfl
      have hrebuilds := (f.ledger.slip f.slipIn).rebuilds_resync observed
      rw [hresync] at hrebuilds
      refine ⟨⟨hsource.trans h.source, hregistry ▸ hstore, hregistry ▸ hregistered, hnow⟩, ?_,
        ⟨report, rfl⟩, ?_, ?_⟩
      · rintro agent ⟨r, hr, hok⟩
        rw [Offers, record?, hregistry, hrecords, hr]
        refine ⟨_, rfl, ?_⟩
        split
        · exact hok
        · exact hok
      · intro agent
        rw [hrebuilds.names, hready]
      · intro agent c hc
        obtain ⟨o, -, rfl⟩ := (hrebuilds.capacity agent c).1 hc
        rfl

/-- Every step leaves a fleet that learns of its agents from its registry. -/
theorem serves_perform {step : RegistryStep} (h : Serves staleAfter hosted f)
    (hrange : step.InRange) : Serves staleAfter hosted (step.perform f) := by
  cases step with
  | resync pageSize => exact (resync_serves h pageSize).1
  | book b =>
      obtain ⟨-, hclock, hsource, hstore⟩ := book_in_ledger b f
      exact serves_congr h hclock hsource hstore
  | register r => exact ⟨h.source, rfl, (h.registered.put_agent hrange).1, h.now⟩
  | meanwhile clock faults slipIn => exact ⟨h.source, h.store, h.registered, hrange⟩

/-- An agent that the host vouches for stays registered as ready, and in the table if it is there,
with what is reserved on it. -/
theorem kept_perform {step : RegistryStep} (h : Serves staleAfter hosted f)
    (hrange : step.InRange) (hhosted : agent ∈ hosted) (hoffers : f.Offers agent)
    (hspares : step.Spares agent f) :
    (step.perform f).Offers agent ∧ ∀ c, f.ledger.capacity? agent = some c →
      ∃ c', (step.perform f).ledger.capacity? agent = some c' ∧ ∀ k, (c'.reserved.get k).millis =
        (step.booked? agent f).toList.foldl (Booking.tally k) (c.reserved.get k).millis := by
  cases step with
  | resync pageSize =>
      obtain ⟨-, hrecords, htable⟩ := resync_serves h pageSize
      refine ⟨hrecords agent hoffers, fun c hc => ?_⟩
      unfold booked?
      cases hnext : (Fault.next f.faults.list).1 with
      | some e =>
          rw [hnext] at htable
          exact ⟨c, htable ▸ hc, fun _ => rfl⟩
      | none =>
          rw [hnext] at htable
          obtain ⟨-, hnames, hreserved⟩ := htable
          obtain ⟨r, hr, hready⟩ := hoffers
          -- The swap carries over what is reserved at its moment, after what slips in.
          have hthere := (hnames agent).2 ⟨hspares, r, hr, hready, .inl hhosted⟩
          obtain ⟨c', hc'⟩ := Option.isSome_iff_exists.1 hthere
          obtain ⟨c₁, hc₁, htally⟩ := Ledger.capacity_slip hc f.slipIn
          refine ⟨c', hc', fun k => ?_⟩
          rw [hreserved agent c' hc', Ledger.reserved_on_eq hc₁]
          exact htally k
  | book b =>
      obtain ⟨hledger, -, -, hstore⟩ := book_in_ledger b f
      refine ⟨?_, fun c hc => ?_⟩
      · have hregistry : ((Fleet.book b).run f).2.registry = f.registry := registry_congr hstore
        show Offers ((Fleet.book b).run f).2 agent
        rwa [Offers, record?, hregistry]
      · obtain ⟨c', hc', htally⟩ := Ledger.capacity_slip hc (some b)
        exact ⟨c', hledger ▸ hc', htally⟩
  | register r =>
      refine ⟨?_, fun c hc => ⟨c, hc, fun _ => rfl⟩⟩
      obtain ⟨r', hr', hready⟩ := hoffers
      refine ⟨r', ?_, hready⟩
      exact ((h.registered.put_agent hrange).2 agent).trans ((if_neg (Ne.symm hspares)).trans hr')
  | meanwhile clock faults slipIn => exact ⟨hoffers, fun c hc => ⟨c, hc, fun _ => rfl⟩⟩

/-- Every run leaves a fleet that learns of its agents from its registry. -/
theorem serves_after {steps : List RegistryStep} (h : Serves staleAfter hosted f)
    (hrange : ∀ step ∈ steps, step.InRange) : Serves staleAfter hosted (f.after steps) := by
  induction steps generalizing f with
  | nil => exact h
  | cons step steps ih =>
      obtain ⟨hfirst, hrest⟩ := List.forall_mem_cons.1 hrange
      exact ih (serves_perform h hfirst) hrest

/-- What one step keeps of an agent that the host vouches for, a run keeps. -/
theorem kept_after {steps : List RegistryStep} (h : Serves staleAfter hosted f)
    (hrange : ∀ step ∈ steps, step.InRange) (hhosted : agent ∈ hosted) (hoffers : f.Offers agent)
    (hvouched : Vouched agent f steps) :
    (f.after steps).Offers agent ∧ ∀ c, f.ledger.capacity? agent = some c →
      ∃ c', (f.after steps).ledger.capacity? agent = some c' ∧ ∀ k, (c'.reserved.get k).millis =
        (bookings agent f steps).foldl (Booking.tally k) (c.reserved.get k).millis := by
  induction steps generalizing f with
  | nil => exact ⟨hoffers, fun c hc => ⟨c, hc, fun _ => rfl⟩⟩
  | cons step steps ih =>
      obtain ⟨hfirst, hrest⟩ := List.forall_mem_cons.1 hrange
      obtain ⟨hspares, hvouched⟩ := hvouched
      obtain ⟨hoffers₁, htally₁⟩ := kept_perform h hfirst hhosted hoffers hspares
      obtain ⟨hoffers', htally'⟩ := ih (serves_perform h hfirst) hrest hoffers₁ hvouched
      refine ⟨hoffers', fun c hc => ?_⟩
      obtain ⟨c₁, hc₁, hmillis₁⟩ := htally₁ c hc
      obtain ⟨c', hc', hmillis'⟩ := htally' c₁ hc₁
      refine ⟨c', hc', fun k => ?_⟩
      rw [hmillis', hmillis₁, bookings, List.foldl_append]

theorem vouched_append {before later : List RegistryStep} :
    Vouched agent f (before ++ later) ↔
      Vouched agent f before ∧ Vouched agent (f.after before) later := by
  induction before generalizing f with
  | nil => exact ⟨fun h => ⟨trivial, h⟩, And.right⟩
  | cons step steps ih =>
      show _ ∧ Vouched agent _ (steps ++ later) ↔ (_ ∧ _) ∧ _
      rw [ih, and_assoc]
      rfl

theorem after_append (f : Fleet) (before later : List RegistryStep) :
    f.after (before ++ later) = (f.after before).after later :=
  List.foldl_append

/-- A host keeps the agents that it vouches for. Take a run of resyncs, bookings and registrations
under a clock that is set at will. An agent of the host that is registered as ready, that is listed
at every resync and that nobody registers anew is in the ledger after every resync that does not
fail. Once there it stays, and from any moment on what is reserved on it is what the bookings since
have come to. Another agent is in the table after a resync exactly if it is listed, registered as
ready, and was heard of lately enough, if that matters at all. -/
theorem hosted_stay {start : Fleet} {steps : List RegistryStep}
    (hserves : Serves staleAfter hosted start) (hrange : ∀ step ∈ steps, step.InRange) :
    (∀ agent ∈ hosted, start.Offers agent → Vouched agent start steps →
      ∀ before later, steps = before ++ later →
        (∀ c, (start.after before).ledger.capacity? agent = some c →
          ∃ c', (start.after steps).ledger.capacity? agent = some c' ∧
            ∀ k, (c'.reserved.get k).millis = (bookings agent (start.after before) later).foldl
              (Booking.tally k) (c.reserved.get k).millis) ∧
        ∀ pageSize rest, later = .resync pageSize :: rest →
          (Fault.next (start.after before).faults.list).1 = none →
            (∃ report, ((resync pageSize).run (start.after before)).1 = .ok report) ∧
            (((resync pageSize).run (start.after before)).2.ledger.capacity? agent).isSome = true) ∧
    ∀ agent, agent ∉ hosted → ∀ before pageSize later, steps = before ++ .resync pageSize :: later →
      (Fault.next (start.after before).faults.list).1 = none →
        (∃ report, ((resync pageSize).run (start.after before)).1 = .ok report) ∧
        ((((resync pageSize).run (start.after before)).2.ledger.capacity? agent).isSome = true ↔
          agent ∈ (start.after before).page pageSize ∧
            ∃ r, (start.after before).record? agent = some r ∧ r.ready = true ∧
              (staleAfter = 0 ∨ (start.after before).now - r.lastHeartbeat ≤ staleAfter)) := by
  refine ⟨?_, ?_⟩
  · rintro agent hhosted hoffers hvouched before later rfl
    obtain ⟨hbefore, hlater⟩ := List.forall_mem_append.1 hrange
    obtain ⟨hvouched₁, hvouched₂⟩ := vouched_append.1 hvouched
    have hserves₁ := serves_after hserves hbefore
    obtain ⟨hoffers₁, -⟩ := kept_after hserves hbefore hhosted hoffers hvouched₁
    refine ⟨?_, ?_⟩
    · rw [after_append]
      exact (kept_after hserves₁ hlater hhosted hoffers₁ hvouched₂).2
    · rintro pageSize rest rfl hnext
      obtain ⟨-, -, htable⟩ := resync_serves hserves₁ pageSize
      rw [hnext] at htable
      obtain ⟨hok, hnames, -⟩ := htable
      obtain ⟨r, hr, hready⟩ := hoffers₁
      exact ⟨hok, (hnames agent).2 ⟨hvouched₂.1, r, hr, hready, .inl hhosted⟩⟩
  · rintro agent hother before pageSize later rfl hnext
    obtain ⟨hbefore, -⟩ := List.forall_mem_append.1 hrange
    obtain ⟨-, -, htable⟩ := resync_serves (serves_after hserves hbefore) pageSize
    rw [hnext] at htable
    obtain ⟨hok, hnames, -⟩ := htable
    refine ⟨hok, (hnames agent).trans ?_⟩
    simp only [hother, false_or]

/-- A record of an agent with one processor. -/
def oneProcessorHeard (name : String) (lastHeartbeat : Nat) : AgentRecord :=
  ⟨name, true, .ofList [(.cpu, .ofMillis 1000)], .empty, lastHeartbeat⟩

/-- A fleet with an agent of the host, whose record is old, and one of another host. -/
def attended : Fleet :=
  { fresh 1000 runsOn with
    store := .durable ((StateStore.empty.putAgent (oneProcessorHeard "b" 0)).putAgent
      (oneProcessorHeard "a" 990))
    source := .registry 30 ["b"] }

/-- The clock goes ahead and then back beyond its start. Meanwhile half a processor is reserved on
the agent of the host, part of it is released during a listing, and a third agent is registered. -/
def astray : List RegistryStep :=
  [.resync 2, .book (LedgerState.ofCpu .reserve "b" 500),
    .meanwhile ⟨2000, 0⟩ {} (some (LedgerState.ofCpu .release "b" 200)),
    .register (oneProcessorHeard "c" 1990), .resync 2, .meanwhile ⟨10, 0⟩ {} none, .resync 2]

theorem serves_attended : Serves 30 ["b"] attended where
  source := rfl
  store := rfl
  registered :=
    have hnone : StateStore.empty.Registered := fun _ _ h => nomatch h
    have hb := (hnone.put_agent (r := oneProcessorHeard "b" 0) (by decide)).1
    (hb.put_agent (r := oneProcessorHeard "a" 990) (by decide)).1
  now := by decide

theorem hosted_stay_attended :
    (∃ c, (attended.after astray).ledger.capacity? "b" = some c ∧
      (c.reserved.get .cpu).millis = 300) ∧
    (((resync 2).run (attended.after (astray.take 4))).2.ledger.capacity? "a").isSome = false ∧
    (((resync 2).run (attended.after (astray.take 6))).2.ledger.capacity? "a").isSome = true := by
  have hrange : ∀ step ∈ astray, step.InRange := by
    simp only [astray, List.forall_mem_cons]
    exact ⟨trivial, trivial, show Clock.now ⟨2000, 0⟩ ≤ max64 by decide,
      show 1990 ≤ max64 by decide, trivial, show Clock.now ⟨10, 0⟩ ≤ max64 by decide, trivial,
      nofun⟩
  have hoffers : attended.Offers "b" := ⟨_, rfl, rfl⟩
  have hvouched : Vouched "b" attended astray := by
    have hlisted (f : Fleet) (h : decide ("b" ∈ f.page 2) = true) : Spares "b" f (.resync 2) :=
      show "b" ∈ f.page 2 from of_decide_eq_true h
    exact ⟨hlisted _ (by decide +kernel), trivial, trivial, show "c" ≠ "b" by decide,
      hlisted _ (by decide +kernel), trivial, hlisted _ (by decide +kernel), trivial⟩
  obtain ⟨hours, hothers⟩ := hosted_stay serves_attended hrange
  refine ⟨?_, ?_, ?_⟩
  · obtain ⟨htally, -⟩ := hours "b" (by simp) hoffers hvouched (astray.take 1) (astray.drop 1) rfl
    have hthere : ((attended.after (astray.take 1)).ledger.capacity? "b").any
        (fun c => (c.reserved.get .cpu).millis = 0) = true := by decide +kernel
    obtain ⟨c, hc, hnothing⟩ := (Option.any_eq_true _ _).1 hthere
    obtain ⟨c', hc', hmillis⟩ := htally c hc
    have hbookings : bookings "b" (attended.after (astray.take 1)) (astray.drop 1) =
        [LedgerState.ofCpu .reserve "b" 500, LedgerState.ofCpu .release "b" 200] := by
      decide +kernel
    refine ⟨c', hc', ?_⟩
    rw [hmillis, hbookings, of_decide_eq_true hnothing]
    decide +kernel
  · have hrecord : (attended.after (astray.take 4)).record? "a" =
        some (oneProcessorHeard "a" 990) := by decide +kernel
    have hiff := (hothers "a" (by simp) (astray.take 4) 2 (astray.drop 5) rfl rfl).2
    rw [Bool.eq_false_iff, ne_eq, hiff, hrecord]
    rintro ⟨-, _, ⟨⟩, -, hheard⟩
    exact absurd hheard (by decide +kernel)
  · have hrecord : (attended.after (astray.take 6)).record? "a" =
        some (oneProcessorHeard "a" 990) := by decide +kernel
    have hiff := (hothers "a" (by simp) (astray.take 6) 2 [] rfl rfl).2
    exact hiff.2 ⟨by decide +kernel, _, hrecord, by decide +kernel⟩

end Fleet

end TaskFleet
