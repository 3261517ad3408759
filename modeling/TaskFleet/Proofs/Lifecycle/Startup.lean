import TaskFleet.CommandLine.Run
import TaskFleet.Proofs.Config.Checked
import TaskFleet.Proofs.Lifecycle.Hosting
import TaskFleet.Proofs.Store.Mirrors

/-!
# Starting with what was configured

What a configuration that was read leaves to fail when the daemon starts on it: `start_of_read`. Its
durations, its pages and the names of its agents have been checked, so only the database can fail the
start, and one whose records can all be read does not (`start_spec`); and the name of the strategy,
which is looked up when the agents are registered already (`unknown_strategy_accepted`). An unknown
format of the log is found before anything is written.
-/

namespace TaskFleet

open Text (max64)

/-- A database in which every record can be read, and every task stands under its own key and comes
back as it was. -/
structure StateStore.Intact (s : StateStore) : Prop where
  sound : (TaskStore.durable s).Sound
  readable : (TaskStore.durable s).Readable
  registered : s.Registered

/-- A database without records is intact. -/
theorem StateStore.intact_empty : StateStore.empty.Intact where
  sound := written_empty.sound
  readable := fun _ _ hfind => nomatch hfind
  registered := fun _ _ hfind => nomatch hfind

/-- The errors that a start can fail of when the configuration has been checked: those of the
database, and an unknown strategy. -/
inductive DaemonError.Remains (strategy : String) : DaemonError → Prop where
  | state (e : StateError) : Remains strategy (.state e)
  | ledger (e : LedgerError) : Remains strategy (.ledger e)
  | strategy (hunknown : strategy ∉ Strategy.known) : Remains strategy (.strategy ⟨strategy⟩)

/-- Registering agents of different names registers each of them, and nobody else. -/
theorem StateStore.put_agents_spec {agents : List Observation} {s : StateStore} {now : Nat}
    (hnow : now ≤ max64) (hnodup : (agents.map Observation.name).Nodup) (h : s.Registered) :
    let s' := agents.foldl (fun s a => s.putAgent (.ofObservation a now)) s
    s'.Registered ∧ s'.tasks = s.tasks ∧
      (∀ a ∈ agents, s'.agent? a.name = some (AgentRecord.ofObservation a now).stored) ∧
      ∀ name ∉ agents.map Observation.name, s'.agent? name = s.agent? name := by
  induction agents generalizing s with
  | nil => exact ⟨h, rfl, nofun, fun _ _ => rfl⟩
  | cons a rest ih =>
      rw [List.map_cons, List.nodup_cons] at hnodup
      obtain ⟨hregistered, hlookup⟩ := h.put_agent (r := .ofObservation a now) hnow
      obtain ⟨hregistered', htasks, hagents, hothers⟩ := ih hnodup.2 hregistered
      refine ⟨hregistered', htasks, List.forall_mem_cons.2 ⟨?_, hagents⟩, fun name hname => ?_⟩
      · exact (hothers a.name hnodup.1).trans ((hlookup a.name).trans (if_pos rfl))
      · rw [List.map_cons, List.mem_cons, not_or] at hname
        exact (hothers name hname.2).trans ((hlookup name).trans (if_neg hname.1))

namespace Daemon

open Fleet

variable {c : Config} {o : DaemonOptions} {s : StateStore} {clock : Clock} {h h' : Host}

/-! ## What can fail -/

section FailsOf

variable {α β : Type} {p : DaemonError → Prop} {x : BootM α} {g : α → BootM β}

/-- A computation that fails of certain errors alone, wherever it is run. -/
def FailsOf (p : DaemonError → Prop) (x : BootM α) : Prop :=
  ∀ h, Ensures x h fun r _ => ∀ e, r = .error e → p e

/-- Two stages that fail of something fail of it one after the other. -/
theorem FailsOf.bind (hx : FailsOf p x) (hg : ∀ a, FailsOf p (g a)) : FailsOf p (x >>= g) :=
  fun h => (hx h).bind (fun a h' _ => hg a h') fun e _ he e' heq => by
    cases heq
    exact he e rfl

/-- What cannot fail fails of nothing. -/
theorem fails_of_lift (y : HostM α) : FailsOf p (ExceptT.lift y) :=
  fun _ => nofun

/-- A look at the host does not fail. -/
theorem fails_of_get : FailsOf p (get : BootM Host) :=
  fun _ => nofun

/-- A call to the database fails of what the database tells. -/
theorem fails_of_or_fail {r : Except StateError α} (hstate : ∀ e, p (.state e)) :
    FailsOf p (orFail r) := by
  intro h
  cases r with
  | ok a => exact nofun
  | error e =>
      rintro _ ⟨⟩
      exact hstate e

/-- A reservation is restored, or this fails of what the database tells. -/
theorem fails_of_restore_reservation (hstate : ∀ e, p (.state e)) (t : Task) :
    FailsOf p (restoreReservation t) := by
  unfold restoreReservation
  split
  · split
    · exact fun _ => nofun
    · refine FailsOf.bind (fails_of_lift _) fun r => ?_
      cases r with
      | ok _ => exact fun _ => nofun
      | error e =>
          refine FailsOf.bind fails_of_get fun h => ?_
          refine FailsOf.bind (fun _ => nofun) fun state => ?_
          exact FailsOf.bind (fails_of_or_fail hstate) fun written => fun _ => nofun
  · exact fun _ => nofun

/-- The ledger is filled, or this fails of what the ledger tells. -/
theorem fails_of_fill_ledger (hledger : ∀ e, p (.ledger e)) (pageSize : Nat) :
    FailsOf p (fillLedger pageSize) := by
  unfold fillLedger
  refine FailsOf.bind (fails_of_lift _) fun r => ?_
  cases r with
  | ok report => exact fun _ => nofun
  | error e =>
      rintro h _ ⟨⟩
      exact hledger e

/-- Stages along a list fail of what each of them may fail of. -/
theorem FailsOf.foldlM {l : List α} {f : β → α → BootM β} {b : β} (hf : ∀ b a, FailsOf p (f b a)) :
    FailsOf p (l.foldlM f b) := by
  induction l generalizing b with
  | nil => exact fun _ => nofun
  | cons a rest ih =>
      rw [List.foldlM_cons]
      exact FailsOf.bind (hf b a) fun _ => ih

/-- The reservations are restored, or this fails of what the database tells. -/
theorem fails_of_restore (hstate : ∀ e, p (.state e)) : FailsOf p restoreReservations := by
  unfold restoreReservations
  refine FailsOf.bind (fun _ => nofun) fun state => ?_
  refine FailsOf.bind (fails_of_or_fail hstate) fun tasks => ?_
  refine FailsOf.foldlM fun restored t => ?_
  exact FailsOf.bind (fails_of_restore_reservation hstate t) fun taken => fun _ => nofun

/-- A strategy is chosen, or its name is unknown. -/
theorem fails_of_choose_strategy {name : String}
    (hstrategy : name ∉ Strategy.known → p (.strategy ⟨name⟩)) : FailsOf p (chooseStrategy name) := by
  unfold chooseStrategy
  by_cases hknown : name ∈ Strategy.known
  · obtain ⟨strategy, hname⟩ := Strategy.of_name_of_known hknown
    rw [hname]
    exact fun _ => nofun
  · rw [Strategy.of_name_of_unknown hknown]
    rintro h _ ⟨⟩
    exact hstrategy hknown

/-- Hiring workers does not fail. -/
theorem fails_of_hire (tasks : List Task) :
    FailsOf p (tasks.forM fun t => (Host.hire t.id : BootM Unit)) := by
  induction tasks with
  | nil => exact fun _ => nofun
  | cons t rest ih => exact FailsOf.bind (fun _ => nofun) fun _ => ih

/-- With a checked configuration the start fails of nothing but what remains to be found out. -/
theorem fails_of_boot (hc : c.Checked) : FailsOf (·.Remains c.strategy) (boot c) := by
  obtain ⟨⟨interval, hsettings⟩, ⟨delays, hdelays⟩, -, -⟩ := hc
  unfold boot
  rw [hsettings, hdelays]
  -- The settings and the delays are read already, so of the stages only those fail that ask the
  -- database or look up the strategy.
  refine FailsOf.bind (fun _ => nofun) fun _ => ?_
  refine FailsOf.bind (fun _ => nofun) fun settings => ?_
  refine FailsOf.bind (fails_of_fill_ledger .ledger _) fun _ => ?_
  refine FailsOf.bind (fails_of_restore .state) fun _ => ?_
  refine FailsOf.bind (fails_of_choose_strategy .strategy) fun _ => ?_
  refine FailsOf.bind (fun _ => nofun) fun delays => ?_
  refine FailsOf.bind (fun _ => nofun) fun _ => ?_
  refine FailsOf.bind (fun _ => nofun) fun state => ?_
  refine FailsOf.bind (fails_of_or_fail .state) fun tasks => ?_
  refine FailsOf.bind (fails_of_hire tasks) fun _ => ?_
  refine FailsOf.bind (fun _ => nofun) fun _ => ?_
  refine FailsOf.bind (fun _ => nofun) fun _ => ?_
  refine FailsOf.bind fails_of_get fun h => ?_
  split
  · exact fun _ => nofun
  · exact fun _ => nofun

end FailsOf

/-! ## What is done -/

section Succeeds

variable {α β : Type} {x : BootM α} {g : α → BootM β} {p : α → Host → Prop}
  {q : Except DaemonError β → Host → Prop}

/-- Running `x` on a host succeeds, with a result and a host that satisfy `p`. -/
def Succeeds (x : BootM α) (h : Host) (p : α → Host → Prop) : Prop :=
  Ensures x h fun r h' => ∃ a, r = .ok a ∧ p a h'

/-- After a stage that succeeds comes the next one, with its answer. -/
theorem Succeeds.bind (hx : Succeeds x h p) (hg : ∀ a h', p a h' → Ensures (g a) h' q) :
    Ensures (x >>= g) h q := by
  refine Ensures.bind hx ?_ ?_
  · intro a h' hok
    obtain ⟨_, hr, hp⟩ := hok
    cases hr
    exact hg a h' hp
  · intro e h' herror
    obtain ⟨_, hr, -⟩ := herror
    cases hr

/-- A stage that only answers leaves the host as it was. -/
theorem ensures_pure {a : α} (hg : Ensures (g a) h q) : Ensures (pure a >>= g) h q := hg

/-- A change of the host is made before what follows. -/
theorem ensures_modify {f : Host → Host} {g : Unit → BootM β} (hg : Ensures (g ()) (f h) q) :
    Ensures (modify f >>= g) h q := hg

end Succeeds

/-- A daemon that is starting on an intact database, once the agents are registered. -/
structure Starting (c : Config) (now : Nat) (h : Host) : Prop where
  proper : Proper False h.fleet
  store : h.fleet.store = .durable h.fleet.registry
  intact : h.fleet.registry.Intact
  time : h.fleet.now = now
  heard : ∀ a ∈ c.agents, h.fleet.record? a.name = some (AgentRecord.ofObservation a now).stored

variable {now : Nat}

/-- What is left when the fleet has another strategy or other delays. -/
theorem Starting.adjust (hs : Starting c now h) {strategy : Strategy} {delays : Delays}
    (hfleet : h'.fleet = { h.fleet with strategy, delays }) : Starting c now h' := by
  obtain ⟨hproper, hstore, hintact, htime, hheard⟩ := hs
  have hproper' : Proper False { h.fleet with strategy, delays } := { hproper with }
  refine ⟨?_, ?_, ?_, ?_, ?_⟩
  all_goals rw [hfleet]
  · exact hproper'
  · exact hstore
  · exact hintact
  · exact htime
  · exact hheard

/-- The configured agents are registered, on a host that has just been set up. -/
theorem register_spec (hc : c.Checked) (hs : s.Intact) (hnow : clock.now ≤ max64) :
    Succeeds (register c.agents) (host c o s clock) fun _ h' =>
      h'.fleet.faults = {} ∧
        Serves o.staleAfter (c.agents.map (·.name)) h'.fleet ∧ Starting c clock.now h' := by
  obtain ⟨hregistered, htasks, hheard, -⟩ := StateStore.put_agents_spec hnow hc.names hs.registered
  have hsame : (TaskStore.durable s).SameTasks (.durable (c.agents.foldl (fun s a =>
      s.putAgent (.ofObservation a clock.now)) s)) := htasks.symm
  have hsound := (TaskStore.same_tasks_spec hsame).2.2 hs.sound
  refine ⟨(), rfl, rfl, ⟨rfl, rfl, hregistered, hnow⟩, ?_, rfl,
    ⟨hsound, hsame.readable hs.readable, hregistered⟩, rfl, hheard⟩
  exact {
    sound := hsound
    now := hnow
    reports := fun _ _ hfind => nomatch hfind
    starts := fun request course hstart => by
      obtain ⟨j, -, rfl⟩ := map_eq_ok_iff.1 hstart
      exact ⟨Nat.zero_le _, nofun⟩
    faults := False.elim
    slip := False.elim
    rival := False.elim }

/-- The first resync finds the agents as they were registered. -/
theorem fill_ledger_spec {staleAfter : Nat} (hs : Starting c now h)
    (hserves : Serves staleAfter (c.agents.map (·.name)) h.fleet) (hcalm : h.fleet.faults = {})
    (pageSize : Nat) :
    Succeeds (fillLedger pageSize) h fun _ h' => Starting c now h' := by
  have hresync : Fleet.Ensures (Fleet.resync pageSize) h.fleet fun r f' =>
      (∃ report, r = .ok report) ∧ ∀ h' : Host, h'.fleet = f' → Starting c now h' := by
    obtain ⟨state, observed, hobserve, hregistered, hrecords, -⟩ := observe_serves hserves pageSize
    have hanswers := resync_answers pageSize h.fleet
    have hrefreshes := resync_spec pageSize hs.proper
    unfold Fleet.Ensures at hanswers hrefreshes ⊢
    rw [hcalm, hobserve] at hanswers
    obtain ⟨hclock, -, hstore, report, hr, -⟩ := hanswers
    refine ⟨⟨report, hr⟩, fun h' hfleet => ?_⟩
    rw [← hfleet] at hclock hstore hrefreshes
    obtain rfl : h'.fleet.registry = state := by
      rw [registry, hstore]
      rfl
    have hreadable : h.fleet.store.Readable := by
      rw [hs.store]
      exact hs.intact.readable
    have hsound' := hrefreshes.proper.sound
    have hreadable' := hrefreshes.store.readable hreadable
    rw [hstore] at hsound' hreadable'
    refine ⟨hrefreshes.proper, hstore, ⟨hsound', hreadable', hregistered⟩,
      (now_congr hclock).trans hs.time, fun a ha => ?_⟩
    -- The heartbeat of a hosted agent comes in the second in which it was registered.
    have hhosted : a.name ∈ c.agents.map (·.name) := List.mem_map_of_mem ha
    rw [record?, hrecords, hs.heard a ha, Option.map_some, if_pos hhosted, hs.time]
    rfl
  unfold fillLedger
  refine Succeeds.bind (on_fleet_spec hresync) fun r h' hanswered => ?_
  obtain ⟨⟨report, rfl⟩, hstarting⟩ := hanswered
  exact ⟨(), rfl, hstarting h' rfl⟩

/-- Whatever is restored or forfeited, the agents stay as they were registered. -/
theorem restore_starting (hs : Starting c now h) :
    Succeeds restoreReservations h fun _ h' => Starting c now h' := by
  have hlist := TaskStore.list_of_readable hs.intact.readable
  refine (restore_tends hs.proper hs.store hlist).imp ?_
  rintro r h' ⟨count, state', hr, hrestores, hstore, htends⟩
  obtain rfl : h'.fleet.registry = state' := by
    rw [registry, hstore]
    rfl
  have hsound := hrestores.proper.sound
  rw [hstore] at hsound
  have hregistered : h'.fleet.registry.Registered := by
    intro name record hfind
    rw [htends.agents] at hfind
    exact hs.intact.registered name record hfind
  refine ⟨count, hr, hrestores.proper, hstore,
    ⟨hsound, htends.readable hs.intact.readable, hregistered⟩,
    (now_congr hrestores.clock).trans hs.time, fun a ha => ?_⟩
  have hrecord : h'.fleet.record? a.name = h.fleet.record? a.name := by
    unfold record? StateStore.agent? StateStore.getAgent
    rw [htends.agents]
  exact hrecord.trans (hs.heard a ha)

/-- Starting workers changes nothing of the fleet. -/
theorem hire_all_spec (tasks : List Task) (h : Host) :
    Succeeds (tasks.forM fun t => (Host.hire t.id : BootM Unit)) h fun _ h' =>
      h'.fleet = h.fleet := by
  induction tasks generalizing h with
  | nil => exact ⟨(), rfl, rfl⟩
  | cons t rest ih =>
      have hfirst : Succeeds (Host.hire t.id : BootM Unit) h fun _ h' => h'.fleet = h.fleet := by
        refine ⟨(), rfl, ?_⟩
        show ((Host.hire t.id).run h).2.fleet = h.fleet
        cases hlive : ((h.workers.find? t.id).map Worker.live).getD false with
        | true =>
            simp only [Host.hire, StateT.run_bind, StateT.run_get, pure_bind, hlive, if_true]
            rfl
        | false =>
            simp only [Host.hire, StateT.run_bind, StateT.run_get, pure_bind, hlive,
              Bool.false_eq_true, if_false]
            rfl
      refine hfirst.bind fun _ h' hfleet => ?_
      rw [← hfleet]
      exact ih h'

/-- The strategy is chosen if its name is known, and nothing else changes. -/
theorem choose_strategy_spec (hs : Starting c now h) (name : String) :
    Ensures (chooseStrategy name) h fun r h' =>
      r = (if name ∈ Strategy.known then .ok () else .error (.strategy ⟨name⟩)) ∧
        Starting c now h' := by
  unfold chooseStrategy
  by_cases hknown : name ∈ Strategy.known
  · obtain ⟨strategy, hname⟩ := Strategy.of_name_of_known hknown
    rw [if_pos hknown, hname]
    exact ⟨rfl, hs.adjust rfl⟩
  · rw [if_neg hknown, Strategy.of_name_of_unknown hknown]
    exact ⟨rfl, hs⟩

/-- All stages together: the start fails of an unknown strategy alone, and the agents stay
registered. -/
theorem boot_spec (hc : c.Checked) (hs : s.Intact) (hnow : clock.now ≤ max64) :
    Ensures (boot c) (host c o s clock) fun r h' =>
      r = (if c.strategy ∈ Strategy.known then .ok () else .error (.strategy ⟨c.strategy⟩)) ∧
        Starting c clock.now h' := by
  obtain ⟨interval, hsettings⟩ := hc.settings
  obtain ⟨delays, hdelays⟩ := hc.delays
  unfold boot
  rw [hsettings, hdelays]
  refine (register_spec hc hs hnow).bind fun _ h₁ hregistered => ?_
  obtain ⟨hcalm, hserves, hs₁⟩ := hregistered
  refine ensures_pure ((fill_ledger_spec hs₁ hserves hcalm _).bind fun _ h₂ hs₂ => ?_)
  refine (restore_starting hs₂).bind fun _ h₃ hs₃ => ?_
  refine (choose_strategy_spec hs₃ c.strategy).bind ?_ fun e h₄ hr => hr
  -- Nothing after the choice of the strategy can fail any more.
  intro _ h₄ hchosen
  obtain ⟨hr, hs₄⟩ := hchosen
  rw [← hr]
  refine ensures_pure (ensures_modify ?_)
  have hs₅ : Starting c clock.now { h₄ with fleet.delays := delays } := hs₄.adjust rfl
  refine ensures_database (database_of_durable hs₅.store) ?_
  unfold StateStore.listActiveTasks
  rw [TaskStore.list_of_readable hs₅.intact.readable]
  refine ensures_pure ((hire_all_spec _ _).bind fun _ h₆ hfleet => ?_)
  have hs₆ : Starting c clock.now h₆ := hs₅.adjust hfleet
  refine ensures_modify (ensures_modify (ensures_get ?_))
  split
  · exact ⟨rfl, hs₆.adjust rfl⟩
  · exact ⟨rfl, hs₆.adjust rfl⟩

/-- A start on an intact database succeeds if the strategy is known, and otherwise it fails of that
and of nothing else. Either way the agents are registered, and the database is intact. -/
theorem start_spec (o : DaemonOptions) (hc : c.Checked) (hs : s.Intact) (hnow : clock.now ≤ max64) :
    (start c o s clock).1 =
        (if c.strategy ∈ Strategy.known then .ok () else .error (.strategy ⟨c.strategy⟩)) ∧
      Starting c clock.now (start c o s clock).2 := by
  unfold start
  exact boot_spec hc hs hnow

/-- A daemon whose log cannot be written as it is configured ends before it has changed anything. -/
theorem standalone_of_unknown_format {text path : String} {options : CommandLine.StandaloneOptions}
    {fs : FileSystem} (hread : Config.read text = .ok c) (hpath : options.config = some path)
    (hfile : (fs.read? path).bind Text.decode? = some text)
    (hformat : c.log.format ∉ LogConfig.formats) :
    ∃ outcome, outcome.code ≠ 0 ∧
      CommandLine.standalone options clock fs = (fs, .ended outcome) := by
  have hconfig : CommandLine.readConfig options.config fs = .ok c := by
    unfold CommandLine.readConfig
    rw [hpath]
    dsimp only
    rw [hfile]
    dsimp only
    rw [hread]
    rfl
  unfold CommandLine.standalone
  rw [hconfig]
  dsimp only
  cases hcheck : c.log.check with
  | ok _ => exact absurd (LogConfig.format_of_check hcheck) hformat
  | error e =>
      refine ⟨_, ?_, rfl⟩
      cases e with
      | badFilter => exact Nat.one_ne_zero
      | brokenCharacter => exact (by decide : 101 ≠ 0)
      | unknownFormat format => exact Nat.one_ne_zero

/-- A configuration that is accepted has durations that can be read, pages that are not empty and
agents of different names. A start on it fails of the database or of a strategy that is not known,
and of nothing else that is configured. If the database is intact, it fails exactly if the strategy
is not known; the agents are registered then all the same, with a heartbeat of now, and the database
is left intact. A format of the log that is not known ends the daemon before it has changed
anything. -/
theorem start_of_read {text : String} {c : Config} (hread : Config.read text = .ok c) :
    c.Checked ∧
      (∀ o s clock e, (start c o s clock).1 = .error e → e.Remains c.strategy) ∧
      (∀ o s clock, s.Intact → clock.now ≤ max64 → ∃ s',
        (start c o s clock).1 =
            (if c.strategy ∈ Strategy.known then .ok () else .error (.strategy ⟨c.strategy⟩)) ∧
          (start c o s clock).2.fleet.store = .durable s' ∧ s'.Intact ∧
          ∀ a ∈ c.agents, s'.agent? a.name = some (AgentRecord.ofObservation a clock.now).stored) ∧
      ∀ options path clock fs, options.config = some path →
        (fs.read? path).bind Text.decode? = some text → c.log.format ∉ LogConfig.formats →
          ∃ outcome, outcome.code ≠ 0 ∧
            CommandLine.standalone options clock fs = (fs, .ended outcome) := by
  obtain ⟨-, -, -, hchecked⟩ := Config.read_ok_iff.1 hread
  refine ⟨hchecked, ?_, ?_, ?_⟩
  · intro o s clock e herror
    unfold start at herror
    exact fails_of_boot hchecked _ e herror
  · intro o s clock hintact hnow
    obtain ⟨hresult, hstarting⟩ := start_spec o hchecked hintact hnow
    exact ⟨_, hresult, hstarting.store, hstarting.intact, hstarting.heard⟩
  · intro options path clock fs hpath hfile hformat
    exact standalone_of_unknown_format hread hpath hfile hformat

/-- The text of a configuration with an agent and a strategy. -/
def oneAgent (strategy : String) : String :=
  "[[agents]]\nname = \"a1\"\nallocatable = { cpu = 1 }\n[scheduler]\nstrategy = \"" ++ strategy ++
    "\"\n"

/-- The configuration with one agent is read, whatever strategy it names. -/
theorem one_agent_read {strategy : String} (h : (Config.read (oneAgent strategy)).map (fun c =>
    (c.strategy, c.agents.map (·.name))) = .ok (strategy, ["a1"])) :
    ∃ c, Config.read (oneAgent strategy) = .ok c ∧ c.strategy = strategy ∧
      ∃ a ∈ c.agents, a.name = "a1" := by
  obtain ⟨c, hread, hfields⟩ := map_eq_ok_iff.1 h
  obtain ⟨hstrategy, hnames⟩ := Prod.mk.inj hfields
  exact ⟨c, hread, hstrategy, List.mem_map.1 (hnames ▸ List.mem_singleton_self _)⟩

/-- With a strategy that is known the daemon starts, and its agent is registered. -/
theorem start_of_read_spread : ∃ c s', Config.read (oneAgent "spread") = .ok c ∧
    (start c ⟨none, 0⟩ .empty ⟨1000, 0⟩).1 = .ok () ∧
    (start c ⟨none, 0⟩ .empty ⟨1000, 0⟩).2.fleet.store = .durable s' ∧
    (s'.agent? "a1").isSome = true := by
  obtain ⟨c, hread, hstrategy, a, ha, hname⟩ := @one_agent_read "spread" (by decide +kernel)
  obtain ⟨s', hresult, hstore, -, hheard⟩ := (start_of_read hread).2.2.1 ⟨none, 0⟩ .empty ⟨1000, 0⟩
    StateStore.intact_empty (by decide)
  rw [hstrategy] at hresult
  refine ⟨c, s', hread, hresult, hstore, ?_⟩
  rw [← hname, hheard a ha]
  rfl

/-- A configuration is accepted with a strategy that nobody knows. The start on it fails of that when
the database has been written to. -/
theorem unknown_strategy_accepted : ∃ c s', Config.read (oneAgent "random") = .ok c ∧
    (start c ⟨none, 0⟩ .empty ⟨1000, 0⟩).1 = .error (.strategy ⟨"random"⟩) ∧
    (start c ⟨none, 0⟩ .empty ⟨1000, 0⟩).2.fleet.store = .durable s' ∧
    (StateStore.empty.agent? "a1").isSome = false ∧ (s'.agent? "a1").isSome = true := by
  obtain ⟨c, hread, hstrategy, a, ha, hname⟩ := @one_agent_read "random" (by decide +kernel)
  obtain ⟨-, -, -, hchecked⟩ := Config.read_ok_iff.1 hread
  have hnow : Clock.now ⟨1000, 0⟩ ≤ max64 := by decide
  obtain ⟨hresult, hstarting⟩ := start_spec ⟨none, 0⟩ hchecked StateStore.intact_empty hnow
  rw [hstrategy] at hresult
  refine ⟨c, _, hread, hresult, hstarting.store, rfl, ?_⟩
  rw [← hname]
  exact (congrArg Option.isSome (hstarting.heard a ha)).trans rfl

end Daemon

end TaskFleet
