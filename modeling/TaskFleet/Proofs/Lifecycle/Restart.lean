import TaskFleet.Proofs.Lifecycle.Conservation
import TaskFleet.Proofs.Store.Readable

/-!
# What a restart restores

After a restart the ledger holds exactly the reservations that the database records, and the
database records none that the ledger does not hold: `restored_after_restart`. The tasks have their
turn in the order of their keys, each beside what those before it have taken up (`Fates`); who
finds no room forfeits the reservation.
-/

namespace TaskFleet

/-- What the live tasks on an agent record as reserved, of a kind. -/
def committed (tasks : List Task) (agent : String) (k : ResourceKind) : Nat :=
  ((tasks.filter fun t => !t.isTerminal && t.status.agent = some agent).map
    fun t => (t.status.resourcesUsed.get k).millis).sum

/-- Whether a task records a reservation on an agent. -/
def Task.claims (t : Task) : Bool :=
  !t.isTerminal && t.status.agent.isSome && !t.status.resourcesUsed.isEmpty

/-- A task that claims a reservation on an agent that is not there, or that has not enough of some
kind beside what the tasks before it hold. -/
structure Ledger.Refuses (l : Ledger) (before : List Task) (agent : String) (t : Task) : Prop where
  live : t.isTerminal = false
  placed : t.status.agent = some agent
  used : t.status.resourcesUsed.isEmpty = false
  noRoom : ∀ c, l.capacity? agent = some c →
    ∃ k, (c.allocatable.get k).millis <
      committed before agent k + (t.status.resourcesUsed.get k).millis

/-- A task before and after it has lost its reservation. Who has no execution is placed again. -/
structure Task.Forfeits (t t' : Task) : Prop where
  same : t'.id = t.id ∧ t'.spec = t.spec ∧ t'.cancelRequested = t.cancelRequested ∧
    t'.createdAt = t.createdAt
  version : t'.version = (t.version + 1) % 2 ^ 64
  emptied : t'.status.resourcesUsed = ∅
  waiting : t.status.execution = none →
    t'.phase = .pending ∧ t'.status.agent = none ∧ t'.status.execution = none
  handedOff : t.status.execution.isSome = true →
    t'.status = { t.status with resourcesUsed := ∅ }

/-- What becomes of a task at a restart. -/
inductive Fate (l : Ledger) (before : List Task) (t : Task) : Task → Prop where
  | keeps (hkeeps : ∀ agent, ¬ l.Refuses before agent t) : Fate l before t t
  | forfeits (agent : String) (hrefuses : l.Refuses before agent t) {t' : Task}
      (hforfeits : t.Forfeits t') : Fate l before t t'

/-- What becomes of tasks, each after those before it. -/
inductive Fates (l : Ledger) : List Task → List Task → List Task → Prop where
  | nil {before : List Task} : Fates l before [] []
  | cons {before : List Task} {t t' : Task} {rest after : List Task}
      (hfirst : Fate l before t t') (hrest : Fates l (before ++ [t']) rest after) :
      Fates l before (t :: rest) (t' :: after)

/-- A ledger with the agents of another one and with the reservations that tasks record. -/
structure Ledger.Carries (l l' : Ledger) (tasks : List Task) : Prop where
  gone : ∀ agent, l.capacity? agent = none → l'.capacity? agent = none
  reserved : ∀ agent c, l.capacity? agent = some c →
    ∃ c', l'.capacity? agent = some c' ∧ c'.allocatable = c.allocatable ∧ c'.labels = c.labels ∧
      ∀ k, (c'.reserved.get k).millis = committed tasks agent k ∧
        committed tasks agent k ≤ (c.allocatable.get k).millis

/-- The reservations that tasks record are on agents of the ledger, which offer enough for all of
them. -/
structure Ledger.Fits (l : Ledger) (tasks : List Task) : Prop where
  there : ∀ t ∈ tasks, t.claims = true → ∀ agent ∈ t.status.agent,
    (l.capacity? agent).isSome = true
  room : ∀ agent c, l.capacity? agent = some c → ∀ k,
    committed tasks agent k ≤ (c.allocatable.get k).millis

section Committed

variable {agent : String} {k : ResourceKind} {t : Task}

theorem committed_append (tasks more : List Task) (agent : String) (k : ResourceKind) :
    committed (tasks ++ more) agent k = committed tasks agent k + committed more agent k := by
  unfold committed
  rw [List.filter_append, List.map_append, List.sum_append]

/-- A task of its own commits what it uses, on its agent and while it is live. -/
theorem committed_singleton (t : Task) (agent : String) (k : ResourceKind) :
    committed [t] agent k =
      if t.isTerminal = false ∧ t.status.agent = some agent then
        (t.status.resourcesUsed.get k).millis else 0 := by
  unfold committed
  by_cases h : t.isTerminal = false ∧ t.status.agent = some agent
  · simp [h]
  · rw [if_neg h, List.filter_cons_of_neg (by simpa using h)]
    rfl

theorem get_of_is_empty {s : ResourceSet} (h : s.isEmpty = true) (k : ResourceKind) :
    (s.get k).millis = 0 := by
  unfold ResourceSet.get
  cases hfind : s.entries.find? k with
  | none => rfl
  | some q =>
      have hzero := List.all_eq_true.1 h q (Dict.mem_values_iff.2 ⟨k, hfind⟩)
      simpa [Quantity.isZero] using hzero

/-- A task that claims nothing commits nothing. -/
theorem committed_of_not_claims (h : t.claims = false) (agent : String) (k : ResourceKind) :
    committed [t] agent k = 0 := by
  rw [committed_singleton]
  by_cases hon : t.isTerminal = false ∧ t.status.agent = some agent
  · obtain ⟨hlive, hagent⟩ := hon
    have hempty : t.status.resourcesUsed.isEmpty = true := by
      simpa [Task.claims, hlive, hagent] using h
    rw [if_pos ⟨hlive, hagent⟩, get_of_is_empty hempty]
  · rw [if_neg hon]

end Committed

namespace Ledger

variable {l l₁ l' : Ledger} {before : List Task} {t : Task} {agent : String}

/-- A task that claims nothing changes nothing. -/
theorem Carries.idle (h : l.Carries l₁ before) (ht : t.claims = false) :
    l.Carries l₁ (before ++ [t]) := by
  refine ⟨h.gone, fun agent c hc => ?_⟩
  obtain ⟨c', hc', hoffers, hlabels, hreserved⟩ := h.reserved agent c hc
  refine ⟨c', hc', hoffers, hlabels, fun k => ?_⟩
  rw [committed_append, committed_of_not_claims ht, Nat.add_zero]
  exact hreserved k

/-- A reservation that is made again is within what the agent offers, so that no sum stops short. -/
theorem Carries.reserve (h : l.Carries l₁ before) (hroomy : l.Roomy) (hlive : t.isTerminal = false)
    (hagent : t.status.agent = some agent)
    (hreserve : l₁.reserve agent t.status.resourcesUsed = .ok l') :
    l.Carries l' (before ++ [t]) ∧ ¬ l.Refuses before agent t := by
  obtain ⟨c₁, hc₁, hfits, rfl⟩ := reserve_ok_iff.1 hreserve
  cases hc : l.capacity? agent with
  | none => exact nomatch (h.gone agent hc).symm.trans hc₁
  | some c =>
      obtain ⟨c', hc', hoffers, hlabels, hreserved⟩ := h.reserved agent c hc
      cases hc'.symm.trans hc₁
      have hsum (k : ResourceKind) : committed before agent k +
          (t.status.resourcesUsed.get k).millis ≤ (c.allocatable.get k).millis := by
        have hfit := Quantity.le_iff.1 (hfits k)
        rw [Quantity.millis_add, hoffers, (hreserved k).1] at hfit
        have hroom := hroomy agent c hc k
        omega
      refine ⟨⟨fun other hother => ?_, fun other d hd => ?_⟩, fun hrefuses => ?_⟩
      · have hne : other ≠ agent := fun heq => by
          rw [heq, hc] at hother
          exact nomatch hother
        rw [capacity?_insert, if_neg hne]
        exact h.gone other hother
      · rw [capacity?_insert]
        by_cases heq : other = agent
        · subst heq
          cases hc.symm.trans hd
          rw [if_pos rfl]
          refine ⟨_, rfl, hoffers, hlabels, fun k => ?_⟩
          have hroom := hroomy other c hc k
          have hk := hsum k
          rw [committed_append, committed_singleton, if_pos ⟨hlive, hagent⟩, ResourceSet.get_add,
            Quantity.millis_add, (hreserved k).1]
          omega
        · rw [if_neg heq]
          obtain ⟨d', hd', hoffers', hlabels', hreserved'⟩ := h.reserved other d hd
          refine ⟨d', hd', hoffers', hlabels', fun k => ?_⟩
          have hnot : ¬ (t.isTerminal = false ∧ t.status.agent = some other) := by
            rw [hagent]
            exact fun hboth => heq (Option.some.inj hboth.2).symm
          rw [committed_append, committed_singleton, if_neg hnot, Nat.add_zero]
          exact hreserved' k
      · obtain ⟨k, hk⟩ := hrefuses.noRoom c hc
        exact absurd (hsum k) (Nat.not_le.2 hk)

/-- A reservation that cannot be made again finds no agent, or too little of some kind. -/
theorem Carries.refuses {e : LedgerError} (h : l.Carries l₁ before)
    (hlive : t.isTerminal = false) (hagent : t.status.agent = some agent)
    (hused : t.status.resourcesUsed.isEmpty = false)
    (hreserve : l₁.reserve agent t.status.resourcesUsed = .error e) :
    l.Refuses before agent t := by
  refine ⟨hlive, hagent, hused, fun c hc => ?_⟩
  obtain ⟨c', hc', hoffers, -, hreserved⟩ := h.reserved agent c hc
  obtain ⟨hnone, -⟩ | ⟨d, hd, hover, -⟩ := reserve_error_iff.1 hreserve
  · exact nomatch hnone.symm.trans hc'
  · cases hc'.symm.trans hd
    obtain ⟨k, hk⟩ := List.exists_mem_of_ne_nil _ hover
    rw [Capacity.mem_overcommitted_iff] at hk
    have hk : c'.allocatable.get k < (c'.reserved.add t.status.resourcesUsed).get k := hk
    rw [ResourceSet.get_add, Quantity.lt_iff, Quantity.millis_add, hoffers, (hreserved k).1] at hk
    exact ⟨k, by omega⟩

/-- Before any reservation is taken up, a ledger with nothing reserved carries nothing. -/
theorem carries_nil (hfresh : ∀ agent c, l.capacity? agent = some c → ∀ k,
    (c.reserved.get k).millis = 0) : l.Carries l [] :=
  ⟨fun _ => id, fun agent c hc => ⟨c, hc, rfl, rfl, fun k => ⟨hfresh agent c hc k, Nat.zero_le _⟩⟩⟩

end Ledger

section Fates

variable {l : Ledger} {before rest after : List Task} {t t' : Task}

theorem Ledger.Refuses.claims {agent : String} (h : l.Refuses before agent t) :
    t.claims = true := by
  simp [Task.claims, h.live, h.placed, h.used]

/-- Who has forfeited a reservation claims none. -/
theorem Task.Forfeits.not_claims (h : t.Forfeits t') : t'.claims = false := by
  have hempty : (∅ : ResourceSet).isEmpty = true := rfl
  simp [Task.claims, h.emptied, hempty]

/-- Where the recorded reservations fit, nothing is forfeited. -/
theorem Fates.eq_of_fits (h : Fates l before rest after) (hfits : l.Fits (before ++ rest)) :
    after = rest := by
  induction h with
  | nil => rfl
  | @cons before t t' rest after hfirst _ ih =>
      have hrefuses (agent : String) : ¬ l.Refuses before agent t := by
        intro hrefuses
        have hthere := hfits.there t (by simp) hrefuses.claims agent hrefuses.placed
        obtain ⟨c, hc⟩ := Option.isSome_iff_exists.1 hthere
        obtain ⟨k, hk⟩ := hrefuses.noRoom c hc
        have hroom := hfits.room agent c hc k
        rw [← List.singleton_append, committed_append, committed_append, committed_singleton,
          if_pos ⟨hrefuses.live, hrefuses.placed⟩] at hroom
        omega
      cases hfirst with
      | keeps =>
          rw [ih (by rwa [List.append_assoc])]
      | forfeits agent hrefused => exact absurd hrefused (hrefuses agent)

/-- Afterwards nobody claims a reservation on an agent that is not there. -/
theorem Fates.emptied (h : Fates l before rest after) {agent : String}
    (hgone : l.capacity? agent = none) :
    ∀ t ∈ after, t.isTerminal = false → t.status.agent = some agent →
      t.status.resourcesUsed.isEmpty = true := by
  induction h with
  | nil => exact fun _ ht => nomatch ht
  | @cons before t t' rest after hfirst _ ih =>
      refine List.forall_mem_cons.2 ⟨fun hlive hagent => ?_, ih⟩
      cases hfirst with
      | keeps hkeeps =>
          by_contra hused
          refine hkeeps agent ⟨hlive, hagent, by simpa using hused, fun c hc => ?_⟩
          exact nomatch hgone.symm.trans hc
      | forfeits _ _ hforfeits =>
          rw [hforfeits.emptied]
          rfl

end Fates

/-- What is left of a task that loses its reservation, when it has been stored. -/
theorem Task.forfeits_bump (t : Task) (agent : String) (now : Nat) :
    t.Forfeits (t.forfeit agent now).bump := by
  cases hexecution : t.status.execution with
  | none =>
      have hforfeit : t.forfeit agent now =
          { t with status.resourcesUsed := ∅, status.agent := none }.transition .pending
            "ReservationLost"
            ("reservation on agent " ++ agent ++ " could not be restored, rescheduling") now :=
        if_neg (by simp [hexecution])
      rw [hforfeit]
      refine ⟨⟨rfl, rfl, rfl, rfl⟩, rfl, ?_, fun _ => ⟨rfl, ?_, ?_⟩, fun h => ?_⟩
      · exact TaskStatus.resourcesUsed_transition ..
      · exact TaskStatus.agent_transition ..
      · exact (TaskStatus.execution_transition ..).trans hexecution
      · exact nomatch hexecution.symm ▸ h
  | some handle =>
      have hforfeit : t.forfeit agent now = { t with status.resourcesUsed := ∅ } :=
        if_pos (by simp [hexecution])
      rw [hforfeit]
      refine ⟨⟨rfl, rfl, rfl, rfl⟩, rfl, rfl, fun h => ?_, fun _ => rfl⟩
      exact nomatch hexecution.symm.trans h

namespace Daemon

open Fleet

variable {h : Host} {state : StateStore} {t : Task} {before rest : List Task} {l : Ledger}

/-- A host that has taken up the reservations of some tasks, while the others of the database are
still as they were. -/
structure Underway (l : Ledger) (before rest : List Task) (state : StateStore) (h : Host) :
    Prop where
  store : h.fleet.store = .durable state
  sound : (TaskStore.durable state).Sound
  listed : state.listTasks = .ok (before ++ rest)
  carries : l.Carries h.fleet.ledger before
  now : h.fleet.now ≤ Text.max64

/-- What is listed can be written anew, and is replaced where it is listed. -/
theorem list_tasks_replace {next : Task} (hsound : (TaskStore.durable state).Sound)
    (hlist : state.listTasks = .ok (before ++ t :: rest)) (hid : next.id = t.id)
    (hnext : next.Legible) : (state.store next).listTasks = .ok (before ++ next :: rest) := by
  obtain ⟨hnodup, hget⟩ := TaskStore.list_tasks_spec hsound hlist
  obtain ⟨record, hfind, hread⟩ := TaskStore.get_durable_ok_iff.1 (hget t (by simp))
  obtain ⟨pre, old, post, hold, hsplit, hlisted⟩ :=
    StateStore.list_tasks_store hlist (task_reads_self_iff.2 hnext)
  rw [hid, StateStore.getTask, hfind] at hold
  have hsome : old = some t := by
    obtain ⟨x, hx, rfl⟩ := map_eq_ok_iff.1 hold
    rw [StateStore.read_record_ok_iff, hread] at hx
    rw [Except.ok.inj hx]
  subst hsome
  rw [Option.toList_some, List.append_assoc, List.singleton_append] at hsplit
  -- The task is in the list once, so it has one place there.
  have honce := (List.nodup_cons.1 (List.nodup_middle.1 hnodup)).1
  rw [List.mem_append, not_or] at honce
  obtain ⟨rfl, -, rfl⟩ := (List.append_cons_inj_of_notMem honce.1 honce.2).1 hsplit
  exact hlisted

/-- Taking up the reservation of a live task gives it the fate that it has beside the tasks before
it. -/
theorem restore_reservation_fate (hunderway : Underway l before (t :: rest) state h)
    (hroomy : l.Roomy) (hlive : t.isTerminal = false) :
    Ensures (restoreReservation t) h fun r h' => ∃ t' state', r = .ok t'.claims ∧
      Underway l (before ++ [t']) rest state' h' ∧ Fate l before t t' ∧
      (t' = t ∧ state' = state ∨ t' ≠ t ∧ state' = state.store t' ∧ t'.id = t.id) := by
  have hgoal (taken : Bool) (hclaims : t.claims = taken) (hkeeps : ∀ agent, ¬ l.Refuses before agent t)
      (h' : Host) (hstore : h'.fleet.store = h.fleet.store) (hnow : h'.fleet.now = h.fleet.now)
      (hcarries : l.Carries h'.fleet.ledger (before ++ [t])) :
      ∃ t' state', (Except.ok taken : Except DaemonError Bool) = .ok t'.claims ∧
        Underway l (before ++ [t']) rest state' h' ∧ Fate l before t t' ∧
        (t' = t ∧ state' = state ∨ t' ≠ t ∧ state' = state.store t' ∧ t'.id = t.id) := by
    refine ⟨t, state, by rw [hclaims], ⟨hstore.trans hunderway.store, hunderway.sound, ?_, hcarries,
      hnow ▸ hunderway.now⟩, .keeps hkeeps, .inl ⟨rfl, rfl⟩⟩
    rw [List.append_assoc]
    exact hunderway.listed
  refine restore_reservation_cases hunderway.store ?_ ?_ ?_
  · intro hidle
    have hclaims : t.claims = false := by
      rcases hidle with hagent | hempty
      · simp [Task.claims, hagent]
      · simp [Task.claims, hempty]
    refine hgoal false hclaims (fun agent hrefuses => ?_) h rfl rfl (hunderway.carries.idle hclaims)
    rcases hidle with hagent | hempty
    · exact nomatch hagent.symm.trans hrefuses.placed
    · exact nomatch hempty.symm.trans hrefuses.used
  · intro agent ledger h₁ hagent hempty hreserve hfleet
    have hclaims : t.claims = true := by simp [Task.claims, hlive, hagent, hempty]
    obtain ⟨hcarries, hrefuses⟩ := hunderway.carries.reserve hroomy hlive hagent hreserve
    refine hgoal true hclaims (fun other hother => ?_) h₁ (by rw [hfleet]) (by rw [hfleet]; rfl)
      (by rw [hfleet]; exact hcarries)
    cases hagent.symm.trans hother.placed
    exact hrefuses hother
  · intro agent e h₁ hagent hempty hreserve hfleet
    have hclaims : t.claims = true := by simp [Task.claims, hlive, hagent, hempty]
    have hrefuses := hunderway.carries.refuses hlive hagent hempty hreserve
    obtain ⟨-, hget⟩ := TaskStore.list_tasks_spec hunderway.sound hunderway.listed
    obtain ⟨record, hfind, hread⟩ := TaskStore.get_durable_ok_iff.1 (hget t (by simp))
    have hrevision : Revision h.fleet.now t (t.forfeit agent h.fleet.now) := .forfeit agent hagent
    obtain ⟨hid, hversion, -⟩ := hrevision.keeps
    have hput := StateStore.put_task_ok_iff.2
      ⟨record, t, hid ▸ hfind, hread, hversion.symm, rfl, rfl⟩
    have hforfeits := t.forfeits_bump agent h.fleet.now
    have hbump : (t.forfeit agent h.fleet.now).bump.id = t.id := hid
    have hlegible := TaskStore.legible_bump
      (hrevision.legible (hunderway.sound _ _ _ hfind hread).2 hunderway.now)
    refine ⟨_, _, hput, (t.forfeit agent h.fleet.now).bump, _, by rw [hforfeits.not_claims],
      ⟨rfl, ?_, ?_, ?_, ?_⟩, .forfeits agent hrefuses hforfeits, .inr ⟨?_, rfl, hbump⟩⟩
    · exact (TaskStore.replaces_store hfind hread hunderway.sound hbump hlegible).1
    · rw [List.append_assoc]
      exact list_tasks_replace hunderway.sound hunderway.listed hbump hlegible
    · dsimp only
      rw [hfleet]
      exact hunderway.carries.idle hforfeits.not_claims
    · show h₁.fleet.now ≤ Text.max64
      rw [hfleet]
      exact hunderway.now
    · intro hsame
      exact nomatch (hsame ▸ hforfeits.not_claims).symm.trans hclaims

/-- What taking up the reservations of the tasks that were left has come to. -/
structure Settled (l : Ledger) (before rest after : List Task) (state state' : StateStore)
    (h' : Host) : Prop where
  underway : Underway l (before ++ after) [] state' h'
  fates : Fates l before rest after
  records : ∀ key, state'.tasks.find? key ≠ state.tasks.find? key →
    ∃ p ∈ rest.zip after, p.1.id.key = key ∧ p.2 ≠ p.1
  agents : state'.agents = state.agents

theorem Settled.cons {t' : Task} {after : List Task} {state₁ state' : StateStore} {h' : Host}
    (hsettled : Settled l (before ++ [t']) rest after state₁ state' h') (hfate : Fate l before t t')
    (hstate : t' = t ∧ state₁ = state ∨ t' ≠ t ∧ state₁ = state.store t' ∧ t'.id = t.id) :
    Settled l before (t :: rest) (t' :: after) state state' h' := by
  obtain ⟨hunderway, hfates, hrecords, hagents⟩ := hsettled
  rw [List.append_assoc] at hunderway
  refine ⟨hunderway, .cons hfate hfates, fun key hchanged => ?_, ?_⟩
  · by_cases hlater : state'.tasks.find? key = state₁.tasks.find? key
    · obtain ⟨rfl, rfl⟩ | ⟨hne, rfl, hid⟩ := hstate
      · exact absurd hlater hchanged
      · refine ⟨(t, t'), List.mem_cons_self, ?_, hne⟩
        rw [hlater, StateStore.store, Dict.find?_insert, hid] at hchanged
        by_contra hkey
        rw [if_neg fun heq => hkey heq.symm] at hchanged
        exact hchanged rfl
    · obtain ⟨p, hp, hkey, hne⟩ := hrecords key hlater
      exact ⟨p, List.mem_cons_of_mem _ hp, hkey, hne⟩
  · obtain ⟨-, rfl⟩ | ⟨-, rfl, -⟩ := hstate
    · exact hagents
    · exact hagents

/-- Taking up the reservations of the tasks that are left gives each its fate, and writes the records
of those alone that forfeit theirs. -/
theorem restore_all_fates {restored : Nat} (hunderway : Underway l before rest state h)
    (hroomy : l.Roomy) :
    Ensures ((rest.filter fun t => !t.isTerminal).foldlM
        (fun n t => return n + (← restoreReservation t).toNat) restored) h
      fun r h' => ∃ after state', r = .ok (restored + after.countP Task.claims) ∧
        Settled l before rest after state state' h' := by
  induction rest generalizing h state before restored with
  | nil =>
      refine ⟨[], state, rfl, ?_, .nil, fun key hkey => absurd rfl hkey, rfl⟩
      rwa [List.append_nil]
  | cons t rest ih =>
      have hnext {t' : Task} {state₁ : StateStore} {h₁ : Host}
          (hunderway₁ : Underway l (before ++ [t']) rest state₁ h₁) (hfate : Fate l before t t')
          (hstate : t' = t ∧ state₁ = state ∨ t' ≠ t ∧ state₁ = state.store t' ∧ t'.id = t.id) :
          Ensures ((rest.filter fun t => !t.isTerminal).foldlM
              (fun n t => return n + (← restoreReservation t).toNat) (restored + t'.claims.toNat)) h₁
            fun r h' => ∃ after state', r = .ok (restored + after.countP Task.claims) ∧
              Settled l before (t :: rest) after state state' h' := by
        refine (ih hunderway₁).imp ?_
        rintro _ h' ⟨after, state', rfl, hsettled⟩
        refine ⟨t' :: after, state', ?_, hsettled.cons hfate hstate⟩
        rw [List.countP_cons, Nat.add_assoc, Nat.add_comm t'.claims.toNat]
        cases t'.claims <;> rfl
      cases hlive : t.isTerminal with
      | true =>
          rw [List.filter_cons_of_neg (by simp [hlive])]
          have hclaims : t.claims = false := by simp [Task.claims, hlive]
          have hskip : Underway l (before ++ [t]) rest state h :=
            { hunderway with
              listed := by rw [List.append_assoc]; exact hunderway.listed
              carries := hunderway.carries.idle hclaims }
          have hend := hnext hskip (.keeps fun _ hrefuses => nomatch hlive.symm.trans hrefuses.live)
            (.inl ⟨rfl, rfl⟩)
          rw [hclaims] at hend
          exact hend
      | false =>
          rw [List.filter_cons_of_pos (by simp [hlive]), List.foldlM_cons, bind_assoc]
          refine (restore_reservation_fate hunderway hroomy hlive).bind ?_ ?_
          · rintro taken h₁ ⟨t', state₁, hr, hunderway₁, hfate, hstate⟩
            cases hr
            exact hnext hunderway₁ hfate hstate
          · rintro e h₁ ⟨t', state₁, hr, -⟩
            exact nomatch hr

/-- Restoring the reservations of a database whose tasks can be read succeeds on a ledger without
reservations. Then what is reserved on every agent is, of each kind, what the live tasks on that
agent record, and within what the agent offers; a live task on an agent that is not there records
nothing. Each task had its fate beside the tasks before it in the order of their keys, and the
records of those alone that forfeited a reservation were written. If the recorded reservations
fitted, nothing was forfeited and all of them are counted. -/
theorem restored_after_restart {h : Host} {state : StateStore} {tasks : List Task}
    (hstore : h.fleet.store = .durable state) (hwritten : state.Written)
    (hlist : state.listTasks = .ok tasks)
    (hfresh : ∀ agent c, h.fleet.ledger.capacity? agent = some c → ∀ k,
      (c.reserved.get k).millis = 0)
    (hroomy : h.fleet.ledger.Roomy) (hnow : h.fleet.now ≤ Text.max64) :
    ∃ count h' state' after, restoreReservations.run.run h = (.ok count, h') ∧
      h'.fleet.store = .durable state' ∧ state'.listTasks = .ok after ∧
      h.fleet.ledger.Carries h'.fleet.ledger after ∧
      (∀ t ∈ after, t.isTerminal = false → ∀ agent, t.status.agent = some agent →
        h'.fleet.ledger.capacity? agent = none → t.status.resourcesUsed.isEmpty = true) ∧
      Fates h.fleet.ledger [] tasks after ∧
      (∀ key, state'.tasks.find? key ≠ state.tasks.find? key →
        ∃ p ∈ tasks.zip after, p.1.id.key = key ∧ p.2 ≠ p.1) ∧
      state'.agents = state.agents ∧ count = after.countP Task.claims ∧
      (h.fleet.ledger.Fits tasks →
        after = tasks ∧ state' = state ∧ count = tasks.countP Task.claims) := by
  have hunderway : Underway h.fleet.ledger [] tasks state h :=
    ⟨hstore, hwritten.sound, hlist, Ledger.carries_nil hfresh, hnow⟩
  have hrestore : Ensures restoreReservations h fun r h' => ∃ after state',
      r = .ok (after.countP Task.claims) ∧
        Settled h.fleet.ledger [] tasks after state state' h' := by
    unfold restoreReservations
    refine ensures_database (database_of_durable hstore) ?_
    rw [StateStore.listActiveTasks, hlist]
    refine Ensures.imp (restore_all_fates hunderway hroomy) ?_
    rintro r h' ⟨after, state', hr, hsettled⟩
    exact ⟨after, state', by rw [hr, Nat.zero_add], hsettled⟩
  obtain ⟨after, state', hr, hend, hfates, hrecords, hagents⟩ := hrestore
  refine ⟨after.countP Task.claims, _, state', after, Prod.ext hr rfl, hend.store, ?_, hend.carries,
    ?_, hfates, hrecords, hagents, rfl, ?_⟩
  · exact (List.append_nil after) ▸ hend.listed
  · intro t ht hlive agent hagent hgone
    cases hc : h.fleet.ledger.capacity? agent with
    | none => exact hfates.emptied hc t ht hlive hagent
    | some c =>
        obtain ⟨c', hc', -⟩ := hend.carries.reserved agent c hc
        exact nomatch hgone.symm.trans hc'
  · intro hfits
    obtain rfl : after = tasks := hfates.eq_of_fits hfits
    have htasks : state'.tasks = state.tasks := by
      refine Dict.ext_find? fun key => by_contra fun hchanged => ?_
      obtain ⟨p, hp, -, hne⟩ := hrecords key hchanged
      have hpair : p.1 = p.2 := List.forall₂_zip (List.forall₂_same.2 fun _ _ => rfl) hp
      exact hne hpair.symm
    obtain ⟨records, agents⟩ := state
    obtain ⟨records', agents'⟩ := state'
    cases htasks
    cases hagents
    exact ⟨rfl, rfl, rfl⟩

/-- A task that was placed on an agent, with some thousandths of a processor. -/
def holder (name agent : String) (phase : Phase) (execution : Option String) (millis : Nat) : Task :=
  { (default : Task) with
    id := ⟨"default", name⟩
    version := 1
    status := { TaskStatus.initial with
      phase, agent := some agent, execution
      resourcesUsed := .ofList [(.cpu, .ofMillis millis)] } }

/-- The tasks of a database before a restart. They claim more than the one processor that there is,
one of them on an agent that has gone. -/
def holders : List Task :=
  [holder "done" "a1" .completed (some "p0") 600, holder "first" "a1" .running (some "p1") 600,
    holder "gone" "a9" .scheduled none 100, holder "second" "a1" .running (some "p2") 600,
    holder "small" "a1" .running (some "p3") 400, holder "third" "a1" .scheduled none 600]

/-- A host that is started on their database. -/
def crowded : Host where
  fleet := { fresh 1000 runsOn with
    ledger := (Ledger.empty.resync [oneProcessor]).1
    store := .durable (holders.foldl StateStore.store .empty) }

theorem restored_after_restart_crowded :
    ∃ h' state' after, restoreReservations.run.run crowded = (.ok 2, h') ∧
      h'.fleet.store = .durable state' ∧ state'.listTasks = .ok after ∧
      crowded.fleet.ledger.Carries h'.fleet.ledger after ∧ committed after "a1" .cpu = 1000 ∧
      (after.map fun t => (t.id.name, t.version, t.phase, t.status.agent)) =
        [("done", 1, .completed, some "a1"), ("first", 1, .running, some "a1"),
          ("gone", 2, .pending, none), ("second", 2, .running, some "a1"),
          ("small", 1, .running, some "a1"), ("third", 2, .pending, none)] ∧
      Fates crowded.fleet.ledger [] holders after := by
  have hwritten : (holders.foldl StateStore.store .empty).Written :=
    ((((((StateStore.written_empty.store _).store _).store _).store _).store _).store _)
  have hfresh : ∀ agent c, crowded.fleet.ledger.capacity? agent = some c → ∀ k,
      (c.reserved.get k).millis = 0 := by
    intro agent c hc k
    rw [Ledger.reserved_of_capacity_rebuild hc]
    rfl
  have hlisting : (holders.foldl StateStore.store .empty).listTasks = .ok holders := by
    decide +kernel
  obtain ⟨count, h', state', after, hrun, hstore, hlisted, hcarries, -, hfates, -, -, -, -⟩ :=
    restored_after_restart (h := crowded) rfl hwritten hlisting
      hfresh (roomy_of_entries (by decide +kernel)) (by decide +kernel)
  have hcount : (restoreReservations.run.run crowded).1 = .ok 2 := by decide +kernel
  have hsum : ((restoreReservations.run.run crowded).2.fleet.store.state?.getD .empty).listTasks.map
      (fun l => committed l "a1" .cpu) = .ok 1000 := by decide +kernel
  have hshown : ((restoreReservations.run.run crowded).2.fleet.store.state?.getD
      .empty).listTasks.map
      (fun l => l.map fun t => (t.id.name, t.version, t.phase, t.status.agent)) =
      .ok [("done", 1, .completed, some "a1"), ("first", 1, .running, some "a1"),
        ("gone", 2, .pending, none), ("second", 2, .running, some "a1"),
        ("small", 1, .running, some "a1"), ("third", 2, .pending, none)] := by
    decide +kernel
  rw [hrun] at hcount hsum hshown
  rw [database_of_durable hstore, hlisted] at hsum hshown
  cases hcount
  exact ⟨h', state', after, hrun, hstore, hlisted, hcarries, Except.ok.inj hsum,
    Except.ok.inj hshown, hfates⟩

end Daemon

end TaskFleet
