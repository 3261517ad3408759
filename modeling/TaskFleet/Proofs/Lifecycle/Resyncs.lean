import TaskFleet.Proofs.Ledger.Observed
import TaskFleet.Proofs.Lifecycle.Calls
import TaskFleet.Proofs.Store.Readable

/-!
# What a resync comes to

A resync lists the agents, lets the booking through that slips in, and swaps the table for what was
listed; if the listing fails nothing has happened to the table (`resync_answers`). So after a resync
the ledger is what was observed, on a page of limited size, and the report says what that has
changed: `table_as_observed`.
-/

namespace TaskFleet

/-- The ledger after a booking that is made if it can be. -/
def Ledger.slip (l : Ledger) : Option Booking → Ledger
  | none => l
  | some b => match l.book b with
    | .ok l' => l'
    | .error _ => l

namespace Fleet

variable {f f' : Fleet} {limit : Nat} {observed : List Observation}

/-- A source lists no more agents than it was asked for. -/
theorem length_of_observe (h : (f.observe limit).2 = .ok observed) : observed.length ≤ limit := by
  unfold observe at h
  split at h
  · cases h
    exact List.length_take_le ..
  · cases h
    exact Nat.zero_le _
  · have hlisted := map_error_ok_iff.1 h
    unfold StateStore.observeAgents at hlisted
    split at hlisted
    · exact nomatch hlisted
    · obtain ⟨records, hrecords, rfl⟩ := map_eq_ok_iff.1 hlisted
      have hlength := (map_m_ok_iff.1 hrecords).length_eq
      rw [List.length_map, ← hlength]
      exact List.length_take_le ..

/-- What is observed is told by the source, the store and the clock, and may change the store. -/
theorem observe_congr {g : Fleet} (hclock : g.clock = f.clock) (hsource : g.source = f.source)
    (hstore : g.store = f.store) (limit : Nat) :
    g.observe limit = ({ g with store := (f.observe limit).1.store }, (f.observe limit).2) := by
  cases f
  cases g
  subst hclock hsource hstore
  unfold observe now
  dsimp only
  split
  · rfl
  · rfl
  · rfl

/-- A booking changes nothing that is observed. -/
theorem book_in_ledger (b : Booking) (f : Fleet) :
    Ensures (book b) f fun _ f' => f'.ledger = f.ledger.slip (some b) ∧ f'.clock = f.clock ∧
      f'.source = f.source ∧ f'.store = f.store := by
  refine (book_ensures b f).imp ?_
  intro r f' hbook
  unfold Ledger.slip
  dsimp only
  cases hl : f.ledger.book b with
  | ok l =>
      rw [hl] at hbook
      obtain ⟨-, rfl⟩ := hbook
      exact ⟨rfl, rfl, rfl, rfl⟩
  | error e =>
      rw [hl] at hbook
      obtain ⟨-, rfl⟩ := hbook
      exact ⟨rfl, rfl, rfl, rfl⟩

/-- The booking that slips in changes nothing that is observed. -/
theorem book_slip_in_ledger (f : Fleet) :
    Ensures bookSlipIn f fun _ f' => f'.ledger = f.ledger.slip f.slipIn ∧ f'.clock = f.clock ∧
      f'.source = f.source ∧ f'.store = f.store := by
  unfold bookSlipIn
  refine ensures_get ?_
  cases hslip : f.slipIn with
  | none => exact ⟨rfl, rfl, rfl, rfl⟩
  | some b => exact ensures_modify ((book_in_ledger b _).bind fun _ _ hbook => hbook)

/-- What a listing answers and what it leaves; the booking that slips in is made meanwhile. -/
theorem list_agents_answers (limit : Nat) (f : Fleet) :
    Ensures (listAgents limit) f fun r f' => f'.clock = f.clock ∧ f'.source = f.source ∧
      match (Fault.next f.faults.list).1, (f.observe limit).2 with
      | none, .ok observed => f'.store = (f.observe limit).1.store ∧ r = .ok observed ∧
          f'.ledger = f.ledger.slip f.slipIn
      | none, .error _ => f'.store = (f.observe limit).1.store ∧ f'.ledger = f.ledger ∧
          ∃ cause, r = .error cause
      | some _, _ => f'.store = f.store ∧ f'.ledger = f.ledger ∧ ∃ cause, r = .error cause := by
  unfold listAgents
  refine ensures_modify (ensures_get ?_)
  dsimp only
  rcases hnext : Fault.next f.faults.list with ⟨_ | e, rest⟩
  · dsimp only
    rw [observe_congr (f := f) (by rfl) (by rfl) (by rfl)]
    cases (f.observe limit).2 with
    | error e => exact ⟨rfl, rfl, rfl, rfl, e, rfl⟩
    | ok observed =>
        refine ensures_set ((book_slip_in_ledger _).bind ?_)
        rintro _ f₁ ⟨hledger, hclock, hsource, hstore⟩
        exact ⟨hclock, hsource, hstore, rfl, hledger⟩
  · exact ⟨rfl, rfl, rfl, rfl, e, rfl⟩

/-- What a resync answers and what it leaves. If the source fails the table stays as it is, and the
heartbeats that were noted before stay noted. -/
theorem resync_answers (pageSize : Nat) (f : Fleet) :
    Ensures (resync pageSize) f fun r f' => f'.clock = f.clock ∧ f'.source = f.source ∧
      match (Fault.next f.faults.list).1, (f.observe pageSize).2 with
      | none, .ok observed => f'.store = (f.observe pageSize).1.store ∧
          ∃ report, r = .ok report ∧
            (f.ledger.slip f.slipIn).resync observed = (f'.ledger, report)
      | none, .error _ => f'.store = (f.observe pageSize).1.store ∧ f'.ledger = f.ledger ∧
          ∃ cause, r = .error (.source cause)
      | some _, _ => f'.store = f.store ∧ f'.ledger = f.ledger ∧
          ∃ cause, r = .error (.source cause) := by
  unfold resync
  refine (list_agents_answers pageSize f).bind ?_
  rintro r f₁ ⟨hclock, hsource, hlisted⟩
  cases hnext : (Fault.next f.faults.list).1 with
  | some e =>
      rw [hnext] at hlisted
      obtain ⟨hstore, hledger, cause, rfl⟩ := hlisted
      exact ⟨hclock, hsource, hstore, hledger, cause, rfl⟩
  | none =>
      rw [hnext] at hlisted
      cases hobserve : (f.observe pageSize).2 with
      | error e =>
          rw [hobserve] at hlisted
          obtain ⟨hstore, hledger, cause, rfl⟩ := hlisted
          exact ⟨hclock, hsource, hstore, hledger, cause, rfl⟩
      | ok observed =>
          rw [hobserve] at hlisted
          obtain ⟨hstore, rfl, hledger⟩ := hlisted
          refine ensures_get (ensures_set ⟨hclock, hsource, hstore, _, rfl, ?_⟩)
          rw [← hledger]
          rfl

/-- Of whatever is listed a swap builds the table of the agents with a ready observation, each as it
was observed last and with what was reserved on it before, and reports the differences in order. A
resync of the fleet makes such a swap of at most a page of agents, with what is reserved at the
moment of the swap; if the source fails the table stays exactly as it is. -/
theorem table_as_observed (l : Ledger) (observed : List Observation) (f : Fleet) (pageSize : Nat) :
    l.Rebuilds observed (l.resync observed).1 (l.resync observed).2 ∧
      Ensures (resync pageSize) f fun r f' =>
        match (Fault.next f.faults.list).1, (f.observe pageSize).2 with
        | none, .ok listed => listed.length ≤ pageSize ∧ ∃ report, r = .ok report ∧
            (f.ledger.slip f.slipIn).Rebuilds listed f'.ledger report
        | _, _ => f'.ledger = f.ledger ∧ ∃ cause, r = .error (.source cause) := by
  refine ⟨l.rebuilds_resync observed, (resync_answers pageSize f).imp ?_⟩
  rintro r f' ⟨-, -, hanswers⟩
  cases hnext : (Fault.next f.faults.list).1 with
  | some e =>
      rw [hnext] at hanswers
      exact hanswers.2
  | none =>
      rw [hnext] at hanswers
      cases hobserve : (f.observe pageSize).2 with
      | error e =>
          rw [hobserve] at hanswers
          exact hanswers.2
      | ok listed =>
          rw [hobserve] at hanswers
          obtain ⟨-, report, rfl, hresync⟩ := hanswers
          have hrebuilds := (f.ledger.slip f.slipIn).rebuilds_resync listed
          rw [hresync] at hrebuilds
          exact ⟨length_of_observe hobserve, report, rfl, hrebuilds⟩

end Fleet

end TaskFleet
