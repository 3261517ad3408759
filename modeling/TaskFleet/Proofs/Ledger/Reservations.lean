import TaskFleet.Proofs.Ledger.Capacity

/-!
# Reservations survive resyncs

What is reserved on an agent is what its own reservations and releases come to since the agent came
into the table: `reserved_of_run`. A swap that keeps the agent neither loses nor repeats any of
them, wherever its fetch stood among them; an agent that has left and come back starts from nothing.
-/

namespace TaskFleet

open Text (max64)

namespace Booking

/-- The agent whose reservations are changed. -/
def agent : Booking → String
  | .reserve agent _ => agent
  | .release agent _ => agent

/-- What a change makes of the thousandths of a kind that are reserved: a sum stops at the greatest
quantity, a difference at zero. -/
def tally (k : ResourceKind) (reserved : Nat) : Booking → Nat
  | .reserve _ amount => min (reserved + (amount.get k).millis) max64
  | .release _ amount => reserved - (amount.get k).millis

end Booking

/-- A change that is made leaves each agent in the table where it was, and counts for its own agent
only. -/
theorem Ledger.capacity_book {l l' : Ledger} {b : Booking} (h : l.book b = .ok l')
    (agent : String) :
    ∃ next : Capacity → Capacity, l'.capacity? agent = (l.capacity? agent).map next ∧
      ∀ c k, ((next c).reserved.get k).millis =
        if b.agent = agent then b.tally k (c.reserved.get k).millis
        else (c.reserved.get k).millis := by
  cases b with
  | reserve other amount =>
      obtain ⟨c, hc, -, rfl⟩ := Ledger.reserve_ok_iff.1 h
      by_cases hagent : agent = other
      · subst hagent
        refine ⟨fun c => { c with reserved := c.reserved.add amount }, by simp [hc], ?_⟩
        intro c k
        simp [Booking.agent, Booking.tally]
      · exact ⟨id, by simp [hagent], fun c k => by simp [Booking.agent, Ne.symm hagent]⟩
  | release other amount =>
      obtain ⟨c, hc, rfl⟩ := Ledger.release_ok_iff.1 h
      by_cases hagent : agent = other
      · subst hagent
        refine ⟨fun c => { c with reserved := c.reserved.sub amount }, by simp [hc], ?_⟩
        intro c k
        simp [Booking.agent, Booking.tally]
      · exact ⟨id, by simp [hagent], fun c k => by simp [Booking.agent, Ne.symm hagent]⟩

namespace LedgerState

variable {s : LedgerState} {agent : String} {c : Capacity}

/-- The change of an agent's reservations that a call makes. A call that is refused makes none, and
nor does a fetch or a swap. -/
def booked? (s : LedgerState) (agent : String) : LedgerCall → Option Booking
  | .book b => match s.ledger.book b with
    | .ok _ => if b.agent = agent then some b else none
    | .error _ => none
  | .fetch _ => none
  | .swap _ => none

/-- The changes of an agent's reservations that some calls make, in their order. -/
def bookings (agent : String) : LedgerState → List LedgerCall → List Booking
  | _, [] => []
  | s, call :: calls => (s.booked? agent call).toList ++ bookings agent (s.call call) calls

theorem bookings_snoc (s : LedgerState) (calls : List LedgerCall) (last : LedgerCall) :
    s.bookings agent (calls ++ [last]) =
      s.bookings agent calls ++ ((calls.foldl call s).booked? agent last).toList := by
  induction calls generalizing s with
  | nil => simp [bookings]
  | cons first calls ih =>
      rw [List.cons_append, bookings, bookings, ih, List.append_assoc]
      rfl

theorem run_append (before after : List LedgerCall) :
    run (before ++ after) = after.foldl call (run before) :=
  List.foldl_append

/-- Of an agent that stays in the table a call changes what it books of it, and nothing else. -/
theorem tally_call {c' : Capacity} (last : LedgerCall) (hc : s.ledger.capacity? agent = some c)
    (hc' : (s.call last).ledger.capacity? agent = some c') (k : ResourceKind) :
    (c'.reserved.get k).millis =
      (s.booked? agent last).toList.foldl (Booking.tally k) (c.reserved.get k).millis := by
  cases last with
  | book b =>
      cases hbook : s.ledger.book b with
      | error e =>
          simp only [call, hbook, hc, Option.some.injEq] at hc'
          simp [booked?, hbook, hc']
      | ok ledger =>
          simp only [call, hbook] at hc'
          obtain ⟨next, hnext, htally⟩ := Ledger.capacity_book hbook agent
          rw [hnext, hc, Option.map_some, Option.some.injEq] at hc'
          rw [← hc', htally]
          by_cases hagent : b.agent = agent
          · simp [booked?, hbook, hagent]
          · simp [booked?, hbook, hagent]
  | fetch answer =>
      have hsame : (s.call (.fetch answer)).ledger = s.ledger := by
        cases answer <;> rfl
      rw [hsame, hc, Option.some.injEq] at hc'
      simp [booked?, hc']
  | swap n =>
      have hreserved : c'.reserved = c.reserved := by
        cases hfetched : s.fetched[n]? with
        | none =>
            simp only [call, hfetched, hc, Option.some.injEq] at hc'
            rw [hc']
        | some observed =>
            simp only [call, hfetched] at hc'
            rw [Ledger.reserved_of_capacity_rebuild hc', Ledger.reserved_on_eq hc]
      simp [booked?, hreserved]

/-- An agent comes into the table by a swap, with nothing reserved. -/
theorem introduced_call {c' : Capacity} {last : LedgerCall}
    (habsent : s.ledger.capacity? agent = none)
    (hc' : (s.call last).ledger.capacity? agent = some c') :
    (∃ n, last = .swap n) ∧ c'.reserved = ∅ := by
  have heffect := effect_call s agent last
  rw [hc'] at heffect
  generalize hafter : some c' = after at heffect
  cases heffect with
  | nothing => exact nomatch hafter.trans habsent
  | reserves hc => exact nomatch habsent.symm.trans hc
  | releases hc => exact nomatch habsent.symm.trans hc
  | leaves => exact nomatch hafter
  | @swaps n allocatable labels =>
      cases hafter
      exact ⟨⟨n, rfl⟩, by simp [Ledger.reservedOn, habsent]⟩

/-- After some calls a swap brings an agent into the table, and there it is at every moment of the
calls that follow. -/
structure Introduced (agent : String) (before : List LedgerCall) (n : Nat)
    (after : List LedgerCall) : Prop where
  absent : (run before).ledger.capacity? agent = none
  present : ∀ past later, after = past ++ later →
    ((run (before ++ .swap n :: past)).ledger.capacity? agent).isSome

/-- The agent in the table goes back to the last swap that introduced it. -/
theorem introduced_of_run {calls : List LedgerCall}
    (h : (run calls).ledger.capacity? agent = some c) :
    ∃ before n after, calls = before ++ .swap n :: after ∧ Introduced agent before n after ∧
      ∀ k, (c.reserved.get k).millis =
        ((run (before ++ [.swap n])).bookings agent after).foldl (Booking.tally k) 0 := by
  induction calls using List.reverseRecOn generalizing c with
  | nil => exact nomatch h
  | append_singleton calls last ih =>
      have hnow := h
      rw [run_snoc] at h
      cases hbefore : (run calls).ledger.capacity? agent with
      | none =>
          obtain ⟨⟨n, rfl⟩, hnothing⟩ := introduced_call hbefore h
          refine ⟨calls, n, [], rfl, ⟨hbefore, ?_⟩, ?_⟩
          · intro past later hsplit
            obtain ⟨rfl, -⟩ := List.append_eq_nil_iff.1 hsplit.symm
            rw [hnow]
            rfl
          · intro k
            rw [hnothing]
            rfl
      | some cBefore =>
          obtain ⟨before, n, after, rfl, hintroduced, htally⟩ := ih hbefore
          refine ⟨before, n, after ++ [last], by simp, ⟨hintroduced.absent, ?_⟩, ?_⟩
          · intro past later hsplit
            obtain rfl | ⟨later, final, rfl⟩ := later.eq_nil_or_concat
            · rw [List.append_nil] at hsplit
              rw [← hsplit, ← List.cons_append, ← List.append_assoc, hnow]
              rfl
            · rw [List.concat_eq_append, ← List.append_assoc] at hsplit
              exact hintroduced.present past later (List.append_inj_left' hsplit rfl)
          · intro k
            have hmoment : after.foldl call (run (before ++ [.swap n])) =
                run (before ++ .swap n :: after) := by
              rw [← run_append, List.append_assoc, List.singleton_append]
            rw [bookings_snoc, hmoment, List.foldl_append, ← htally]
            exact tally_call last hbefore h k

/-- Of each kind there is reserved on an agent what its reservations, each stopping at the greatest
quantity, and its releases, each stopping at zero, come to from nothing since the last swap that
introduced it. A call that books nothing of an agent, be it a swap that keeps the agent, changes
nothing that is reserved on it. -/
theorem reserved_of_run {calls : List LedgerCall} {agent : String} {c : Capacity}
    (h : (run calls).ledger.capacity? agent = some c) :
    (∃ before n after, calls = before ++ .swap n :: after ∧ Introduced agent before n after ∧
      ∀ k, (c.reserved.get k).millis =
        ((run (before ++ [.swap n])).bookings agent after).foldl (Booking.tally k) 0) ∧
    ∀ call c', (run calls).booked? agent call = none →
      (run (calls ++ [call])).ledger.capacity? agent = some c' →
        ∀ k, c'.reserved.get k = c.reserved.get k := by
  refine ⟨introduced_of_run h, ?_⟩
  intro call c' hnothing hc' k
  rw [run_snoc] at hc'
  have htally := tally_call call h hc' k
  rw [hnothing] at htally
  exact Quantity.ext htally

/-- A booking of some thousandths of a processor on an agent. -/
def ofCpu (change : String → ResourceSet → Booking) (agent : String) (millis : Nat) : Booking :=
  change agent (.ofList [(.cpu, .ofMillis millis)])

/-- An agent leaves with a reservation and comes back. Of what follows a release falls between a
fetch and its swap, a fetch fails and two reservations are refused; the next release is of more than
is reserved. -/
def contended : List LedgerCall :=
  [.fetch (.ok (offering 1000)), .swap 0, .book (ofCpu .reserve "a1" 300),
    .fetch (.ok []), .swap 0, .fetch (.ok (offering 1000)), .swap 0,
    .book (ofCpu .reserve "a1" 500), .fetch (.ok (offering 1000)),
    .book (ofCpu .release "a1" 200), .fetch (.error "unreachable"),
    .book (ofCpu .reserve "a1" 900), .book (ofCpu .reserve "a2" 100), .swap 0,
    .book (ofCpu .release "a1" 400), .book (ofCpu .reserve "a1" 250)]

theorem reserved_of_run_contended :
    (run (contended.take 7)).bookings "a1" (contended.drop 7) =
        [ofCpu .reserve "a1" 500, ofCpu .release "a1" 200, ofCpu .release "a1" 400,
          ofCpu .reserve "a1" 250] ∧
      ∃ c, (run contended).ledger.capacity? "a1" = some c ∧ (c.reserved.get .cpu).millis = 250 ∧
        (∃ before n after,
          contended = before ++ .swap n :: after ∧ Introduced "a1" before n after ∧
            ∀ k, (c.reserved.get k).millis =
              ((run (before ++ [.swap n])).bookings "a1" after).foldl (Booking.tally k) 0) ∧
        ∀ call c', (run contended).booked? "a1" call = none →
          (run (contended ++ [call])).ledger.capacity? "a1" = some c' →
            ∀ k, c'.reserved.get k = c.reserved.get k := by
  refine ⟨by decide +kernel, ?_⟩
  have hthere : ((run contended).ledger.capacity? "a1").any
      (fun c => (c.reserved.get .cpu).millis = 250) = true := by decide +kernel
  obtain ⟨c, hc, hmillis⟩ := (Option.any_eq_true _ _).1 hthere
  exact ⟨c, hc, of_decide_eq_true hmillis, reserved_of_run hc⟩

end LedgerState

end TaskFleet
