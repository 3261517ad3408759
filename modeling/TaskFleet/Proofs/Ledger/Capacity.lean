import Mathlib.Data.List.Induction
import TaskFleet.Ledger.Resync

/-!
# What is reserved and what is offered

More can be reserved on an agent than it offers, but only because a resync has lowered what it
offers: `capacity_of_run`. From then on until enough is released the agent takes nothing more, so
the excess can only shrink. The run is one of single calls, in any order, with the two halves of a
resync apart; that the resync of the lifecycle is such calls is `resync_eq_calls`.
-/

namespace TaskFleet

/-- A call on a ledger. A resync is two of them: a fetch, which can fail, and the swap of what a
fetch has brought. -/
inductive LedgerCall where
  | book (b : Booking)
  | fetch (answer : Except String (List Observation))
  /-- The swap of the fetched list at a place, among those that wait for theirs. -/
  | swap (n : Nat)

/-- A ledger, and the lists that were fetched for it and wait for their swap, the latest last. -/
structure LedgerState where
  ledger : Ledger
  fetched : List (List Observation)

namespace LedgerState

/-- What a call makes of a ledger. -/
def call (s : LedgerState) : LedgerCall → LedgerState
  | .book b => match s.ledger.book b with
    | .ok ledger => { s with ledger }
    | .error _ => s
  | .fetch (.ok observed) => { s with fetched := s.fetched ++ [observed] }
  | .fetch (.error _) => s
  | .swap n => match s.fetched[n]? with
    | some observed => ⟨(s.ledger.resync observed).1, s.fetched.eraseIdx n⟩
    | none => s

/-- A ledger after some calls. -/
def run (calls : List LedgerCall) : LedgerState :=
  calls.foldl call ⟨.empty, []⟩

@[simp] theorem run_snoc (calls : List LedgerCall) (c : LedgerCall) :
    run (calls ++ [c]) = (run calls).call c := by
  unfold run
  rw [List.foldl_append]
  rfl

variable {s : LedgerState} {agent : String} {k : ResourceKind} {c : Capacity}

/-- More of a kind is reserved on an agent than it offers. -/
def Over (s : LedgerState) (agent : String) (k : ResourceKind) : Prop :=
  ∃ c, s.ledger.capacity? agent = some c ∧ c.allocatable.get k < c.reserved.get k

/-- On an agent with an excess nothing is reserved, be it nothing that is asked for. -/
theorem reserve_of_over (h : s.Over agent k) (amount : ResourceSet) :
    ∃ kinds, s.ledger.reserve agent amount = .error (.conflict agent kinds) := by
  obtain ⟨c, hc, hover⟩ := h
  have hexceeds : { c with reserved := c.reserved.add amount }.overcommitted ≠ [] := by
    intro hnil
    have hfits := Capacity.overcommitted_eq_nil_iff.1 hnil k
    simp only [ResourceSet.get_add, Quantity.le_iff, Quantity.millis_add] at hfits
    -- A sum that stops at the greatest quantity is still no less than what is reserved.
    rw [Quantity.lt_iff] at hover
    have hmax := (c.reserved.get k).le_max
    omega
  exact ⟨_, Ledger.reserve_error_iff.2 (.inr ⟨c, hc, hexceeds, rfl⟩)⟩

/-- An agent with an excess is never offered for a requirement. -/
theorem not_feasible_of_over (h : s.Over agent k) (requirement : ResourceSet) {found : Snapshot}
    (hfound : found ∈ s.ledger.feasible requirement) : found.name ≠ agent := by
  rintro rfl
  obtain ⟨c, hc, hover⟩ := h
  obtain ⟨hcapacity, hwithin, -⟩ := Ledger.mem_feasible_iff.1 hfound
  rw [hc] at hcapacity
  cases hcapacity
  exact Quantity.not_lt.2 (hwithin k) hover

/-- What a call makes of one agent. -/
inductive Effect (s : LedgerState) (agent : String) : LedgerCall → Option Capacity → Prop where
  | nothing {call : LedgerCall} : Effect s agent call (s.ledger.capacity? agent)
  | reserves {amount : ResourceSet} {c : Capacity} (hc : s.ledger.capacity? agent = some c)
      (hfits : ∀ k, (c.reserved.get k).add (amount.get k) ≤ c.allocatable.get k) :
      Effect s agent (.book (.reserve agent amount))
        (some { c with reserved := c.reserved.add amount })
  | releases {amount : ResourceSet} {c : Capacity} (hc : s.ledger.capacity? agent = some c) :
      Effect s agent (.book (.release agent amount))
        (some { c with reserved := c.reserved.sub amount })
  | leaves {n : Nat} : Effect s agent (.swap n) none
  | swaps {n : Nat} {allocatable : ResourceSet} {labels : Dict String String} :
      Effect s agent (.swap n) (some ⟨allocatable, s.ledger.reservedOn agent, labels⟩)

theorem effect_call (s : LedgerState) (agent : String) (call : LedgerCall) :
    s.Effect agent call ((s.call call).ledger.capacity? agent) := by
  cases call with
  | book b =>
      cases hbook : s.ledger.book b with
      | error e =>
          have hsame : s.call (.book b) = s := by simp [LedgerState.call, hbook]
          rw [hsame]
          exact .nothing
      | ok ledger =>
          have hnext : s.call (.book b) = { s with ledger } := by simp [LedgerState.call, hbook]
          rw [hnext]
          cases b with
          | reserve other amount =>
              obtain ⟨c, hc, hfits, rfl⟩ := Ledger.reserve_ok_iff.1 hbook
              rw [Ledger.capacity?_insert]
              by_cases hagent : agent = other
              · subst hagent
                rw [if_pos rfl]
                exact .reserves hc hfits
              · rw [if_neg hagent]
                exact .nothing
          | release other amount =>
              obtain ⟨c, hc, rfl⟩ := Ledger.release_ok_iff.1 hbook
              rw [Ledger.capacity?_insert]
              by_cases hagent : agent = other
              · subst hagent
                rw [if_pos rfl]
                exact .releases hc
              · rw [if_neg hagent]
                exact .nothing
  | fetch answer =>
      cases answer with
      | error e => exact .nothing
      | ok observed => exact .nothing
  | swap n =>
      cases hfetched : s.fetched[n]? with
      | none =>
          have hsame : s.call (.swap n) = s := by simp [LedgerState.call, hfetched]
          rw [hsame]
          exact .nothing
      | some observed =>
          have hnext : (s.call (.swap n)).ledger = s.ledger.rebuild observed := by
            simp [LedgerState.call, hfetched, Ledger.resync]
          rw [hnext, Ledger.capacity?_rebuild]
          cases (observed.filter (·.ready)).reverse.find? fun o => o.name = agent with
          | none => exact .leaves
          | some o => exact .swaps

/-- No call adds to what is reserved on an agent with an excess. -/
theorem reserved_call_le (h : s.Over agent k) (call : LedgerCall) :
    ((s.call call).ledger.reservedOn agent).get k ≤ (s.ledger.reservedOn agent).get k := by
  obtain ⟨c, hc, hover⟩ := h
  have hbefore := Ledger.reserved_on_eq hc
  have heffect := effect_call s agent call
  unfold Ledger.reservedOn
  generalize (s.call call).ledger.capacity? agent = after at heffect ⊢
  cases heffect with
  | nothing => exact Nat.le_refl _
  | reserves hcapacity hfits =>
      rw [hc] at hcapacity
      cases hcapacity
      have hsum := Quantity.le_iff.1 (hfits k)
      rw [Quantity.millis_add] at hsum
      rw [Quantity.lt_iff] at hover
      have hmax := (c.reserved.get k).le_max
      omega
  | releases hcapacity =>
      rw [hc] at hcapacity
      cases hcapacity
      rw [hc]
      show (c.reserved.sub _).get k ≤ c.reserved.get k
      rw [ResourceSet.get_sub]
      exact Nat.sub_le _ _
  | leaves => exact Nat.zero_le _
  | swaps => exact Nat.le_refl _

/-- A swap lowers what an agent offers of a kind below what is reserved of it, and carries that
over. -/
def Lowers (s : LedgerState) (n : Nat) (agent : String) (k : ResourceKind) : Prop :=
  ∃ c c', s.ledger.capacity? agent = some c ∧
    (s.call (.swap n)).ledger.capacity? agent = some c' ∧ c'.reserved = c.reserved ∧
    c.reserved.get k ≤ c.allocatable.get k ∧ c'.allocatable.get k < c.reserved.get k

/-- Only a swap brings about an excess. -/
theorem over_call {call : LedgerCall} (h : (s.call call).Over agent k) :
    s.Over agent k ∨ ∃ n, call = .swap n ∧ s.Lowers n agent k := by
  obtain ⟨c', hc', hover⟩ := h
  have heffect := effect_call s agent call
  rw [hc'] at heffect
  generalize hafter : some c' = after at heffect
  cases heffect with
  | nothing => exact .inl ⟨c', hafter.symm, hover⟩
  | reserves hc hfits =>
      cases hafter
      rw [ResourceSet.get_add] at hover
      exact absurd hover (Quantity.not_lt.2 (hfits k))
  | @releases amount c hc =>
      cases hafter
      have hover : c.allocatable.get k < (c.reserved.sub amount).get k := hover
      rw [ResourceSet.get_sub, Quantity.lt_iff, Quantity.millis_sub] at hover
      refine .inl ⟨c, hc, ?_⟩
      rw [Quantity.lt_iff]
      omega
  | leaves => exact nomatch hafter
  | @swaps n allocatable labels =>
      cases hafter
      cases hc : s.ledger.capacity? agent with
      | none =>
          have hnone : s.ledger.reservedOn agent = ∅ := by simp [Ledger.reservedOn, hc]
          rw [hnone] at hover
          exact absurd hover (Nat.not_lt_zero _)
      | some c =>
          have hreserved := Ledger.reserved_on_eq hc
          by_cases hbefore : c.allocatable.get k < c.reserved.get k
          · exact .inl ⟨c, hc, hbefore⟩
          · refine .inr ⟨n, rfl, c, _, hc, hc', hreserved, Quantity.not_lt.1 hbefore, ?_⟩
            rw [← hreserved]
            exact hover

/-- An excess goes back to a swap, without a gap. -/
theorem lowers_of_over {calls : List LedgerCall} (h : (run calls).Over agent k) :
    ∃ before n after, calls = before ++ .swap n :: after ∧
      (run before).Lowers n agent k ∧
      ∀ past later, after = past ++ later → (run (before ++ .swap n :: past)).Over agent k := by
  induction calls using List.reverseRecOn with
  | nil =>
      obtain ⟨c, hc, -⟩ := h
      exact nomatch hc
  | append_singleton calls call ih =>
      have hover := h
      rw [run_snoc] at h
      -- The excess was there before the last call, or the last call is the swap.
      obtain hbefore | ⟨n, rfl, hlowers⟩ := over_call h
      · obtain ⟨before, n, after, rfl, hlowers, hsince⟩ := ih hbefore
        refine ⟨before, n, after ++ [call], by simp, hlowers, ?_⟩
        intro past later hsplit
        obtain rfl | ⟨later, last, rfl⟩ := later.eq_nil_or_concat
        · rw [List.append_nil] at hsplit
          rw [← hsplit]
          simpa using hover
        · rw [List.concat_eq_append, ← List.append_assoc] at hsplit
          exact hsince past later (List.append_inj_left' hsplit rfl)
      · refine ⟨calls, n, [], rfl, hlowers, ?_⟩
        intro past later hsplit
        obtain ⟨rfl, -⟩ := List.append_eq_nil_iff.1 hsplit.symm
        exact hover

/-- A swap lowered what an agent offers of a kind below what is reserved of it, and since then no
reservation on the agent has been made and nothing was added to what is reserved of that kind. -/
structure Shrunk (agent : String) (k : ResourceKind) (before : List LedgerCall) (n : Nat)
    (after : List LedgerCall) : Prop where
  lowered : (run before).Lowers n agent k
  refused : ∀ past amount later, after = past ++ .book (.reserve agent amount) :: later →
    ∃ e, (run (before ++ .swap n :: past)).ledger.reserve agent amount = .error e
  shrinking : ∀ past call later, after = past ++ call :: later →
    ((run (before ++ .swap n :: (past ++ [call]))).ledger.reservedOn agent).get k ≤
      ((run (before ++ .swap n :: past)).ledger.reservedOn agent).get k

theorem shrunk_of_over {calls : List LedgerCall} (h : (run calls).Over agent k) :
    ∃ before n after, calls = before ++ .swap n :: after ∧ Shrunk agent k before n after := by
  obtain ⟨before, n, after, hcalls, hlowers, hsince⟩ := lowers_of_over h
  refine ⟨before, n, after, hcalls, hlowers, ?_, ?_⟩
  · intro past amount later hsplit
    obtain ⟨kinds, hrefused⟩ := reserve_of_over (hsince past _ hsplit) amount
    exact ⟨_, hrefused⟩
  · intro past call later hsplit
    have hcall := reserved_call_le (hsince past _ hsplit) call
    rw [← run_snoc] at hcall
    simpa using hcall

/-- What a refused reservation leaves behind, and what its refusal names. -/
theorem reserve_refused {amount : ResourceSet} {e : LedgerError}
    (h : s.ledger.reserve agent amount = .error e) :
    s.call (.book (.reserve agent amount)) = s ∧
      ∀ c, s.ledger.capacity? agent = some c → ∃ kinds, e = .conflict agent kinds ∧ kinds.Nodup ∧
        ∀ k, k ∈ kinds ↔ c.allocatable.get k < (c.reserved.get k).add (amount.get k) := by
  refine ⟨?_, ?_⟩
  · have hbook : s.ledger.book (.reserve agent amount) = .error e := h
    simp [LedgerState.call, hbook]
  · intro c hc
    obtain ⟨hnone, -⟩ | ⟨c', hc', -, rfl⟩ := Ledger.reserve_error_iff.1 h
    · rw [hc] at hnone
      exact nomatch hnone
    · rw [hc] at hc'
      cases hc'
      refine ⟨_, rfl, ResourceSet.nodup_exceeding _ _, fun k => ?_⟩
      rw [Capacity.mem_overcommitted_iff]
      show _ < (c.reserved.add amount).get k ↔ _
      rw [ResourceSet.get_add]

/-- After any calls, whatever of them is refused, an agent has no more of a kind reserved than it
offers, or a swap has lowered what it offers and nothing was reserved on it since. While there is an
excess of any kind the agent is offered for nothing and takes nothing. A reservation that is refused
changes nothing, and the refusal names exactly the kinds of which there would be too much. -/
theorem capacity_of_run (calls : List LedgerCall) (agent : String) :
    (∀ c, (run calls).ledger.capacity? agent = some c → ∀ k,
      c.reserved.get k ≤ c.allocatable.get k ∨
        ∃ before n after, calls = before ++ .swap n :: after ∧ Shrunk agent k before n after) ∧
    (∀ c, (run calls).ledger.capacity? agent = some c → ∀ k,
      c.allocatable.get k < c.reserved.get k →
        (∀ requirement, ∀ found ∈ (run calls).ledger.feasible requirement, found.name ≠ agent) ∧
        ∀ amount, ∃ kinds,
          (run calls).ledger.reserve agent amount = .error (.conflict agent kinds)) ∧
    ∀ amount e, (run calls).ledger.reserve agent amount = .error e →
      run (calls ++ [.book (.reserve agent amount)]) = run calls ∧
        ∀ c, (run calls).ledger.capacity? agent = some c →
          ∃ kinds, e = .conflict agent kinds ∧ kinds.Nodup ∧
            ∀ k, k ∈ kinds ↔ c.allocatable.get k < (c.reserved.get k).add (amount.get k) := by
  refine ⟨?_, ?_, ?_⟩
  · intro c hc k
    by_cases hover : c.allocatable.get k < c.reserved.get k
    · exact .inr (shrunk_of_over ⟨c, hc, hover⟩)
    · exact .inl (Quantity.not_lt.1 hover)
  · intro c hc k hover
    have h : (run calls).Over agent k := ⟨c, hc, hover⟩
    exact ⟨fun requirement found => not_feasible_of_over h requirement, reserve_of_over h⟩
  · intro amount e hrefused
    rw [run_snoc]
    exact reserve_refused hrefused

/-- One agent as it is observed with some thousandths of a processor. -/
def offering (millis : Nat) : List Observation :=
  [⟨"a1", true, .ofList [(.cpu, .ofMillis millis)], .empty⟩]

/-- Most of an agent's processor is reserved, and then half of it is taken away. -/
def halved : List LedgerCall :=
  [.fetch (.ok (offering 1000)), .swap 0,
    .book (.reserve "a1" (.ofList [(.cpu, .ofMillis 800)])),
    .fetch (.ok (offering 500)), .swap 0]

theorem capacity_of_run_halved :
    (∃ before n after, halved = before ++ .swap n :: after ∧ Shrunk "a1" .cpu before n after) ∧
      ∃ kinds, (run halved).ledger.reserve "a1" ∅ = .error (.conflict "a1" kinds) := by
  obtain ⟨hwithin, hlocked, -⟩ := capacity_of_run halved "a1"
  cases hc : (run halved).ledger.capacity? "a1" with
  | none =>
      have hthere : ((run halved).ledger.capacity? "a1").isSome = true := by decide +kernel
      rw [hc] at hthere
      exact nomatch hthere
  | some c =>
      have hexcess : ((run halved).ledger.capacity? "a1").all
        (fun c => c.allocatable.get .cpu < c.reserved.get .cpu) = true := by decide +kernel
      rw [hc] at hexcess
      have hover : c.allocatable.get .cpu < c.reserved.get .cpu := of_decide_eq_true hexcess
      obtain hfits | hshrunk := hwithin c hc .cpu
      · exact absurd hover (Quantity.not_lt.2 hfits)
      · exact ⟨hshrunk, (hlocked c hc .cpu hover).2 ∅⟩

end LedgerState

end TaskFleet
