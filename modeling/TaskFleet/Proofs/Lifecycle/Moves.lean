import Mathlib.Algebra.Ring.Nat
import Mathlib.Logic.Relation
import TaskFleet.Proofs.Lifecycle.Revision
import TaskFleet.Proofs.Store.Tasks

/-!
# Moves of a pass

The ledger, the task store and the substrate are changed by separate calls. `Books` holds all three,
with the trail that passes leave and the account of the pass at work: what it answers for itself,
because it is not recorded yet, or because its end is recorded and not yet followed up. A `Move` is
one thing that a pass does. What a pass keeps to is proved move by move; here that it keeps the books
`Balanced` (`balanced_moves`): on every agent of the ledger exactly that much is reserved as the
stored tasks and the account hold together.
-/

namespace TaskFleet

open Relation (ReflTransGen)

/-- What a task holds of an agent while its life is not over. -/
def Task.holding (t : Task) : List (String × ResourceSet) :=
  if t.isTerminal then [] else t.status.agent.toList.map fun agent => (agent, t.status.resourcesUsed)

/-- How much of a kind is held of an agent. -/
def held (l : List (String × ResourceSet)) (agent : String) (k : ResourceKind) : Nat :=
  (l.map fun h => if h.1 = agent then (h.2.get k).millis else 0).sum

section Holding

variable {t next : Task}

/-- A task that is over holds nothing. -/
theorem holding_of_terminal (h : t.isTerminal = true) : t.holding = [] := by
  unfold Task.holding
  rw [if_pos h]

/-- A live task holds what it uses on its agent, if it has one. -/
theorem holding_of_live (h : t.isTerminal = false) :
    t.holding = t.status.agent.toList.map fun agent => (agent, t.status.resourcesUsed) := by
  unfold Task.holding
  rw [h]
  rfl

/-- A live task that is placed holds what it uses. -/
theorem holding_of_agent {agent : String} (h : t.isTerminal = false)
    (hagent : t.status.agent = some agent) : t.holding = [(agent, t.status.resourcesUsed)] := by
  rw [holding_of_live h, hagent]
  rfl

/-- A task without an agent holds nothing. -/
theorem holding_of_no_agent (h : t.status.agent = none) : t.holding = [] := by
  unfold Task.holding
  rw [h]
  exact ite_self []

end Holding

section Held

variable {agent : String} {k : ResourceKind}

/-- Nothing is held by nobody. -/
@[simp] theorem held_nil : held [] agent k = 0 := rfl

/-- What one more holder has counts if it is on the agent. -/
@[simp] theorem held_cons {h : String × ResourceSet} {l : List (String × ResourceSet)} :
    held (h :: l) agent k = (if h.1 = agent then (h.2.get k).millis else 0) + held l agent k := by
  simp [held]

/-- What two lists of holders have adds up. -/
@[simp] theorem held_append {l m : List (String × ResourceSet)} :
    held (l ++ m) agent k = held l agent k + held m agent k := by
  simp [held]

end Held

section Deeds

/-- Whether a pass begins. -/
def Deed.isPass : Deed → Bool
  | .pass _ => true
  | _ => false

/-- What the pass at work has done so far. -/
def thisPass (trail : List Deed) : List Deed :=
  trail.takeWhile fun d => !d.isPass

/-- What was done in this pass is the latest deed, or was done before it, unless a pass has just
begun. -/
theorem mem_this_pass_cons {d latest : Deed} {trail : List Deed} :
    d ∈ thisPass (latest :: trail) ↔
      latest.isPass = false ∧ (d = latest ∨ d ∈ thisPass trail) := by
  unfold thisPass
  rw [List.takeWhile_cons]
  cases latest.isPass with
  | true => simp
  | false => simp

/-- A task that has failed because it was out of time. -/
def Fleet.TimedOut (t : Task) : Prop :=
  t.phase = .failed ∧ t.status.conditions.getLast?.map Condition.reason = some "Timeout"

/-- A task that was ended before its execution was. -/
def Task.IsCutShort (t : Task) : Prop :=
  t.phase = .cancelled ∨ Fleet.TimedOut t

end Deeds

/-- What a pass answers for itself. -/
structure Account where
  /-- The reservations that no stored task holds. -/
  reserved : List (String × ResourceSet) := []
  /-- The executions that no stored task records, each with its task. -/
  started : List (String × TaskId) := []
  /-- The recorded executions of tasks that are over. -/
  ended : List String := []

/-- The ledger, the task store, the substrate, what passes have done, and what the pass at work
answers for. -/
structure Books where
  store : TaskStore
  ledger : Ledger
  substrate : Substrate
  /-- The failures of forgetting an execution that are to come. -/
  forgets : List (Fault String)
  trail : List Deed
  account : Account

namespace Books

/-- What the stored tasks hold, and the pass at work. -/
def holdings (b : Books) : List (String × ResourceSet) :=
  b.store.tasks.flatMap Task.holding ++ b.account.reserved

/-- On every agent of the ledger exactly that much is reserved as is held of it. -/
def Balanced (b : Books) : Prop :=
  ∀ agent c, b.ledger.capacity? agent = some c → ∀ k,
    (c.reserved.get k).millis = held b.holdings agent k

end Books

/-- A ledger in which no sum of reservations can reach the greatest quantity. -/
def Ledger.Roomy (l : Ledger) : Prop :=
  ∀ agent c, l.capacity? agent = some c → ∀ k, (c.allocatable.get k).millis < Text.max64

/-- What `next` holds in place of `t` is made up for by the change of the account, on every agent of
the ledger. -/
def Ledger.Offsets (l : Ledger) (t next : Task) (account account' : List (String × ResourceSet)) :
    Prop :=
  ∀ agent, (l.capacity? agent).isSome = true → ∀ k,
    held next.holding agent k + held account' agent k = held t.holding agent k + held account agent k

/-- The execution that is to be dropped when `next` takes the place of `t`. -/
def Task.dropped (t next : Task) : List String :=
  if next.isTerminal ∧ t.status.agent.isSome then t.status.execution.toList else []

/-- What is known when a pass writes `next` in place of `t` and is left with an account. -/
structure Books.Permits (b : Books) (t next : Task) (account : Account) : Prop where
  offsets : b.ledger.Offsets t next b.account.reserved account.reserved
  /-- Only its end takes a task from an agent that is in the ledger. -/
  stays : ∀ agent ∈ t.status.agent, (b.ledger.capacity? agent).isSome = true →
    next.isTerminal = false → next.holding = t.holding
  /-- An execution is recorded for good. -/
  execution : next.status.execution = t.status.execution ∧ account.started = b.account.started ∨
    t.status.execution = none ∧ next.isTerminal = false ∧ ∃ handle,
      next.status.execution = some handle ∧
        b.account.started = (handle, t.id) :: account.started
  ended : account.ended = t.dropped next ++ b.account.ended
  /-- The execution of a task that is cut short has been stopped before. -/
  stopped : next.IsCutShort → ∀ handle ∈ next.status.execution, .cancel handle ∈ thisPass b.trail

/-- What is known when a pass does something that changes neither the ledger nor the store nor the
substrate. -/
inductive Books.Allows (b : Books) : Deed → Prop where
  | pass (id : TaskId) (hended : b.account.ended = []) : Allows b (.pass id)
  | ask (t : Task) (agent : String) (hsound : b.store.Sound) (hget : b.store.get t.id = .ok t)
      (hlive : t.isTerminal = false) (hagent : t.status.agent = some agent)
      (hexecution : t.status.execution = none)
      (hthere : (b.ledger.capacity? agent).isSome = true) :
      Allows b (.ask (.ofTask t agent) b.ledger b.store)
  | poll (t : Task) (handle : String) (ht : t ∈ b.store.tasks) (hlive : t.isTerminal = false)
      (hexecution : t.status.execution = some handle) : Allows b (.poll handle)
  | cancel (t : Task) (handle : String) (ht : t ∈ b.store.tasks) (hlive : t.isTerminal = false)
      (hexecution : t.status.execution = some handle) : Allows b (.cancel handle)

/-- One thing that a pass does. In a run that is not `steady`, because faults may say what is not
so, it is open what becomes of all but the store; the store is still changed by revisions alone. -/
inductive Move (steady : Prop) (now : Nat) (b : Books) : Books → Prop where
  | note (d : Deed) (hallows : b.Allows d) : Move steady now b { b with trail := d :: b.trail }
  | reserve (agent : String) (amount : ResourceSet) (ledger : Ledger)
      (hreserve : b.ledger.reserve agent amount = .ok ledger) :
      Move steady now b
        { b with ledger, account.reserved := (agent, amount) :: b.account.reserved }
  | release (agent : String) (amount : ResourceSet) (ledger : Ledger)
      (reserved : List (String × ResourceSet))
      (haccount : b.account.reserved = (agent, amount) :: reserved)
      (hrelease : b.ledger.release agent amount = .ok ledger) :
      Move steady now b { b with ledger, account.reserved := reserved }
  | drop (agent : String) (amount : ResourceSet) (reserved : List (String × ResourceSet))
      (haccount : b.account.reserved = (agent, amount) :: reserved)
      (hgone : b.ledger.capacity? agent = none) :
      Move steady now b { b with account.reserved := reserved }
  | write (t next : Task) (store : TaskStore) (account : Account)
      (hget : b.store.get t.id = .ok t) (hlive : t.isTerminal = false) (hrevision : Revision now t next)
      (hreplaces : b.store.Replaces t next.bump store)
      (hpermits : steady → b.Permits t next account) :
      Move steady now b { b with store, trail := .store next.bump :: b.trail, account }
  | start (request : ExecutionRequest) (substrate : Substrate) (handle : String)
      (hsubmit : b.substrate.submit request = .ok (substrate, handle)) :
      Move steady now b { b with
        substrate
        trail := .start handle request.task :: b.trail
        account.started := (handle, request.task) :: b.account.started }
  | giveUp (handle : String) (id : TaskId) (started : List (String × TaskId))
      (haccount : b.account.started = (handle, id) :: started) :
      Move steady now b { b with
        trail := .cancel handle :: b.trail
        account.started := started }
  | forget (handle : String) (ended : List String)
      (haccount : b.account.ended = handle :: ended) :
      Move steady now b { b with
        substrate :=
          if (Fault.next b.forgets).1.isSome then b.substrate else b.substrate.forget handle
        forgets := (Fault.next b.forgets).2
        trail := .forget handle :: b.trail
        account.ended := ended }
  | upset (b' : Books) (hunsteady : ¬ steady) (hstore : b'.store = b.store) :
      Move steady now b b'

section Balance

variable {steady : Prop} {now : Nat} {b b' : Books}

/-- No move changes what an agent offers, nor which agents there are. -/
theorem allocatable_of_move (hsteady : steady) (h : Move steady now b b') (agent : String) :
    (b'.ledger.capacity? agent).map Capacity.allocatable =
      (b.ledger.capacity? agent).map Capacity.allocatable := by
  cases h with
  | reserve other amount ledger hreserve =>
      obtain ⟨c, hc, -, rfl⟩ := Ledger.reserve_ok_iff.1 hreserve
      rw [Ledger.capacity?_insert]
      by_cases hagent : agent = other
      · rw [if_pos hagent, hagent, hc]
        rfl
      · rw [if_neg hagent]
  | release other amount ledger reserved _ hrelease =>
      obtain ⟨c, hc, rfl⟩ := Ledger.release_ok_iff.1 hrelease
      rw [Ledger.capacity?_insert]
      by_cases hagent : agent = other
      · rw [if_pos hagent, hagent, hc]
        rfl
      · rw [if_neg hagent]
  | note | drop | write | start | giveUp | forget => rfl
  | upset _ hunsteady => exact absurd hsteady hunsteady

/-- What an agent offers is left alone by all moves of a steady run. -/
theorem allocatable_of_moves (hsteady : steady) (h : ReflTransGen (Move steady now) b b')
    (agent : String) :
    (b'.ledger.capacity? agent).map Capacity.allocatable =
      (b.ledger.capacity? agent).map Capacity.allocatable := by
  induction h with
  | refl => rfl
  | tail _ hmove ih => rw [allocatable_of_move hsteady hmove, ih]

/-- There is room after some moves exactly if there was before. -/
theorem roomy_of_moves (hsteady : steady) (h : ReflTransGen (Move steady now) b b')
    (hroomy : b'.ledger.Roomy) : b.ledger.Roomy := by
  intro agent c hc k
  have hsame := allocatable_of_moves hsteady h agent
  rw [hc, Option.map_some, Option.map_eq_some_iff] at hsame
  obtain ⟨c', hc', halloc⟩ := hsame
  rw [← halloc]
  exact hroomy agent c' hc' k

/-- Putting one task in place of another changes what is held by the difference of both. -/
theorem held_holdings_of_replaces {s s' : TaskStore} {t next : Task}
    (h : s.Replaces t next s') (agent : String) (k : ResourceKind) :
    held (s'.tasks.flatMap Task.holding) agent k + held t.holding agent k =
      held (s.tasks.flatMap Task.holding) agent k + held next.holding agent k := by
  obtain ⟨pre, post, hold, hnew⟩ := h.split
  rw [hold, hnew]
  simp only [List.flatMap_append, List.flatMap_cons, held_append]
  omega

/-- What a move adds to the reservations on an agent is held of it from then on, and what it takes
away was held before. -/
theorem reserved_of_move {agent : String} {c' : Capacity} (hsteady : steady)
    (hroomy : b.ledger.Roomy) (h : Move steady now b b')
    (hc' : b'.ledger.capacity? agent = some c') :
    ∃ c, b.ledger.capacity? agent = some c ∧ ∀ k, ∃ more less,
      (c'.reserved.get k).millis = (c.reserved.get k).millis + more - less ∧
        held b'.holdings agent k + less = held b.holdings agent k + more := by
  have hsame (hledger : b'.ledger = b.ledger)
      (hheld : ∀ k, held b'.holdings agent k = held b.holdings agent k) :
      ∃ c, b.ledger.capacity? agent = some c ∧ ∀ k, ∃ more less,
        (c'.reserved.get k).millis = (c.reserved.get k).millis + more - less ∧
          held b'.holdings agent k + less = held b.holdings agent k + more :=
    ⟨c', hledger ▸ hc', fun k => ⟨0, 0, rfl, congrArg (· + 0) (hheld k)⟩⟩
  cases h with
  | note | start | giveUp | forget => exact hsame rfl fun _ => rfl
  | reserve other amount ledger hreserve =>
      obtain ⟨c, hc, hfits, rfl⟩ := Ledger.reserve_ok_iff.1 hreserve
      rw [Ledger.capacity?_insert] at hc'
      by_cases hagent : agent = other
      · rw [if_pos hagent, Option.some.injEq] at hc'
        subst hc' hagent
        refine ⟨c, hc, fun k => ⟨(amount.get k).millis, 0, ?_, ?_⟩⟩
        · have hroom := hroomy agent c hc k
          have hfit := Quantity.le_iff.1 (hfits k)
          -- The sum fits into what is offered, so it is below the greatest quantity, and exact.
          have hmax : Text.max64 = 2 ^ 64 - 1 := rfl
          simp only [Quantity.millis_add] at hfit
          simp only [ResourceSet.get_add, Quantity.millis_add]
          omega
        · simp only [Books.holdings, held_append, held_cons, if_pos]
          omega
      · rw [if_neg hagent] at hc'
        have hother : other ≠ agent := Ne.symm hagent
        exact ⟨c', hc', fun k => ⟨0, 0, rfl, by simp [Books.holdings, hother]⟩⟩
  | release other amount ledger reserved haccount hrelease =>
      obtain ⟨c, hc, rfl⟩ := Ledger.release_ok_iff.1 hrelease
      rw [Ledger.capacity?_insert] at hc'
      by_cases hagent : agent = other
      · rw [if_pos hagent, Option.some.injEq] at hc'
        subst hc' hagent
        refine ⟨c, hc, fun k => ⟨0, (amount.get k).millis, ?_, ?_⟩⟩
        · simp only [ResourceSet.get_sub, Quantity.millis_sub, Nat.add_zero]
        · simp only [Books.holdings, held_append, haccount, held_cons, if_pos]
          omega
      · rw [if_neg hagent] at hc'
        have hother : other ≠ agent := Ne.symm hagent
        exact ⟨c', hc', fun k => ⟨0, 0, rfl, by simp [Books.holdings, haccount, hother]⟩⟩
  | drop other amount reserved haccount hgone =>
      have hother : other ≠ agent := fun hagent => by
        rw [hagent, hc'] at hgone
        cases hgone
      exact hsame rfl fun k => by simp [Books.holdings, haccount, hother]
  | write t next store account hget hlive hrevision hreplaces hpermits =>
      have hthere : (b.ledger.capacity? agent).isSome = true := by rw [hc']; rfl
      refine hsame rfl fun k => ?_
      have hshift := (hpermits hsteady).offsets agent hthere k
      have hstore := held_holdings_of_replaces hreplaces agent k
      have hbump : next.bump.holding = next.holding := rfl
      rw [hbump] at hstore
      simp only [Books.holdings, held_append]
      omega
  | upset _ hunsteady => exact absurd hsteady hunsteady

/-- Each move keeps the books balanced, if there is room. -/
theorem balanced_move (hsteady : steady) (hroomy : b.ledger.Roomy) (hb : b.Balanced)
    (h : Move steady now b b') : b'.Balanced := by
  intro agent c' hc' k
  obtain ⟨c, hc, hkinds⟩ := reserved_of_move hsteady hroomy h hc'
  obtain ⟨more, less, hreserved, hheld⟩ := hkinds k
  have hbefore := hb agent c hc k
  omega

/-- Whatever a pass does, it keeps the books balanced, if there is room in the end. -/
theorem balanced_moves (hsteady : steady) (h : ReflTransGen (Move steady now) b b')
    (hroomy : b'.ledger.Roomy) (hb : b.Balanced) : b'.Balanced := by
  induction h with
  | refl => exact hb
  | tail hmoves hmove ih =>
      -- Room is known of the last ledger, and a move neither makes nor takes any.
      have hmid := roomy_of_moves hsteady (.single hmove) hroomy
      exact balanced_move hsteady hmid (ih hmid) hmove

end Balance

end TaskFleet
