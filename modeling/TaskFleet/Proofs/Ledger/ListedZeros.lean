import Mathlib.Data.List.Forall2
import TaskFleet.Proofs.Ledger.Capacity
import TaskFleet.Proofs.Ledger.Observed

/-!
# Listed zeros

A reserved set lists a zero for every kind of which all was released, and a set that lists a zero is
equal to one that does not list the kind. The ledger cannot tell such sets apart: two ledgers with
equal sets, asked the same with equal amounts and observations, give the same replies at every step
and have equal sets again (`replies_alike`). Each operation reads of a set only what it gives for a
kind, and what depends on the listed entries, the order of refused kinds included, comes out the
same.
-/

namespace TaskFleet

open List (Forall₂)

/-- Two lists in one strict order that have the same members are equal. -/
theorem eq_of_mem_iff {α : Type} {r : α → α → Prop} (hr : ∀ a b, r a b → ¬ r b a) {l m : List α}
    (hl : l.Pairwise r) (hm : m.Pairwise r) (h : ∀ a, a ∈ l ↔ a ∈ m) : l = m := by
  have hne (a b : α) (hab : r a b) : a ≠ b := by
    rintro rfl
    exact hr a a hab hab
  have hperm : l.Perm m :=
    (List.perm_ext_iff_of_nodup (hl.imp (hne _ _)) (hm.imp (hne _ _))).2 h
  exact hperm.eq_of_pairwise (fun a b _ _ hab hba => absurd hba (hr a b hab)) hl hm

namespace ResourceSet

/-- Equal sets are those that give the same quantity of each kind. -/
theorem same_iff {a b : ResourceSet} : a.same b = true ↔ ∀ k, a.get k = b.get k := by
  simp only [same, List.all_eq_true, beq_iff_eq, List.mem_append]
  constructor
  · intro h k
    by_cases hlisted : k ∈ a.kinds ∨ k ∈ b.kinds
    · exact h k hlisted
    · have hunlisted (s : ResourceSet) (hs : k ∉ s.kinds) : s.get k = .zero := by
        cases hfind : s.entries.find? k with
        | none => simp [get, hfind]
        | some q => exact absurd (List.mem_map.2 ⟨_, Dict.mem_entries_iff.2 hfind, rfl⟩) hs
      rw [hunlisted a fun ha => hlisted (.inl ha), hunlisted b fun hb => hlisted (.inr hb)]
  · intro h k _
    exact h k

variable {a a' b b' : ResourceSet}

/-- Sums of equal sets are equal. -/
theorem same_add (ha : a.same a' = true) (hb : b.same b' = true) :
    (a.add b).same (a'.add b') = true := by
  rw [same_iff] at ha hb ⊢
  intro k
  rw [get_add, get_add, ha, hb]

/-- Differences of equal sets are equal. -/
theorem same_sub (ha : a.same a' = true) (hb : b.same b' = true) :
    (a.sub b).same (a'.sub b') = true := by
  rw [same_iff] at ha hb ⊢
  intro k
  rw [get_sub, get_sub, ha, hb]

/-- The exceeding kinds are listed in their order. -/
theorem pairwise_exceeding (s capacity : ResourceSet) :
    (s.exceeding capacity).Pairwise fun k k' => compare k k' = .lt := by
  unfold exceeding
  rw [List.pairwise_map]
  exact s.entries.sorted.filter _

/-- Equal sets exceed equal capacities by the same kinds, in the same order. -/
theorem exceeding_congr (ha : a.same a' = true) (hb : b.same b' = true) :
    a.exceeding b = a'.exceeding b' := by
  rw [same_iff] at ha hb
  refine eq_of_mem_iff (fun k k' hlt hgt => ?_) (pairwise_exceeding a b) (pairwise_exceeding a' b')
    fun k => ?_
  · rw [Std.OrientedCmp.gt_of_lt hlt] at hgt
    exact nomatch hgt
  · rw [mem_exceeding_iff, mem_exceeding_iff, ha, hb]

/-- Equal sets fit in equal capacities alike. -/
theorem fits_within_congr (ha : a.same a' = true) (hb : b.same b' = true) :
    a.fitsWithin b = a'.fitsWithin b' := by
  rw [same_iff] at ha hb
  rw [Bool.eq_iff_iff, fits_within_iff, fits_within_iff]
  simp only [ha, hb]

end ResourceSet

/-- Two capacities with equal sets. -/
structure Capacity.Alike (c c' : Capacity) : Prop where
  allocatable : c.allocatable.same c'.allocatable = true
  reserved : c.reserved.same c'.reserved = true

namespace Capacity.Alike

variable {c c' : Capacity}

/-- Capacities that are alike are overcommitted in the same kinds. -/
theorem overcommitted (h : c.Alike c') : c.overcommitted = c'.overcommitted :=
  ResourceSet.exceeding_congr h.reserved h.allocatable

/-- Capacities that are alike have room for the same requirements. -/
theorem is_feasible (h : c.Alike c') {requirement requirement' : ResourceSet}
    (hr : requirement.same requirement' = true) :
    c.isFeasible requirement = c'.isFeasible requirement' := by
  have hfree : c.free.same c'.free = true := ResourceSet.same_sub h.allocatable h.reserved
  unfold isFeasible
  rw [h.overcommitted, ResourceSet.fits_within_congr hr hfree]

end Capacity.Alike

/-- Two observations of an agent that differ at most in its labels and in the zeros they list. -/
structure Observation.Alike (o o' : Observation) : Prop where
  name : o.name = o'.name
  ready : o.ready = o'.ready
  allocatable : o.allocatable.same o'.allocatable = true

namespace Ledger

/-- Two tables of the same agents, each with equal sets. -/
def Alike (l l' : Ledger) : Prop :=
  ∀ name, Option.Rel Capacity.Alike (l.capacity? name) (l'.capacity? name)

/-- The same refusal, or two tables that are alike. -/
inductive Agree : Except LedgerError Ledger → Except LedgerError Ledger → Prop where
  | ok {l l' : Ledger} (h : l.Alike l') : Agree (.ok l) (.ok l')
  | error (e : LedgerError) : Agree (.error e) (.error e)

/-- Two empty tables are alike. -/
theorem alike_empty : empty.Alike empty :=
  fun _ => .none

namespace Alike

variable {l l' m m' : Ledger}

/-- Tables stay alike when capacities that are alike are inserted. -/
theorem insert (h : l.Alike l') {c c' : Capacity} (hc : c.Alike c') (agent : String) :
    Alike ⟨l.agents.insert agent c⟩ ⟨l'.agents.insert agent c'⟩ := by
  intro name
  rw [capacity?_insert, capacity?_insert]
  split
  · exact .some hc
  · exact h name

/-- Equal amounts are reserved on both tables, or refused on both for the same kinds. -/
theorem reserve (h : l.Alike l') (agent : String) {amount amount' : ResourceSet}
    (ha : amount.same amount' = true) :
    Agree (l.reserve agent amount) (l'.reserve agent amount') := by
  have hagent := h agent
  unfold Ledger.reserve
  generalize l.capacity? agent = c? at hagent ⊢
  generalize l'.capacity? agent = c?' at hagent ⊢
  cases hagent with
  | none => exact .error _
  | @some c c' hc =>
      have hnext : Capacity.Alike { c with reserved := c.reserved.add amount }
          { c' with reserved := c'.reserved.add amount' } :=
        ⟨hc.allocatable, ResourceSet.same_add hc.reserved ha⟩
      simp only [hnext.overcommitted]
      split
      · exact .ok (h.insert hnext agent)
      · exact .error _

/-- Releases of equal amounts agree. -/
theorem release (h : l.Alike l') (agent : String) {amount amount' : ResourceSet}
    (ha : amount.same amount' = true) :
    Agree (l.release agent amount) (l'.release agent amount') := by
  have hagent := h agent
  unfold Ledger.release
  generalize l.capacity? agent = c? at hagent ⊢
  generalize l'.capacity? agent = c?' at hagent ⊢
  cases hagent with
  | none => exact .error _
  | @some c c' hc =>
      have hnext : Capacity.Alike { c with reserved := c.reserved.sub amount }
          { c' with reserved := c'.reserved.sub amount' } :=
        ⟨hc.allocatable, ResourceSet.same_sub hc.reserved ha⟩
      exact .ok (h.insert hnext agent)

/-- What is told of a capacity by its sets tells the same agents of both tables. -/
theorem names_where (h : l.Alike l') (p p' : Capacity → Bool)
    (hp : ∀ c c', c.Alike c' → p c = p' c') :
    (l.snapshots.filter fun s => p s.capacity).map (·.name) =
      (l'.snapshots.filter fun s => p' s.capacity).map (·.name) := by
  obtain ⟨hpairwise, hmem⟩ := l.names_where p
  obtain ⟨hpairwise', hmem'⟩ := l'.names_where p'
  refine eq_of_mem_iff (fun a b => String.lt_asymm) hpairwise hpairwise' fun name => ?_
  rw [hmem, hmem']
  have hname := h name
  generalize l.capacity? name = c? at hname ⊢
  generalize l'.capacity? name = c?' at hname ⊢
  cases hname with
  | none => simp
  | some hc => simp [hp _ _ hc]

/-- The same agents are feasible. -/
theorem feasible (h : l.Alike l') {requirement requirement' : ResourceSet}
    (hr : requirement.same requirement' = true) :
    (l.feasible requirement).map (·.name) = (l'.feasible requirement').map (·.name) :=
  h.names_where _ _ fun _ _ hc => hc.is_feasible hr

/-- Tables that are alike have the same agents. -/
theorem contains (h : l.Alike l') (name : String) :
    l.agents.contains name = l'.agents.contains name := by
  have hname := h name
  show (l.capacity? name).isSome = (l'.capacity? name).isSome
  generalize l.capacity? name = c? at hname ⊢
  generalize l'.capacity? name = c?' at hname ⊢
  cases hname with
  | none => rfl
  | some => rfl

/-- Tables that are alike have their agents in the same order. -/
theorem keys (h : l.Alike l') : l.agents.keys = l'.agents.keys := by
  refine eq_of_mem_iff (fun a b => String.lt_asymm) l.agents.pairwise_keys l'.agents.pairwise_keys
    fun name => ?_
  rw [Dict.mem_keys_iff, Dict.mem_keys_iff, h.contains]

/-- From one table to another the same changes are reported. -/
theorem report (h : l.Alike l') (hm : m.Alike m') : l.report m = l'.report m' := by
  have hsize : m.agents.size = m'.agents.size := by
    have hlength := congrArg List.length hm.keys
    simpa [Dict.keys, Dict.size] using hlength
  have hover : ((m.snapshots.filter fun s => !s.capacity.overcommitted.isEmpty).map (·.name)) =
      (m'.snapshots.filter fun s => !s.capacity.overcommitted.isEmpty).map (·.name) :=
    hm.names_where (fun c => !c.overcommitted.isEmpty) (fun c => !c.overcommitted.isEmpty)
      fun c c' hc => by rw [hc.overcommitted]
  unfold Ledger.report
  simp only [hsize, hover, h.keys, hm.keys, h.contains, hm.contains]

/-- On each agent equal sets are reserved. -/
theorem reserved_on (h : l.Alike l') (agent : String) :
    (l.reservedOn agent).same (l'.reservedOn agent) = true := by
  have hagent := h agent
  unfold reservedOn
  generalize l.capacity? agent = c? at hagent ⊢
  generalize l'.capacity? agent = c?' at hagent ⊢
  cases hagent with
  | none => rfl
  | some hc => exact hc.reserved

variable {observed observed' : List Observation}

/-- Tables that are built of observations that are alike are alike. -/
theorem rebuild (h : l.Alike l') (ho : Forall₂ Observation.Alike observed observed') :
    (l.rebuild observed).Alike (l'.rebuild observed') := by
  have hready :
      Forall₂ Observation.Alike (observed.filter (·.ready)) (observed'.filter (·.ready)) :=
    List.rel_filter (fun _ _ hoo => iff_of_eq (congrArg (· = true) hoo.ready)) ho
  refine List.rel_foldl (P := fun d d' : Dict String Capacity => Alike ⟨d⟩ ⟨d'⟩) ?_ alike_empty
    hready
  intro d d' hd o o' hoo
  show Alike ⟨d.insert o.name _⟩ ⟨d'.insert o'.name _⟩
  rw [← hoo.name]
  exact hd.insert ⟨hoo.allocatable, h.reserved_on o.name⟩ o.name

end Alike

end Ledger

/-- What is asked of a ledger. A resync is a fetch and a swap. -/
inductive LedgerRequest where
  | call (c : LedgerCall)
  | feasible (requirement : ResourceSet)

/-- What is replied. -/
inductive LedgerReply where
  | booked (r : Except LedgerError Unit)
  | fetched (r : Except LedgerError Unit)
  /-- The report of a swap, or nothing if no list waits at the place. -/
  | swapped (report : Option ResyncReport)
  | found (agents : List String)

/-- The same requests but for the zeros that their sets list, and the labels that are observed. -/
inductive LedgerRequest.Alike : LedgerRequest → LedgerRequest → Prop
  | reserve (agent : String) {amount amount' : ResourceSet} (h : amount.same amount' = true) :
      Alike (.call (.book (.reserve agent amount))) (.call (.book (.reserve agent amount')))
  | release (agent : String) {amount amount' : ResourceSet} (h : amount.same amount' = true) :
      Alike (.call (.book (.release agent amount))) (.call (.book (.release agent amount')))
  | fetch {observed observed' : List Observation}
      (h : Forall₂ Observation.Alike observed observed') :
      Alike (.call (.fetch (.ok observed))) (.call (.fetch (.ok observed')))
  | unlisted (cause : String) :
      Alike (.call (.fetch (.error cause))) (.call (.fetch (.error cause)))
  | swap (n : Nat) : Alike (.call (.swap n)) (.call (.swap n))
  | feasible {requirement requirement' : ResourceSet}
      (h : requirement.same requirement' = true) :
      Alike (.feasible requirement) (.feasible requirement')

namespace LedgerState

/-- What a call replies. -/
def reply (s : LedgerState) : LedgerCall → LedgerReply
  | .book b => .booked ((s.ledger.book b).map fun _ => ())
  | .fetch answer => .fetched ((answer.mapError .source).map fun _ => ())
  | .swap n => .swapped (s.fetched[n]?.map fun observed => (s.ledger.resync observed).2)

/-- The reply to a request, and the ledger after it. -/
def perform (s : LedgerState) : LedgerRequest → LedgerReply × LedgerState
  | .call c => (s.reply c, s.call c)
  | .feasible requirement => (.found ((s.ledger.feasible requirement).map (·.name)), s)

/-- The replies to some requests, each with the ledger after it. -/
def trace (s : LedgerState) : List LedgerRequest → List (LedgerReply × LedgerState)
  | [] => []
  | request :: rest => s.perform request :: (s.perform request).2.trace rest

/-- Two ledgers with equal sets, and lists of equal sets that wait for their swap. -/
structure Alike (s s' : LedgerState) : Prop where
  ledger : s.ledger.Alike s'.ledger
  fetched : Forall₂ (Forall₂ Observation.Alike) s.fetched s'.fetched

/-- The same reply, and ledgers that are alike after it. -/
structure Coincide (r r' : LedgerReply × LedgerState) : Prop where
  reply : r.1 = r'.1
  state : r.2.Alike r'.2

variable {s s' : LedgerState}

/-- A booking coincides if what it makes of the ledgers agrees. -/
theorem Alike.book (h : s.Alike s') {b b' : Booking}
    (hb : Ledger.Agree (s.ledger.book b) (s'.ledger.book b')) :
    Coincide (s.perform (.call (.book b))) (s'.perform (.call (.book b'))) := by
  simp only [perform, reply, call]
  generalize s.ledger.book b = r at hb ⊢
  generalize s'.ledger.book b' = r' at hb ⊢
  cases hb with
  | ok hl => exact ⟨rfl, hl, h.fetched⟩
  | error e => exact ⟨rfl, h⟩

/-- Lists that wait at the same place are alike. -/
theorem waiting {α : Type} {r : α → α → Prop} {l l' : List α} (h : Forall₂ r l l') (n : Nat) :
    Option.Rel r l[n]? l'[n]? := by
  induction h generalizing n with
  | nil => exact .none
  | cons hab _ ih =>
      cases n with
      | zero => exact .some hab
      | succ n => exact ih n

/-- A swap is replied to alike. -/
theorem Alike.swap (h : s.Alike s') (n : Nat) :
    Coincide (s.perform (.call (.swap n))) (s'.perform (.call (.swap n))) := by
  have hwaiting := waiting h.fetched n
  simp only [perform, reply, call]
  generalize s.fetched[n]? = o? at hwaiting ⊢
  generalize s'.fetched[n]? = o?' at hwaiting ⊢
  cases hwaiting with
  | none => exact ⟨rfl, h⟩
  | @some observed observed' ho =>
      have hl := h.ledger.rebuild ho
      have hrest : Forall₂ (Forall₂ Observation.Alike) (s.fetched.eraseIdx n)
          (s'.fetched.eraseIdx n) := by
        rw [List.eraseIdx_eq_take_drop_succ, List.eraseIdx_eq_take_drop_succ]
        exact List.rel_append (List.forall₂_take n h.fetched) (List.forall₂_drop _ h.fetched)
      refine ⟨?_, hl, hrest⟩
      show LedgerReply.swapped (some (s.ledger.report _)) = .swapped (some (s'.ledger.report _))
      rw [h.ledger.report hl]

/-- One request is replied to alike. -/
theorem Alike.perform (h : s.Alike s') {q q' : LedgerRequest} (hq : q.Alike q') :
    Coincide (s.perform q) (s'.perform q') := by
  cases hq with
  | reserve agent ha => exact h.book (h.ledger.reserve agent ha)
  | release agent ha => exact h.book (h.ledger.release agent ha)
  | fetch ho => exact ⟨rfl, h.ledger, List.rel_append h.fetched (.cons ho .nil)⟩
  | unlisted cause => exact ⟨rfl, h⟩
  | swap n => exact h.swap n
  | feasible hr => exact ⟨congrArg LedgerReply.found (h.ledger.feasible hr), h⟩

/-- Two ledgers with the same agents and equal sets, whatever zeros these list, are asked the same
things with equal amounts and observations: at every step they give the same reply, be it a success,
a refusal that names the same kinds in the same order, the names of feasible agents or the report of
a resync, and have the same agents and equal sets afterwards. -/
theorem replies_alike (h : s.Alike s') {requests requests' : List LedgerRequest}
    (hq : Forall₂ LedgerRequest.Alike requests requests') :
    Forall₂ Coincide (s.trace requests) (s'.trace requests') := by
  induction hq generalizing s s' with
  | nil => exact .nil
  | cons hq _ ih =>
      have hcoincide := h.perform hq
      exact .cons hcoincide (ih hcoincide.state)

/-- A ledger on which an agent has a reserved set. -/
def holding (reserved : ResourceSet) : LedgerState :=
  ⟨⟨.ofList [("a1", ⟨.ofList [(.cpu, .ofMillis 1000)], reserved, .empty⟩)]⟩, []⟩

/-- A reservation that is refused, a search and a release, with a set that lists a zero of memory or
does not. -/
def asking (amount : ResourceSet) : List LedgerRequest :=
  [.call (.book (.reserve "a1" amount)), .feasible amount, .call (.book (.release "a1" amount))]

/-- The reservation is refused for its processors alone, whether memory is listed or not. -/
theorem replies_alike_listed_zero :
    Forall₂ Coincide
      ((holding (.ofList [(.memory, .zero)])).trace
        (asking (.ofList [(.cpu, .ofMillis 2000), (.memory, .zero)])))
      ((holding ∅).trace (asking (.ofList [(.cpu, .ofMillis 2000)]))) ∧
      ((holding ∅).trace (asking (.ofList [(.cpu, .ofMillis 2000)]))).map Prod.fst =
        [.booked (.error (.conflict "a1" [.cpu])), .found [], .booked (.ok ())] := by
  have hreserved : (ResourceSet.ofList [(.memory, .zero)]).same ∅ = true := by decide
  have hamount : (ResourceSet.ofList [(.cpu, .ofMillis 2000), (.memory, .zero)]).same
      (.ofList [(.cpu, .ofMillis 2000)]) = true := by decide
  refine ⟨replies_alike ⟨?_, .nil⟩ (.cons (.reserve "a1" hamount)
    (.cons (.feasible hamount) (.cons (.release "a1" hamount) .nil))), rfl⟩
  exact Ledger.alike_empty.insert ⟨by decide, hreserved⟩ "a1"

end LedgerState

end TaskFleet
