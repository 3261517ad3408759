import TaskFleet.Proofs.Lifecycle.Workers

/-!
# What a request for cancellation comes to

A request reads the task and writes it with the flag set, and again if the write is refused because
the task has changed, five times at most. `CancelEnds` lists the ways in which this ends under the
faults that are due, and `flag_cancelled_ends` shows that there are no others. A caller who is told
that the request was accepted can rely on the flag and on a worker that has a turn coming to see it; one
who is told of an error knows that nothing has happened: `requested_under_faults`.
-/

namespace TaskFleet

namespace Fault

variable {ε : Type}

/-- A queue of faults after so many calls. -/
def after (faults : List (Fault ε)) : Nat → List (Fault ε)
  | 0 => faults
  | n + 1 => after (next faults).2 n

/-- The failure of the call that comes after so many others, if it fails. -/
def due (faults : List (Fault ε)) (n : Nat) : Option ε :=
  (next (after faults n)).1

end Fault

/-- The task with the flag that makes the next pass cancel it. -/
def Task.flagged (t : Task) : Task :=
  { t with cancelRequested := true }

namespace Fleet

variable {f f' : Fleet} {id : TaskId} {t : Task} {attempts n : Nat} {r : Except StoreError Unit}

/-- The fleet after so many reads and writes of tasks. -/
def called (f : Fleet) (reads writes : Nat) : Fleet :=
  { f with
    faults.get := Fault.after f.faults.get reads
    faults.put := Fault.after f.faults.put writes }

/-- The first of some writes are refused because the task has changed, and the next one is made; no
read fails until then. -/
structure LandsAfter (f : Fleet) (n : Nat) : Prop where
  reads : ∀ i ≤ n, Fault.due f.faults.get i = none
  conflicts : ∀ i < n, ∃ key, Fault.due f.faults.put i = some (.conflict key)
  lands : Fault.due f.faults.put n = none

/-- The faults that are due let a request for cancellation through: it finds that there is nothing
to write, or one of its writes is made. -/
def LetsThrough (id : TaskId) (attempts : Nat) (f : Fleet) : Prop :=
  ∃ t, f.store.get id = .ok t ∧
    (Fault.due f.faults.get 0 = none ∧ (t.isTerminal || t.cancelRequested) = true ∨
      (t.isTerminal || t.cancelRequested) = false ∧ ∃ n < attempts, f.LandsAfter n)

/-- How a request for cancellation ends. -/
inductive CancelEnds (id : TaskId) (attempts : Nat) (f : Fleet) (r : Except StoreError Unit)
    (f' : Fleet) : Prop where
  /-- The task is over or has the flag, and nothing is written. -/
  | settled (t : Task) (hget : f.store.get id = .ok t) (hread : Fault.due f.faults.get 0 = none)
      (hsettled : (t.isTerminal || t.cancelRequested) = true) (hr : r = .ok ())
      (hf' : f' = f.called 1 0)
  /-- The flag is written, after some writes that were refused. -/
  | lands (t : Task) (n : Nat) (store : TaskStore) (hget : f.store.get id = .ok t)
      (hopen : (t.isTerminal || t.cancelRequested) = false) (hn : n < attempts)
      (hlands : f.LandsAfter n)
      (hreplaces : f.store.Replaces t t.flagged.bump store)
      (hr : r = .ok ())
      (hf' : f' = { f.called (n + 1) (n + 1) with
        store, trail := .store t.flagged.bump :: f.trail })
  /-- Nothing has happened; every write but the last was refused because the task has changed. -/
  | fails (e : StoreError) (reads writes : Nat) (hwrites : writes ≤ attempts)
      (hconflicts : ∀ i, i + 1 < writes → ∃ key, Fault.due f.faults.put i = some (.conflict key))
      (hnot : ¬ f.LetsThrough id attempts) (hr : r = .error e) (hf' : f' = f.called reads writes)

/-- Only the writes that come first can be refused. -/
theorem lands_after_succ_iff :
    f.LandsAfter (n + 1) ↔ Fault.due f.faults.get 0 = none ∧
      (∃ key, Fault.due f.faults.put 0 = some (.conflict key)) ∧ (f.called 1 1).LandsAfter n := by
  constructor
  · rintro ⟨hreads, hconflicts, hlands⟩
    exact ⟨hreads 0 (by omega), hconflicts 0 (by omega), fun i hi => hreads (i + 1) (by omega),
      fun i hi => hconflicts (i + 1) (by omega), hlands⟩
  · rintro ⟨hread, hconflict, hreads, hconflicts, hlands⟩
    refine ⟨fun i hi => ?_, fun i hi => ?_, hlands⟩
    · cases i with
      | zero => exact hread
      | succ i => exact hreads i (by omega)
    · cases i with
      | zero => exact hconflict
      | succ i => exact hconflicts i (by omega)

/-- What reading a task comes to while no interrupt is due. -/
theorem get_task_called (id : TaskId) (hgate : f.token.gate = none) :
    Ensures (getTask id) f fun r f' => f' = f.called 1 0 ∧
      r = some (match Fault.due f.faults.get 0 with
        | some e => .error e
        | none => f.store.get id) := by
  have hmeet : f.token.meet .get = (false, f.token) := by
    unfold Token.meet
    rw [hgate]
  unfold Ensures
  rw [get_task_run, hmeet]
  unfold Fault.due called
  rcases hnext : Fault.next f.faults.get with ⟨_ | e, rest⟩
  · simp [Fault.after, hnext]
  · simp [Fault.after, hnext]

/-- What setting the flag of a task that was just read comes to while no interrupt is due. -/
theorem put_task_called (hsound : f.store.Sound) (hgate : f.token.gate = none)
    (hget : f.store.get id = .ok t) :
    Ensures (putTask t.flagged) f fun r f' =>
      match Fault.due f.faults.put 0 with
      | some e => r = some (.error e) ∧ f' = f.called 0 1
      | none => r = some (.ok t.flagged.bump) ∧ ∃ store,
          f.store.Replaces t t.flagged.bump store ∧
            f' = { f.called 0 1 with store, trail := .store t.flagged.bump :: f.trail } := by
  have hmeet : f.token.meet .put = (false, f.token) := by
    unfold Token.meet
    rw [hgate]
  have hkeeps : f.store.Keeps t.flagged := by
    have ht := TaskStore.keeps_of_get hsound hget
    cases hstore : f.store with
    | memory tasks => trivial
    | durable state =>
        rw [hstore] at ht
        exact { ht with }
  obtain ⟨store, hput, -, hreplaces⟩ := TaskStore.put_of_get hsound hget
    (show t.flagged.id = t.id from rfl) (show t.flagged.version = t.version from rfl) hkeeps
  unfold Ensures
  rw [put_task_run, hmeet, hput]
  unfold Fault.due called
  rcases hnext : Fault.next f.faults.put with ⟨_ | e, rest⟩
  · simp only [Fault.after, hnext]
    exact ⟨trivial, store, hreplaces, rfl⟩
  · simp [Fault.after, hnext]

/-- If the first write is refused, what lets the request through comes after it. -/
theorem later_of_lets_through {e : StoreError} (hget : f.store.get id = .ok t)
    (hopen : (t.isTerminal || t.cancelRequested) = false)
    (hput : Fault.due f.faults.put 0 = some e) (h : f.LetsThrough id (attempts + 1)) :
    (∃ key, e = .conflict key) ∧ ∃ n < attempts, (f.called 1 1).LandsAfter n := by
  obtain ⟨u, hu, ⟨-, hsettled⟩ | ⟨-, n, hn, hlands⟩⟩ := h
  · cases hget.symm.trans hu
    exact nomatch hopen.symm.trans hsettled
  · cases n with
    | zero => exact nomatch hput.symm.trans hlands.lands
    | succ n =>
        obtain ⟨-, ⟨key, hconflict⟩, hlater⟩ := lands_after_succ_iff.1 hlands
        exact ⟨⟨key, Option.some.inj (hput.symm.trans hconflict)⟩, n, by omega, hlater⟩

/-- Nothing lets a request through whose first write fails for good. -/
theorem not_lets_through {e : StoreError} (hget : f.store.get id = .ok t)
    (hopen : (t.isTerminal || t.cancelRequested) = false)
    (hput : Fault.due f.faults.put 0 = some e) (hlast : (∀ key, e ≠ .conflict key) ∨ attempts = 0) :
    ¬ f.LetsThrough id (attempts + 1) := by
  intro hlets
  obtain ⟨⟨key, hconflict⟩, n, hn, -⟩ := later_of_lets_through hget hopen hput hlets
  obtain hother | hnone := hlast
  · exact hother key hconflict
  · omega

/-- What comes of the attempts that are left after the first write was refused. -/
theorem CancelEnds.later {key : String} (hget : f.store.get id = .ok t)
    (hopen : (t.isTerminal || t.cancelRequested) = false)
    (hread : Fault.due f.faults.get 0 = none)
    (hput : Fault.due f.faults.put 0 = some (.conflict key))
    (h : CancelEnds id attempts (f.called 1 1) r f') : CancelEnds id (attempts + 1) f r f' := by
  cases h with
  | settled u hu _ hsettled =>
      cases hget.symm.trans hu
      exact nomatch hopen.symm.trans hsettled
  | lands u n store hu hu' hn hlands hreplaces hr hf' =>
      exact .lands u (n + 1) store hu hu' (by omega)
        (lands_after_succ_iff.2 ⟨hread, ⟨key, hput⟩, hlands⟩) hreplaces hr hf'
  | fails e reads writes hwrites hconflicts hnot hr hf' =>
      refine .fails e (reads + 1) (writes + 1) (by omega) (fun i hi => ?_) (fun hlets => ?_) hr hf'
      · cases i with
        | zero => exact ⟨key, hput⟩
        | succ i => exact hconflicts i (by omega)
      · obtain ⟨-, n, hn, hlands⟩ := later_of_lets_through hget hopen hput hlets
        exact hnot ⟨t, hget, .inr ⟨hopen, n, hn, hlands⟩⟩

/-- One attempt ends the request, or its write is refused because the task has changed, and there
are attempts left. -/
theorem attempt_ends (hsound : f.store.Sound) (hgate : f.token.gate = none)
    (hlater : attempts ≠ 0 → Ensures (flagCancelled id attempts) (f.called 1 1)
      (CancelEnds id attempts (f.called 1 1))) :
    Ensures (flagCancelled id (attempts + 1)) f (CancelEnds id (attempts + 1) f) := by
  unfold flagCancelled
  refine (get_task_called id hgate).bind ?_
  rintro _ _ ⟨rfl, rfl⟩
  cases hread : Fault.due f.faults.get 0 with
  | some e =>
      refine .fails e 1 0 (by omega) (fun i hi => absurd hi (Nat.not_lt_zero _)) ?_ rfl rfl
      rintro ⟨t, -, hlets⟩
      have hnone : Fault.due f.faults.get 0 = none := by
        obtain ⟨hnone, -⟩ | ⟨-, n, -, hlands⟩ := hlets
        · exact hnone
        · exact hlands.reads 0 (Nat.zero_le n)
      rw [hread] at hnone
      cases hnone
  | none =>
      cases hget : f.store.get id with
      | error e =>
          refine .fails e 1 0 (by omega) (fun i hi => absurd hi (Nat.not_lt_zero _)) ?_ rfl rfl
          rintro ⟨t, ht, -⟩
          rw [hget] at ht
          cases ht
      | ok t =>
          dsimp only
          cases hopen : t.isTerminal || t.cancelRequested with
          | true => exact .settled t hget hread hopen rfl rfl
          | false =>
              refine (put_task_called (f := f.called 1 0) hsound hgate hget).bind ?_
              intro r f₁ hput
              cases hdue : Fault.due f.faults.put 0 with
              | none =>
                  rw [show Fault.due (f.called 1 0).faults.put 0 = none from hdue] at hput
                  obtain ⟨rfl, store, hreplaces, rfl⟩ := hput
                  refine .lands t 0 store hget hopen (by omega) ⟨fun i hi => ?_,
                    fun i hi => absurd hi (Nat.not_lt_zero i), hdue⟩ hreplaces rfl rfl
                  rwa [Nat.le_zero.1 hi]
              | some e =>
                  rw [show Fault.due (f.called 1 0).faults.put 0 = some e from hdue] at hput
                  obtain ⟨rfl, rfl⟩ := hput
                  -- Only a conflict leads to another attempt, and only while there is one left.
                  have hfails (hlast : (∀ key, e ≠ .conflict key) ∨ attempts = 0) :
                      CancelEnds id (attempts + 1) f (.error e) (f.called 1 1) :=
                    .fails e 1 1 (by omega) (fun i hi => by omega)
                      (not_lets_through hget hopen hdue hlast) rfl rfl
                  cases e with
                  | notFound key => exact hfails (.inl fun _ h => StoreError.noConfusion h)
                  | unavailable cause => exact hfails (.inl fun _ h => StoreError.noConfusion h)
                  | conflict key =>
                      dsimp only
                      split
                      · rename_i hlast
                        exact hfails (.inr hlast)
                      · rename_i hleft
                        exact (hlater hleft).imp fun _ _ h => h.later hget hopen hread hdue

/-- There are no other ways in which a request for cancellation ends. -/
theorem flag_cancelled_ends (id : TaskId) (hsound : f.store.Sound) (hgate : f.token.gate = none)
    (hattempts : attempts ≠ 0) :
    Ensures (flagCancelled id attempts) f (CancelEnds id attempts f) := by
  induction attempts generalizing f with
  | zero => exact absurd rfl hattempts
  | succ attempts ih => exact attempt_ends hsound hgate (ih hsound hgate)

end Fleet

namespace Host

open Fleet

variable {h : Host} {id : TaskId}

/-- A look at the host changes nothing. -/
theorem run_get {α : Type} (k : Host → HostM α) (h : Host) :
    (get >>= k).run h = (k h).run h := rfl

/-- What is done to the fleet changes the fleet alone. -/
theorem run_on_fleet {α β : Type} (x : FleetM α) (k : α → HostM β) (h : Host) :
    (onFleet x >>= k).run h =
      (k (x.run h.fleet).1).run { h with fleet := (x.run h.fleet).2 } := rfl

/-- Somebody is at work on a task and queued for it, and what others work on is as it was. -/
structure Staffed (id : TaskId) (h h' : Host) : Prop where
  fleet : h'.fleet = h.fleet
  worker : ∃ serial, h'.AtWork id serial ∧ .worker serial ∈ h'.ready
  others : ∀ other, other ≠ id → h'.workers.find? other = h.workers.find? other

/-- A live worker that was put into the table, with its turn queued, is at work. -/
theorem staffed_insert {h h' : Host} {w : Worker} (hlive : w.live = true)
    (hready : .worker w.serial ∈ h'.ready) (hfleet : h'.fleet = h.fleet)
    (hworkers : h'.workers = h.workers.insert id w) : Staffed id h h' := by
  have hfind : h'.workers.find? id = some w := by
    rw [hworkers, Dict.find?_insert, if_pos rfl]
  refine ⟨hfleet, ⟨w.serial, ⟨w, hfind, rfl, hlive, .inl hready⟩, hready⟩, fun other hother => ?_⟩
  rw [hworkers, Dict.find?_insert, if_neg hother]

/-- A worker is started for a task that has none at work. -/
theorem hire_spec (hidle : ((h.workers.find? id).map Worker.live).getD false = false) :
    Staffed id h ((hire id).run h).2 := by
  unfold hire
  rw [run_get, hidle]
  exact staffed_insert (w := ⟨h.hired + 1, true, false⟩) rfl
    (List.mem_append_right _ List.mem_cons_self) rfl rfl

/-- Whoever is roused is at work. A worker that is live and does not sleep is queued already. -/
theorem rouse_spec (id : TaskId) (hmanned : h.Manned) : Staffed id h ((rouse id).run h).2 := by
  have hhire := @hire_spec h id
  unfold rouse
  rw [run_get]
  rcases hfind : h.workers.find? id with _ | ⟨serial, _ | _, woken⟩
  · exact hhire (by rw [hfind]; rfl)
  · exact hhire (by rw [hfind]; rfl)
  · have hwaits := hmanned.waits id ⟨serial, true, woken⟩ hfind rfl
    dsimp only
    cases hasleep : h.isAsleep (.worker serial) with
    | true =>
        have hready : .worker serial ∈ ((wake (.worker serial)).run h).2.ready :=
          List.mem_append_right _ List.mem_cons_self
        exact ⟨rfl, ⟨serial, ⟨_, hfind, rfl, rfl, .inl hready⟩, hready⟩, fun _ _ => rfl⟩
    | false =>
        obtain hready | hsleeps := hwaits
        · exact staffed_insert (w := ⟨serial, true, true⟩) rfl hready rfl rfl
        · exact nomatch hasleep.symm.trans hsleeps

/-- What a request for cancellation comes to before anyone has a turn. -/
theorem request_cancel_run (id : TaskId) (h : Host) :
    (requestCancel id).run h =
      match (Fleet.flagCancelled id 5).run h.fleet with
      | (.ok (), fleet) => (.ok (), ((rouse id).run { h with fleet }).2)
      | (.error e, fleet) => (.error (.store e), { h with fleet }) := by
  have hrun : (Fleet.requestCancel id).run h.fleet =
      (((Fleet.flagCancelled id 5).run h.fleet).1.mapError .store,
        ((Fleet.flagCancelled id 5).run h.fleet).2) := rfl
  unfold requestCancel
  rw [run_on_fleet, hrun]
  rcases (Fleet.flagCancelled id 5).run h.fleet with ⟨_ | _, f⟩
  · rfl
  · rfl

/-- What is known of a request for cancellation that was answered, before anyone has a turn. -/
structure Requested (id : TaskId) (h : Host) (r : Except LifecycleError Unit) (h' : Host) :
    Prop where
  /-- It takes five writes at most, all but the last refused because the task has changed. -/
  calls : ∃ reads writes, writes ≤ 5 ∧
    (∀ i, i + 1 < writes → ∃ key, Fault.due h.fleet.faults.put i = some (.conflict key)) ∧
    h'.fleet.faults.get = Fault.after h.fleet.faults.get reads ∧
    h'.fleet.faults.put = Fault.after h.fleet.faults.put writes
  /-- It is accepted exactly if it has found the task over or with the flag, or has written. -/
  accepted : r = .ok () ↔
    (Fault.due h.fleet.faults.get 0 = none ∧ ∃ t, h.fleet.store.get id = .ok t ∧
      (t.isTerminal = true ∨ t.cancelRequested = true)) ∨
    ∃ stored, h'.fleet.trail = .store stored :: h.fleet.trail
  /-- The faults that are due tell whether it is accepted. -/
  foretold : r = .ok () ↔ h.fleet.LetsThrough id 5
  /-- Of a task that was neither over nor had the flag the next version has it, and that is all. -/
  flagged : r = .ok () → ∀ t, h.fleet.store.get id = .ok t → t.isTerminal = false →
    t.cancelRequested = false → ∃ stored,
      stored = { t with cancelRequested := true, version := (t.version + 1) % 2 ^ 64 } ∧
      h'.fleet.store.get id = .ok stored ∧ h.fleet.store.Replaces t stored h'.fleet.store
  /-- A live worker of the task is in the queue, and goes on when its turn comes; the workers of the
  other tasks are as they were. -/
  worker : r = .ok () → (∃ serial, h'.AtWork id serial ∧ .worker serial ∈ h'.ready) ∧
    ∀ other, other ≠ id → h'.workers.find? other = h.workers.find? other
  /-- A request that fails has done nothing, to the tasks or to those who work on them. -/
  refused : ∀ e, r = .error e → h'.fleet.store = h.fleet.store ∧
    h'.fleet.trail = h.fleet.trail ∧ h' = { h with fleet := h'.fleet }

/-- Whatever the store holds and whichever reads and writes fail, a request for cancellation that is
accepted leaves the flag and a worker that has a turn coming, and one that is refused leaves
everything as it was; it takes five writes at most. That every live worker waits or sleeps at first
is what `manned_of_run` says of any host. -/
theorem requested_under_faults (id : TaskId) (hsound : h.fleet.store.Sound)
    (hgate : h.fleet.token.gate = none) (hmanned : h.Manned) :
    ∃ r h', (requestCancel id).run h = (r, h') ∧ Requested id h r h' := by
  have hends := flag_cancelled_ends id hsound hgate (show 5 ≠ 0 by decide)
  rw [request_cancel_run]
  unfold Ensures at hends
  generalize (flagCancelled id 5).run h.fleet = answer at hends
  obtain ⟨r, f'⟩ := answer
  replace hends : CancelEnds id 5 h.fleet r f' := hends
  obtain ⟨hfleet, hworker, hothers⟩ := rouse_spec id ((with_fleet_keeps f' h).manned hmanned)
  cases hends with
  | settled t hget hread hsettled hr hf' =>
      subst hr hf'
      refine ⟨_, _, rfl, ⟨1, 0, by decide, nofun, ?_, ?_⟩, ?_, ?_, ?_,
        fun _ => ⟨hworker, hothers⟩, nofun⟩
      · rw [hfleet]
        rfl
      · rw [hfleet]
        rfl
      · exact iff_of_true rfl (.inl ⟨hread, t, hget, Bool.or_eq_true_iff.1 hsettled⟩)
      · exact iff_of_true rfl ⟨t, hget, .inl ⟨hread, hsettled⟩⟩
      · intro _ u hu hlive hflag
        cases hget.symm.trans hu
        rw [hlive, hflag] at hsettled
        exact nomatch hsettled
  | lands t n store hget hopen hn hlands hreplaces hr hf' =>
      subst hr hf'
      refine ⟨_, _, rfl, ⟨n + 1, n + 1, hn, fun i hi => hlands.conflicts i (by omega), ?_, ?_⟩, ?_,
        ?_, ?_, fun _ => ⟨hworker, hothers⟩, nofun⟩
      · rw [hfleet]
        rfl
      · rw [hfleet]
        rfl
      · exact iff_of_true rfl (.inr ⟨t.flagged.bump, by rw [hfleet]⟩)
      · exact iff_of_true rfl ⟨t, hget, .inr ⟨hopen, n, hn, hlands⟩⟩
      · intro _ u hu hlive hflag
        cases hget.symm.trans hu
        rw [hfleet]
        exact ⟨t.flagged.bump, rfl, hreplaces.found id hget, hreplaces⟩
  | fails e reads writes hwrites hconflicts hnot hr hf' =>
      subst hr hf'
      refine ⟨_, _, rfl, ⟨reads, writes, hwrites, hconflicts, rfl, rfl⟩, iff_of_false nofun ?_,
        iff_of_false nofun hnot, nofun, nofun, fun _ _ => ⟨rfl, rfl, rfl⟩⟩
      rintro (⟨hread, t, hget, hsettled⟩ | ⟨stored, htrail⟩)
      · exact hnot ⟨t, hget, .inl ⟨hread, Bool.or_eq_true_iff.2 hsettled⟩⟩
      · exact List.cons_ne_self _ _ htrail.symm

/-- A host whose next writes are refused, so many of them. -/
def contested (refusals : Nat) : Host where
  fleet := { submitted with
    faults.put := List.replicate refusals ⟨0, .conflict halfProcessor.id.key⟩ }

/-- With four conflicts ahead the fifth write lands, and the task has a worker at work. -/
theorem requested_under_faults_contested :
    (∃ h', (requestCancel halfProcessor.id).run (contested 4) = (.ok (), h') ∧
      h'.fleet.store.get halfProcessor.id =
        .ok { halfProcessor with cancelRequested := true, version := 2 } ∧
      ∃ serial, h'.AtWork halfProcessor.id serial ∧ .worker serial ∈ h'.ready) ∧
    ∃ e h', (requestCancel halfProcessor.id).run (contested 5) = (.error e, h') ∧
      h'.fleet.store = submitted.store ∧ h' = { contested 5 with fleet := h'.fleet } := by
  have hproper : Proper False submitted := proper_submitted
  have hsound := hproper.sound
  have hreads (i : Nat) : Fault.due ([] : List (Fault StoreError)) i = none := by
    induction i with
    | zero => rfl
    | succ i ih => exact ih
  refine ⟨?_, ?_⟩
  · obtain ⟨r, h', hrun, hrequested⟩ :=
      requested_under_faults (h := contested 4) halfProcessor.id hsound rfl (manned_of_empty rfl)
    have hconflicts : ∀ i < 4, Fault.due (contested 4).fleet.faults.put i =
        some (.conflict halfProcessor.id.key) := by decide
    have hlands : (contested 4).fleet.LandsAfter 4 :=
      ⟨fun i _ => hreads i, fun i hi => ⟨_, hconflicts i hi⟩, by decide⟩
    have hok : r = .ok () :=
      hrequested.foretold.2 ⟨halfProcessor.bump, rfl, .inr ⟨rfl, 4, by decide, hlands⟩⟩
    subst hok
    obtain ⟨stored, rfl, hget, -⟩ := hrequested.flagged rfl halfProcessor.bump rfl rfl rfl
    exact ⟨h', hrun, hget, (hrequested.worker rfl).1⟩
  · obtain ⟨r, h', hrun, hrequested⟩ :=
      requested_under_faults (h := contested 5) halfProcessor.id hsound rfl (manned_of_empty rfl)
    have hrefused : ∀ i < 5, Fault.due (contested 5).fleet.faults.put i ≠ none := by decide
    have hnot : ¬ (contested 5).fleet.LetsThrough halfProcessor.id 5 := by
      rintro ⟨t, hget, ⟨-, hsettled⟩ | ⟨-, n, hn, hlands⟩⟩
      · cases (show halfProcessor.bump = t from Except.ok.inj hget)
        exact nomatch hsettled
      · exact hrefused n hn hlands.lands
    cases r with
    | ok _ => exact absurd (hrequested.foretold.1 rfl) hnot
    | error e =>
        obtain ⟨hstore, -, hsame⟩ := hrequested.refused e rfl
        exact ⟨e, h', hrun, hstore, hsame⟩

end Host

end TaskFleet
