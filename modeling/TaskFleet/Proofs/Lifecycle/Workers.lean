import TaskFleet.Proofs.Lifecycle.Outcomes

/-!
# Workers

A worker whose work is not over waits for its turn, or it sleeps until its time has come. `Manned`
says so of all workers of a host, and that each of them has a number of its own, for by that number
they are queued and woken. Nothing that happens to a host takes this away (`manned_of_run`), so a
worker that is said to be live is one that will go on (`at_work_of_run`).
-/

namespace TaskFleet.Host

open Relation (ReflTransGen)

/-- The worker of a number has its turn to come. -/
def Waits (h : Host) (serial : Nat) : Prop :=
  .worker serial ∈ h.ready ∨ h.isAsleep (.worker serial) = true

/-- A host whose workers have numbers of their own, all of them given out already. -/
structure Numbered (h : Host) : Prop where
  apart : ∀ id other w w', h.workers.find? id = some w → h.workers.find? other = some w' →
    w.serial = w'.serial → id = other
  given : ∀ id w, h.workers.find? id = some w → w.serial ≤ h.hired

/-- A host whose workers all have their turn to come, unless their work is over. -/
structure Manned (h : Host) : Prop extends Numbered h where
  waits : ∀ id w, h.workers.find? id = some w → w.live = true → h.Waits w.serial

/-- A host before and after something that leaves the workers as they are, and whoever waits. -/
structure Keeps (h h' : Host) : Prop where
  workers : h'.workers = h.workers
  hired : h'.hired = h.hired
  waits : ∀ serial, h.Waits serial → h'.Waits serial

section Queue

variable {α : Type} {h h' : Host} {id : TaskId} {w : Worker} {a : Actor} {serial : Nat}

/-- Somebody is asleep if there is a sleeper of that name. -/
theorem is_asleep_iff : h.isAsleep a = true ↔ ∃ s ∈ h.sleepers, s.actor = a := by
  simp [isAsleep]

/-- A host without workers is manned. -/
theorem manned_of_empty (hworkers : h.workers = .empty) : h.Manned := by
  have hnone {id : TaskId} {w : Worker} (hfind : h.workers.find? id = some w) : False := by
    rw [hworkers] at hfind
    exact nomatch hfind
  exact ⟨⟨fun _ _ _ _ hfind => (hnone hfind).elim, fun _ _ hfind => (hnone hfind).elim⟩,
    fun _ _ hfind => (hnone hfind).elim⟩

/-- What leaves the workers alone may be done after something that does. -/
theorem Keeps.trans {h'' : Host} (hk : h.Keeps h') (hk' : h'.Keeps h'') : h.Keeps h'' :=
  ⟨hk'.workers.trans hk.workers, hk'.hired.trans hk.hired,
    fun serial hwaits => hk'.waits serial (hk.waits serial hwaits)⟩

/-- Workers that are left alone keep their numbers. -/
theorem Keeps.numbered (hk : h.Keeps h') (hn : h.Numbered) : h'.Numbered := by
  refine ⟨?_, ?_⟩
  · rw [hk.workers]
    exact hn.apart
  · rw [hk.workers, hk.hired]
    exact hn.given

/-- Workers that are left alone still have their turn to come. -/
theorem Keeps.manned (hk : h.Keeps h') (hm : h.Manned) : h'.Manned := by
  refine ⟨hk.numbered hm.toNumbered, ?_⟩
  rw [hk.workers]
  exact fun id w hfind hlive => hk.waits w.serial (hm.waits id w hfind hlive)

/-- Nobody leaves the queue, and nobody is woken. -/
theorem keeps_of_queue (hworkers : h'.workers = h.workers) (hhired : h'.hired = h.hired)
    (hready : ∀ a ∈ h.ready, a ∈ h'.ready) (hsleepers : ∀ s ∈ h.sleepers, s ∈ h'.sleepers) :
    h.Keeps h' where
  workers := hworkers
  hired := hhired
  waits := by
    rintro serial (hready' | hasleep)
    · exact .inl (hready _ hready')
    · obtain ⟨s, hs, hactor⟩ := is_asleep_iff.1 hasleep
      exact .inr (is_asleep_iff.2 ⟨s, hsleepers s hs, hactor⟩)

/-- What becomes of the fleet is nothing to the workers. -/
theorem with_fleet_keeps (fleet : Fleet) (h : Host) : h.Keeps { h with fleet } :=
  keeps_of_queue rfl rfl (fun _ ha => ha) fun _ hs => hs

/-- One more turn in the queue is nothing to the workers. -/
theorem enqueue_keeps (a : Actor) (h : Host) : h.Keeps ((enqueue a).run h).2 :=
  keeps_of_queue rfl rfl (fun _ ha => List.mem_append_left _ ha) fun _ hs => hs

/-- A turn that goes on at once is nothing to the workers. -/
theorem go_on_keeps (a : Actor) (h : Host) : h.Keeps ((goOn a).run h).2 :=
  keeps_of_queue rfl rfl (fun _ ha => List.mem_cons_of_mem _ ha) fun _ hs => hs

/-- Whoever goes to sleep has its turn to come, and so has everyone who had. -/
theorem sleep_spec (serial : Nat) (d : Duration) (h : Host) :
    h.Keeps ((sleep (.worker serial) d).run h).2 ∧
      ((sleep (.worker serial) d).run h).2.Waits serial := by
  unfold sleep
  split
  · exact ⟨go_on_keeps _ h, .inl List.mem_cons_self⟩
  · refine ⟨keeps_of_queue rfl rfl (fun _ ha => ha) fun _ hs => List.mem_append_left _ hs,
      .inr (is_asleep_iff.2 ⟨_, List.mem_append_right _ List.mem_cons_self, rfl⟩)⟩

/-- Nobody loses a turn by somebody else falling asleep. -/
theorem sleep_keeps (a : Actor) (d : Duration) (h : Host) : h.Keeps ((sleep a d).run h).2 := by
  unfold sleep
  split
  · exact go_on_keeps a h
  · exact keeps_of_queue rfl rfl (fun _ ha => ha) fun _ hs => List.mem_append_left _ hs

/-- Whoever is woken leaves the sleepers for the queue. -/
theorem wake_keeps (a : Actor) (h : Host) : h.Keeps ((wake a).run h).2 where
  workers := rfl
  hired := rfl
  waits := by
    rintro serial (hready | hasleep)
    · exact .inl (List.mem_append_left _ hready)
    · obtain ⟨s, hs, hactor⟩ := is_asleep_iff.1 hasleep
      by_cases hsame : s.actor = a
      · have hlast : a ∈ h.ready ++ [a] := List.mem_append_right _ List.mem_cons_self
        rw [← hsame, hactor] at hlast
        rw [← hsame, hactor]
        exact .inl hlast
      · refine .inr (is_asleep_iff.2 ⟨s, List.mem_filter.2 ⟨hs, ?_⟩, hactor⟩)
        simpa using hsame

/-- Whoever is dismissed is not a worker of another number. -/
theorem dismiss_waits (hother : a ≠ .worker serial) (hwaits : h.Waits serial) :
    ((dismiss a).run h).2.Waits serial := by
  obtain hready | hasleep := hwaits
  · refine .inl (List.mem_filter.2 ⟨hready, ?_⟩)
    simpa using Ne.symm hother
  · obtain ⟨s, hs, hactor⟩ := is_asleep_iff.1 hasleep
    refine .inr (is_asleep_iff.2 ⟨s, List.mem_filter.2 ⟨hs, ?_⟩, hactor⟩)
    rw [hactor]
    simpa using Ne.symm hother

/-- Nobody loses a turn when somebody who is no worker is dismissed. -/
theorem dismiss_keeps (hother : ∀ serial, a ≠ .worker serial) :
    h.Keeps ((dismiss a).run h).2 :=
  ⟨rfl, rfl, fun serial hwaits => dismiss_waits (hother serial) hwaits⟩

/-- A worker is put in place of one of the same number, or has a new one. -/
theorem Numbered.insert (hn : h.Numbered) (hworkers : h'.workers = h.workers.insert id w)
    (hhired : h.hired ≤ h'.hired) (hgiven : w.serial ≤ h'.hired)
    (hown : ∀ other w', other ≠ id → h.workers.find? other = some w' → w'.serial ≠ w.serial) :
    h'.Numbered := by
  refine ⟨?_, ?_⟩
  · intro first second u v hu hv hsame
    rw [hworkers, Dict.find?_insert] at hu hv
    by_cases hfirst : first = id
    · by_cases hsecond : second = id
      · exact hfirst.trans hsecond.symm
      · rw [if_pos hfirst] at hu
        rw [if_neg hsecond] at hv
        cases hu
        exact absurd hsame.symm (hown second v hsecond hv)
    · rw [if_neg hfirst] at hu
      by_cases hsecond : second = id
      · rw [if_pos hsecond] at hv
        cases hv
        exact absurd hsame (hown first u hfirst hu)
      · rw [if_neg hsecond] at hv
        exact hn.apart first second u v hu hv hsame
  · intro other u hu
    rw [hworkers, Dict.find?_insert] at hu
    by_cases hother : other = id
    · rw [if_pos hother] at hu
      cases hu
      exact hgiven
    · rw [if_neg hother] at hu
      exact Nat.le_trans (hn.given other u hu) hhired

/-- What becomes of one worker is nothing to the others. -/
theorem Numbered.set_worker {w' : Worker} (hn : h.Numbered) (hfind : h.workers.find? id = some w)
    (hworkers : h'.workers = h.workers.insert id w') (hserial : w'.serial = w.serial)
    (hhired : h'.hired = h.hired)
    (hothers : ∀ other u, other ≠ id → h.workers.find? other = some u → u.live = true →
      h'.Waits u.serial)
    (hown : w'.live = true → h'.Waits w'.serial) : h'.Manned := by
  refine ⟨hn.insert hworkers (Nat.le_of_eq hhired.symm) ?_ ?_, ?_⟩
  · rw [hserial, hhired]
    exact hn.given id w hfind
  · intro other u hother hu hsame
    exact hother (hn.apart other id u w hu hfind (hsame.trans hserial))
  · intro other u hu hlive
    rw [hworkers, Dict.find?_insert] at hu
    by_cases hother : other = id
    · rw [if_pos hother] at hu
      cases hu
      exact hown hlive
    · rw [if_neg hother] at hu
      exact hothers other u hother hu hlive

end Queue

section Turns

variable {α β : Type} {h : Host} {id : TaskId}

/-- A computation after which every host is manned that was so before. -/
def Mans (x : HostM α) : Prop :=
  ∀ h : Host, h.Manned → (x.run h).2.Manned

/-- What leaves the workers alone keeps a host manned. -/
theorem mans_of_keeps {x : HostM α} (hx : ∀ h : Host, h.Keeps (x.run h).2) : Mans x :=
  fun h hm => (hx h).manned hm

/-- What keeps a host manned may be done one after the other. -/
theorem Mans.bind {x : HostM α} {g : α → HostM β} (hx : Mans x) (hg : ∀ a, Mans (g a)) :
    Mans (x >>= g) :=
  fun h hm => hg (x.run h).1 (x.run h).2 (hx h hm)

/-- Giving an answer keeps a host manned. -/
theorem mans_pure (a : α) : Mans (pure a : HostM α) := fun _ hm => hm

/-- What is done may depend on the host as it is. -/
theorem manned_get {g : Host → HostM α} (hg : ((g h).run h).2.Manned) :
    ((get >>= g).run h).2.Manned := hg

/-- What is done after a look at the host need keep only a manned host manned. -/
theorem mans_get {g : Host → HostM α}
    (hg : ∀ h : Host, h.Manned → ((g h).run h).2.Manned) : Mans (get >>= g) :=
  fun h hm => manned_get (hg h hm)

/-- What keeps a host manned may be done for each member of a list. -/
theorem mans_for {l : List α} {x : α → HostM PUnit} (hx : ∀ a, Mans (x a)) : Mans (l.forM x) := by
  induction l with
  | nil => exact mans_pure _
  | cons a rest ih => exact (hx a).bind fun _ => ih

/-- What keeps a host manned may be done along a list, with what it answers handed on. -/
theorem mans_fold {l : List α} {x : β → α → HostM β} (hx : ∀ b a, Mans (x b a)) (b : β) :
    Mans (l.foldlM x b) := by
  induction l generalizing b with
  | nil => exact mans_pure b
  | cons a rest ih =>
      rw [List.foldlM_cons]
      exact (hx b a).bind ih

/-- Nothing that happens to the fleet is anything to the workers. -/
theorem on_fleet_mans (x : FleetM α) : Mans (onFleet x) :=
  mans_of_keeps fun h => with_fleet_keeps (x.run h.fleet).2 h

/-- A new worker has the next number, and is queued. -/
theorem hire_mans (id : TaskId) : Mans (hire id) := by
  refine mans_get fun h hm => ?_
  split
  · exact hm
  · have hnew (w : Worker) (other : TaskId) (hfind : h.workers.find? other = some w) :
        w.serial ≠ h.hired + 1 := Nat.ne_of_lt (Nat.lt_succ_of_le (hm.given other w hfind))
    refine ⟨hm.toNumbered.insert (w := ⟨h.hired + 1, true, false⟩) rfl (Nat.le_succ _) le_rfl
      fun other w' _ hfind => hnew w' other hfind, ?_⟩
    intro other w hfind hlive
    have hfind' : (if other = id then some ⟨h.hired + 1, true, false⟩
        else h.workers.find? other) = some w := (Dict.find?_insert ..).symm.trans hfind
    split at hfind'
    · cases hfind'
      exact .inl (List.mem_append_right _ List.mem_cons_self)
    · exact (enqueue_keeps _ h).waits w.serial (hm.waits other w hfind' hlive)

/-- Whoever is roused has its turn to come as before, or is new. -/
theorem rouse_mans (id : TaskId) : Mans (rouse id) := by
  refine mans_get fun h hm => ?_
  have hhire := hire_mans id h hm
  rcases hfind : h.workers.find? id with _ | ⟨serial, _ | _, woken⟩
  · exact hhire
  · exact hhire
  · dsimp only
    cases h.isAsleep (.worker serial) with
    | true => exact (wake_keeps _ h).manned hm
    | false =>
        exact hm.toNumbered.set_worker hfind rfl rfl rfl
          (fun other u _ hu hlive => hm.waits other u hu hlive)
          fun _ => hm.waits id ⟨serial, true, woken⟩ hfind rfl

/-- A request to cancel a task wakes its worker, or hires one. -/
theorem request_cancel_mans (id : TaskId) : Mans (requestCancel id) := by
  refine (on_fleet_mans _).bind fun r => ?_
  cases r with
  | error e => exact mans_pure _
  | ok => exact (rouse_mans id).bind fun _ => mans_pure _

/-- A worker is forgotten only when its work is over. -/
theorem prune_mans : Mans prune := by
  refine mans_get fun h hm => ?_
  have hstill (id : TaskId) (w : Worker)
      (hfind : (h.workers.filter fun _ w => w.live).find? id = some w) :
      h.workers.find? id = some w := by
    have hmem := Dict.mem_entries_iff.2 hfind
    exact Dict.mem_entries_iff.1 (List.mem_filter.1 hmem).1
  exact ⟨⟨fun id other w w' hw hw' => hm.apart id other w w' (hstill id w hw) (hstill other w' hw'),
    fun id w hw => hm.given id w (hstill id w hw)⟩,
    fun id w hw hlive => hm.waits id w (hstill id w hw) hlive⟩

/-- A request for a resync is delivered to no worker. -/
theorem deliver_signal_mans : Mans deliverSignal := by
  refine mans_get fun h hm => ?_
  split
  · exact (wake_keeps .resync _).manned ((with_fleet_keeps _ h).manned hm)
  · exact hm

/-- The turn of the resync loop is nothing to the workers. -/
theorem resync_turn_mans (settings : ResyncSettings) : Mans (resyncTurn settings) := by
  refine (on_fleet_mans _).bind fun _ => (on_fleet_mans _).bind fun asked => ?_
  have hsleep : Mans (sleep .resync settings.interval) := mans_of_keeps (sleep_keeps _ _)
  cases asked with
  | true => exact (on_fleet_mans _).bind fun _ => hsleep
  | false => exact hsleep

/-- The turn of the spool watch hires workers and wakes them. -/
theorem scan_turn_mans (s : SpoolWatch) : Mans (scanTurn s) := by
  have hrest : Mans (do let _ ← prune; sleep .scan s.interval) :=
    prune_mans.bind fun _ => mans_of_keeps (sleep_keeps _ _)
  have himport (d : Directory) : Mans (importManifests d) := by
    refine mans_get fun h hm => ?_
    exact (on_fleet_mans _).bind (fun _ => (mans_for hire_mans).bind fun _ => mans_pure _) h hm
  have hmarkers (d : Directory) : Mans (applyCancelMarkers d) := by
    unfold applyCancelMarkers
    rcases Spool.cancelRequests d with ⟨d', requests⟩
    refine mans_fold (fun d e => ?_) d'
    rcases e with ⟨marker, id⟩
    refine (request_cancel_mans id).bind fun r => ?_
    cases r with
    | ok | error e => exact mans_pure _
  unfold scanTurn
  split
  · rename_i d _
    refine (himport d).bind fun d => (hmarkers d).bind fun d => ?_
    have hset : Mans (setDirectory d) := mans_of_keeps fun h =>
      keeps_of_queue rfl rfl (fun _ ha => ha) fun _ hs => hs
    exact hset.bind fun _ => hrest
  · exact hrest

/-- A worker's turn. The others have theirs to come, and so has it afterwards, unless its work is
over. -/
theorem worker_turn_manned {w : Worker} (hn : h.Numbered) (hfind : h.workers.find? id = some w)
    (hothers : ∀ other u, other ≠ id → h.workers.find? other = some u → u.live = true →
      h.Waits u.serial) : ((workerTurn id w).run h).2.Manned := by
  have hover (h' : Host) (hk : h.Keeps h') :
      ((setWorker id { w with live := false }).run h').2.Manned := by
    have hfind' : h'.workers.find? id = some w := hk.workers ▸ hfind
    have hset : ((setWorker id { w with live := false }).run h').2.workers =
        h'.workers.insert id { w with live := false } := rfl
    refine (hk.numbered hn).set_worker hfind' hset rfl rfl (fun other u hother hu hlive => ?_) nofun
    rw [hk.workers] at hu
    exact hk.waits u.serial (hothers other u hother hu hlive)
  cases hstopped : h.stopped with
  | true =>
      have hrun : (workerTurn id w).run h = (setWorker id { w with live := false }).run h := by
        unfold workerTurn
        rw [StateT.run_bind]
        show StateT.run (if h.stopped = true then _ else _) h = _
        rw [if_pos hstopped]
      rw [hrun]
      exact hover h (keeps_of_queue rfl rfl (fun _ ha => ha) fun _ hs => hs)
  | false =>
      have hpassed : h.Keeps { h with fleet := ((Fleet.reconcile id).run h.fleet).2 } :=
        with_fleet_keeps _ h
      rw [Fleet.worker_turn_run hstopped]
      dsimp only
      cases ((Fleet.reconcile id).run h.fleet).1 with
      | done | interrupted => exact hover _ hpassed
      | requeue d =>
          dsimp only
          cases w.woken with
          | true =>
              exact hn.set_worker hfind rfl rfl rfl
                (fun other u hother hu hlive => (go_on_keeps _ h).waits u.serial
                  (hothers other u hother hu hlive)) fun _ => .inl List.mem_cons_self
          | false =>
              obtain ⟨hk, hwaits⟩ := sleep_spec w.serial d
                { h with fleet := ((Fleet.reconcile id).run h.fleet).2 }
              have hk' := hpassed.trans hk
              refine ⟨hk'.numbered hn, fun other u hu hlive => ?_⟩
              rw [if_neg Bool.false_ne_true] at hu ⊢
              rw [hk'.workers] at hu
              by_cases hother : other = id
              · subst hother
                cases hfind.symm.trans hu
                exact hwaits
              · exact hk'.waits u.serial (hothers other u hother hu hlive)

/-- Whoever has a turn has left the queue for it; everyone else is still there. -/
theorem turn_manned {a : Actor} (hn : h.Numbered)
    (hothers : ∀ other u, h.workers.find? other = some u → u.live = true → a ≠ .worker u.serial →
      h.Waits u.serial) : ((turn a).run h).2.Manned := by
  have hmanned (hnone : ∀ serial, a ≠ .worker serial) : h.Manned :=
    ⟨hn, fun other u hu hlive => hothers other u hu hlive (hnone u.serial)⟩
  refine manned_get ?_
  cases a with
  | execution handle status => exact on_fleet_mans _ h (hmanned nofun)
  | resync =>
      dsimp only
      cases h.resyncLoop with
      | none => exact hmanned nofun
      | some settings => exact resync_turn_mans settings h (hmanned nofun)
  | scan =>
      dsimp only
      cases h.spool with
      | none => exact hmanned nofun
      | some s => exact scan_turn_mans s h (hmanned nofun)
  | worker serial =>
      dsimp only
      cases hfound : h.workerOf? serial with
      | none =>
          -- Nobody has this number any more.
          refine ⟨hn, fun other u hu hlive => hothers other u hu hlive ?_⟩
          rintro ⟨⟩
          have hnot := List.find?_eq_none.1 hfound (other, u) (Dict.mem_entries_iff.2 hu)
          simp at hnot
      | some e =>
          obtain ⟨id, w⟩ := e
          have hserial : w.serial = serial := by simpa using List.find?_some hfound
          have hfind : h.workers.find? id = some w :=
            Dict.mem_entries_iff.1 (List.mem_of_find?_eq_some hfound)
          have hrest (other : TaskId) (u : Worker) (hother : other ≠ id)
              (hu : h.workers.find? other = some u) (hlive : u.live = true) :
              h.Waits u.serial := by
            refine hothers other u hu hlive ?_
            rintro ⟨⟩
            exact hother (hn.apart other id u w hu hfind hserial.symm)
          dsimp only
          cases hlive : w.live with
          | true => exact worker_turn_manned hn hfind hrest
          | false =>
              refine ⟨hn, fun other u hu hlive' => ?_⟩
              by_cases hother : other = id
              · subst hother
                cases hfind.symm.trans hu
                exact nomatch hlive.symm.trans hlive'
              · exact hrest other u hother hu hlive'

/-- The news of executions are queued behind the workers. -/
theorem enqueue_executions_mans : Mans enqueueExecutions := by
  refine mans_get fun h hm => ?_
  have hcleared : Host.Manned { h with fleet.substrate.waiting := [] } :=
    (with_fleet_keeps _ h).manned hm
  exact mans_for (fun e => mans_of_keeps (enqueue_keeps _)) _ hcleared

/-- Turns are given one after the other, and each keeps the host manned. -/
theorem settle_within_mans (turns : Nat) : Mans (settleWithin turns) := by
  induction turns with
  | zero => exact mans_pure _
  | succ turns ih =>
      refine deliver_signal_mans.bind fun _ => mans_get fun h hm => ?_
      split
      · exact hm
      · rename_i a rest hready
        have hturn : ((turn a).run { h with ready := rest }).2.Manned := by
          refine turn_manned ⟨hm.apart, hm.given⟩ fun other u hu hlive hother => ?_
          obtain hqueued | hasleep := hm.waits other u hu hlive
          · rw [hready] at hqueued
            obtain hfirst | hlater := List.mem_cons.1 hqueued
            · exact absurd hfirst.symm hother
            · exact .inl hlater
          · exact .inr hasleep
        exact enqueue_executions_mans.bind (fun _ => ih) _ hturn

/-- Giving turns until everyone sleeps keeps the host manned. -/
theorem settle_mans : Mans settle := settle_within_mans maxTurns

/-- Whoever is woken because its time has come is queued. -/
theorem pass_until_mans (target steps : Nat) : Mans (passUntil target steps) := by
  have hclock (elapsed : Nat) (h : Host) (hm : h.Manned) :
      Host.Manned { h with fleet.clock.elapsed := elapsed } :=
    (with_fleet_keeps _ h).manned hm
  induction steps with
  | zero => exact fun h hm => hclock target h hm
  | succ steps ih =>
      refine mans_get fun h hm => ?_
      split
      · exact hclock target h hm
      · rename_i due _
        split
        · exact hclock target h hm
        · refine settle_mans.bind (fun _ => ih) _ ?_
          refine Keeps.manned (h := h) ⟨rfl, rfl, ?_⟩ hm
          rintro serial (hready | hasleep)
          · exact .inl (List.mem_append_left _ hready)
          · obtain ⟨s, hs, hactor⟩ := is_asleep_iff.1 hasleep
            by_cases hdue : s.due = due
            · have hwoken : s ∈ (h.sleepers.partition fun s => decide (s.due = due)).1 := by
                rw [List.partition_eq_filter_filter]
                exact List.mem_filter.2 ⟨hs, decide_eq_true hdue⟩
              exact .inl (List.mem_append_right _ (List.mem_map.2 ⟨s, hwoken, hactor⟩))
            · have hstill : s ∈ (h.sleepers.partition fun s => decide (s.due = due)).2 := by
                rw [List.partition_eq_filter_filter]
                exact List.mem_filter.2 ⟨hs, by simpa using hdue⟩
              exact .inr (is_asleep_iff.2 ⟨s, hstill, hactor⟩)

/-- The passing of time keeps the host manned. -/
theorem advance_mans (ms : Nat) : Mans (advance ms) :=
  settle_mans.bind fun _ => mans_get fun h hm => pass_until_mans (h.elapsed + ms) (ms + 1) h hm

/-- A request to cancel a task, with all the turns that follow, keeps the host manned. -/
theorem cancel_mans (id : TaskId) : Mans (cancel id) :=
  (request_cancel_mans id).bind fun _ => settle_mans.bind fun _ => mans_pure _

/-- A worker that is dismissed is forgotten, and the others have other numbers. -/
theorem untrack_mans (id : TaskId) : Mans (untrack id) := by
  refine mans_get fun h hm => ?_
  split
  · rename_i w hfind
    refine settle_mans _ ?_
    have hstill (other : TaskId) (u : Worker)
        (hu : (h.workers.erase id).find? other = some u) :
        other ≠ id ∧ h.workers.find? other = some u := by
      rw [Dict.find?_erase] at hu
      split at hu
      · exact nomatch hu
      · exact ⟨‹_›, hu⟩
    refine ⟨⟨fun first second u v hu hv => hm.apart first second u v (hstill first u hu).2
      (hstill second v hv).2, fun other u hu => hm.given other u (hstill other u hu).2⟩, ?_⟩
    intro other u hu hlive
    obtain ⟨hother, hu⟩ := hstill other u hu
    refine dismiss_waits (h := { h with workers := h.workers.erase id }) ?_
      (hm.waits other u hu hlive)
    intro hsame
    exact hother (hm.apart other id u w hu hfind (Actor.worker.inj hsame).symm)
  · exact settle_mans h hm

/-- After a shutdown there are no workers. -/
theorem shutdown_mans : Mans shutdown := by
  refine mans_get fun h hm => manned_of_empty ?_
  have hdismissed (l : List Worker) (h' : Host) (hnone : h'.workers = .empty) :
      ((l.forM fun w => dismiss (.worker w.serial)).run h').2.workers = .empty := by
    induction l generalizing h' with
    | nil => exact hnone
    | cons w rest ih => exact ih _ hnone
  exact hdismissed _ _ rfl

/-- The resync loop is started without a change to the workers. -/
theorem start_resync_loop_mans (settings : ResyncSettings) : Mans (startResyncLoop settings) := by
  refine Mans.bind (mans_of_keeps fun h => dismiss_keeps nofun) fun _ => ?_
  refine Mans.bind (mans_of_keeps fun h => ?_) fun _ =>
    (mans_of_keeps (enqueue_keeps _)).bind fun _ => settle_mans
  exact keeps_of_queue rfl rfl (fun _ ha => ha) fun _ hs => hs

/-- The resync loop is stopped without a change to the workers. -/
theorem stop_resync_loop_mans : Mans stopResyncLoop := by
  refine Mans.bind (mans_of_keeps fun h => ?_) fun _ =>
    mans_of_keeps fun h => dismiss_keeps nofun
  exact keeps_of_queue rfl rfl (fun _ ha => ha) fun _ hs => hs

end Turns

/-- One operation on a host. Between the operations everything may change but the workers and whoever
waits. -/
inductive Operation (h : Host) : Host → Prop where
  | hire (id : TaskId) : Operation h ((hire id).run h).2
  | track (id : TaskId) : Operation h ((track id).run h).2
  | untrack (id : TaskId) : Operation h ((untrack id).run h).2
  | cancel (id : TaskId) : Operation h ((cancel id).run h).2
  | prune : Operation h (prune.run h).2
  | advance (ms : Nat) : Operation h ((advance ms).run h).2
  | shutdown : Operation h (shutdown.run h).2
  | startResyncLoop (settings : ResyncSettings) : Operation h ((startResyncLoop settings).run h).2
  | stopResyncLoop : Operation h (stopResyncLoop.run h).2
  | turn (h' : Host) (hkeeps : h.Keeps h') : Operation h h'

/-- A host that starts without workers is manned in all that follows: every worker whose work is not
over waits for its turn or sleeps until it comes. -/
theorem manned_of_run {start h : Host} (hworkers : start.workers = .empty)
    (hrun : ReflTransGen Operation start h) : h.Manned := by
  induction hrun with
  | refl => exact manned_of_empty hworkers
  | tail _ hoperation ih =>
      cases hoperation with
      | hire id => exact hire_mans id _ ih
      | track id => exact (hire_mans id).bind (fun _ => settle_mans) _ ih
      | untrack id => exact untrack_mans id _ ih
      | cancel id => exact cancel_mans id _ ih
      | prune => exact prune_mans _ ih
      | advance ms => exact advance_mans ms _ ih
      | shutdown => exact shutdown_mans _ ih
      | startResyncLoop settings => exact start_resync_loop_mans settings _ ih
      | stopResyncLoop => exact stop_resync_loop_mans _ ih
      | turn _ hkeeps => exact hkeeps.manned ih

/-- Whoever is said to be live in such a run is at work. -/
theorem at_work_of_run {start h : Host} {id : TaskId} {w : Worker}
    (hworkers : start.workers = .empty) (hrun : ReflTransGen Operation start h)
    (hfind : h.workers.find? id = some w) (hlive : w.live = true) : h.AtWork id w.serial :=
  ⟨w, hfind, rfl, hlive, (manned_of_run hworkers hrun).waits id w hfind hlive⟩

end TaskFleet.Host
