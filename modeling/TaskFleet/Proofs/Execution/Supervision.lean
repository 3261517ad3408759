import Mathlib.Logic.Relation
import TaskFleet.Execution.Supervisor

/-!
# What supervision comes to

A job under supervision goes from event to event, and once it has been started it can be cancelled
between two of them (`Watch.Next`). `Watched` says for each stage what is known there of the
attempts so far, and every event keeps it. So whatever the attempts do and however long they take, a
job ends, and how it has ended is told by its last attempt, the deadline and the cancellation:
`supervised_of_run`. This needs the clock of the machine to be able to count up to the end of the
job's time, from what it shows when the job is submitted. If it cannot, the job is never started and
never ends (`waiting_of_run`).
-/

namespace TaskFleet

open Relation (ReflTransGen)
open Text (max32 max64)

namespace Job

/-- A time at which neither the job's time is over nor the job was cancelled. -/
structure InTime (j : Job) (cancelledAt : Option Nat) (time : Nat) : Prop where
  deadline : ∀ deadline, j.deadline? = some deadline → time < deadline
  cancelled : ∀ cancelled, cancelledAt = some cancelled → time < cancelled

/-- A cancellation leaves in time what came before it. -/
theorem InTime.before {j : Job} {time cancelled : Nat} (h : j.InTime none time)
    (hbefore : time < cancelled) : j.InTime (some cancelled) time :=
  ⟨h.deadline, fun _ hcancelled => Option.some.inj hcancelled ▸ hbefore⟩

/-- An attempt that was started ends by itself at a time, if nothing ends it before. -/
def EndsAt (j : Job) (start : Start) (time : Nat) (ending : Ending) : Prop :=
  ∃ a length, j.attempts start.number = .ok a ∧ a.length = some length ∧ a.ending = ending ∧
    time = start.time + length.nanos

/-- Every attempt that can be started ends by itself. -/
def Finite (j : Job) : Prop :=
  ∀ number a, j.attempts number = .ok a → a.length.isSome = true

/-- Attempts one after the other, the latest first: each but the first is started when the one
before has failed and the job has rested. -/
inductive Follow (j : Job) : List Start → Prop where
  | first : Follow j [⟨1, 0⟩]
  | again {last : Start} {earlier : List Start} {time : Nat} {ending : Ending}
      (h : Follow j (last :: earlier)) (hends : j.EndsAt last time ending)
      (hfailed : ending ≠ .exited 0) :
      Follow j (⟨last.number + 1, time + j.retry.backoff.nanos⟩ :: last :: earlier)

variable {j : Job} {start last : Start} {earlier : List Start} {time : Nat} {ending : Ending}

/-- Attempts are numbered in the order in which they are started. -/
theorem Follow.number_eq {starts : List Start} (h : Follow j starts) :
    ∀ last ∈ starts.head?, last.number = starts.length := by
  induction h with
  | first =>
      rintro _ ⟨⟩
      rfl
  | again h hends hfailed ih =>
      rintro _ ⟨⟩
      exact congrArg (· + 1) (ih _ rfl)

/-- A time, or the deadline if that comes before. -/
def cut (j : Job) (time : Nat) : Nat :=
  (j.deadline?.map (min time)).getD time

/-- No wait is cut to a later time. -/
theorem cut_le (time : Nat) : j.cut time ≤ time := by
  unfold cut
  cases j.deadline? with
  | none => exact Nat.le_refl _
  | some deadline => exact Nat.min_le_left ..

/-- What is planned for a time happens then, or it is cut short by the deadline. -/
theorem cut_spec {now : Nat} (hin : j.InTime none now) (hle : now ≤ time) :
    now ≤ j.cut time ∧ (j.cut time = time ∧ j.InTime none time ∨
      ∃ deadline, j.deadline? = some deadline ∧ deadline ≤ time ∧ j.cut time = deadline) := by
  unfold cut
  cases hdeadline : j.deadline? with
  | none =>
      refine ⟨hle, .inl ⟨rfl, ⟨fun deadline hsome => ?_, nofun⟩⟩⟩
      exact nomatch hdeadline.symm.trans hsome
  | some deadline =>
      have hnow : now < deadline := hin.deadline deadline hdeadline
      show now ≤ min time deadline ∧ (min time deadline = time ∧ _ ∨ _)
      by_cases hlate : deadline ≤ time
      · exact ⟨Nat.le_min.2 ⟨hle, Nat.le_of_lt hnow⟩,
          .inr ⟨deadline, rfl, hlate, Nat.min_eq_right hlate⟩⟩
      · rw [Nat.min_eq_left (Nat.le_of_not_le hlate)]
        refine ⟨hle, .inl ⟨rfl, ⟨fun deadline' hsome => ?_, nofun⟩⟩⟩
        cases hdeadline.symm.trans hsome
        exact Nat.lt_of_not_le hlate

/-- A job is not over before it has begun. -/
theorem in_time_zero : j.InTime none 0 := by
  refine ⟨fun deadline hdeadline => ?_, nofun⟩
  unfold deadline? Duration.isZero at hdeadline
  split at hdeadline
  · exact nomatch hdeadline
  · rename_i hnonzero
    cases hdeadline
    exact Nat.pos_of_ne_zero fun hzero => hnonzero (beq_iff_eq.2 hzero)

/-- There is one attempt at least. -/
theorem max_attempts_pos : 1 ≤ j.maxAttempts :=
  Nat.le_min.2 ⟨Nat.le_add_left .., by decide⟩

/-- An attempt ends at one time, in one way. -/
theorem EndsAt.unique {time' : Nat} {ending' : Ending} (h : j.EndsAt start time ending)
    (h' : j.EndsAt start time' ending') : time = time' ∧ ending = ending' := by
  obtain ⟨a, length, hattempt, hlength, rfl, rfl⟩ := h
  obtain ⟨a', length', hattempt', hlength', rfl, rfl⟩ := h'
  cases hattempt.symm.trans hattempt'
  cases hlength.symm.trans hlength'
  exact ⟨rfl, rfl⟩

end Job

/-- A supervisor whose job is watched from outside, and when the job was cancelled, if it was. -/
structure Watch extends Supervisor where
  cancelledAt : Option Nat

namespace Watch

/-- What can happen to a job next: an event, or a cancellation between two events. -/
inductive Next : Watch → Watch → Prop where
  | event (s : Supervisor) (cancelledAt : Option Nat) : Next ⟨s, cancelledAt⟩ ⟨s.step, cancelledAt⟩
  | cancel (s : Supervisor) (time : Nat) (hstarted : s.starts ≠ []) (hlater : s.clock < time)
      (hbetween : ∀ next, s.nextEvent? = some next → time < next) :
      Next ⟨s, none⟩ ⟨{ s with clock := time }.cancel, some time⟩

/-- How a job has ended whose last attempt is known. -/
inductive Verdict (j : Job) (w : Watch) (last : Start) : Prop where
  | succeeded (time : Nat) (hends : j.EndsAt last time (.exited 0))
      (hin : j.InTime w.cancelledAt time) (hclock : time ≤ w.clock)
      (hstate : w.status.state = .succeeded)
  | exhausted (time : Nat) (ending : Ending) (hends : j.EndsAt last time ending)
      (hfailed : ending ≠ .exited 0) (hlast : last.number = j.maxAttempts)
      (hstate : w.status.state = .failed)
  | unstartable (e : ExecError) (hattempt : j.attempts last.number = .error e)
      (hstate : w.status.state = .failed) (hmessage : w.status.message = e.message)
  | expired (deadline : Nat) (hdeadline : j.deadline? = some deadline)
      (hclock : deadline ≤ w.clock)
      (hends : ∀ time, j.EndsAt last time (.exited 0) → deadline ≤ time)
      (hstate : w.status.state = .failed) (hmessage : w.status.message = j.timeoutMessage)
  | cancelled (cancelled : Nat) (hcancelled : w.cancelledAt = some cancelled)
      (hends : ∀ time, j.EndsAt last time (.exited 0) → cancelled ≤ time)
      (hstate : w.status.state = .failed) (hmessage : w.status.message = "cancelled")

/-- What is known of the attempts of a job that has been started. -/
structure Tracked (j : Job) (w : Watch) (last : Start) (earlier : List Start) : Prop where
  job : w.job = j
  starts : w.starts = last :: earlier
  follow : j.Follow (last :: earlier)
  times : ∀ start ∈ last :: earlier, start.time ≤ w.clock ∧ j.InTime w.cancelledAt start.time
  attempts : w.status.attempts = last.number
  number : last.number ≤ j.maxAttempts

/-- What is known of a job at each stage. -/
inductive Watched (j : Job) (w : Watch) : Prop where
  | starting (hjob : w.job = j) (hstage : w.stage = .starting 1) (hnone : w.starts = [])
      (hclock : w.clock = 0) (hidle : w.cancelled = false) (hcancelled : w.cancelledAt = none)
      (hstatus : w.status = Supervisor.waiting)
  | running (last : Start) (earlier : List Start) (a : Attempt) (length : Duration)
      (h : Tracked j w last earlier) (hstage : w.stage = .running last.number a last.time)
      (hattempt : j.attempts last.number = .ok a) (hlength : a.length = some length)
      (hclock : w.clock = last.time) (hidle : w.cancelled = false)
      (hcancelled : w.cancelledAt = none) (hstate : w.status.state = .running)
  | resting (last : Start) (earlier : List Start) (wakes time : Nat) (ending : Ending)
      (h : Tracked j w last earlier) (hstage : w.stage = .resting last.number wakes)
      (hwakes : wakes = j.cut (time + j.retry.backoff.nanos))
      (hends : j.EndsAt last time ending) (hfailed : ending ≠ .exited 0)
      (hclock : w.clock = time) (hin : j.InTime none time) (hleft : last.number < j.maxAttempts)
      (hidle : w.cancelled = false) (hcancelled : w.cancelledAt = none)
      (hstate : w.status.state = .pending)
  | ended (last : Start) (earlier : List Start) (h : Tracked j w last earlier)
      (hstage : w.stage = .over) (hverdict : Verdict j w last)

variable {j : Job} {reading : Nat} {s : Supervisor} {w w' : Watch} {last : Start}
  {earlier : List Start} {a : Attempt}

/-- The events that a job can still have. -/
def left (w : Watch) : Nat :=
  match w.stage with
  | .starting _ => 3 * w.job.maxAttempts
  | .running number _ _ => 3 * (w.job.maxAttempts - number) + 2
  | .resting number _ => 3 * (w.job.maxAttempts - number) + 1
  | .over => 0

/-- An attempt is started, or the job has ended because it cannot be. -/
theorem start_watched {number : Nat} (hfinite : j.Finite) (hjob : s.job = j)
    (hidle : s.cancelled = false) (hfollow : j.Follow (⟨number, s.clock⟩ :: s.starts))
    (htimes : ∀ start ∈ s.starts, start.time ≤ s.clock ∧ j.InTime none start.time)
    (hin : j.InTime none s.clock) (hnumber : number ≤ j.maxAttempts) :
    Watched j ⟨s.start number, none⟩ ∧
      left ⟨s.start number, none⟩ ≤ 3 * (j.maxAttempts - number) + 2 := by
  subst hjob
  have htimes' : ∀ start ∈ (⟨number, s.clock⟩ : Start) :: s.starts,
      start.time ≤ s.clock ∧ s.job.InTime none start.time :=
    List.forall_mem_cons.2 ⟨⟨Nat.le_refl _, hin⟩, htimes⟩
  unfold Supervisor.start
  cases hattempt : s.job.attempts number with
  | error e =>
      dsimp only
      rw [hattempt]
      exact ⟨.ended _ _ ⟨rfl, rfl, hfollow, htimes', rfl, hnumber⟩ rfl
        (.unstartable e hattempt rfl rfl), Nat.zero_le _⟩
  | ok a =>
      obtain ⟨length, hlength⟩ := Option.isSome_iff_exists.1 (hfinite number a hattempt)
      dsimp only
      rw [hattempt, hidle]
      exact ⟨.running _ _ a length ⟨rfl, rfl, hfollow, htimes', rfl, hnumber⟩ rfl hattempt hlength
        rfl rfl rfl rfl, Nat.le_refl _⟩

/-- After an attempt that has ended by itself the job is over or rests. -/
theorem conclude_watched {length : Duration} (h : Tracked j ⟨s, none⟩ last earlier)
    (hidle : s.cancelled = false) (hattempt : j.attempts last.number = .ok a)
    (hlength : a.length = some length) (hclock : s.clock = last.time + length.nanos)
    (hin : j.InTime none s.clock) :
    Watched j ⟨s.conclude last.number a, none⟩ ∧
      left ⟨s.conclude last.number a, none⟩ ≤ 3 * (j.maxAttempts - last.number) + 1 := by
  obtain ⟨rfl, hstarts, hfollow, htimes, hattempts, hnumber⟩ := h
  have hends : s.job.EndsAt last s.clock a.ending :=
    ⟨a, length, hattempt, hlength, rfl, hclock⟩
  unfold Supervisor.conclude
  split
  · rename_i hzero
    rw [hzero] at hends
    exact ⟨.ended last earlier ⟨rfl, hstarts, hfollow, htimes, hattempts, hnumber⟩ rfl
      (.succeeded s.clock hends hin (Nat.le_refl _) rfl), Nat.zero_le _⟩
  · rename_i hfailed
    split
    · rename_i hlast
      exact ⟨.ended last earlier ⟨rfl, hstarts, hfollow, htimes, hattempts, hnumber⟩ rfl
        (.exhausted s.clock _ hends hfailed hlast rfl), Nat.zero_le _⟩
    · rename_i hmore
      have hleft : last.number < s.job.maxAttempts := Nat.lt_of_le_of_ne hnumber hmore
      exact ⟨.resting last earlier _ s.clock _ ⟨rfl, hstarts, hfollow, htimes, hattempts, hnumber⟩
        rfl rfl hends hfailed rfl hin hleft hidle rfl rfl, Nat.le_refl _⟩

/-- Time passes without anything happening to a job. -/
theorem Tracked.later {cancelledAt : Option Nat} {time : Nat}
    (h : Tracked j ⟨s, cancelledAt⟩ last earlier) (hle : s.clock ≤ time) :
    Tracked j ⟨{ s with clock := time }, cancelledAt⟩ last earlier where
  job := h.job
  starts := h.starts
  follow := h.follow
  times := fun start hstart =>
    ⟨Nat.le_trans (h.times start hstart).1 hle, (h.times start hstart).2⟩
  attempts := h.attempts
  number := h.number

/-- An attempt that runs is planned to end by itself. -/
theorem next_event_running {number since : Nat} {length : Duration}
    (hstage : s.stage = .running number a since) (hlength : a.length = some length) :
    s.nextEvent? = some (s.job.cut (since + length.nanos)) := by
  unfold Supervisor.nextEvent? Job.cut
  rw [hstage]
  dsimp only
  rw [hlength]
  cases s.job.deadline? with
  | none => rfl
  | some deadline => rfl

/-- Whether the job's time is over is told by its deadline. -/
theorem is_expired_iff : s.isExpired = true ↔
    ∃ deadline, s.job.deadline? = some deadline ∧ deadline ≤ s.clock := by
  unfold Supervisor.isExpired
  cases s.job.deadline? with
  | none => simp
  | some deadline => simp

/-- An event that is planned for a time happens then, or at the deadline if that comes before. -/
theorem step_at_cut {time : Nat} (hin : s.job.InTime none s.clock) (hle : s.clock ≤ time)
    (hnext : s.nextEvent? = some (s.job.cut time)) :
    s.job.InTime none time ∧ ({ s with clock := time } : Supervisor).isExpired = false ∧
        s.step = { s with clock := time }.handle ∨
      ∃ deadline, s.job.deadline? = some deadline ∧ deadline ≤ time ∧ s.clock ≤ deadline ∧
        ({ s with clock := deadline } : Supervisor).isExpired = true ∧
        s.step = { s with clock := deadline }.handle := by
  obtain ⟨hlater, hcut⟩ := Job.cut_spec hin hle
  have hstep : s.step = { s with clock := s.job.cut time }.handle := by
    unfold Supervisor.step
    rw [hnext]
    dsimp only
    rw [Nat.max_eq_right hlater]
  obtain ⟨htime, hopen⟩ | ⟨deadline, hdeadline, hlate, htime⟩ := hcut
  · rw [htime] at hstep
    refine .inl ⟨hopen, Bool.eq_false_iff.2 fun hexpired => ?_, hstep⟩
    obtain ⟨deadline, hdeadline, hlate⟩ := is_expired_iff.1 hexpired
    exact Nat.not_lt.2 hlate (hopen.deadline deadline hdeadline)
  · rw [htime] at hstep hlater
    exact .inr ⟨deadline, hdeadline, hlate, hlater,
      is_expired_iff.2 ⟨deadline, hdeadline, Nat.le_refl _⟩, hstep⟩

/-- A job whose time is over ends before its last attempt can succeed. -/
theorem expire_watched {deadline : Nat} (h : Tracked j ⟨s, none⟩ last earlier)
    (hdeadline : j.deadline? = some deadline) (hlate : deadline ≤ s.clock)
    (hends : ∀ time, j.EndsAt last time (.exited 0) → deadline ≤ time) (code : Option Int) :
    Watched j ⟨s.finish .failed s.job.timeoutMessage code, none⟩ := by
  obtain ⟨rfl, hstarts, hfollow, htimes, hattempts, hnumber⟩ := h
  exact .ended last earlier ⟨rfl, hstarts, hfollow, htimes, hattempts, hnumber⟩ rfl
    (.expired deadline hdeadline hlate hends rfl rfl)

/-- Every event keeps what is known of a job, and none of them is the last but the end. -/
theorem step_watched (hfinite : j.Finite) {cancelledAt : Option Nat}
    (h : Watched j ⟨s, cancelledAt⟩) :
    Watched j ⟨s.step, cancelledAt⟩ ∧
      (s.stage = .over ∨ left ⟨s.step, cancelledAt⟩ < left ⟨s, cancelledAt⟩) := by
  obtain ⟨job, status, stage, clock, cancelled, starts⟩ := s
  cases h with
  | starting hjob hstage hnone hclock hidle hcancelled hstatus =>
      dsimp only at hjob hstage hnone hclock hidle hcancelled hstatus
      subst hjob hstage hnone hclock hidle hcancelled hstatus
      have hmax : 1 ≤ job.maxAttempts := Job.max_attempts_pos
      obtain ⟨hwatched, hleft⟩ := start_watched
        (s := ⟨job, Supervisor.waiting, .starting 1, 0, false, []⟩) hfinite rfl rfl .first nofun
        Job.in_time_zero hmax
      refine ⟨hwatched, .inr (Nat.lt_of_le_of_lt hleft ?_)⟩
      show 3 * (job.maxAttempts - 1) + 2 < 3 * job.maxAttempts
      omega
  | running last earlier a length h hstage hattempt hlength hclock hidle hcancelled hstate =>
      dsimp only at hstage hclock hidle hcancelled
      subst hstage hclock hidle hcancelled
      obtain rfl : job = j := h.job
      obtain ⟨-, hin⟩ := h.times last List.mem_cons_self
      -- The attempt ends by itself, or the deadline comes first; then it has not succeeded in time.
      have hnext := next_event_running
        (s := ⟨job, status, .running last.number a last.time, last.time, false, starts⟩) rfl hlength
      obtain ⟨hopen, hexpired, hstep⟩ | ⟨deadline, hdeadline, hlate, hlater, hexpired, hstep⟩ :=
        step_at_cut hin (Nat.le_add_right ..) hnext
      · unfold Supervisor.handle at hstep
        rw [hexpired] at hstep
        obtain ⟨hwatched, hleft⟩ := conclude_watched (h.later (Nat.le_add_right ..)) rfl hattempt
          hlength rfl hopen
        rw [hstep]
        exact ⟨hwatched, .inr (Nat.lt_succ_of_le hleft)⟩
      · unfold Supervisor.handle at hstep
        rw [hexpired] at hstep
        have hends (time : Nat) (hend : job.EndsAt last time (.exited 0)) : deadline ≤ time := by
          obtain ⟨htime, -⟩ := hend.unique ⟨a, length, hattempt, hlength, rfl, rfl⟩
          exact htime ▸ hlate
        rw [hstep]
        exact ⟨expire_watched (h.later hlater) hdeadline (Nat.le_refl _) hends none,
          .inr (Nat.succ_pos _)⟩
  | resting last earlier wakes time ending h hstage hwakes hends hfailed hclock hin hleft hidle
      hcancelled hstate =>
      dsimp only at hstage hclock hidle hcancelled
      subst hstage hwakes hclock hidle hcancelled
      obtain rfl : job = j := h.job
      obtain rfl : starts = last :: earlier := h.starts
      -- The last attempt has failed, so at the deadline nothing is left that could succeed.
      have hnever (time : Nat) (hend : job.EndsAt last time (.exited 0)) : False :=
        hfailed (hends.unique hend).2
      have hnext : (⟨job, status, .resting last.number (job.cut (clock + job.retry.backoff.nanos)),
          clock, false, last :: earlier⟩ : Supervisor).nextEvent? =
          some (job.cut (clock + job.retry.backoff.nanos)) := rfl
      obtain ⟨hopen, hexpired, hstep⟩ | ⟨deadline, hdeadline, hlate, hlater, hexpired, hstep⟩ :=
        step_at_cut hin (Nat.le_add_right ..) hnext
      · unfold Supervisor.handle at hstep
        rw [hexpired] at hstep
        have hwoken := h.later (Nat.le_add_right clock job.retry.backoff.nanos)
        obtain ⟨hwatched, hlefts⟩ := start_watched (s := ⟨job, status, _, _, false, _⟩) hfinite rfl
          rfl (.again h.follow hends hfailed) hwoken.times hopen hleft
        rw [hstep]
        refine ⟨hwatched, .inr (Nat.lt_of_le_of_lt hlefts ?_)⟩
        show 3 * (job.maxAttempts - (last.number + 1)) + 2 < 3 * (job.maxAttempts - last.number) + 1
        omega
      · unfold Supervisor.handle at hstep
        rw [hexpired] at hstep
        rw [hstep]
        exact ⟨expire_watched (h.later hlater) hdeadline (Nat.le_refl _)
          (fun time hend => (hnever time hend).elim) _, .inr (Nat.succ_pos _)⟩
  | ended last earlier h hstage hverdict =>
      dsimp only at hstage
      subst hstage
      exact ⟨.ended last earlier h rfl hverdict, .inl rfl⟩

/-- What is known of the attempts when a job is cancelled. -/
theorem Tracked.cancel {time : Nat} (h : Tracked j ⟨s, none⟩ last earlier)
    (hlater : s.clock < time) :
    Tracked j ⟨{ s with clock := time }, some time⟩ last earlier where
  job := h.job
  starts := h.starts
  follow := h.follow
  times := fun start hstart =>
    have hbefore := Nat.lt_of_le_of_lt (h.times start hstart).1 hlater
    ⟨Nat.le_of_lt hbefore, (h.times start hstart).2.before hbefore⟩
  attempts := h.attempts
  number := h.number

/-- A job that is cancelled while it runs or rests is over, and one that is over stays so. -/
theorem cancel_watched {time : Nat} (h : Watched j ⟨s, none⟩) (hstarted : s.starts ≠ [])
    (hlater : s.clock < time) (hbetween : ∀ next, s.nextEvent? = some next → time < next) :
    Watched j ⟨{ s with clock := time }.cancel, some time⟩ := by
  obtain ⟨job, status, stage, clock, cancelled, starts⟩ := s
  cases h with
  | starting hjob hstage hnone => exact absurd hnone hstarted
  | running last earlier a length h hstage hattempt hlength hclock hidle hcancelled hstate =>
      dsimp only at hstage
      subst hstage
      obtain ⟨hjob, hstarts, hfollow, htimes, hattempts, hnumber⟩ := h.cancel hlater
      refine .ended last earlier ⟨hjob, hstarts, hfollow, htimes, hattempts, hnumber⟩ rfl
        (.cancelled time rfl (fun ends hends => ?_) rfl rfl)
      -- The cancellation comes before the event that is planned, so the attempt is still running.
      have hnext := hbetween _ (next_event_running rfl hlength)
      obtain ⟨rfl, -⟩ := hends.unique ⟨a, length, hattempt, hlength, rfl, rfl⟩
      exact Nat.le_of_lt (Nat.lt_of_lt_of_le hnext (Job.cut_le _))
  | resting last earlier wakes ends ending h hstage hwakes hends hfailed =>
      dsimp only at hstage
      subst hstage
      obtain ⟨hjob, hstarts, hfollow, htimes, hattempts, hnumber⟩ := h.cancel hlater
      exact .ended last earlier ⟨hjob, hstarts, hfollow, htimes, hattempts, hnumber⟩ rfl
        (.cancelled time rfl (fun _ hend => absurd (hends.unique hend).2 hfailed) rfl rfl)
  | ended last earlier h hstage hverdict =>
      dsimp only at hstage
      subst hstage
      refine .ended last earlier (h.cancel hlater) rfl ?_
      cases hverdict with
      | succeeded ends hends hin hclock hstate =>
          have hbefore : ends < time := Nat.lt_of_le_of_lt hclock hlater
          exact .succeeded ends hends (hin.before hbefore) (Nat.le_of_lt hbefore) hstate
      | exhausted ends ending hends hfailed hlast hstate =>
          exact .exhausted ends ending hends hfailed hlast hstate
      | unstartable e hattempt hstate hmessage => exact .unstartable e hattempt hstate hmessage
      | expired deadline hdeadline hclock hends hstate hmessage =>
          exact .expired deadline hdeadline (Nat.le_trans hclock (Nat.le_of_lt hlater)) hends hstate
            hmessage
      | cancelled _ hcancelled => exact nomatch hcancelled

/-- What holds of a watched job holds after whatever comes next. -/
theorem next_watched (hfinite : j.Finite) (h : Watched j w) (hnext : Next w w') :
    Watched j w' := by
  cases hnext with
  | event s cancelledAt => exact (step_watched hfinite h).1
  | cancel s time hstarted hlater hbetween => exact cancel_watched h hstarted hlater hbetween

/-- A job that is submitted is watched from then on, if the clock can count up to the end of its
time. -/
theorem watched_of_run (hclock : j.isBeyondClock reading = false) (hfinite : j.Finite)
    (hrun : ReflTransGen Next ⟨.submit reading j, none⟩ w) : Watched j w := by
  induction hrun with
  | refl =>
      have hstage : (Supervisor.submit reading j).stage = .starting 1 := by
        unfold Supervisor.submit
        rw [hclock]
        rfl
      exact .starting rfl hstage rfl rfl rfl rfl rfl
  | tail _ hnext ih => exact next_watched hfinite ih hnext

/-- The status tells whether a job is over. -/
theorem Watched.terminal_iff (h : Watched j w) :
    w.status.state.isTerminal = true ↔ w.stage = .over := by
  cases h with
  | starting hjob hstage hnone hclock hidle hcancelled hstatus =>
      rw [hstatus, hstage]
      exact iff_of_false nofun nofun
  | running last earlier a length h hstage _ _ _ _ _ hstate =>
      rw [hstate, hstage]
      exact iff_of_false nofun nofun
  | resting last earlier wakes time ending h hstage _ _ _ _ _ _ _ _ hstate =>
      rw [hstate, hstage]
      exact iff_of_false nofun nofun
  | ended last earlier h hstage hverdict =>
      refine iff_of_true ?_ hstage
      cases hverdict with
      | succeeded _ _ _ _ hstate => rw [hstate]; rfl
      | exhausted _ _ _ _ _ hstate => rw [hstate]; rfl
      | unstartable _ _ hstate => rw [hstate]; rfl
      | expired _ _ _ _ hstate => rw [hstate]; rfl
      | cancelled _ _ _ hstate => rw [hstate]; rfl

/-- A job that is over has had attempts, and there is a verdict on the last one. -/
theorem Watched.verdict (h : Watched j w) (hover : w.stage = .over) :
    ∃ last earlier, Tracked j w last earlier ∧ Verdict j w last := by
  cases h with
  | starting _ hstage => exact nomatch hstage.symm.trans hover
  | running _ _ _ _ _ hstage => exact nomatch hstage.symm.trans hover
  | resting _ _ _ _ _ _ hstage => exact nomatch hstage.symm.trans hover
  | ended last earlier h _ hverdict => exact ⟨last, earlier, h, hverdict⟩

/-- What the attempts of a job are at any stage. -/
theorem Watched.counted (h : Watched j w) :
    (w.starts = [] ∨ j.Follow w.starts) ∧ w.starts.length ≤ j.maxAttempts ∧
      w.status.attempts = w.starts.length ∧
      ∀ start ∈ w.starts, j.InTime w.cancelledAt start.time := by
  have htracked {last : Start} {earlier : List Start} (h : Tracked j w last earlier) :
      (w.starts = [] ∨ j.Follow w.starts) ∧ w.starts.length ≤ j.maxAttempts ∧
        w.status.attempts = w.starts.length ∧
        ∀ start ∈ w.starts, j.InTime w.cancelledAt start.time := by
    have hlength := h.follow.number_eq last rfl
    rw [h.starts, ← hlength]
    exact ⟨.inr h.follow, h.number, h.attempts, fun start hstart => (h.times start hstart).2⟩
  cases h with
  | starting hjob hstage hnone hclock hidle hcancelled hstatus =>
      rw [hnone, hstatus]
      exact ⟨.inl rfl, Nat.zero_le _, rfl, List.forall_mem_nil _⟩
  | running last earlier a length h => exact htracked h
  | resting last earlier wakes time ending h => exact htracked h
  | ended last earlier h => exact htracked h

/-- Nothing happens to a job that is over. -/
theorem settled_of_run (hover : w.stage = .over) (hrun : ReflTransGen Next w w') :
    w'.stage = .over ∧ w'.status = w.status := by
  induction hrun with
  | refl => exact ⟨hover, rfl⟩
  | tail _ hnext ih =>
      obtain ⟨hstage, hstatus⟩ := ih
      cases hnext with
      | event s cancelledAt =>
          have hstep : s.step = s := by
            unfold Supervisor.step Supervisor.nextEvent?
            rw [show s.stage = .over from hstage]
          rw [hstep]
          exact ⟨hstage, hstatus⟩
      | cancel s time =>
          have hcancel : { s with clock := time }.cancel = { s with clock := time } := by
            unfold Supervisor.cancel
            dsimp only
            rw [show s.stage = .over from hstage]
          rw [hcancel]
          exact ⟨hstage, hstatus⟩

/-- Left to itself, a job is over after the events that it can still have. -/
theorem run_until_over (hfinite : j.Finite) {cancelledAt : Option Nat} {events : Nat}
    (h : Watched j ⟨s, cancelledAt⟩) (hevents : left ⟨s, cancelledAt⟩ ≤ events) :
    (s.runUntil (fun status => status.state.isTerminal) events).stage = .over ∧
      ReflTransGen Next ⟨s, cancelledAt⟩
        ⟨s.runUntil (fun status => status.state.isTerminal) events, cancelledAt⟩ ∧
      Watched j ⟨s.runUntil (fun status => status.state.isTerminal) events, cancelledAt⟩ := by
  induction events generalizing s with
  | zero =>
      obtain ⟨-, hover | hless⟩ := step_watched hfinite h
      · exact ⟨hover, .refl, h⟩
      · omega
  | succ events ih =>
      unfold Supervisor.runUntil
      obtain ⟨hwatched, hover | hless⟩ := step_watched hfinite h
      · have hterminal : s.status.state.isTerminal = true := h.terminal_iff.2 hover
        rw [if_pos (by rw [hterminal]; rfl)]
        exact ⟨hover, .refl, h⟩
      · split
        · rename_i hstop
          refine ⟨?_, .refl, h⟩
          obtain hterminal | hnone := Bool.or_eq_true_iff.1 hstop
          · exact h.terminal_iff.1 hterminal
          · -- Without a next event the step would leave as many events as before.
            have hstep : s.step = s := by
              unfold Supervisor.step
              rw [Option.isNone_iff_eq_none.1 hnone]
            rw [hstep] at hless
            exact absurd hless (Nat.lt_irrefl _)
        · obtain ⟨hover, hrun, hwatched'⟩ := ih hwatched (by omega)
          exact ⟨hover, .head (.event s cancelledAt) hrun, hwatched'⟩

/-- A job has no more events left than it can have at most. -/
theorem left_le_max (h : Watched j w) : left w ≤ w.maxEvents := by
  have hnumber {last : Start} {earlier : List Start} (h : Tracked j w last earlier) :
      1 ≤ last.number := by
    rw [h.follow.number_eq last rfl]
    exact Nat.le_add_left ..
  unfold left Supervisor.maxEvents
  cases h with
  | starting _ hstage =>
      rw [hstage]
      exact Nat.le_succ _
  | running last earlier a length h hstage =>
      have hpos := hnumber h
      have hmax : last.number ≤ w.job.maxAttempts := h.job ▸ h.number
      rw [hstage]
      dsimp only
      omega
  | resting last earlier wakes time ending h hstage =>
      rw [hstage]
      dsimp only
      omega
  | ended last earlier h hstage =>
      rw [hstage]
      exact Nat.zero_le _

/-- What is known of a job at any moment. -/
structure Supervised (j : Job) (w : Watch) : Prop where
  /-- Left to itself it ends, in one of two states. -/
  ends : ReflTransGen Next w ⟨w.run, w.cancelledAt⟩ ∧
    (w.run.status.state = .succeeded ∨ w.run.status.state = .failed)
  /-- Once it has ended its status remains as it is. -/
  remains : w.status.state.isTerminal = true →
    ∀ w', ReflTransGen Next w w' → w'.status = w.status
  /-- Attempts are started one after the other, and the status counts them. -/
  follow : w.starts = [] ∨ j.Follow w.starts
  few : w.starts.length ≤ j.retry.limit + 1
  attempts : w.status.attempts = w.starts.length
  /-- None is started once the job's time is over or it has been cancelled. -/
  inTime : ∀ start ∈ w.starts, j.InTime w.cancelledAt start.time
  /-- A job that has ended has succeeded exactly if its last attempt has, in time. -/
  succeeded : w.status.state.isTerminal = true → (w.status.state = .succeeded ↔
    ∃ last time, w.starts.head? = some last ∧ j.EndsAt last time (.exited 0) ∧
      j.InTime w.cancelledAt time)
  /-- A job fails with attempts left only because one cannot be started, or its time is over, or it
  was cancelled. -/
  failed : w.status.state = .failed → w.starts.length < j.retry.limit + 1 →
    (∃ last e, w.starts.head? = some last ∧ j.attempts last.number = .error e ∧
      w.status.message = e.message) ∨
    (∃ deadline, j.deadline? = some deadline ∧ deadline ≤ w.clock ∧
      w.status.message = j.timeoutMessage) ∨
    ∃ cancelled, w.cancelledAt = some cancelled ∧ w.status.message = "cancelled"

/-- A verdict of success is one on an attempt that has succeeded in time. -/
theorem Verdict.succeeded_iff (h : Verdict j w last) :
    w.status.state = .succeeded ↔
      ∃ time, j.EndsAt last time (.exited 0) ∧ j.InTime w.cancelledAt time := by
  cases h with
  | succeeded time hends hin hclock hstate => exact iff_of_true hstate ⟨time, hends, hin⟩
  | exhausted time ending hends hfailed hlast hstate =>
      rw [hstate]
      refine iff_of_false nofun ?_
      rintro ⟨time', hends', -⟩
      exact hfailed (hends.unique hends').2
  | unstartable e hattempt hstate =>
      rw [hstate]
      refine iff_of_false nofun ?_
      rintro ⟨time, ⟨a, length, hattempt', -⟩, -⟩
      exact nomatch hattempt.symm.trans hattempt'
  | expired deadline hdeadline hclock hends hstate =>
      rw [hstate]
      refine iff_of_false nofun ?_
      rintro ⟨time, hend, hin⟩
      exact Nat.not_lt.2 (hends time hend) (hin.deadline deadline hdeadline)
  | cancelled cancelled hcancelled hends hstate =>
      rw [hstate]
      refine iff_of_false nofun ?_
      rintro ⟨time, hend, hin⟩
      exact Nat.not_lt.2 (hends time hend) (hin.cancelled cancelled hcancelled)

/-- A verdict of failure while attempts are left has one of three causes. -/
theorem Verdict.cause (h : Verdict j w last) (hfailed : w.status.state = .failed)
    (hleft : last.number < j.maxAttempts) :
    (∃ e, j.attempts last.number = .error e ∧ w.status.message = e.message) ∨
    (∃ deadline, j.deadline? = some deadline ∧ deadline ≤ w.clock ∧
      w.status.message = j.timeoutMessage) ∨
    ∃ cancelled, w.cancelledAt = some cancelled ∧ w.status.message = "cancelled" := by
  cases h with
  | succeeded _ _ _ _ hstate => exact nomatch hstate.symm.trans hfailed
  | exhausted _ _ _ _ hlast => exact absurd hlast (Nat.ne_of_lt hleft)
  | unstartable e hattempt _ hmessage => exact .inl ⟨e, hattempt, hmessage⟩
  | expired deadline hdeadline hclock _ _ hmessage =>
      exact .inr (.inl ⟨deadline, hdeadline, hclock, hmessage⟩)
  | cancelled cancelled hcancelled _ _ hmessage =>
      exact .inr (.inr ⟨cancelled, hcancelled, hmessage⟩)

/-- Left to itself a job ends, in one of two states. -/
theorem Watched.ends (hfinite : j.Finite) (h : Watched j w) :
    ReflTransGen Next w ⟨w.run, w.cancelledAt⟩ ∧
      (w.run.status.state = .succeeded ∨ w.run.status.state = .failed) := by
  obtain ⟨hover, hruns, hwatched⟩ := run_until_over hfinite h (left_le_max h)
  have hended : w.run.status.state.isTerminal = true := hwatched.terminal_iff.2 hover
  refine ⟨hruns, ?_⟩
  cases hstate : w.run.status.state with
  | succeeded => exact .inl rfl
  | failed => exact .inr rfl
  | pending | running =>
      rw [hstate] at hended
      exact nomatch hended

/-- Whatever the attempts of a job do, however long they take, and whether and when it is cancelled
after it has been started: it ends, and what is known of it is what `Supervised` says. Only the end of
its time must not be beyond what the clock can count, given what it shows at the submission. -/
theorem supervised_of_run (hclock : j.isBeyondClock reading = false)
    (hlimit : j.retry.limit < max32) (hfinite : j.Finite)
    (hrun : ReflTransGen Next ⟨.submit reading j, none⟩ w) : Supervised j w := by
  have hwatched := watched_of_run hclock hfinite hrun
  have hmax : j.maxAttempts = j.retry.limit + 1 := Nat.min_eq_left hlimit
  obtain ⟨hfollow, hfew, hattempts, hinTime⟩ := hwatched.counted
  refine ⟨hwatched.ends hfinite, ?_, hfollow, hmax ▸ hfew, hattempts, hinTime, ?_, ?_⟩
  · exact fun hended w' hlater => (settled_of_run (hwatched.terminal_iff.1 hended) hlater).2
  · intro hended
    obtain ⟨last, earlier, h, hverdict⟩ := hwatched.verdict (hwatched.terminal_iff.1 hended)
    rw [hverdict.succeeded_iff, h.starts]
    simp
  · intro hfailed hless
    obtain ⟨last, earlier, h, hverdict⟩ :=
      hwatched.verdict (hwatched.terminal_iff.1 (by rw [hfailed]; rfl))
    rw [h.starts, ← h.follow.number_eq last rfl, ← hmax] at hless
    obtain ⟨e, hattempt, hmessage⟩ | hother := hverdict.cause hfailed hless
    · exact .inl ⟨last, e, by rw [h.starts]; rfl, hattempt, hmessage⟩
    · exact .inr hother

/-- A program that fails at once and succeeds the next time, after a rest in which its time is not
over. -/
def flaky : Job where
  attempts := fun number => .ok
    { length := some (.ofMillis 300), ending := .exited (if number = 1 then 1 else 0)
      stdout := [], stderr := [] }
  retry := ⟨2, .ofMillis 500⟩
  timeout := .ofSecs 2

/-- A job that fails once and waits for its second attempt is supervised to its success. -/
theorem supervised_of_run_flaky :
    ∃ w, Supervised flaky w ∧ w.status.state = .succeeded ∧
      w.starts = [⟨2, 800000000⟩, ⟨1, 0⟩] := by
  have hrun : ReflTransGen Next ⟨.submit 1000000000 flaky, none⟩
      ⟨(Supervisor.submit 1000000000 flaky).step.step.step.step, none⟩ :=
    .head (.event _ _) (.head (.event _ _) (.head (.event _ _) (.single (.event _ _))))
  have hfinite : flaky.Finite := by
    rintro number a ⟨⟩
    rfl
  exact ⟨_, supervised_of_run (by decide) (by decide) hfinite hrun, rfl, rfl⟩

/-- A job is never started if the clock cannot count up to the end of its time. -/
theorem waiting_of_run (hclock : j.isBeyondClock reading = true)
    (hrun : ReflTransGen Next ⟨.submit reading j, none⟩ w) : w.status = Supervisor.waiting := by
  have hover : (Supervisor.submit reading j).stage = .over := by
    unfold Supervisor.submit
    rw [hclock]
    rfl
  exact (settled_of_run hover hrun).2

/-- A program that would succeed at once, and more time for it than the clock can count. -/
def patient : Job where
  attempts := fun _ => .ok ⟨some (.ofMillis 1), .exited 0, [], []⟩
  retry := ⟨0, .zero⟩
  timeout := .ofSecs max64

/-- A job with the longest timeout that can be read waits for ever, whatever the clock reads. -/
theorem waits_for_ever :
    patient.retry.limit < max32 ∧ patient.Finite ∧ ∀ reading w,
      ReflTransGen Next ⟨.submit reading patient, none⟩ w → w.status.state = .pending := by
  have hbeyond (reading : Nat) : patient.isBeyondClock reading = true := by
    have hdeadline : patient.deadline? = some (max64 * 1000000000) := rfl
    have hmore : (Job.maxSeconds + 1) * 1000000000 ≤ reading + max64 * 1000000000 :=
      Nat.le_trans (by decide) (Nat.le_add_left _ reading)
    unfold Job.isBeyondClock
    rw [hdeadline, Option.any_some]
    exact decide_eq_true hmore
  refine ⟨by decide, fun number a h => ?_, fun reading w hrun => ?_⟩
  · cases h
    rfl
  · rw [waiting_of_run (hbeyond reading) hrun]
    rfl

end Watch

end TaskFleet
