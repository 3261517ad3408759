import TaskFleet.Daemon
import TaskFleet.Lifecycle.Cancel
import TaskFleet.Proofs.Task.Written

/-!
# Revisions of a task

Every change that the lifecycle makes to the record of a task, with what is known of the task when
it is made: `Revision now t next` says that `next` can be written in place of `t` at the second
`now`. What holds of all tasks is proved over these revisions, and that the lifecycle makes no other
is proved once, over its code.
-/

namespace TaskFleet

/-- A report whose numbers are in the range of their types. -/
structure ExecutionStatus.InRange (s : ExecutionStatus) : Prop where
  attempts : s.attempts ≤ Text.max32
  exitCode : ∀ c ∈ s.exitCode, -2 ^ 31 ≤ c ∧ c < 2 ^ 31

/-- `Revision now t next` says that the lifecycle can write `next` in place of `t` at the second
`now`. -/
inductive Revision (now : Nat) (t : Task) : Task → Prop where
  | remark (message : String) : Revision now t (t.withMessage message)
  | flag : Revision now t { t with cancelRequested := true }
  | reject (message : String) (hagent : t.status.agent = none) (hinvalid : t.validate ≠ .ok ()) :
      Revision now t (t.transition .failed "ValidationFailed" message now)
  | place (agent message : String) (hagent : t.status.agent = none) :
      Revision now t ({ t with
        status.agent := some agent
        status.resourcesUsed := t.requirement }.transition .scheduled "Scheduled" message now)
  | lose (agent message : String) (hagent : t.status.agent = some agent)
      (hexecution : t.status.execution = none) :
      Revision now t ({ t with
        status.agent := none
        status.resourcesUsed := ∅ }.transition .pending "AgentLost" message now)
  | handOff (agent handle message : String) (hagent : t.status.agent = some agent)
      (hexecution : t.status.execution = none) :
      Revision now t { t with
        status.execution := some handle
        status.startTime := some now
        status.message := message }
  | observe (agent handle : String) (report : ExecutionStatus)
      (hagent : t.status.agent = some agent) (hexecution : t.status.execution = some handle)
      (hreport : report.InRange) :
      Revision now t { t with status := deriveStatus t report now }
  | expire (agent handle message : String) (hagent : t.status.agent = some agent)
      (hexecution : t.status.execution = some handle) :
      Revision now t (t.transition .failed "Timeout" message now)
  | cancel (message : String) (hrequested : t.cancelRequested = true) :
      Revision now t (t.transition .cancelled "Cancelled" message now)
  | forfeit (agent : String) (hagent : t.status.agent = some agent) :
      Revision now t (t.forfeit agent now)

variable {now : Nat} {t next : Task}

/-- A revision keeps the id, what is asked for, and the version that was read. -/
theorem Revision.keeps (h : Revision now t next) :
    next.id = t.id ∧ next.version = t.version ∧ next.spec = t.spec ∧
      next.createdAt = t.createdAt := by
  cases h with
  | forfeit agent hagent =>
      unfold Task.forfeit
      dsimp only
      split <;> exact ⟨rfl, rfl, rfl, rfl⟩
  | _ => exact ⟨rfl, rfl, rfl, rfl⟩

section Legible

variable {s : TaskStatus}

theorem TaskStatus.Legible.transition (h : s.Legible) (phase : Phase) (reason message : String)
    (hnow : now ≤ Text.max64) : (s.transition phase reason message now).Legible := by
  unfold TaskStatus.transition
  by_cases hphase : s.phase = phase
  · rw [if_pos hphase]
    exact ⟨h.progress, h.startTime, h.endTime, h.resources, h.attempts, h.exitCode, h.times⟩
  · rw [if_neg hphase]
    refine ⟨h.progress, h.startTime, ?_, h.resources, h.attempts, h.exitCode, ?_⟩
    · intro n hn
      have hend : n ∈ if phase.isTerminal then some now else s.endTime := hn
      cases hterminal : phase.isTerminal with
      | true =>
          rw [hterminal, if_pos rfl] at hend
          cases hend
          exact hnow
      | false =>
          rw [hterminal] at hend
          exact h.endTime n hend
    · intro c hc
      rcases List.mem_append.1 hc with hc | hc
      · exact h.times c hc
      · rw [List.mem_singleton.1 hc]
        exact hnow

/-- No progress is reported above a hundred percent. -/
theorem progress_le (report : ExecutionStatus) : report.progress ≤ 100 := by
  have htext (text : String) : ExecutionStatus.progressOfText text ≤ 100 := by
    unfold ExecutionStatus.progressOfText
    split
    · exact Nat.min_le_right _ _
    · exact Nat.zero_le _
  unfold ExecutionStatus.progress
  cases report.annotations.find? ExecutionStatus.progressKey with
  | none => exact Nat.zero_le _
  | some text => exact htext text

theorem legible_derive_status {report : ExecutionStatus} (h : t.status.Legible)
    (hreport : report.InRange) (hnow : now ≤ Text.max64) :
    (deriveStatus t report now).Legible := by
  have hattempts : { t.status with attempts := report.attempts }.Legible :=
    ⟨h.progress, h.startTime, h.endTime, h.resources, hreport.attempts, h.exitCode, h.times⟩
  have hresult (code : Int) (hcode : -2 ^ 31 ≤ code ∧ code < 2 ^ 31) :
      ∀ r ∈ some (report.result code), -2 ^ 31 ≤ r.exitCode ∧ r.exitCode < 2 ^ 31 := by
    intro r hr
    cases hr
    show -2 ^ 31 ≤ report.exitCode.getD code ∧ report.exitCode.getD code < 2 ^ 31
    cases hexit : report.exitCode with
    | none => exact hcode
    | some c => exact hreport.exitCode c hexit
  unfold deriveStatus
  dsimp only
  cases report.state with
  | pending => exact hattempts.transition _ _ _ hnow
  | running =>
      have hnext := hattempts.transition .running "Started" (report.messageOr "running") hnow
      have hprogress := progress_le report
      exact { hnext with progress := by show report.progress ≤ 255; omega }
  | succeeded =>
      have hnext := hattempts.transition .completed "Succeeded" (report.messageOr "finished") hnow
      have hdone : 100 ≤ 255 := by decide
      exact { hnext with progress := hdone, exitCode := hresult 0 (by decide) }
  | failed =>
      have hnext :=
        hattempts.transition .failed "ExecutionFailed" (failureMessage t report) hnow
      exact { hnext with exitCode := hresult 1 (by decide) }

/-- A revision of a task that comes back as it was comes back as it was. -/
theorem Revision.legible (h : Revision now t next) (ht : t.Legible) (hnow : now ≤ Text.max64) :
    next.Legible := by
  obtain ⟨-, hversion, hspec, hcreated⟩ := h.keeps
  have hs := ht.status
  have hnone : { t.status with agent := none, resourcesUsed := ∅ }.Legible :=
    ⟨hs.progress, hs.startTime, hs.endTime, rfl, hs.attempts, hs.exitCode, hs.times⟩
  refine ⟨hspec ▸ ht.spec, ?_, hversion ▸ ht.version, hcreated ▸ ht.createdAt⟩
  cases h with
  | remark message =>
      exact ⟨hs.progress, hs.startTime, hs.endTime, hs.resources, hs.attempts, hs.exitCode,
        hs.times⟩
  | flag => exact hs
  | reject message => exact hs.transition _ _ _ hnow
  | place agent message =>
      have hplaced : { t.status with
          agent := some agent, resourcesUsed := t.requirement }.Legible :=
        ⟨hs.progress, hs.startTime, hs.endTime, ht.requirement, hs.attempts, hs.exitCode, hs.times⟩
      exact hplaced.transition _ _ _ hnow
  | lose agent message => exact hnone.transition _ _ _ hnow
  | handOff agent handle message =>
      refine ⟨hs.progress, ?_, hs.endTime, hs.resources, hs.attempts, hs.exitCode, hs.times⟩
      intro n hn
      cases hn
      exact hnow
  | observe agent handle report _ _ hreport => exact legible_derive_status hs hreport hnow
  | expire agent handle message => exact hs.transition _ _ _ hnow
  | cancel message => exact hs.transition _ _ _ hnow
  | forfeit agent =>
      unfold Task.forfeit
      dsimp only
      split
      · exact ⟨hs.progress, hs.startTime, hs.endTime, rfl, hs.attempts, hs.exitCode, hs.times⟩
      · exact hnone.transition _ _ _ hnow

end Legible

end TaskFleet
