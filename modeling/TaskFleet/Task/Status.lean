import TaskFleet.Resource.Set
import TaskFleet.Task.Phase

/-!
# What has become of a task

The observed state of a task. `transition` is the only way to change its phase; it notes each
change in the list of conditions, and the end of the task's life in `endTime`.
-/

namespace TaskFleet

/-- The output of a finished task. -/
structure TaskResult where
  exitCode : Int
  output : Option String
  artifact : Option String
deriving DecidableEq, Repr, Inhabited

/-- A note that is added when a task changes its phase. -/
structure Condition where
  /-- The name of the new phase. -/
  kind : String
  status : Bool
  reason : String
  message : String
  /-- Seconds since 1970. -/
  time : Nat
deriving DecidableEq, Repr

/-- The observed state of a task. -/
structure TaskStatus where
  phase : Phase
  message : String
  /-- Percent done. -/
  progress : Nat
  startTime : Option Nat
  endTime : Option Nat
  /-- What is reserved for the task while it has an agent. -/
  resourcesUsed : ResourceSet
  /-- The agent that holds the task's reservation. -/
  agent : Option String
  /-- The handle of the task's execution. -/
  execution : Option String
  attempts : Nat
  result : Option TaskResult
  conditions : List Condition
deriving DecidableEq, Repr

namespace TaskStatus

/-- The status of a task that nothing has happened to. -/
def initial : TaskStatus where
  phase := .pending
  message := ""
  progress := 0
  startTime := none
  endTime := none
  resourcesUsed := ∅
  agent := none
  execution := none
  attempts := 0
  result := none
  conditions := []

instance : Inhabited TaskStatus := ⟨initial⟩

/-- Notes that a task enters a phase. -/
def note (s : TaskStatus) (phase : Phase) (reason message : String) (now : Nat) : TaskStatus :=
  { s with
    conditions := s.conditions ++ [⟨phase.name, true, reason, message, now⟩]
    endTime := if phase.isTerminal then some now else s.endTime }

/-- Moves to a phase with a message; a change of phase is noted. -/
def transition (s : TaskStatus) (phase : Phase) (reason message : String) (now : Nat) :
    TaskStatus :=
  { if s.phase = phase then s else s.note phase reason message now with phase, message }

section Transition

variable (s : TaskStatus) (p : Phase) (reason message : String) (now : Nat)

@[simp] theorem phase_transition : (s.transition p reason message now).phase = p := rfl

@[simp] theorem progress_transition :
    (s.transition p reason message now).progress = s.progress := by
  unfold transition
  split <;> rfl

@[simp] theorem startTime_transition :
    (s.transition p reason message now).startTime = s.startTime := by
  unfold transition
  split <;> rfl

@[simp] theorem resourcesUsed_transition :
    (s.transition p reason message now).resourcesUsed = s.resourcesUsed := by
  unfold transition
  split <;> rfl

@[simp] theorem agent_transition : (s.transition p reason message now).agent = s.agent := by
  unfold transition
  split <;> rfl

@[simp] theorem execution_transition :
    (s.transition p reason message now).execution = s.execution := by
  unfold transition
  split <;> rfl

@[simp] theorem attempts_transition :
    (s.transition p reason message now).attempts = s.attempts := by
  unfold transition
  split <;> rfl

@[simp] theorem result_transition : (s.transition p reason message now).result = s.result := by
  unfold transition
  split <;> rfl

/-- The end of a task's life is noted when it enters a phase that ends it. -/
theorem endTime_transition :
    (s.transition p reason message now).endTime =
      if s.phase ≠ p ∧ p.isTerminal = true then some now else s.endTime := by
  unfold transition
  by_cases h : s.phase = p
  · simp [h]
  · simp [h, note]

/-- A change of phase is noted with the name of the new phase. -/
theorem conditions_transition :
    (s.transition p reason message now).conditions =
      if s.phase = p then s.conditions
      else s.conditions ++ [⟨p.name, true, reason, message, now⟩] := by
  unfold transition
  by_cases h : s.phase = p
  · simp [h]
  · simp [h, note]

end Transition

/-- Whether two states say the same; a listed zero counts as an absent kind. -/
def same (s t : TaskStatus) : Bool :=
  s.resourcesUsed.same t.resourcesUsed &&
    { s with resourcesUsed := ∅ } == { t with resourcesUsed := ∅ }

@[simp] theorem same_refl (s : TaskStatus) : s.same s = true := by
  simp [same, ResourceSet.same]

/-- States that say the same differ in nothing but how they list what is reserved. -/
theorem rest_of_same {s t : TaskStatus} (h : s.same t = true) :
    { s with resourcesUsed := ∅ } = { t with resourcesUsed := ∅ } :=
  eq_of_beq (Bool.and_eq_true_iff.1 h).2

end TaskStatus

end TaskFleet
