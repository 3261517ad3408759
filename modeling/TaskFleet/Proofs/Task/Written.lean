import TaskFleet.Proofs.Json.Fields

/-!
# Tasks as they are read back

Which task is read back from the record of a task, field by field. What a field holds comes back as
it was if it is in the range of the field's type; only durations and resource sets can change, and
only the first time. A task that comes back as it was is `Legible`, and reading the record of a task
gives nothing else (`task_settles`).
-/

namespace TaskFleet

open Record

section Reading

/-- An id may stand in an object under its name. -/
@[simp] theorem plain_id (id : TaskId) : id.toJson.Plain := plain_obj _

/-- A phase may stand in an object under its name. -/
@[simp] theorem plain_phase (p : Phase) : p.toJson.Plain := plain_str _

/-- A duration may stand in an object under its name. -/
@[simp] theorem plain_duration (d : Duration) : d.toJson.Plain := plain_str _

/-- A resource set may stand in an object under its name. -/
@[simp] theorem plain_resources (s : ResourceSet) : s.toJson.Plain := plain_obj _

/-- A list of texts may stand in an object under its name. -/
@[simp] theorem plain_strings (l : List String) : (stringsToJson l).Plain := plain_arr _

/-- A table of texts may stand in an object under its name. -/
@[simp] theorem plain_texts (d : Dict String String) : (textsToJson d).Plain := plain_obj _

/-- Requirements may stand in an object under their name. -/
@[simp] theorem plain_requirements (r : Requirements) : r.toJson.Plain := plain_obj _

/-- A retry policy may stand in an object under its name. -/
@[simp] theorem plain_retry (r : RetryPolicy) : r.toJson.Plain := plain_obj _

/-- A result may stand in an object under its name. -/
@[simp] theorem plain_result (r : TaskResult) : r.toJson.Plain := plain_obj _

/-- A specification may stand in an object under its name. -/
@[simp] theorem plain_spec (s : TaskSpec) : s.toJson.Plain := plain_obj _

/-- A status may stand in an object under its name. -/
@[simp] theorem plain_status (s : TaskStatus) : s.toJson.Plain := plain_obj _

/-- An id comes back as it was. -/
theorem id_reads_iff {a b : TaskId} :
    ReadsAs TaskId.toJson TaskId.decode a b ↔ a.space = b.space ∧ a.name = b.name := by
  obtain ⟨space, name⟩ := b
  unfold ReadsAs TaskId.toJson TaskId.decode
  rw [decode_obj_ok_iff (by simp [TaskId.record])]
  simp [TaskId.record, occurrences, and_assoc]

/-- Requirements come back as their two sets do. -/
theorem requirements_reads_iff {a b : Requirements} :
    ReadsAs Requirements.toJson Requirements.decode a b ↔
      ReadsAs ResourceSet.toJson Decode.resourceSet a.requests b.requests ∧
        ReadsAs ResourceSet.toJson Decode.resourceSet a.limits b.limits := by
  obtain ⟨requests, limits⟩ := b
  unfold ReadsAs Requirements.toJson Requirements.decode
  rw [decode_obj_ok_iff (by simp [Requirements.record])]
  simp [Requirements.record, occurrences, and_assoc]

/-- A retry policy comes back as its limit and its back-off do. -/
theorem retry_reads_iff {a b : RetryPolicy} :
    ReadsAs RetryPolicy.toJson RetryPolicy.decode a b ↔
      ReadsAs natToJson Decode.nat32 a.limit b.limit ∧
        ReadsAs Duration.toJson Decode.duration a.backoff b.backoff := by
  obtain ⟨limit, backoff⟩ := b
  unfold ReadsAs RetryPolicy.toJson RetryPolicy.decode
  rw [decode_obj_ok_iff (by simp [RetryPolicy.record])]
  simp [RetryPolicy.record, occurrences, and_assoc]

/-- A dependency comes back as it was. -/
theorem dependency_reads_iff {a b : Dependency} :
    ReadsAs Dependency.toJson Dependency.decode a b ↔ a.task = b.task ∧ a.phase = b.phase := by
  obtain ⟨task, phase⟩ := b
  unfold ReadsAs Dependency.toJson Dependency.decode
  rw [decode_obj_ok_iff (by simp [Dependency.record])]
  simp [Dependency.record, occurrences, and_assoc]

/-- A result comes back as its fields do. -/
theorem result_reads_iff {a b : TaskResult} :
    ReadsAs TaskResult.toJson TaskResult.decode a b ↔
      ReadsAs .int Decode.int32 a.exitCode b.exitCode ∧
        ReadsAs (optionToJson .str) (Decode.option Decode.string) a.output b.output ∧
        ReadsAs (optionToJson .str) (Decode.option Decode.string) a.artifact b.artifact := by
  obtain ⟨exitCode, output, artifact⟩ := b
  unfold ReadsAs TaskResult.toJson TaskResult.decode
  rw [decode_obj_ok_iff (by simp [TaskResult.record])]
  simp [TaskResult.record, occurrences, and_assoc]

/-- A condition comes back as its time does. -/
theorem condition_reads_iff {a b : Condition} :
    ReadsAs Condition.toJson Condition.decode a b ↔
      ReadsAs natToJson Decode.nat64 a.time b.time ∧ a.kind = b.kind ∧ a.status = b.status ∧
        a.reason = b.reason ∧ a.message = b.message := by
  obtain ⟨kind, status, reason, message, time⟩ := b
  unfold ReadsAs Condition.toJson Condition.decode
  rw [decode_obj_ok_iff (by simp [Condition.record])]
  simp [Condition.record, occurrences, and_assoc]

/-- A specification comes back as its fields do; those that are texts come back as they were. -/
theorem spec_reads_iff {a b : TaskSpec} :
    ReadsAs TaskSpec.toJson TaskSpec.decode a b ↔
      ReadsAs stringsToJson (Decode.list Decode.string) a.command b.command ∧
        ReadsAs stringsToJson (Decode.list Decode.string) a.args b.args ∧
        ReadsAs Requirements.toJson Requirements.decode a.resources b.resources ∧
        ReadsAs .int Decode.int32 a.priority b.priority ∧
        ReadsAs Duration.toJson Decode.duration a.timeout b.timeout ∧
        ReadsAs RetryPolicy.toJson RetryPolicy.decode a.retry b.retry ∧
        ReadsAs (fun l => .arr (l.map Dependency.toJson)) (Decode.list Dependency.decode)
          a.dependencies b.dependencies ∧
        a.description = b.description ∧ a.image = b.image ∧ a.env = b.env ∧
        a.labels = b.labels := by
  obtain ⟨description, image, command, args, env, resources, priority, timeout, retry,
    dependencies, labels⟩ := b
  unfold ReadsAs TaskSpec.toJson TaskSpec.decode
  rw [decode_obj_ok_iff (by simp [TaskSpec.record])]
  simp [TaskSpec.record, occurrences, and_assoc]

/-- A status comes back as its fields do; the phase and the message come back as they were. -/
theorem status_reads_iff {a b : TaskStatus} :
    ReadsAs TaskStatus.toJson TaskStatus.decode a b ↔
      ReadsAs natToJson Decode.nat8 a.progress b.progress ∧
        ReadsAs (optionToJson natToJson) (Decode.option Decode.nat64) a.startTime b.startTime ∧
        ReadsAs (optionToJson natToJson) (Decode.option Decode.nat64) a.endTime b.endTime ∧
        ReadsAs ResourceSet.toJson Decode.resourceSet a.resourcesUsed b.resourcesUsed ∧
        ReadsAs (optionToJson .str) (Decode.option Decode.string) a.agent b.agent ∧
        ReadsAs (optionToJson .str) (Decode.option Decode.string) a.execution b.execution ∧
        ReadsAs natToJson Decode.nat32 a.attempts b.attempts ∧
        ReadsAs (optionToJson TaskResult.toJson) (Decode.option TaskResult.decode) a.result
          b.result ∧
        ReadsAs (fun l => .arr (l.map Condition.toJson)) (Decode.list Condition.decode) a.conditions
          b.conditions ∧
        a.phase = b.phase ∧ a.message = b.message := by
  obtain ⟨phase, message, progress, startTime, endTime, resourcesUsed, agent, execution, attempts,
    result, conditions⟩ := b
  unfold ReadsAs TaskStatus.toJson TaskStatus.decode
  rw [decode_obj_ok_iff (by simp [TaskStatus.record])]
  simp [TaskStatus.record, occurrences, and_assoc]

/-- A task comes back as its parts do. -/
theorem task_reads_iff {a b : Task} :
    ReadsAs Task.toJson Task.decode a b ↔
      ReadsAs TaskId.toJson TaskId.decode a.id b.id ∧
        ReadsAs TaskSpec.toJson TaskSpec.decode a.spec b.spec ∧
        ReadsAs TaskStatus.toJson TaskStatus.decode a.status b.status ∧
        ReadsAs natToJson Decode.nat64 a.version b.version ∧
        ReadsAs natToJson Decode.nat64 a.createdAt b.createdAt ∧
        a.cancelRequested = b.cancelRequested := by
  obtain ⟨id, spec, status, version, cancelRequested, createdAt⟩ := b
  unfold ReadsAs Task.toJson Task.decode
  rw [decode_obj_ok_iff (by simp [Task.record])]
  simp [Task.record, occurrences, and_assoc]

end Reading

section Settling

/-- A text is not the null value. -/
theorem str_ne_null (s : String) : Json.str s ≠ .null := Json.noConfusion

/-- A number is not the null value. -/
theorem nat_ne_null (n : Nat) : natToJson n ≠ .null := Json.noConfusion

/-- A result is not written as the null value. -/
theorem result_ne_null (r : TaskResult) : r.toJson ≠ .null := Json.noConfusion

/-- Requirements that were read once come back the same. -/
theorem requirements_settles : Settles Requirements.toJson Requirements.decode := by
  intro a b h
  rw [requirements_reads_iff] at h ⊢
  obtain ⟨hrequests, hlimits⟩ := h
  exact ⟨resources_settles hrequests, resources_settles hlimits⟩

/-- A retry policy that was read once comes back the same. -/
theorem retry_settles : Settles RetryPolicy.toJson RetryPolicy.decode := by
  intro a b h
  rw [retry_reads_iff] at h ⊢
  obtain ⟨hlimit, hbackoff⟩ := h
  exact ⟨nat_settles _ hlimit, duration_settles hbackoff⟩

/-- A dependency that was read once comes back the same. -/
theorem dependency_settles : Settles Dependency.toJson Dependency.decode := by
  intro a b h
  rw [dependency_reads_iff]
  exact ⟨rfl, rfl⟩

/-- A result that was read once comes back the same. -/
theorem result_settles : Settles TaskResult.toJson TaskResult.decode := by
  intro a b h
  rw [result_reads_iff] at h ⊢
  obtain ⟨hexit, houtput, hartifact⟩ := h
  have hoption := option_settles str_ne_null string_settles
  exact ⟨int_settles hexit, hoption houtput, hoption hartifact⟩

/-- A condition that was read once comes back the same. -/
theorem condition_settles : Settles Condition.toJson Condition.decode := by
  intro a b h
  rw [condition_reads_iff] at h ⊢
  exact ⟨nat_settles _ h.1, rfl, rfl, rfl, rfl⟩

/-- A specification that was read once comes back the same. -/
theorem spec_settles : Settles TaskSpec.toJson TaskSpec.decode := by
  intro a b h
  rw [spec_reads_iff] at h ⊢
  obtain ⟨hcommand, hargs, hresources, hpriority, htimeout, hretry, hdependencies, -⟩ := h
  exact ⟨list_settles string_settles hcommand, list_settles string_settles hargs,
    requirements_settles hresources, int_settles hpriority, duration_settles htimeout,
    retry_settles hretry, list_settles dependency_settles hdependencies, rfl, rfl, rfl, rfl⟩

/-- A status that was read once comes back the same. -/
theorem status_settles : Settles TaskStatus.toJson TaskStatus.decode := by
  intro a b h
  rw [status_reads_iff] at h ⊢
  obtain ⟨hprogress, hstart, hend, hused, hagent, hexecution, hattempts, hresult, hconditions, -⟩ :=
    h
  have htime := option_settles nat_ne_null (nat_settles Text.max64)
  have htext := option_settles str_ne_null string_settles
  exact ⟨nat_settles _ hprogress, htime hstart, htime hend, resources_settles hused, htext hagent,
    htext hexecution, nat_settles _ hattempts, option_settles result_ne_null result_settles hresult,
    list_settles condition_settles hconditions, rfl, rfl⟩

/-- A task that was read once is read the same from then on. -/
theorem task_settles : Settles Task.toJson Task.decode := by
  intro a b h
  rw [task_reads_iff] at h ⊢
  obtain ⟨-, hspec, hstatus, hversion, hcreated, -⟩ := h
  exact ⟨id_reads_iff.2 ⟨rfl, rfl⟩, spec_settles hspec, status_settles hstatus,
    nat_settles _ hversion, nat_settles _ hcreated, rfl⟩

end Settling

/-- A status that comes back as it was: every number is in the range of its field, and the
resources stand under the names that they are read by. -/
structure TaskStatus.Legible (s : TaskStatus) : Prop where
  progress : s.progress ≤ 255
  startTime : ∀ n ∈ s.startTime, n ≤ Text.max64
  endTime : ∀ n ∈ s.endTime, n ≤ Text.max64
  resources : ReadsAs ResourceSet.toJson Decode.resourceSet s.resourcesUsed s.resourcesUsed
  attempts : s.attempts ≤ Text.max32
  exitCode : ∀ r ∈ s.result, -2 ^ 31 ≤ r.exitCode ∧ r.exitCode < 2 ^ 31
  times : ∀ c ∈ s.conditions, c.time ≤ Text.max64

/-- The status of a task that nothing has happened to is legible. -/
theorem legible_initial : TaskStatus.initial.Legible where
  progress := Nat.zero_le _
  startTime := by simp [TaskStatus.initial]
  endTime := by simp [TaskStatus.initial]
  resources := rfl
  attempts := Nat.zero_le _
  exitCode := by simp [TaskStatus.initial]
  times := by simp [TaskStatus.initial]

/-- A status comes back as it was if and only if it is legible. -/
theorem status_reads_self_iff {s : TaskStatus} :
    ReadsAs TaskStatus.toJson TaskStatus.decode s s ↔ s.Legible := by
  have htext (a : Option String) :
      ReadsAs (optionToJson .str) (Decode.option Decode.string) a a := by
    simp [option_reads_self_iff str_ne_null]
  have htime {a : Option Nat} :
      ReadsAs (optionToJson natToJson) (Decode.option Decode.nat64) a a ↔
        ∀ n ∈ a, n ≤ Text.max64 := by
    simp [option_reads_self_iff nat_ne_null, Decode.nat64, nat_reads_iff]
  have hresult :
      ReadsAs (optionToJson TaskResult.toJson) (Decode.option TaskResult.decode) s.result s.result ↔
        ∀ r ∈ s.result, -2 ^ 31 ≤ r.exitCode ∧ r.exitCode < 2 ^ 31 := by
    simp only [option_reads_self_iff result_ne_null, result_reads_iff, int_reads_iff,
      iff_true_intro (htext _), and_true]
  have hconditions :
      ReadsAs (fun l => .arr (l.map Condition.toJson)) (Decode.list Condition.decode) s.conditions
        s.conditions ↔ ∀ c ∈ s.conditions, c.time ≤ Text.max64 := by
    simp only [list_reads_self_iff, condition_reads_iff, Decode.nat64, nat_reads_iff, and_true]
  rw [status_reads_iff, htime, htime, hresult, hconditions]
  constructor
  · rintro ⟨hprogress, hstart, hend, hused, -, -, hattempts, hexit, htimes, -⟩
    exact ⟨(nat_reads_iff.1 hprogress).1, hstart, hend, hused, (nat_reads_iff.1 hattempts).1, hexit,
      htimes⟩
  · rintro ⟨hprogress, hstart, hend, hused, hattempts, hexit, htimes⟩
    exact ⟨nat_reads_iff.2 ⟨hprogress, rfl⟩, hstart, hend, hused, htext _, htext _,
      nat_reads_iff.2 ⟨hattempts, rfl⟩, hexit, htimes, rfl, rfl⟩

/-- A task whose record is read as the task itself. -/
structure Task.Legible (t : Task) : Prop where
  spec : ReadsAs TaskSpec.toJson TaskSpec.decode t.spec t.spec
  status : t.status.Legible
  version : t.version ≤ Text.max64
  createdAt : t.createdAt ≤ Text.max64

/-- A task comes back as it was if and only if it is legible. -/
theorem task_reads_self_iff {t : Task} : ReadsAs Task.toJson Task.decode t t ↔ t.Legible := by
  rw [task_reads_iff, status_reads_self_iff]
  constructor
  · rintro ⟨-, hspec, hstatus, hversion, hcreated, -⟩
    exact ⟨hspec, hstatus, (nat_reads_iff.1 hversion).1, (nat_reads_iff.1 hcreated).1⟩
  · rintro ⟨hspec, hstatus, hversion, hcreated⟩
    exact ⟨id_reads_iff.2 ⟨rfl, rfl⟩, hspec, hstatus, nat_reads_iff.2 ⟨hversion, rfl⟩,
      nat_reads_iff.2 ⟨hcreated, rfl⟩, rfl⟩

/-- What a task that comes back as it was asks for comes back as it was. -/
theorem Task.Legible.requirement {t : Task} (h : t.Legible) :
    ReadsAs ResourceSet.toJson Decode.resourceSet t.requirement t.requirement := by
  obtain ⟨-, -, hresources, -⟩ := spec_reads_iff.1 h.spec
  obtain ⟨hrequests, hlimits⟩ := requirements_reads_iff.1 hresources
  unfold Task.requirement Requirements.effective
  by_cases hlisted : t.spec.resources.hasLimits = true
  · rw [if_pos hlisted]
    exact hlimits
  · rw [if_neg hlisted]
    exact hrequests

end TaskFleet
