import TaskFleet.Manifest
import TaskFleet.Proofs.Json.Yields
import TaskFleet.Proofs.Task.Written

/-!
# Tasks that are received

Which tasks a document can hold. All that can keep such a task from being read back are its two
durations, since a bare number of seconds is taken without asking how many milliseconds it makes:
`Task.Received.legible` and `countable_of_reads`.
-/

namespace TaskFleet

open Decoder.Yields

/-- The durations of a task that are read back from their text: there are not too many milliseconds
in either. -/
def TaskSpec.Countable (s : TaskSpec) : Prop :=
  s.timeout.millis ≤ Text.max64 ∧ s.retry.backoff.millis ≤ Text.max64

instance (s : TaskSpec) : Decidable s.Countable := inferInstanceAs (Decidable (_ ∧ _))

section Yields

/-- Requirements that were received come back as they were. -/
theorem requirements_yields : Decoder.Yields Requirements.decode fun r =>
    ReadsAs Requirements.toJson Requirements.decode r r := by
  have hnone : ReadsAs ResourceSet.toJson Decode.resourceSet ∅ ∅ := rfl
  refine .ofRecord (.seq (.map ?_ (.fieldD resourceSet hnone)) (.fieldD resourceSet hnone))
  intro requests hrequests limits hlimits
  exact requirements_reads_iff.2 ⟨hrequests, hlimits⟩

/-- A delay that is read comes back as it was if its milliseconds can be counted. -/
theorem duration_reads_self {d : Duration} (hwhole : d = .ofMillis d.millis)
    (hmax : d.millis ≤ Text.max64) : ReadsAs Duration.toJson Decode.duration d d :=
  duration_reads_iff.2 ⟨hmax, hwhole⟩

/-- A retry policy that was received comes back as it was if its back-off can be counted. -/
theorem retry_yields : Decoder.Yields RetryPolicy.decode fun r =>
    r.backoff.millis ≤ Text.max64 → ReadsAs RetryPolicy.toJson RetryPolicy.decode r r := by
  refine .ofRecord (.seq (.map ?_ (.fieldD (natUpTo _) (Nat.zero_le _))) (.fieldD duration rfl))
  intro limit hlimit backoff hwhole hmax
  exact retry_reads_iff.2 ⟨nat_reads_iff.2 ⟨hlimit, rfl⟩, duration_reads_self hwhole hmax⟩

/-- A specification that was received comes back as it was if its durations can be counted. -/
theorem spec_yields : Decoder.Yields TaskSpec.decode fun s =>
    s.Countable → ReadsAs TaskSpec.toJson TaskSpec.decode s s := by
  have hstrings (l : List String) : ReadsAs stringsToJson (Decode.list Decode.string) l l :=
    list_reads_self_iff.2 fun a _ => string_reads_iff.2 rfl
  have hdependencies (l : List Dependency) :
      ReadsAs (fun l => .arr (l.map Dependency.toJson)) (Decode.list Dependency.decode) l l :=
    list_reads_self_iff.2 fun a _ => dependency_reads_iff.2 ⟨rfl, rfl⟩
  refine .ofRecord (.seq (.seq (.seq (.seq (.seq (.seq (.seq (.seq (.seq (.seq (.map ?_
    (.fieldD (any _) trivial)) (.field (any _))) (.fieldD (any _) trivial))
    (.fieldD (any _) trivial)) (.fieldD (any _) trivial)) (.fieldD requirements_yields ?_))
    (.fieldD int32 ?_)) (.fieldD duration rfl)) (.fieldD retry_yields ?_))
    (.fieldD (any _) trivial)) (.fieldD (any _) trivial))
  · intro description _ image _ command _ args _ env _ resources hresources priority hpriority
      timeout hwhole retry hretry dependencies _ labels _ hcountable
    exact spec_reads_iff.2 ⟨hstrings _, hstrings _, hresources, int_reads_iff.2 ⟨hpriority, rfl⟩,
      duration_reads_self hwhole hcountable.1, hretry hcountable.2, hdependencies _, rfl, rfl, rfl,
      rfl⟩
  · rfl
  · decide
  · exact fun _ => rfl

/-- The exit code of a result that was received is in its range. -/
theorem result_yields : Decoder.Yields TaskResult.decode fun r =>
    -2 ^ 31 ≤ r.exitCode ∧ r.exitCode < 2 ^ 31 := by
  refine .ofRecord (.seq (.seq (.map ?_ (.field int32)) (.fieldD (any _) trivial))
    (.fieldD (any _) trivial))
  exact fun _ hexit _ _ _ _ => hexit

/-- The time of a condition that was received is in its range. -/
theorem condition_yields : Decoder.Yields Condition.decode (·.time ≤ Text.max64) := by
  refine .ofRecord (.seq (.seq (.seq (.seq (.map ?_ (.field (any _))) (.field (any _)))
    (.field (any _))) (.field (any _))) (.field (natUpTo _)))
  exact fun _ _ _ _ _ _ _ _ _ htime => htime

/-- A status that was received is legible. -/
theorem status_yields : Decoder.Yields TaskStatus.decode TaskStatus.Legible := by
  refine .ofRecord (.seq (.seq (.seq (.seq (.seq (.seq (.seq (.seq (.seq (.seq (.map ?_
    (.field (any _))) (.fieldD (any _) trivial)) (.fieldD (natUpTo _) (Nat.zero_le _)))
    (.fieldD (option (natUpTo _)) ?_)) (.fieldD (option (natUpTo _)) ?_))
    (.fieldD resourceSet rfl)) (.fieldD (any _) trivial)) (.fieldD (any _) trivial))
    (.fieldD (natUpTo _) (Nat.zero_le _))) (.fieldD (option result_yields) ?_))
    (.fieldD (list condition_yields) ?_))
  · intro phase _ message _ progress hprogress startTime hstart endTime hend used hused agent _
      execution _ attempts hattempts result hexit conditions htimes
    exact ⟨hprogress, hstart, hend, hused, hattempts, hexit, htimes⟩
  · exact fun _ => (nomatch ·)
  · exact fun _ => (nomatch ·)
  · exact fun _ => (nomatch ·)
  · exact fun _ => (nomatch ·)

/-- A task that was received is legible if its durations can be counted. -/
theorem task_yields : Decoder.Yields Task.decode fun t => t.spec.Countable → t.Legible := by
  refine .ofRecord (.seq (.seq (.seq (.seq (.seq (.map ?_ (.field (any _))) (.field spec_yields))
    (.fieldD status_yields legible_initial)) (.fieldD (natUpTo _) (Nat.zero_le _)))
    (.fieldD (any _) trivial)) (.fieldD (natUpTo _) (Nat.zero_le _)))
  intro id _ spec hspec status hstatus version hversion cancelRequested _ createdAt hcreated
    hcountable
  exact ⟨hspec hcountable, hstatus, hversion, hcreated⟩

/-- The specification in a manifest comes back as it was if its durations can be counted. -/
theorem manifest_yields : Decoder.Yields Manifest.decode fun m =>
    m.spec.Countable → ReadsAs TaskSpec.toJson TaskSpec.decode m.spec m.spec := by
  refine .ofRecord (.seq (.seq (.map ?_ (.fieldD (any _) trivial)) (.field (any _)))
    (.field spec_yields))
  exact fun _ _ _ _ _ hspec => hspec

end Yields

namespace Task

/-- Tasks that can be submitted: what is read from a document, and what is made of a manifest. -/
inductive Received : Task → Prop where
  | document {format : DocumentFormat} {v : Json} {t : Task} (hread : decode format v = .ok t) :
      Received t
  | manifest {text : String} {now : Nat} {t : Task} (hnow : now ≤ Text.max64)
      (hread : Manifest.readTask text now = .ok t) : Received t

/-- A task that is received comes back as it was, if its durations do. -/
theorem Received.legible {t : Task} (h : t.Received) (hcountable : t.spec.Countable) :
    t.Legible := by
  cases h with
  | document hread => exact task_yields hread hcountable
  | @manifest text now t hnow hread =>
      obtain ⟨m, hmanifest, htask⟩ := bind_ok_iff.1 hread
      have hspec : m.spec.Countable → ReadsAs TaskSpec.toJson TaskSpec.decode m.spec m.spec := by
        unfold Manifest.read at hmanifest
        split at hmanifest
        · exact nomatch hmanifest
        · rename_i document _
          cases hdecode : Manifest.decode .toml document with
          | error e =>
              rw [hdecode] at hmanifest
              exact nomatch hmanifest
          | ok read =>
              rw [hdecode] at hmanifest
              cases hmanifest
              exact manifest_yields hdecode
      unfold Manifest.toTask at htask
      dsimp only at htask
      split at htask
      · cases htask
        exact ⟨hspec hcountable, legible_initial, Nat.zero_le _, hnow⟩
      · exact nomatch htask

end Task

/-- A task of which the record can be read has durations whose milliseconds can be counted. -/
theorem countable_of_reads {a b : Task} (h : ReadsAs Task.toJson Task.decode a b) :
    a.spec.Countable := by
  obtain ⟨-, hspec, -⟩ := task_reads_iff.1 h
  obtain ⟨-, -, -, -, htimeout, hretry, -⟩ := spec_reads_iff.1 hspec
  exact ⟨(duration_reads_iff.1 htimeout).1, (duration_reads_iff.1 (retry_reads_iff.1 hretry).2).1⟩

end TaskFleet
