import TaskFleet.Config.Basic
import TaskFleet.Config.Log
import TaskFleet.Placement.Strategy
import TaskFleet.Proofs.Json.Reading

/-!
# What reading a configuration checks

A text is a configuration if it is a document with values of the right types, if its durations can
be read, if the pages of the registry are not empty and if no two agents have one name:
`read_ok_iff`. The names of a strategy and of a format of the log are taken as they are; whether
they are known is found out by whoever uses them (`Strategy.of_name_of_known`,
`LogConfig.format_of_check`).
-/

namespace TaskFleet

namespace Strategy

/-- The names that stand for a strategy. -/
def known : List String :=
  ["first-feasible", "", "bin-packing", "spread", "priority", "priority-aware"]

variable {name : String}

theorem of_name_of_known (h : name ∈ known) : ∃ strategy, ofName name = .ok strategy := by
  unfold ofName
  split
  · exact ⟨_, rfl⟩
  · split
    · exact ⟨_, rfl⟩
    · split
      · exact ⟨_, rfl⟩
      · split
        · exact ⟨_, rfl⟩
        · simp only [known, List.mem_cons, List.not_mem_nil] at h
          tauto

theorem of_name_of_unknown (h : name ∉ known) : ofName name = .error ⟨name⟩ := by
  simp only [known, List.mem_cons, List.not_mem_nil, or_false, not_or] at h
  obtain ⟨hfirst, hempty, hpacking, hspread, hpriority, haware⟩ := h
  simp [ofName, *]

end Strategy

namespace LogConfig

/-- The formats in which the log can be written; the empty one stands for the first. -/
def formats : List String := ["text", "", "json"]

/-- A log that can be set up has a known format. -/
theorem format_of_check {c : LogConfig} (h : c.check = .ok ()) : c.format ∈ formats := by
  unfold check at h
  cases hfilter : checkFilter c.filter with
  | error e =>
      rw [hfilter] at h
      exact nomatch h
  | ok _ =>
      rw [hfilter] at h
      cases hformat : formats.contains c.format with
      | true => exact List.contains_iff_mem.1 hformat
      | false =>
          rw [formats] at hformat
          simp only [bind, Except.bind, hformat] at h
          exact nomatch h

end LogConfig

namespace Config

/-- A configuration with durations that can be read, with pages that are not empty, and with agents
that are told apart by their names. -/
structure Checked (c : Config) : Prop where
  settings : ∃ interval, c.ledger.settings = .ok ⟨interval, c.ledger.pageSize⟩
  delays : ∃ delays, c.lifecycle.delays = .ok delays
  pages : 0 < c.ledger.pageSize
  names : (c.agents.map Observation.name).Nodup

theorem first_repeated_eq_none_iff {seen names : List String} :
    firstRepeated seen names = none ↔ names.Nodup ∧ ∀ name ∈ names, name ∉ seen := by
  induction names generalizing seen with
  | nil => simp [firstRepeated]
  | cons name rest ih =>
      unfold firstRepeated
      by_cases hseen : name ∈ seen
      · simp [hseen]
      · rw [if_neg hseen, ih, List.nodup_cons, List.forall_mem_cons]
        constructor
        · rintro ⟨hnodup, hfresh⟩
          refine ⟨⟨fun hmem => hfresh name hmem List.mem_cons_self, hnodup⟩, hseen, ?_⟩
          exact fun other hother hmem => hfresh other hother (List.mem_cons_of_mem _ hmem)
        · rintro ⟨⟨hnot, hnodup⟩, -, hfresh⟩
          refine ⟨hnodup, fun other hother hmem => ?_⟩
          obtain rfl | hmem := List.mem_cons.1 hmem
          · exact hnot hother
          · exact hfresh other hother hmem

variable {c : Config}

/-- Only the interval of the settings of the ledger has to be read. -/
theorem settings_ok_iff {l : LedgerConfig} {settings : ResyncSettings} :
    l.settings = .ok settings ↔
      ∃ interval, Duration.parse l.resyncInterval = .ok interval ∧
        (⟨interval, l.pageSize⟩ : ResyncSettings) = settings := by
  unfold LedgerConfig.settings
  rw [bind_ok_iff]
  exact exists_congr fun interval => and_congr_right fun _ => iff_of_eq (Except.ok.injEq _ _)

/-- What is checked is what the users of a configuration ask of it. -/
theorem check_ok_iff : c.check = .ok () ↔ c.Checked := by
  unfold check
  simp only [bind_ok_iff, map_error_ok_iff]
  constructor
  · rintro ⟨settings, hsettings, delays, hdelays, hrest⟩
    split at hrest
    · exact nomatch hrest
    · rename_i hpages
      split at hrest
      · exact nomatch hrest
      · rename_i hrepeated
        obtain ⟨interval, -, rfl⟩ := settings_ok_iff.1 hsettings
        exact ⟨⟨interval, hsettings⟩, ⟨delays, hdelays⟩, Nat.pos_of_ne_zero hpages,
          (first_repeated_eq_none_iff.1 hrepeated).1⟩
  · rintro ⟨⟨interval, hsettings⟩, ⟨delays, hdelays⟩, hpages, hnames⟩
    have hrepeated : firstRepeated [] (c.agents.map (·.name)) = none :=
      first_repeated_eq_none_iff.2 ⟨hnames, fun _ _ => List.not_mem_nil⟩
    refine ⟨_, hsettings, delays, hdelays, ?_⟩
    rw [if_neg (Nat.pos_iff_ne_zero.1 hpages), hrepeated]
    rfl

/-- What can be read as a configuration. -/
theorem read_ok_iff {text : String} : read text = .ok c ↔
    ∃ document, Toml.read? text = some document ∧ decode .toml document = .ok c ∧ c.Checked := by
  unfold read
  cases hdocument : Toml.read? text with
  | none => simp
  | some document =>
      dsimp only
      cases hdecode : decode .toml document with
      | error e => simp [hdecode]
      | ok d =>
          dsimp only
          rw [map_eq_ok_iff]
          constructor
          · rintro ⟨⟨⟩, hcheck, rfl⟩
            exact ⟨document, rfl, hdecode, check_ok_iff.1 hcheck⟩
          · rintro ⟨other, hother, hsame, hchecked⟩
            cases hother
            cases hdecode.symm.trans hsame
            exact ⟨(), check_ok_iff.2 hchecked, rfl⟩

end Config

end TaskFleet
