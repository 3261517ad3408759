import TaskFleet.Proofs.Spool.Markers

/-!
# Importing manifests

What one scan of the spool makes of the manifests in it, told by its visits (`Visit`): each file is
visited once and in the order of the names, and what becomes of it depends on the database and on
the visits before (`Created`); it gets another name and keeps its bytes (`Renamed`). Both are kept
by every visit. `looked_at_once` puts them together and adds that no manifest is left, so that
another scan does nothing.
-/

namespace TaskFleet.Spool

open Text (Bytes)

/-! ## Manifests and what they describe -/

/-- The name of a manifest: `*.toml`, with something in front of the dot. -/
def IsManifestName (name : String) : Prop :=
  ∃ stem, stem ≠ [] ∧ name.toList = stem ++ ".toml".toList

theorem is_manifest_name_iff {name : String} :
    IsManifestName name ↔ extension? name = some "toml" := by
  rw [extension_eq_some_iff, and_iff_right (by decide)]
  rfl

/-- A manifest describes a task, as it is stored: it is a text that can be read, and its task can be
run. -/
def Describes (now : Nat) (bytes : Bytes) (t : Task) : Prop :=
  ∃ text m, Text.decode? bytes = some text ∧ Manifest.read text = .ok m ∧
    (Task.new ⟨m.space, m.name⟩ m.spec now).validate = .ok () ∧
    t = { Task.new ⟨m.space, m.name⟩ m.spec now with version := 1 }

/-- What is described waits to be run. -/
theorem Describes.pending {now : Nat} {bytes : Bytes} {t : Task} (h : Describes now bytes t) :
    t.phase = .pending ∧ t.version = 1 := by
  obtain ⟨text, m, -, -, -, rfl⟩ := h
  exact ⟨rfl, rfl⟩

/-- A task is created exactly if the manifest describes it and there is none under its key. -/
theorem import_file_eq_some_iff {s s' : StateStore} {bytes : Bytes} {now : Nat} {t : Task} :
    importFile s bytes now = some (s', t) ↔
      Describes now bytes t ∧ s.tasks.find? t.id.key = none ∧ s' = s.store t := by
  simp only [importFile, Option.bind_eq_bind, Option.bind_eq_some_iff,
    TaskStore.to_option_eq_some_iff, StateStore.create_task_ok_iff]
  constructor
  · rintro ⟨read, hread, hnew, rfl, rfl⟩
    unfold Manifest.readFile at hread
    split at hread
    · exact nomatch hread
    · rename_i text htext
      obtain ⟨m, hm, htask⟩ := bind_ok_iff.1 hread
      obtain ⟨rfl, hvalid⟩ := Manifest.to_task_ok_iff.1 htask
      exact ⟨⟨text, m, htext, hm, hvalid, rfl⟩, hnew, rfl⟩
  · rintro ⟨⟨text, m, htext, hm, hvalid, rfl⟩, hnew, rfl⟩
    refine ⟨.new ⟨m.space, m.name⟩ m.spec now, ?_, hnew, rfl, rfl⟩
    rw [Manifest.readFile, htext]
    exact bind_ok_iff.2 ⟨m, hm, Manifest.to_task_ok_iff.2 ⟨rfl, hvalid⟩⟩

/-- What may be added to the name of a manifest. -/
def verdicts : List String := ["imported", "rejected"]

/-- What has become of a manifest: the file and the task that was created from it, if there was
one. -/
structure Visit where
  name : String
  bytes : Bytes
  created : Option Task

namespace Visit

/-- The file as the scan has found it. -/
def file (v : Visit) : String × Bytes :=
  (v.name, v.bytes)

/-- What is added to the name of the file. -/
def verdict (v : Visit) : String :=
  if v.created.isSome then "imported" else "rejected"

theorem verdict_mem (v : Visit) : v.verdict ∈ verdicts := by
  unfold verdict verdicts
  split
  · simp
  · simp

/-- The name of the file afterwards. -/
def target (v : Visit) : String :=
  v.name ++ "." ++ v.verdict

theorem extension_target {v : Visit} (h : IsManifestName v.name) :
    extension? v.target = some v.verdict := by
  obtain ⟨stem, hstem, hname⟩ := h
  have hdot : ∀ verdict ∈ verdicts, '.' ∉ verdict.toList := by decide
  refine extension_eq_some_iff.2 ⟨hdot _ v.verdict_mem, v.name.toList, ?_, ?_⟩
  · simp [hname]
  · simp [target]

/-- Afterwards a file is no manifest any more. -/
theorem not_manifest_target {v : Visit} (h : IsManifestName v.name) :
    ¬ IsManifestName v.target := by
  have htoml : ∀ verdict ∈ verdicts, verdict ≠ "toml" := by decide
  rw [is_manifest_name_iff, extension_target h, Option.some.injEq]
  exact htoml _ v.verdict_mem

/-- Different manifests get different names. -/
theorem name_of_target {u v : Visit} (hu : IsManifestName u.name) (hv : IsManifestName v.name)
    (h : u.target = v.target) : u.name = v.name := by
  have hverdict : u.verdict = v.verdict := by
    rw [← Option.some.injEq, ← extension_target hu, ← extension_target hv, h]
  have hchars : u.name.toList ++ '.' :: u.verdict.toList =
      v.name.toList ++ '.' :: v.verdict.toList := by
    simpa [target] using congrArg String.toList h
  rw [hverdict] at hchars
  exact String.toList_inj.1 (List.append_cancel_right hchars)

end Visit

/-! ## The directory -/

/-- A directory in which every manifest can be renamed: all its entries are files, and no name is
too long for what is added to it. -/
structure Renamable (d : Directory) : Prop where
  regular : ∀ name isEmpty, d.find? name ≠ some (.directory isEmpty)
  named : ∀ name, IsManifestName name → d.contains name = true →
    ∀ verdict ∈ verdicts, isFileName (name ++ "." ++ verdict) = true

theorem renamable_iff {d : Directory} :
    Renamable d ↔ ∀ e ∈ d.entries, e.2.isFile = true ∧ (extension? e.1 = some "toml" →
      ∀ verdict ∈ verdicts, isFileName (e.1 ++ "." ++ verdict) = true) := by
  constructor
  · rintro h ⟨name, e⟩ hmem
    have hfind : d.find? name = some e := Dict.mem_entries_iff.1 hmem
    refine ⟨?_, fun hextension => ?_⟩
    · cases e with
      | file bytes => rfl
      | directory isEmpty => exact absurd hfind (h.regular name isEmpty)
    · exact h.named name (is_manifest_name_iff.2 hextension) (by simp [Dict.contains, hfind])
  · intro h
    refine ⟨fun name isEmpty hfind => ?_, fun name hname hcontains => ?_⟩
    · exact Bool.false_ne_true (h _ (Dict.mem_entries_iff.2 hfind)).1
    · obtain ⟨e, hfind⟩ := Option.isSome_iff_exists.1 hcontains
      exact (h _ (Dict.mem_entries_iff.2 hfind)).2 (is_manifest_name_iff.1 hname)

instance (d : Directory) : Decidable (Renamable d) :=
  decidable_of_iff' _ renamable_iff

/-- A file that is marked has its new name only. Nothing else changes, unless it had that name. -/
theorem find_mark {d : Directory} {name suffix : String} {bytes : Bytes}
    (hfree : ∀ isEmpty, d.find? (name ++ "." ++ suffix) ≠ some (.directory isEmpty))
    (hfile : d.find? name = some (.file bytes))
    (hname : isFileName (name ++ "." ++ suffix) = true) (other : String) :
    (mark d name suffix).find? other =
      if other = name ++ "." ++ suffix then some (.file bytes)
      else if other = name then none else d.find? other := by
  have hrename : d.rename? name (name ++ "." ++ suffix) =
      some ((d.erase name).insert (name ++ "." ++ suffix) (.file bytes)) := by
    simp [Directory.rename?, hfile, hname, Entry.file_may_replace hfree]
  rw [mark, hrename, Option.getD_some, Dict.find?_insert, Dict.find?_erase]

/-- What visits have made of a directory. -/
structure Renamed (d : Directory) (visits : List Visit) (d' : Directory) : Prop where
  kept : ∀ v ∈ visits, d'.find? v.target = some (.file v.bytes)
  gone : ∀ v ∈ visits, d'.find? v.name = none
  untouched : ∀ name, (∀ v ∈ visits, name ≠ v.name ∧ name ≠ v.target) →
    d'.find? name = d.find? name

namespace Renamed

variable {d d' : Directory} {visits : List Visit}

/-- Visits make no directories. -/
theorem regular (h : Renamed d visits d')
    (hd : ∀ name isEmpty, d.find? name ≠ some (.directory isEmpty)) (name : String)
    (isEmpty : Bool) : d'.find? name ≠ some (.directory isEmpty) := by
  by_cases hvisited : ∃ v ∈ visits, name = v.name ∨ name = v.target
  · obtain ⟨v, hv, rfl | rfl⟩ := hvisited
    · simp [h.gone v hv]
    · simp [h.kept v hv]
  · push Not at hvisited
    rw [h.untouched name hvisited]
    exact hd name isEmpty

/-- One more visit renames one more file. -/
theorem snoc (h : Renamed d visits d')
    (hd : ∀ name isEmpty, d.find? name ≠ some (.directory isEmpty)) {v : Visit}
    (hv : IsManifestName v.name) (hfile : d.find? v.name = some (.file v.bytes))
    (htarget : isFileName v.target = true)
    (hvisits : ∀ u ∈ visits, IsManifestName u.name ∧ u.name ≠ v.name) :
    Renamed d (visits ++ [v]) (mark d' v.name v.verdict) := by
  have hapart {u : Visit} (hu : IsManifestName u.name) {w : Visit} (hw : IsManifestName w.name) :
      u.name ≠ w.target :=
    fun hname => Visit.not_manifest_target hw (hname ▸ hu)
  have hbefore : d'.find? v.name = some (.file v.bytes) := by
    rw [h.untouched v.name fun u hu => ⟨(hvisits u hu).2.symm, hapart hv (hvisits u hu).1⟩, hfile]
  have hmark (name : String) : (mark d' v.name v.verdict).find? name =
      if name = v.target then some (.file v.bytes)
      else if name = v.name then none else d'.find? name :=
    find_mark (h.regular hd _) hbefore htarget name
  refine ⟨List.forall_mem_append.2 ⟨fun u hu => ?_, List.forall_mem_singleton.2 ?_⟩,
    List.forall_mem_append.2 ⟨fun u hu => ?_, List.forall_mem_singleton.2 ?_⟩, fun name hname => ?_⟩
  · obtain ⟨hmanifest, hnew⟩ := hvisits u hu
    rw [hmark, if_neg fun hname => hnew (Visit.name_of_target hmanifest hv hname),
      if_neg (hapart hv hmanifest).symm, h.kept u hu]
  · rw [hmark, if_pos rfl]
  · obtain ⟨hmanifest, hnew⟩ := hvisits u hu
    rw [hmark, if_neg (hapart hmanifest hv), if_neg hnew, h.gone u hu]
  · rw [hmark, if_neg (hapart hv hv), if_pos rfl]
  · obtain ⟨hother, hself⟩ := List.forall_mem_append.1 hname
    obtain ⟨hname, htarget⟩ := List.forall_mem_singleton.1 hself
    rw [hmark, if_neg htarget, if_neg hname, h.untouched name hother]

end Renamed

/-! ## The database -/

/-- What visits have made of a database. A task is created exactly if the manifest describes it and
its key was neither there before nor came with an earlier visit. -/
structure Created (now : Nat) (s : StateStore) (visits : List Visit) (s' : StateStore) : Prop where
  exactly : ∀ before v after, visits = before ++ v :: after → ∀ t, v.created = some t ↔
    Describes now v.bytes t ∧ s.tasks.find? t.id.key = none ∧
      ∀ u ∈ before, ∀ t' ∈ u.created, t'.id.key ≠ t.id.key
  tasks : ∀ key record, s'.tasks.find? key = some record ↔ s.tasks.find? key = some record ∨
    ∃ v ∈ visits, ∃ t ∈ v.created, t.id.key = key ∧ t.toJson = record
  agents : s'.agents = s.agents

namespace Created

variable {now : Nat} {s s' : StateStore} {visits : List Visit}

theorem find_eq_none_iff (h : Created now s visits s') {key : String} :
    s'.tasks.find? key = none ↔ s.tasks.find? key = none ∧
      ∀ v ∈ visits, ∀ t ∈ v.created, t.id.key ≠ key := by
  simp only [Option.eq_none_iff_forall_ne_some, ne_eq, h.tasks]
  constructor
  · intro hnone
    exact ⟨fun record hold => hnone record (.inl hold),
      fun v hv t ht hkey => hnone t.toJson (.inr ⟨v, hv, t, ht, hkey, rfl⟩)⟩
  · rintro ⟨hold, hcreated⟩ record (hrecord | ⟨v, hv, t, ht, hkey, -⟩)
    · exact hold record hrecord
    · exact hcreated v hv t ht hkey

/-- One more visit creates a task if it can. -/
theorem snoc (h : Created now s visits s') {v : Visit}
    (hv : ∀ t, v.created = some t ↔
      Describes now v.bytes t ∧ s'.tasks.find? t.id.key = none) :
    Created now s (visits ++ [v]) (v.created.elim s' s'.store) where
  exactly := by
    intro before u after hsplit t
    obtain rfl | ⟨init, last, rfl⟩ := after.eq_nil_or_concat
    · obtain ⟨rfl, hlast⟩ := List.append_inj' hsplit rfl
      cases hlast
      rw [hv, h.find_eq_none_iff]
    · have hlast : visits ++ [v] = (before ++ u :: init) ++ [last] := by simpa using hsplit
      obtain ⟨hinit, -⟩ := List.append_inj' hlast rfl
      exact h.exactly before u init hinit t
  tasks := by
    intro key record
    cases hcreated : v.created with
    | none => simp [h.tasks, hcreated]
    | some t =>
        have hnew := ((hv t).1 hcreated).2
        have hstore : (s'.store t).tasks.find? key =
            if key = t.id.key then some t.toJson else s'.tasks.find? key :=
          Dict.find?_insert ..
        have hvisit :
            (∃ w ∈ visits ++ [v], ∃ t' ∈ w.created, t'.id.key = key ∧ t'.toJson = record) ↔
            (∃ w ∈ visits, ∃ t' ∈ w.created, t'.id.key = key ∧ t'.toJson = record) ∨
              t.id.key = key ∧ t.toJson = record := by
          simp [or_and_right, exists_or, hcreated]
        rw [Option.elim_some, hstore, hvisit, ← or_assoc, ← h.tasks]
        by_cases hkey : key = t.id.key
        · rw [if_pos hkey, hkey, hnew]
          simp
        · rw [if_neg hkey]
          simp [Ne.symm hkey]
  agents := by
    rw [← h.agents]
    cases v.created with
    | none => rfl
    | some t => rfl

end Created

/-! ## The scan -/

/-- The visit of a manifest. -/
def Import.visit (now : Nat) (i : Import) (file : String × Bytes) : Visit :=
  ⟨file.1, file.2, (importFile i.state file.2 now).map Prod.snd⟩

theorem Import.visit_created_iff {now : Nat} {i : Import} {file : String × Bytes} {t : Task} :
    (i.visit now file).created = some t ↔
      Describes now file.2 t ∧ i.state.tasks.find? t.id.key = none := by
  simp only [visit, Option.map_eq_some_iff, Prod.exists, exists_eq_right, import_file_eq_some_iff,
    ← and_assoc, exists_eq_right]

/-- A step of the scan is what its visit says. -/
theorem Import.step_eq (now : Nat) (i : Import) (file : String × Bytes) :
    i.step now file =
      ⟨mark i.directory file.1 (i.visit now file).verdict,
        (i.visit now file).created.elim i.state i.state.store,
        ((i.visit now file).created.map (·.id)).toList ++ i.created⟩ := by
  unfold step visit Visit.verdict
  cases himport : importFile i.state file.2 now with
  | none => rfl
  | some r =>
      obtain ⟨state, t⟩ := r
      obtain ⟨-, -, rfl⟩ := import_file_eq_some_iff.1 himport
      rfl

/-- The visits of a scan are those of the manifests. -/
theorem mem_manifests_iff {d : Directory} {visits : List Visit}
    (hfiles : visits.map Visit.file = d.filesWith "toml") {name : String} {bytes : Bytes} :
    (∃ v ∈ visits, v.name = name ∧ v.bytes = bytes) ↔
      IsManifestName name ∧ d.find? name = some (.file bytes) := by
  rw [is_manifest_name_iff, and_comm, ← Directory.mem_files_with, ← hfiles]
  simp [Visit.file]

/-- What a scan has done after some visits. -/
structure Visited (now : Nat) (d : Directory) (s : StateStore) (visits : List Visit)
    (i : Import) : Prop where
  renamed : Renamed d visits i.directory
  created : Created now s visits i.state
  returned : i.created.reverse = visits.filterMap fun v => v.created.map (·.id)

namespace Visited

variable {now : Nat} {d : Directory} {s : StateStore} {visits : List Visit} {i : Import}

theorem start (now : Nat) (d : Directory) (s : StateStore) : Visited now d s [] ⟨d, s, []⟩ where
  renamed := ⟨by simp, by simp, fun _ _ => rfl⟩
  created := ⟨by simp, by simp, rfl⟩
  returned := rfl

/-- A step of the scan is one more visit. -/
theorem step (h : Visited now d s visits i) (hd : Renamable d) {file : String × Bytes}
    (hfile : file ∈ d.filesWith "toml")
    (hvisits : ∀ v ∈ visits, v.file ∈ d.filesWith "toml" ∧ v.name ≠ file.1) :
    Visited now d s (visits ++ [i.visit now file]) (i.step now file) := by
  obtain ⟨hfind, hextension⟩ := Directory.mem_files_with.1 hfile
  have hmanifest := is_manifest_name_iff.2 hextension
  have htarget : isFileName (i.visit now file).target = true :=
    hd.named file.1 hmanifest (by simp [Dict.contains, hfind]) _ (Visit.verdict_mem _)
  rw [Import.step_eq]
  refine ⟨h.renamed.snoc hd.regular hmanifest hfind htarget fun v hv => ?_,
    h.created.snoc fun t => Import.visit_created_iff, ?_⟩
  · obtain ⟨hmem, hnew⟩ := hvisits v hv
    exact ⟨is_manifest_name_iff.2 (Directory.mem_files_with.1 hmem).2, hnew⟩
  · rw [List.filterMap_append, ← h.returned]
    cases hcreated : (i.visit now file).created with
    | none => simp [hcreated]
    | some t => simp [hcreated]

/-- The scan visits the manifests one after the other. -/
theorem run (hd : Renamable d) (files : List (String × Bytes)) (h : Visited now d s visits i)
    (hfiles : visits.map Visit.file ++ files = d.filesWith "toml") :
    ∃ all, all.map Visit.file = d.filesWith "toml" ∧
      Visited now d s all (files.foldl (Import.step now) i) := by
  induction files generalizing visits i with
  | nil => exact ⟨visits, by simpa using hfiles, h⟩
  | cons file rest ih =>
      have hnames := d.nodup_files_with "toml"
      rw [← hfiles] at hnames
      refine ih (h.step hd (hfiles ▸ by simp) fun v hv => ⟨hfiles ▸ ?_, ?_⟩)
        (by simpa [Visit.file, Import.visit] using hfiles)
      · exact List.mem_append_left _ (List.mem_map_of_mem hv)
      · rw [List.map_append] at hnames
        exact (List.nodup_append.1 hnames).2.2 v.name
          (List.mem_map_of_mem (List.mem_map_of_mem hv)) file.1 (by simp)

/-- When all manifests have been visited, none is left. -/
theorem none_left (h : Visited now d s visits i) (hd : Renamable d)
    (hfiles : visits.map Visit.file = d.filesWith "toml") (name : String)
    (hname : IsManifestName name) : i.directory.find? name = none := by
  by_cases hvisited : ∃ v ∈ visits, v.name = name
  · obtain ⟨v, hv, rfl⟩ := hvisited
    exact h.renamed.gone v hv
  · have hother : ∀ v ∈ visits, name ≠ v.name ∧ name ≠ v.target := by
      intro v hv
      have hmanifest := ((mem_manifests_iff hfiles).1 ⟨v, hv, rfl, rfl⟩).1
      exact ⟨fun heq => hvisited ⟨v, hv, heq.symm⟩,
        fun heq => Visit.not_manifest_target hmanifest (heq ▸ hname)⟩
    rw [h.renamed.untouched name hother]
    cases hfind : d.find? name with
    | none => rfl
    | some e =>
        cases e with
        | directory isEmpty => exact absurd hfind (hd.regular name isEmpty)
        | file bytes =>
            obtain ⟨v, hv, hv', -⟩ := (mem_manifests_iff hfiles).2 ⟨hname, hfind⟩
            exact absurd ⟨v, hv, hv'⟩ hvisited

end Visited

/-- What one scan makes of a directory and a database. -/
structure Scanned (now : Nat) (d : Directory) (s : StateStore) (visits : List Visit)
    (d' : Directory) (s' : StateStore) (ids : List TaskId) : Prop where
  in_order : visits.Pairwise fun u v => u.name < v.name
  manifests : ∀ name bytes, (∃ v ∈ visits, v.name = name ∧ v.bytes = bytes) ↔
    IsManifestName name ∧ d.find? name = some (.file bytes)
  created : Created now s visits s'
  pending : ∀ v ∈ visits, ∀ t ∈ v.created, t.phase = .pending ∧ t.version = 1
  returned : ids = visits.filterMap fun v => v.created.map (·.id)
  renamed : Renamed d visits d'
  none_left : ∀ name, IsManifestName name → d'.find? name = none

/-- Without manifests a scan does nothing. -/
theorem import_all_of_none {d : Directory} (h : ∀ name, IsManifestName name → d.find? name = none)
    (s : StateStore) (now : Nat) : importAll d s now = (d, s, []) := by
  have hfiles : d.filesWith "toml" = [] := by
    rw [List.eq_nil_iff_forall_not_mem]
    rintro ⟨name, bytes⟩ hmem
    obtain ⟨hfind, hextension⟩ := Directory.mem_files_with.1 hmem
    rw [h name (is_manifest_name_iff.2 hextension)] at hfind
    exact nomatch hfind
  simp only [importAll, hfiles, List.foldl_nil, List.reverse_nil]

/-- A scan visits the manifests in the order of their names and creates the tasks that they describe
and whose keys are new. It gives the ids of these tasks in order and renames each manifest for what
has become of it. Another scan after it does nothing. -/
theorem looked_at_once {d : Directory} (hd : Renamable d) (s : StateStore) (now : Nat) :
    ∃ visits d' s' ids, importAll d s now = (d', s', ids) ∧
      Scanned now d s visits d' s' ids ∧ ∀ later, importAll d' s' later = (d', s', []) := by
  obtain ⟨visits, hfiles, hvisited⟩ := (Visited.start now d s).run hd (d.filesWith "toml") rfl
  have hnone := hvisited.none_left hd hfiles
  refine ⟨visits, _, _, _, rfl, ?_, import_all_of_none hnone _⟩
  refine ⟨?_, fun _ _ => mem_manifests_iff hfiles, hvisited.created, ?_, hvisited.returned,
    hvisited.renamed, hnone⟩
  · have horder := d.pairwise_files_with "toml"
    rw [← hfiles, List.map_map, List.pairwise_map] at horder
    exact horder
  · intro v hv t ht
    obtain ⟨before, after, rfl⟩ := List.append_of_mem hv
    exact ((hvisited.created.exactly before v after rfl t).1 ht).1.pending

/-- A spool with a manifest, a text that is none, two manifests whose keys are taken and two files
that are left from before. -/
def handedIn : Directory :=
  let manifest (name : String) : Entry :=
    .file (Text.encode ("name = \"" ++ name ++ "\"\n[spec]\nimage_ref = \"busybox\"\n"))
  .ofList [("a.toml", manifest "a"), ("b.toml", .file (Text.encode "name = ")),
    ("c.toml", manifest "a"), ("d.toml", manifest "d"), ("notes.txt", .file []),
    ("a.toml.imported", .file [])]

theorem handed_in_looked_at_once :
    let s : StateStore := ⟨.ofList [("default/d", .null)], .empty⟩
    Renamable handedIn ∧ ∃ visits d' s', importAll handedIn s 1000 = (d', s', [⟨"default", "a"⟩]) ∧
      d'.keys = ["a.toml.imported", "b.toml.rejected", "c.toml.rejected", "d.toml.rejected",
        "notes.txt"] ∧
      Scanned 1000 handedIn s visits d' s' [⟨"default", "a"⟩] ∧
      ∀ later, importAll d' s' later = (d', s', []) := by
  intro s
  have hrenamable : Renamable handedIn := by decide +kernel
  have hafter : (importAll handedIn s 1000).2.2 = [⟨"default", "a"⟩] ∧
      (importAll handedIn s 1000).1.keys = ["a.toml.imported", "b.toml.rejected",
        "c.toml.rejected", "d.toml.rejected", "notes.txt"] := by
    decide +kernel
  obtain ⟨visits, d', s', ids, hscan, hscanned, hagain⟩ := looked_at_once hrenamable s 1000
  rw [hscan] at hafter
  obtain ⟨rfl, hkeys⟩ := hafter
  exact ⟨hrenamable, visits, d', s', hscan, hkeys, hscanned, hagain⟩

end TaskFleet.Spool
