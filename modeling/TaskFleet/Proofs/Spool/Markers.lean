import Mathlib.Data.List.Nodup
import Mathlib.Data.List.Perm.Subperm
import TaskFleet.Proofs.FileSystem.Directories
import TaskFleet.Proofs.Store.Keys
import TaskFleet.Proofs.Text.Lines
import TaskFleet.Spool.Basic

/-!
# Delivering cancel markers

Markers are left in the spool one after the other and are then read by one scan.
`delivered_by_scan` says what the scan gives: of the ids whose markers have one name it sees the
last, and it reads each text without the blanks at its ends. All ids come back exactly if no id
straddles another at a dot and none begins or ends with a blank.
-/

namespace TaskFleet

open Text (Bytes trim)

/-- An id whose text is not changed by trimming: its namespace does not begin with a blank and its
name does not end with one. -/
def TaskId.Trimmed (id : TaskId) : Prop :=
  trim id.key.toList = id.key.toList

instance (id : TaskId) : Decidable id.Trimmed := inferInstanceAs (Decidable (_ = _))

theorem TaskId.not_straddles_self (sep : Char) (id : TaskId) : ¬ id.Straddles sep id := by
  rintro ⟨part, hspace, -⟩
  have hlength := congrArg List.length hspace
  simp at hlength

/-! ## The files of a directory -/

/-- What is kept of a list and named after what it comes from is part of the list of names. -/
theorem map_filter_map_sublist {α β γ : Type} {f : α → Option β} (name : α → γ)
    (name' : β → γ) (hf : ∀ a b, f a = some b → name' b = name a) (l : List α) :
    ((l.filterMap f).map name').Sublist (l.map name) := by
  induction l with
  | nil => exact .slnil
  | cons a rest ih =>
      cases hkept : f a with
      | none => simpa [hkept] using ih.cons (name a)
      | some b => simpa [hkept, hf a b hkept] using ih

namespace Directory

theorem mem_files_with {d : Directory} {extension name : String} {bytes : Bytes} :
    (name, bytes) ∈ d.filesWith extension ↔
      d.find? name = some (.file bytes) ∧ extension? name = some extension := by
  rw [filesWith, List.mem_filterMap, ← Dict.mem_entries_iff]
  constructor
  · rintro ⟨⟨other, content | isEmpty⟩, hmem, hfile⟩
    · by_cases hextension : extension? other = some extension
      · simp only [hextension, if_true, Option.some.injEq, Prod.mk.injEq] at hfile
        obtain ⟨rfl, rfl⟩ := hfile
        exact ⟨hmem, hextension⟩
      · simp [hextension] at hfile
    · exact nomatch hfile
  · rintro ⟨hmem, hextension⟩
    exact ⟨_, hmem, by simp [hextension]⟩

theorem files_with_sublist (d : Directory) (extension : String) :
    ((d.filesWith extension).map Prod.fst).Sublist d.keys := by
  refine map_filter_map_sublist Prod.fst Prod.fst (fun e file hfile => ?_) d.entries
  obtain ⟨name, bytes | isEmpty⟩ := e
  · obtain ⟨-, hfile⟩ := Option.ite_none_right_eq_some.1 hfile
    cases hfile
    rfl
  · exact nomatch hfile

theorem nodup_files_with (d : Directory) (extension : String) :
    ((d.filesWith extension).map Prod.fst).Nodup :=
  (d.files_with_sublist extension).nodup d.nodup_keys

theorem pairwise_files_with (d : Directory) (extension : String) :
    ((d.filesWith extension).map Prod.fst).Pairwise (· < ·) :=
  d.pairwise_keys.sublist (d.files_with_sublist extension)

end Directory

namespace Spool

/-! ## One marker -/

/-- What the marker of a task holds. -/
def markerBytes (id : TaskId) : Bytes :=
  Text.encode (id.key ++ "\n")

/-- A directory with the marker of a task. -/
def marked (d : Directory) (id : TaskId) : Directory :=
  (d.erase (markerName id ++ ".tmp")).insert (markerName id) (.file (markerBytes id))

/-- There is room for the marker of a task: the name under which it is written is allowed, its path
is not too long, and no directory is in the way. -/
structure Room (spool : String) (d : Directory) (id : TaskId) : Prop where
  named : isFileName (markerName id ++ ".tmp") = true
  within : (Path.join spool (markerName id)).utf8ByteSize ≤ Path.maxLength
  free : ∀ isEmpty, d.find? (markerName id) ≠ some (.directory isEmpty)
  free_staging : ∀ isEmpty, d.find? (markerName id ++ ".tmp") ≠ some (.directory isEmpty)

theorem marker_name_chars (id : TaskId) :
    (markerName id).toList = (id.space.toList ++ '.' :: id.name.toList) ++ ".cancel".toList := by
  simp [markerName]

/-- Two ids have one marker exactly if they are the same or one of them straddles the other at a
dot. -/
theorem marker_name_eq_iff {id other : TaskId} :
    markerName id = markerName other ↔
      id = other ∨ id.Straddles '.' other ∨ other.Straddles '.' id := by
  rw [← TaskId.joined_eq_iff, ← String.toList_inj, marker_name_chars, marker_name_chars,
    List.append_cancel_right_eq]

theorem extension_marker (id : TaskId) : extension? (markerName id) = some "cancel" :=
  extension_eq_some_iff.2
    ⟨by decide, id.space.toList ++ '.' :: id.name.toList, by simp, marker_name_chars id⟩

theorem extension_staging (id : TaskId) : extension? (markerName id ++ ".tmp") = some "tmp" :=
  extension_eq_some_iff.2
    ⟨by decide, (markerName id).toList, by simp [marker_name_chars], by simp⟩

/-- A marker never has the name under which another one is written. -/
theorem marker_name_ne_staging (id other : TaskId) :
    markerName id ≠ markerName other ++ ".tmp" := by
  intro heq
  have hextension := extension_marker id
  rw [heq, extension_staging] at hextension
  exact absurd hextension (by decide)

/-- A marker has a longer name than any that is treated apart. -/
theorem marker_name_ne {id : TaskId} (h : id.name ≠ "") {short : String}
    (hshort : short.toList.length ≤ 8) : markerName id ≠ short := by
  rintro rfl
  have hname : 0 < id.name.toList.length := List.length_pos_iff.2 (by simpa using h)
  rw [marker_name_chars] at hshort
  simp only [List.length_append, List.length_cons, show ".cancel".toList.length = 7 from rfl]
    at hshort
  omega

theorem Room.is_file_name {spool : String} {d : Directory} {id : TaskId} (h : Room spool d id)
    (hid : id.name ≠ "") : isFileName (markerName id) = true := by
  obtain ⟨-, -, -, hslash, hnul, hsize⟩ := is_file_name_iff.1 h.named
  refine is_file_name_iff.2 ⟨marker_name_ne hid (by decide), marker_name_ne hid (by decide),
    marker_name_ne hid (by decide), ?_, ?_, ?_⟩
  · exact fun hmem => hslash (by simp [hmem])
  · exact fun hmem => hnul (by simp [hmem])
  · rw [String.utf8ByteSize_append] at hsize
    omega

theorem staging_name {id : TaskId} (h : id.name ≠ "") :
    stagingName? (markerName id) = some (markerName id ++ ".tmp") := by
  rw [stagingName?, if_neg (marker_name_ne h (by decide)), if_neg (marker_name_ne h (by decide))]

/-- Where there is room, a marker is written and the name under which it was written is gone. -/
theorem put_marker_eq {spool : String} {d : Directory} {id : TaskId} (hroom : Room spool d id)
    (hid : id.name ≠ "") : putMarker d (markerName id) id = (marked d id, true) := by
  have hwritable : ((d.find? (markerName id ++ ".tmp")).map Entry.isFile).getD true = true := by
    cases hfind : d.find? (markerName id ++ ".tmp") with
    | none => rfl
    | some e =>
        cases e with
        | file bytes => rfl
        | directory isEmpty => exact absurd hfind (hroom.free_staging isEmpty)
  have hwrite : d.write? (markerName id ++ ".tmp") (Text.encode (id.key ++ "\n")) =
      some (d.insert (markerName id ++ ".tmp") (.file (markerBytes id))) := by
    rw [Directory.write?, hroom.named, hwritable]
    rfl
  have hrename : Directory.rename? (Dict.insert d (markerName id ++ ".tmp")
      (.file (markerBytes id))) (markerName id ++ ".tmp") (markerName id) =
        some (marked d id) := by
    simp only [Directory.rename?, Dict.find?_insert, if_pos, Option.bind_eq_bind, Option.bind_some,
      if_neg (marker_name_ne_staging id id), hroom.is_file_name hid,
      Entry.file_may_replace hroom.free, Bool.and_self, Option.some.injEq]
    refine Dict.ext_find? fun name => ?_
    simp only [marked, Dict.find?_insert, Dict.find?_erase]
    split_ifs <;> rfl
  simp only [putMarker, staging_name hid, hwrite, hrename]

/-- A marker takes no directory away and adds none. -/
theorem same_directories_marked {spool : String} {d : Directory} {id : TaskId}
    (hroom : Room spool d id) : d.SameDirectories (marked d id) := by
  intro name isEmpty
  simp only [marked, Dict.find?_insert, Dict.find?_erase]
  split_ifs with hmarker hstaging
  · simpa [hmarker] using hroom.free isEmpty
  · simpa [hstaging] using hroom.free_staging isEmpty
  · rfl

/-- Where there was room for a marker, there is after another one. -/
theorem Room.marked {spool : String} {d : Directory} {id other : TaskId} (h : Room spool d other)
    (hroom : Room spool d id) : Room spool (marked d id) other where
  named := h.named
  within := h.within
  free isEmpty := (same_directories_marked hroom _ isEmpty).not.2 (h.free isEmpty)
  free_staging isEmpty := (same_directories_marked hroom _ isEmpty).not.2 (h.free_staging isEmpty)

/-- In a directory with room for it, a request leaves the marker and gives its path. -/
theorem request_cancel_spec {fs : FileSystem} {spool : String} {d : Directory} {id : TaskId}
    (hspool : fs.Holds spool d) (hroom : Room spool d id) (hid : id.name ≠ "") :
    ∃ fs', requestCancel fs spool id = (fs', some (Path.join spool (markerName id))) ∧
      fs'.Holds spool (marked d id) := by
  have ⟨entries, hfind, _, hd⟩ := hspool
  obtain ⟨p, place, hp, hfollow, hget⟩ := FileSystem.find_directory_iff.1 hfind
  have hname := hroom.is_file_name hid
  have hpath := Path.of_text_join hp hname hroom.within
  have hentry := FileSystem.entry_of_join hfollow hget hname
  refine ⟨fs.setFilesAt place (Spool.marked d id), ?_,
    hspool.set_files (same_directories_marked hroom) hp hfollow⟩
  unfold requestCancel
  simp [hpath, hentry, hget, hd, put_marker_eq hroom hid]

/-! ## One marker after the other -/

/-- Leaves the markers for tasks one after the other. -/
def requestCancels (fs : FileSystem) (spool : String) :
    List TaskId → FileSystem × List (Option String)
  | [] => (fs, [])
  | id :: rest =>
    let (fs, path) := requestCancel fs spool id
    let (fs, paths) := requestCancels fs spool rest
    (fs, path :: paths)

/-- Every request succeeds, and the directory has a marker for each. -/
theorem request_cancels_spec {fs : FileSystem} {spool : String} {d : Directory} {ids : List TaskId}
    (hspool : fs.Holds spool d) (hroom : ∀ id ∈ ids, Room spool d id)
    (hids : ∀ id ∈ ids, id.name ≠ "") :
    ∃ fs', requestCancels fs spool ids =
        (fs', ids.map fun id => some (Path.join spool (markerName id))) ∧
      fs'.Holds spool (ids.foldl marked d) := by
  induction ids generalizing fs d with
  | nil => exact ⟨fs, rfl, hspool⟩
  | cons id rest ih =>
      obtain ⟨hhere, hrest⟩ := List.forall_mem_cons.1 hroom
      obtain ⟨hname, hnames⟩ := List.forall_mem_cons.1 hids
      obtain ⟨fs₁, hrequest, hspool₁⟩ := request_cancel_spec hspool hhere hname
      obtain ⟨fs₂, hrequests, hspool₂⟩ :=
        ih hspool₁ (fun other hother => (hrest other hother).marked hhere) hnames
      exact ⟨fs₂, by simp [requestCancels, hrequest, hrequests], hspool₂⟩

/-- The last of the ids whose markers have a name. -/
def lastWith (ids : List TaskId) (name : String) : Option TaskId :=
  ids.reverse.find? fun id => markerName id = name

/-- Under a name of a marker there is the marker that was left last, or what was there before. -/
theorem find_marked (d : Directory) (ids : List TaskId) {name : String}
    (hname : extension? name = some "cancel") :
    (ids.foldl marked d).find? name =
      ((lastWith ids name).map fun id => .file (markerBytes id)).or (d.find? name) := by
  induction ids generalizing d with
  | nil => rfl
  | cons id rest ih =>
      have hstaging : name ≠ markerName id ++ ".tmp" := by
        rintro rfl
        rw [extension_staging] at hname
        exact absurd hname (by decide)
      rw [List.foldl_cons, ih, lastWith, lastWith, List.reverse_cons, List.find?_append, marked,
        Dict.find?_insert, Dict.find?_erase, if_neg hstaging]
      cases rest.reverse.find? fun id => markerName id = name with
      | some last => rfl
      | none => by_cases hmarker : name = markerName id <;> simp [hmarker, Ne.symm]

theorem last_with_eq_some {ids : List TaskId} {name : String} {id : TaskId}
    (h : lastWith ids name = some id) : id ∈ ids ∧ markerName id = name :=
  ⟨List.mem_reverse.1 (List.mem_of_find?_eq_some h), by simpa using List.find?_some h⟩

/-- Without other markers, those in the directory are the last of each name. -/
theorem mem_markers {d : Directory} (hclean : d.filesWith "cancel" = []) {ids : List TaskId}
    {name : String} {bytes : Bytes} :
    (name, bytes) ∈ (ids.foldl marked d).filesWith "cancel" ↔
      ∃ id, lastWith ids name = some id ∧ bytes = markerBytes id := by
  have hbefore (content : Bytes) : ¬ (d.find? name = some (.file content) ∧
      extension? name = some "cancel") := by
    rw [← Directory.mem_files_with, hclean]
    exact List.not_mem_nil
  rw [Directory.mem_files_with]
  constructor
  · rintro ⟨hfind, hname⟩
    rw [find_marked d ids hname] at hfind
    cases hlast : lastWith ids name with
    | none => exact absurd ⟨by simpa [hlast] using hfind, hname⟩ (hbefore bytes)
    | some id => exact ⟨id, rfl, by simpa [hlast, eq_comm] using hfind⟩
  · rintro ⟨id, hlast, rfl⟩
    have hname : extension? name = some "cancel" :=
      (last_with_eq_some hlast).2 ▸ extension_marker id
    exact ⟨by rw [find_marked d ids hname, hlast]; rfl, hname⟩

/-! ## The scan -/

/-- A scan gives the ids that it can read in the markers. -/
theorem mem_cancel_requests {d : Directory} {name : String} {id : TaskId} :
    (name, id) ∈ (cancelRequests d).2 ↔
      ∃ bytes, (name, bytes) ∈ d.filesWith "cancel" ∧ readMarker bytes = some id := by
  simp [cancelRequests]

theorem nodup_cancel_requests (d : Directory) : ((cancelRequests d).2.map Prod.fst).Nodup := by
  have hfiles := Directory.nodup_files_with d "cancel"
  refine (map_filter_map_sublist Prod.fst Prod.fst (fun marker request hrequest => ?_) _).nodup
    (by simpa [Function.comp_def] using hfiles)
  obtain ⟨id, -, rfl⟩ := Option.map_eq_some_iff.1 hrequest
  rfl

/-- A scan that can read all markers rejects none. -/
theorem directory_cancel_requests {d : Directory}
    (h : ∀ file ∈ d.filesWith "cancel", readMarker file.2 ≠ none) : (cancelRequests d).1 = d := by
  unfold cancelRequests
  generalize d.filesWith "cancel" = files at h
  induction files with
  | nil => rfl
  | cons file rest ih =>
      obtain ⟨hfile, hrest⟩ := List.forall_mem_cons.1 h
      simpa [hfile] using ih hrest

/-- A marker is read as what its text is without the blanks at its ends. -/
theorem read_marker (id : TaskId) :
    readMarker (markerBytes id) =
      (TaskId.parse (String.ofList (trim id.key.toList))).toOption := by
  have hline := Text.decode_line id.key
  obtain ⟨text, htext, htrim⟩ := Option.map_eq_some_iff.1 hline
  simp [readMarker, markerBytes, htext, htrim]

/-- An id is read back from its marker exactly if its text needs no trimming. -/
theorem read_marker_self_iff {id : TaskId} (hid : ∃ text, TaskId.parse text = .ok id) :
    readMarker (markerBytes id) = some id ↔ id.Trimmed := by
  obtain ⟨text, htext⟩ := hid
  rw [read_marker, TaskStore.to_option_eq_some_iff, TaskId.parse_ok_iff,
    and_iff_left (TaskId.parse_ok_iff.1 htext).2, ← String.toList_inj, String.toList_ofList]
  rfl

/-- What is read in a marker needs no trimming. -/
theorem trimmed_of_read {id other : TaskId} (h : readMarker (markerBytes id) = some other) :
    other.Trimmed := by
  rw [read_marker, TaskStore.to_option_eq_some_iff, TaskId.parse_ok_iff] at h
  unfold TaskId.Trimmed
  rw [← h.1, String.toList_ofList, Text.trim_trim]

/-- Markers of one name for two ids cannot both come back. -/
theorem nodup_of_delivered {d : Directory} {ids : List TaskId}
    (hnames : ∀ name id, (name, id) ∈ (cancelRequests d).2 → name ∈ ids.map markerName)
    (h : ((cancelRequests d).2.map Prod.snd).Perm ids) : (ids.map markerName).Nodup := by
  have hsub : (cancelRequests d).2.map Prod.fst ⊆ ids.map markerName := by
    intro name hname
    obtain ⟨⟨_, id⟩, hmem, rfl⟩ := List.mem_map.1 hname
    exact hnames _ id hmem
  have hlength : (ids.map markerName).length ≤ ((cancelRequests d).2.map Prod.fst).length := by
    simpa using h.length_eq.ge
  have hperm := (List.subperm_of_subset (nodup_cancel_requests d) hsub).perm_of_length_le hlength
  exact hperm.nodup_iff.1 (nodup_cancel_requests d)

/-- If no two ids share a marker, each one's marker is the last of its name. -/
theorem last_with_marker {ids : List TaskId}
    (hinj : ∀ a ∈ ids, ∀ b ∈ ids, markerName a = markerName b → a = b) {id : TaskId}
    (hid : id ∈ ids) : lastWith ids (markerName id) = some id := by
  cases hlast : lastWith ids (markerName id) with
  | none =>
      have hnot := List.find?_eq_none.1 hlast id (List.mem_reverse.2 hid)
      exact absurd (decide_eq_true rfl) hnot
  | some last =>
      obtain ⟨hmem, hname⟩ := last_with_eq_some hlast
      rw [hinj last hmem id hid hname]

/-- The ids of the markers come back exactly if no two share a marker and none needs trimming. -/
theorem delivered_iff {d : Directory} {ids : List TaskId} (hids : ids.Nodup)
    (hparsed : ∀ id ∈ ids, ∃ text, TaskId.parse text = .ok id)
    (hmarkers : ∀ name bytes, (name, bytes) ∈ d.filesWith "cancel" ↔
      ∃ id, lastWith ids name = some id ∧ bytes = markerBytes id) :
    ((cancelRequests d).2.map Prod.snd).Perm ids ∧ (cancelRequests d).1 = d ↔
      (∀ a ∈ ids, ∀ b ∈ ids, ¬ a.Straddles '.' b) ∧ ∀ a ∈ ids, a.Trimmed := by
  have hread (name : String) (id : TaskId) : (name, id) ∈ (cancelRequests d).2 ↔
      ∃ last, lastWith ids name = some last ∧ readMarker (markerBytes last) = some id := by
    simp [mem_cancel_requests, hmarkers]
  constructor
  · rintro ⟨hperm, -⟩
    have hnames : (ids.map markerName).Nodup := by
      refine nodup_of_delivered (fun name id hmem => ?_) hperm
      obtain ⟨last, hlast, -⟩ := (hread name id).1 hmem
      obtain ⟨hmem, hname⟩ := last_with_eq_some hlast
      exact List.mem_map.2 ⟨last, hmem, hname⟩
    refine ⟨fun a ha b hb hstraddles => ?_, fun a ha => ?_⟩
    · have hname := marker_name_eq_iff.2 (.inr (.inl hstraddles))
      obtain rfl := List.inj_on_of_nodup_map hnames ha hb hname
      exact a.not_straddles_self '.' hstraddles
    · obtain ⟨⟨name, _⟩, hmem, rfl⟩ := List.mem_map.1 (hperm.mem_iff.2 ha)
      obtain ⟨last, -, hlast⟩ := (hread name _).1 hmem
      exact trimmed_of_read hlast
  · rintro ⟨hapart, htrimmed⟩
    have hinj : ∀ a ∈ ids, ∀ b ∈ ids, markerName a = markerName b → a = b := by
      intro a ha b hb hname
      obtain hsame | hstraddles | hstraddles := marker_name_eq_iff.1 hname
      · exact hsame
      · exact absurd hstraddles (hapart a ha b hb)
      · exact absurd hstraddles (hapart b hb a ha)
    have hself (id : TaskId) (hid : id ∈ ids) : readMarker (markerBytes id) = some id :=
      (read_marker_self_iff (hparsed id hid)).2 (htrimmed id hid)
    have hmem (name : String) (id : TaskId) :
        (name, id) ∈ (cancelRequests d).2 ↔ id ∈ ids ∧ markerName id = name := by
      rw [hread]
      constructor
      · rintro ⟨last, hlast, hid⟩
        obtain ⟨hin, hname⟩ := last_with_eq_some hlast
        rw [hself last hin, Option.some.injEq] at hid
        exact hid ▸ ⟨hin, hname⟩
      · rintro ⟨hin, rfl⟩
        exact ⟨id, last_with_marker hinj hin, hself id hin⟩
    refine ⟨?_, directory_cancel_requests fun file hfile => ?_⟩
    · have hnodup : ((cancelRequests d).2.map Prod.snd).Nodup := by
        refine List.Nodup.map_on (fun x hx y hy hxy => ?_) (nodup_cancel_requests d).of_map
        have hx' := ((hmem x.1 x.2).1 hx).2
        have hy' := ((hmem y.1 y.2).1 hy).2
        exact Prod.ext (by rw [← hx', ← hy', hxy]) hxy
      refine (List.perm_ext_iff_of_nodup hnodup hids).2 fun id => ?_
      simp [hmem]
    · obtain ⟨last, hlast, hbytes⟩ := (hmarkers file.1 file.2).1 hfile
      rw [hbytes, hself last (last_with_eq_some hlast).1]
      exact Option.some_ne_none last

/-- What a scan gives after markers were left for some ids in a spool without others: of the ids
with one marker name the last, each read without the blanks at its ends. All ids come back, each
once and with no marker rejected, exactly if none straddles another at a dot and none needs
trimming. -/
theorem delivered_by_scan {fs : FileSystem} {spool : String} {d : Directory} {ids : List TaskId}
    (hspool : fs.Holds spool d) (hclean : d.filesWith "cancel" = []) (hids : ids.Nodup)
    (hparsed : ∀ id ∈ ids, ∃ text, TaskId.parse text = .ok id)
    (hroom : ∀ id ∈ ids, Room spool d id) :
    (requestCancels fs spool ids).2 = ids.map (fun id => some (Path.join spool (markerName id))) ∧
    ∃ d', (requestCancels fs spool ids).1.list? spool = some d' ∧
      (∀ name id, (name, id) ∈ (cancelRequests d').2 ↔
        ∃ last, lastWith ids name = some last ∧
          TaskId.parse (String.ofList (trim last.key.toList)) = .ok id) ∧
      ((cancelRequests d').2.map Prod.fst).Nodup ∧
      (((cancelRequests d').2.map Prod.snd).Perm ids ∧ (cancelRequests d').1 = d' ↔
        (∀ a ∈ ids, ∀ b ∈ ids, ¬ a.Straddles '.' b) ∧ ∀ a ∈ ids, a.Trimmed) := by
  have hnamed (id : TaskId) (hid : id ∈ ids) : id.name ≠ "" := by
    obtain ⟨text, htext⟩ := hparsed id hid
    exact (TaskId.parse_ok_iff.1 htext).2.2.1
  obtain ⟨fs', hrequests, hspool'⟩ := request_cancels_spec hspool hroom hnamed
  rw [hrequests]
  refine ⟨rfl, ids.foldl marked d, hspool'.list, fun name id => ?_, nodup_cancel_requests _,
    delivered_iff hids hparsed fun _ _ => mem_markers hclean⟩
  simp [mem_cancel_requests, mem_markers hclean, read_marker, TaskStore.to_option_eq_some_iff]

/-- A tree with nothing but an empty spool. -/
def emptySpool : FileSystem :=
  ⟨.directory [("spool", .directory [])], []⟩

theorem delivered_by_scan_plain :
    let ids : List TaskId := [⟨"ml", "train"⟩, ⟨"ml", "prep"⟩]
    let after := requestCancels emptySpool "spool" ids
    after.2 = [some "spool/ml.train.cancel", some "spool/ml.prep.cancel"] ∧
      ∃ d, after.1.list? "spool" = some d ∧ ((cancelRequests d).2.map Prod.snd).Perm ids ∧
        (cancelRequests d).1 = d := by
  intro ids after
  have hspool : emptySpool.Holds "spool" .empty := ⟨[], rfl, .nil, rfl⟩
  have hparsed : ∀ id ∈ ids, ∃ text, TaskId.parse text = .ok id := by
    intro id hid
    refine ⟨id.key, TaskId.parse_ok_iff.2 ⟨rfl, ?_⟩⟩
    revert id
    decide +kernel
  have hroom : ∀ id ∈ ids, Room "spool" .empty id := by
    intro id hid
    refine ⟨?_, ?_, fun _ => nofun, fun _ => nofun⟩
    · revert id
      decide +kernel
    · revert id
      decide +kernel
  have hdotless : ∀ a ∈ ids, '.' ∉ a.space.toList := by decide +kernel
  have hapart : ∀ a ∈ ids, ∀ b ∈ ids, ¬ a.Straddles '.' b := by
    rintro a ha b - ⟨part, hspace, -⟩
    exact hdotless a ha (by simp [hspace])
  obtain ⟨hpaths, d, hd, -, -, hall⟩ :=
    delivered_by_scan hspool (by decide +kernel) (by decide +kernel) hparsed hroom
  exact ⟨hpaths, d, hd, hall.2 ⟨hapart, by decide +kernel⟩⟩

/-- What the scan gives after markers were left for some ids in an empty spool. -/
def scanned (ids : List TaskId) : Option (List (String × TaskId)) :=
  ((requestCancels emptySpool "spool" ids).1.list? "spool").map fun d => (cancelRequests d).2

/-- Ids that share a marker: the second request takes the place of the first, which is lost. An id
that begins with a blank comes back as another one, and one with a blank for a namespace does not
come back at all. -/
theorem overwritten_marker :
    TaskId.parse "a.b/c" = .ok ⟨"a.b", "c"⟩ ∧ TaskId.parse "a/b.c" = .ok ⟨"a", "b.c"⟩ ∧
      scanned [⟨"a.b", "c"⟩, ⟨"a", "b.c"⟩] = some [("a.b.c.cancel", ⟨"a", "b.c"⟩)] ∧
      TaskId.parse " a/b" = .ok ⟨" a", "b"⟩ ∧ TaskId.parse " /b" = .ok ⟨" ", "b"⟩ ∧
      scanned [⟨" a", "b"⟩] = some [(" a.b.cancel", ⟨"a", "b"⟩)] ∧
      scanned [⟨" ", "b"⟩] = some [] := by
  decide +kernel

end Spool

end TaskFleet
