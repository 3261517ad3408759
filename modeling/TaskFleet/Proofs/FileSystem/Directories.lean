import Mathlib.Data.List.Nodup
import TaskFleet.FileSystem.Basic

/-!
# Changing the files of one directory

`FileSystem.Holds` says what is in the directory at a path. Putting other files there leaves every
directory of the tree where it was (`KeepsDirectories`), those inside the directory as well, so the
path leads to the same place as before, also where it goes through the directory and back out. That
is `Holds.set_files`: afterwards the directory holds what was put.
-/

namespace TaskFleet

open Text (Bytes)

namespace Dict

variable {κ α : Type} [Ord κ] [Std.TransOrd κ] [Std.LawfulEqOrd κ] [DecidableEq κ]

omit [Ord κ] [Std.TransOrd κ] [Std.LawfulEqOrd κ] in
/-- In a list with one entry for each key it does not matter from which end a key is sought. -/
theorem find?_reverse {l : List (κ × α)} (hl : (l.map Prod.fst).Nodup) (k : κ) :
    (l.reverse.find? fun e => e.1 = k) = l.find? fun e => e.1 = k := by
  cases hfind : l.find? fun e => e.1 = k with
  | none =>
      rw [List.find?_eq_none] at hfind ⊢
      exact fun e he => hfind e (List.mem_reverse.1 he)
  | some e =>
      have he : e.1 = k := by simpa using List.find?_some hfind
      have hmem := List.mem_of_find?_eq_some hfind
      cases hback : l.reverse.find? fun e => e.1 = k with
      | none => exact absurd he (by simpa using List.find?_eq_none.1 hback e (by simpa using hmem))
      | some e' =>
          have he' : e'.1 = k := by simpa using List.find?_some hback
          have hmem' := List.mem_reverse.1 (List.mem_of_find?_eq_some hback)
          rw [List.inj_on_of_nodup_map hl hmem' hmem (he'.trans he.symm)]

theorem find?_ofList {l : List (κ × α)} (hl : (l.map Prod.fst).Nodup) (k : κ) :
    (ofList l).find? k = (l.find? fun e => e.1 = k).map Prod.snd := by
  rw [ofList, find?_foldl_insert Prod.fst Prod.snd, find?_reverse hl]
  simp

theorem find?_eq (d : Dict κ α) (k : κ) :
    d.find? k = (d.entries.find? fun e => e.1 = k).map Prod.snd := by
  rw [← find?_ofList d.nodup_keys, ofList, foldl_insert_entries]

end Dict

/-- A file takes the place of all that is no directory. -/
theorem Entry.file_may_replace {bytes : Bytes} {e : Option Entry}
    (h : ∀ isEmpty, e ≠ some (.directory isEmpty)) : (file bytes).mayReplace e = true := by
  cases e with
  | none => rfl
  | some e =>
      cases e with
      | file content => rfl
      | directory isEmpty => exact absurd rfl (h isEmpty)

/-- What has an extension is named so: something, a dot and the extension. -/
theorem extension_eq_some_iff {name extension : String} :
    extension? name = some extension ↔
      '.' ∉ extension.toList ∧
        ∃ stem, stem ≠ [] ∧ name.toList = stem ++ '.' :: extension.toList := by
  unfold extension?
  constructor
  · intro h
    split at h
    · exact nomatch h
    · rename_i ending stem hstem hcut
      cases h
      refine ⟨?_, stem.reverse, ?_, ?_⟩
      · simpa using Text.not_mem_of_splitOnce hcut
      · simpa using hstem
      · simpa using congrArg List.reverse (Text.append_of_splitOnce hcut)
    · exact nomatch h
  · rintro ⟨hdot, stem, hstem, hname⟩
    have hreverse : name.toList.reverse = extension.toList.reverse ++ '.' :: stem.reverse := by
      simp [hname]
    rw [hreverse, Text.splitOnce_append (by simpa using hdot)]
    split
    · rename_i hempty
      simp_all
    · rename_i hcut
      cases hcut
      simp
    · rename_i hcut
      exact nomatch hcut

/-- The files may differ, but not the directories. -/
def Directory.SameDirectories (d d' : Directory) : Prop :=
  ∀ name isEmpty, d'.find? name = some (.directory isEmpty) ↔
    d.find? name = some (.directory isEmpty)

namespace FileTree

variable {t old new : FileTree} {place : Place} {name : String}
  {entries : List (String × FileTree)}

theorem child_set_child (name other : String) (t : FileTree)
    (entries : List (String × FileTree)) :
    child? other (setChild name t entries) =
      if other = name then some t else child? other entries := by
  induction entries with
  | nil => by_cases h : other = name <;> simp [setChild, child?, h, Ne.symm]
  | cons e rest ih =>
      unfold setChild
      by_cases hname : e.1 = name
      · by_cases h : other = name
        · simp [child?, hname, h]
        · simp [child?, hname, h, Ne.symm h]
      · by_cases h : e.1 = other
        · subst h
          simp [child?, hname]
        · simpa [child?, hname, h] using ih

theorem get_append (place rest : Place) (t : FileTree) :
    t.get? (place ++ rest) = (t.get? place).bind (get? rest) := by
  induction place generalizing t with
  | nil => rfl
  | cons name place ih =>
      cases t with
      | file bytes => rfl
      | directory entries =>
          cases hchild : child? name entries with
          | none => simp [get?, hchild]
          | some child => simp [get?, hchild, ih]

/-- Where there is something, something is put by putting it into the child on the way. -/
theorem put_of_child {child : FileTree} (h : child? name entries = some child) :
    put? new (name :: place) (directory entries) =
      (put? new place child).map fun inner => directory (setChild name inner entries) := by
  cases place with
  | nil => rfl
  | cons next place =>
      simp only [put?, h, Option.map_eq_bind]
      rfl

/-- Where the one tree has a directory, the other one has a directory. -/
def KeepsDirectories (t t' : FileTree) : Prop :=
  ∀ place entries, t.get? place = some (.directory entries) →
    ∃ entries', t'.get? place = some (.directory entries')

/-- What is put in the place of something is found there. Directories stay where they are if those
in the place do. -/
theorem put_spec (hget : t.get? place = some old) (hkeep : old.KeepsDirectories new) :
    ∃ t', put? new place t = some t' ∧ t'.get? place = some new ∧ t.KeepsDirectories t' := by
  induction place generalizing t with
  | nil =>
      cases hget
      exact ⟨new, by simp [put?], rfl, hkeep⟩
  | cons name place ih =>
      cases t with
      | file bytes => exact nomatch hget
      | directory entries =>
          obtain ⟨child, hchild, hget⟩ := Option.bind_eq_some_iff.1 hget
          obtain ⟨inner, hput, hfound, hinner⟩ := ih hget
          refine ⟨.directory (setChild name inner entries), ?_, ?_, fun other es hother => ?_⟩
          · rw [put_of_child hchild, hput, Option.map_some]
          · simpa [get?, child_set_child] using hfound
          · cases other with
            | nil => exact ⟨_, rfl⟩
            | cons next rest =>
                simp only [get?, child_set_child] at hother ⊢
                split
                · rename_i hname
                  rw [hname, hchild] at hother
                  exact hinner rest es hother
                · exact ⟨es, hother⟩

/-! ## A directory as it is seen from outside -/

/-- What a directory that names each entry once is seen to hold. -/
theorem find_to_directory (hentries : (entries.map Prod.fst).Nodup) {d : Directory}
    (h : (directory entries).toDirectory? = some d) (k : String) :
    d.find? k = (child? k entries).map toEntry := by
  cases h
  rw [Dict.find?_ofList (by simpa [Function.comp_def] using hentries)]
  simp [child?, List.find?_map, Function.comp_def]

/-- What a directory is made of when it is given other files. -/
theorem with_files_entries (d : Directory) (entries : List (String × FileTree)) :
    ∃ l, withFiles d (.directory entries) = .directory l ∧ (l.map Prod.fst).Nodup ∧
      ∀ name, child? name l = (d.find? name).map fun
        | .file bytes => .file bytes
        | .directory _ => (child? name entries).getD (.directory []) := by
  refine ⟨_, rfl, ?_, fun name => ?_⟩
  · convert d.nodup_keys using 1
    rw [Dict.keys, List.map_map]
    refine List.map_congr_left fun e _ => ?_
    obtain ⟨name, bytes | isEmpty⟩ := e <;> rfl
  · rw [Dict.find?_eq, child?]
    induction d.entries with
    | nil => rfl
    | cons e rest ih =>
        by_cases he : e.1 = name
        · subst he
          obtain ⟨name, bytes | isEmpty⟩ := e <;> simp
        · obtain ⟨other, bytes | isEmpty⟩ := e <;> simpa [he] using ih

/-- A directory that is given other files holds them, and its directories are what they were. -/
theorem with_files_spec (hentries : (entries.map Prod.fst).Nodup) {d d' : Directory}
    (h : (directory entries).toDirectory? = some d) (hsame : d.SameDirectories d') :
    ∃ l, withFiles d' (.directory entries) = .directory l ∧ (l.map Prod.fst).Nodup ∧
      (directory l).toDirectory? = some d' ∧ (directory entries).KeepsDirectories (directory l) := by
  obtain ⟨l, hl, hnodup, hchild⟩ := with_files_entries d' entries
  refine ⟨l, hl, hnodup, ?_, fun place es hget => ?_⟩
  · refine congrArg some (Dict.ext_find? fun name => ?_)
    rw [find_to_directory hnodup rfl, hchild]
    cases hfind : d'.find? name with
    | none => rfl
    | some e =>
        cases e with
        | file bytes => rfl
        | directory isEmpty =>
            have hbefore := (hsame name isEmpty).1 hfind
            rw [find_to_directory hentries h] at hbefore
            obtain ⟨child, hchild, hentry⟩ := Option.map_eq_some_iff.1 hbefore
            simp [hchild, hentry]
  · cases place with
    | nil => exact ⟨l, rfl⟩
    | cons name place =>
        obtain ⟨child, hfound, hget⟩ := Option.bind_eq_some_iff.1 hget
        obtain ⟨inner, rfl⟩ : ∃ inner, child = .directory inner := by
          cases child with
          | directory inner => exact ⟨inner, rfl⟩
          | file bytes =>
              cases place with
              | nil => exact nomatch hget
              | cons => exact nomatch hget
        have hbefore : d.find? name = some (.directory inner.isEmpty) := by
          rw [find_to_directory hentries h, hfound]
          rfl
        refine ⟨es, ?_⟩
        rw [get?, hchild, (hsame name _).2 hbefore, hfound]
        exact hget

end FileTree

/-! ## Paths -/

theorem is_file_name_iff {name : String} :
    isFileName name = true ↔ name ≠ "" ∧ name ≠ "." ∧ name ≠ ".." ∧ '/' ∉ name.toList ∧
      '\x00' ∉ name.toList ∧ name.utf8ByteSize ≤ maxNameLength := by
  simp [isFileName, and_assoc]

namespace Path

/-- A path that goes on with a name has one slash before the name. -/
theorem join_eq (start : String) {name : String} (h : '/' ∉ name.toList) :
    ∃ front, (join start name).toList = front ++ '/' :: name.toList ∧
      (start.toList = front ∨ start.toList = front ++ ['/']) := by
  have hhead : name.toList.head? ≠ some '/' := fun hhead => h (List.mem_of_mem_head? hhead)
  unfold join
  rw [if_neg hhead]
  split
  · rename_i hlast
    obtain ⟨front, hfront⟩ := List.getLast?_eq_some_iff.1 hlast
    exact ⟨front, by simp [hfront], .inr hfront⟩
  · exact ⟨start.toList, by simp, .inl rfl⟩

/-- It has the names of the path and then the name. -/
theorem of_text_join {start name : String} {p : Path} (hp : ofText? start = some p)
    (hname : isFileName name = true) (hlength : (join start name).utf8ByteSize ≤ maxLength) :
    ofText? (join start name) = some ⟨p.isAbsolute, p.names ++ [name], false⟩ := by
  obtain ⟨hne, -, -, hslash, hnul, -⟩ := is_file_name_iff.1 hname
  obtain ⟨front, hjoin, hstart⟩ := join_eq start hslash
  have hchars : name.toList ≠ [] := by simpa using hne
  unfold ofText? at hp ⊢
  simp only [hjoin, Option.ite_none_left_eq_some, Option.some.injEq] at hp ⊢
  obtain ⟨hvalid, rfl⟩ := hp
  simp only [Bool.or_eq_true, List.isEmpty_iff, List.contains_iff_mem, decide_eq_true_eq,
    not_or] at hvalid ⊢
  have hnames : (Text.splitAll '/' start.toList).filter (fun part => !part.isEmpty) =
      (Text.splitAll '/' front).filter fun part => !part.isEmpty := by
    rcases hstart with hstart | hstart
    · rw [hstart]
    · simp [hstart, Text.splitAll_append, Text.splitAll]
  have hhead : (front ++ '/' :: name.toList).head? = start.toList.head? := by
    rcases hstart with hstart | hstart
    · rw [hstart] at hvalid ⊢
      rw [List.head?_append_of_ne_nil _ hvalid.1.1]
    · simp [hstart, List.head?_append]
  have hlast : ((front ++ '/' :: name.toList).getLast? == some '/') = false := by
    rw [List.getLast?_append_of_ne_nil _ (by simp), List.getLast?_cons_of_ne_nil hchars,
      beq_eq_false_iff_ne]
    exact fun hlast => hslash (List.mem_of_getLast? hlast)
  refine ⟨⟨⟨by simp, ?_⟩, Nat.not_lt.2 hlength⟩, ?_⟩
  · rcases hstart with hstart | hstart <;> simp_all
  · rw [hnames, hhead, hlast, Text.splitAll_append, Text.splitAll_eq_self hslash]
    simp [hne]

end Path

namespace FileSystem

variable {fs fs' : FileSystem} {place next : Place}

/-- A step to a directory is the same in a tree that keeps directories. -/
theorem step_of_keeps (hkeep : fs.root.KeepsDirectories fs'.root) {name : String}
    (hstep : fs.step? place name = some next) {entries : List (String × FileTree)}
    (hnext : fs.root.get? next = some (.directory entries)) : fs'.step? place name = some next := by
  obtain ⟨entries', hnext'⟩ := hkeep next entries hnext
  unfold step? at hstep ⊢
  split at hstep
  · rename_i here hhere
    obtain ⟨here', hhere'⟩ := hkeep place here hhere
    simp only [hhere']
    split_ifs at hstep ⊢ with hdot hdots hchild
    · exact hstep
    · exact hstep
    · exact hstep
    · cases hstep
      rw [FileTree.get_append, hhere', Option.bind_some] at hnext'
      obtain ⟨child, hfound, -⟩ := Option.bind_eq_some_iff.1 hnext'
      exact absurd (by rw [hfound]; rfl) hchild
  · exact nomatch hstep

/-- So is a way to a directory, since every step of it is made from a directory. -/
theorem follow_of_keeps (hkeep : fs.root.KeepsDirectories fs'.root) {names : List String}
    (hfollow : fs.follow? place names = some next) {entries : List (String × FileTree)}
    (hnext : fs.root.get? next = some (.directory entries)) :
    fs'.follow? place names = some next := by
  induction names generalizing place with
  | nil => exact hfollow
  | cons name names ih =>
      obtain ⟨between, hstep, hrest⟩ := Option.bind_eq_some_iff.1 hfollow
      obtain ⟨inner, hbetween⟩ : ∃ inner, fs.root.get? between = some (.directory inner) := by
        cases names with
        | nil =>
            cases hrest
            exact ⟨entries, hnext⟩
        | cons second names =>
            obtain ⟨_, hsecond, -⟩ := Option.bind_eq_some_iff.1 hrest
            unfold step? at hsecond
            split at hsecond
            · exact ⟨_, ‹_›⟩
            · exact nomatch hsecond
      exact Option.bind_eq_some_iff.2 ⟨between, step_of_keeps hkeep hstep hbetween, ih hrest⟩

/-- At a path there is a directory that names each entry once, with what it is seen to hold. -/
def Holds (fs : FileSystem) (path : String) (d : Directory) : Prop :=
  ∃ entries, fs.find? path = some (.directory entries) ∧ (entries.map Prod.fst).Nodup ∧
    (FileTree.directory entries).toDirectory? = some d

theorem Holds.list {path : String} {d : Directory} (h : fs.Holds path d) :
    fs.list? path = some d := by
  obtain ⟨entries, hfind, -, hd⟩ := h
  exact Option.bind_eq_some_iff.2 ⟨_, hfind, hd⟩

/-- A path leads to a directory by its names, with or without a slash at its end. -/
theorem find_directory_iff {path : String} {entries : List (String × FileTree)} :
    fs.find? path = some (.directory entries) ↔
      ∃ p place, Path.ofText? path = some p ∧ fs.follow? (fs.start p) p.names = some place ∧
        fs.root.get? place = some (.directory entries) := by
  have hdot {place : Place} (h : fs.root.get? place = some (.directory entries)) :
      fs.step? place "." = some place := by
    simp [step?, h]
  constructor
  · intro hfind
    obtain ⟨place, hlocate, hget⟩ := Option.bind_eq_some_iff.1 hfind
    obtain ⟨p, hp, hlocate⟩ := Option.bind_eq_some_iff.1 hlocate
    obtain ⟨last, hfollow, hlast⟩ := Option.bind_eq_some_iff.1 hlocate
    refine ⟨p, place, hp, ?_, hget⟩
    rw [hfollow]
    split at hlast
    · unfold step? at hlast
      split at hlast
      · simpa using hlast
      · exact nomatch hlast
    · exact hlast
  · rintro ⟨p, place, hp, hfollow, hget⟩
    refine Option.bind_eq_some_iff.2 ⟨place, ?_, hget⟩
    refine Option.bind_eq_some_iff.2 ⟨p, hp, Option.bind_eq_some_iff.2 ⟨place, hfollow, ?_⟩⟩
    split
    · exact hdot hget
    · rfl

/-- A name that follows a path to a directory is an entry of it. -/
theorem entry_of_join {p : Path} {entries : List (String × FileTree)}
    (hfollow : fs.follow? (fs.start p) p.names = some place)
    (hget : fs.root.get? place = some (.directory entries)) {name : String}
    (hname : isFileName name = true) :
    fs.entry? ⟨p.isAbsolute, p.names ++ [name], false⟩ = some (place, name) := by
  have hstart : fs.start ⟨p.isAbsolute, p.names ++ [name], false⟩ = fs.start p := rfl
  have hdot : fs.step? place "." = some place := by
    simp [step?, hget]
  simp [ entry?, hstart, hfollow, hdot, hname]

/-- The directory at a path holds what is put at its place, if its directories stay. -/
theorem Holds.set_files {path : String} {d d' : Directory} (h : fs.Holds path d)
    (hsame : d.SameDirectories d') {p : Path} (hp : Path.ofText? path = some p)
    (hfollow : fs.follow? (fs.start p) p.names = some place) :
    (fs.setFilesAt place d').Holds path d' := by
  obtain ⟨entries, hfind, hentries, hd⟩ := h
  obtain ⟨p', place', hp', hfollow', hget⟩ := find_directory_iff.1 hfind
  obtain rfl : p = p' := Option.some.inj (hp.symm.trans hp')
  obtain rfl : place = place' := Option.some.inj (hfollow.symm.trans hfollow')
  obtain ⟨l, hl, hnodup, hheld, hinner⟩ := FileTree.with_files_spec hentries hd hsame
  obtain ⟨root, hput, hfound, hkeep⟩ := FileTree.put_spec hget hinner
  have hset : fs.setFilesAt place d' = { fs with root } := by
    simp [setFilesAt, hget, hl, put?, hput]
  rw [hset]
  exact ⟨l, find_directory_iff.2 ⟨p, place, hp, follow_of_keeps hkeep hfollow hget, hfound⟩,
    hnodup, hheld⟩

end FileSystem

end TaskFleet
