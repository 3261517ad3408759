import TaskFleet.Execution.Supervisor
import TaskFleet.Proofs.Text.Lines
import TaskFleet.Proofs.Text.Numerals

/-!
# What output tells of progress

A program reports progress by a line of its output, which is cut out of a stream of bytes, decoded
and read as an annotation, and whose value is read as a number. All that counts of some streams is
their last annotation of progress (`LastProgress`): a number up to the greatest of 64 bits comes out
as itself, or as a hundred if it is more, and a number above that as zero
(`progress_of_last_progress`).
-/

namespace TaskFleet

open Text

namespace Output

/-! ## Lines -/

theorem lines_ne_nil {bytes : Bytes} (h : bytes ≠ []) : lines bytes ≠ [] := by
  cases bytes with
  | nil => exact absurd rfl h
  | cons b rest =>
      unfold lines
      split
      · simp
      · split <;> simp

/-- What follows the end of a line is cut into lines by itself. -/
theorem lines_ended (a b : Bytes) :
    lines (a ++ lineFeed :: b) = lines (a ++ [lineFeed]) ++ lines b := by
  induction a with
  | nil => rfl
  | cons c a ih =>
      rw [List.cons_append, List.cons_append, lines, lines, ih]
      split
      · rfl
      · cases hlines : lines (a ++ [lineFeed]) with
        | nil => exact absurd hlines (lines_ne_nil (by simp))
        | cons line more => rfl

/-- The first line is what precedes the first line feed. -/
theorem lines_cons {line : Bytes} (h : lineFeed ∉ line) (rest : Bytes) :
    lines (line ++ lineFeed :: rest) = line :: lines rest := by
  induction line with
  | nil => rfl
  | cons c line ih =>
      obtain ⟨hc, hline⟩ := not_or.1 (mt List.mem_cons.2 h)
      rw [List.cons_append, lines, ih hline, if_neg fun heq => hc heq.symm]

/-- Bytes without a line feed are one line. -/
theorem lines_singleton {line : Bytes} (h : lineFeed ∉ line) (hne : line ≠ []) :
    lines line = [line] := by
  induction line with
  | nil => exact absurd rfl hne
  | cons c line ih =>
      obtain ⟨hc, hline⟩ := not_or.1 (mt List.mem_cons.2 h)
      rw [lines, if_neg fun heq => hc heq.symm]
      cases line with
      | nil => rfl
      | cons d line => rw [ih hline nofun]

/-- A text without a line feed has none among its bytes. -/
theorem line_feed_not_mem {text : String} (h : '\n' ∉ text.toList) : lineFeed ∉ encode text := by
  rw [encode_eq, List.mem_flatMap]
  rintro ⟨c, hc, hbyte⟩
  have hnumber : c.toNat = '\n'.toNat := ascii_of_mem_bytes hbyte (by decide)
  obtain rfl : c = '\n' := Char.toNat_inj.1 hnumber
  exact h hc

/-- A line whose text does not end in what ends lines is that text. -/
theorem line_text_encode {text : String} {last : Char} (hlast : last ∈ text.toList.getLast?)
    (hend : last ≠ '\n' ∧ last ≠ '\r') : lineText (encode text) = text.toList := by
  obtain ⟨front, hfront⟩ := List.getLast?_eq_some_iff.1 hlast
  rw [lineText, decode_lossy_encode, hfront, dropRightWhile, List.reverse_append,
    List.reverse_singleton, List.singleton_append, List.dropWhile_cons_of_neg (by simp [hend]),
    List.reverse_cons, List.reverse_reverse]

/-! ## Annotations -/

/-- A line that is an annotation of progress. -/
def IsProgress (line : List Char) : Prop :=
  ∃ value, Annotation.parseChars line = some (ExecutionStatus.progressKey.toList, value)

/-- The last annotation of progress in some streams, one after the other, is a line with this
text. It follows a line feed unless it begins a stream, and precedes one unless it ends it. -/
inductive LastProgress (text : String) : List Bytes → Prop where
  | line (earlier later : List Bytes) (before after : Bytes)
      (hbefore : before = [] ∨ ∃ past, before = past ++ [lineFeed])
      (hafter : after = [] ∨ ∃ rest, after = lineFeed :: rest)
      (hrest : ∀ line ∈ lines after, ¬ IsProgress (lineText line))
      (hlater : ∀ stream ∈ later, ∀ line ∈ lines stream, ¬ IsProgress (lineText line)) :
      LastProgress text (earlier ++ (before ++ encode text ++ after) :: later)

/-- The annotations in some streams, one after the other. -/
def collected (streams : List Bytes) : Dict String String :=
  streams.foldl annotations .empty

/-- Annotations of other things leave the progress as it was. -/
theorem find_progress_of_others {texts : List (List Char)} (h : ∀ line ∈ texts, ¬ IsProgress line)
    (d : Dict String String) :
    (texts.foldl annotate d).find? ExecutionStatus.progressKey =
      d.find? ExecutionStatus.progressKey := by
  induction texts generalizing d with
  | nil => rfl
  | cons line texts ih =>
      obtain ⟨hline, htexts⟩ := List.forall_mem_cons.1 h
      rw [List.foldl_cons, ih htexts, annotate]
      split
      · rename_i key value hparse
        rw [Dict.find?_insert, if_neg]
        intro hkey
        refine hline ⟨value, ?_⟩
        rw [hparse, hkey, String.toList_ofList]
      · rfl

theorem find_progress_of_streams {streams : List Bytes}
    (h : ∀ stream ∈ streams, ∀ line ∈ lines stream, ¬ IsProgress (lineText line))
    (d : Dict String String) :
    (streams.foldl annotations d).find? ExecutionStatus.progressKey =
      d.find? ExecutionStatus.progressKey := by
  induction streams generalizing d with
  | nil => rfl
  | cons stream streams ih =>
      obtain ⟨hstream, hstreams⟩ := List.forall_mem_cons.1 h
      rw [List.foldl_cons, ih hstreams, annotations, find_progress_of_others]
      intro text htext
      obtain ⟨line, hline, rfl⟩ := List.mem_map.1 htext
      exact hstream line hline

/-- The lines of a stream of which one stands by itself. -/
theorem lines_around {line before after : Bytes} (hfeed : lineFeed ∉ line) (hne : line ≠ [])
    (hbefore : before = [] ∨ ∃ past, before = past ++ [lineFeed])
    (hafter : after = [] ∨ ∃ rest, after = lineFeed :: rest) :
    ∃ rest, lines (before ++ line ++ after) = lines before ++ line :: rest ∧
      ∀ other ∈ rest, other ∈ lines after := by
  have hlines : ∃ rest, lines (line ++ after) = line :: rest ∧
      ∀ other ∈ rest, other ∈ lines after := by
    obtain rfl | ⟨rest, rfl⟩ := hafter
    · rw [List.append_nil, lines_singleton hfeed hne]
      exact ⟨[], rfl, nofun⟩
    · exact ⟨lines rest, lines_cons hfeed rest, fun other hother => List.mem_cons_of_mem _ hother⟩
  obtain ⟨rest, heq, hrest⟩ := hlines
  refine ⟨rest, ?_, hrest⟩
  obtain rfl | ⟨past, rfl⟩ := hbefore
  · exact heq
  · rw [List.append_assoc, List.append_assoc, List.singleton_append, lines_ended, heq]

/-- The progress that some streams report is the value of their last annotation of it. -/
theorem find_progress_of_last {text : String} {value : List Char} {last : Char}
    (hlast : last ∈ text.toList.getLast?) (hline : '\n' ∉ text.toList) (hend : last ≠ '\r')
    (hparse : Annotation.parseChars text.toList =
      some (ExecutionStatus.progressKey.toList, value))
    {streams : List Bytes} (h : LastProgress text streams) :
    (collected streams).find? ExecutionStatus.progressKey = some (String.ofList value) := by
  cases h with
  | line earlier later before after hbefore hafter hrest hlater =>
      have hbreak : last ≠ '\n' := fun heq => hline (heq ▸ List.mem_of_getLast? hlast)
      have htext := line_text_encode hlast ⟨hbreak, hend⟩
      have hne : encode text ≠ [] := by
        intro hnil
        have hdecoded := decode_lossy_encode text
        rw [hnil, decodeLossy] at hdecoded
        rw [← hdecoded] at hlast
        cases hlast
      obtain ⟨rest, hlines, hothers⟩ :=
        lines_around (line_feed_not_mem hline) hne hbefore hafter
      rw [collected, List.foldl_append, List.foldl_cons, find_progress_of_streams hlater,
        annotations, hlines, List.map_append, List.map_cons, List.foldl_append, List.foldl_cons,
        find_progress_of_others, htext, annotate, hparse]
      · simp
      · intro text htext
        obtain ⟨line, hmem, rfl⟩ := List.mem_map.1 htext
        exact hrest line (hothers line hmem)

/-! ## Numbers -/

/-- The text of a line that reports progress as a number in decimal digits, with a percent sign or
without one. -/
def progressLine (digits percent : List Char) : String :=
  String.ofList (ExecutionStatus.progressKey.toList ++ '=' :: (digits ++ percent))

variable {digits percent : List Char}

/-- A value of digits and a percent sign holds no blank. -/
theorem not_blank_of_mem (hdigits : ∀ c ∈ digits, isDigit c = true)
    (hpercent : percent = [] ∨ percent = ['%']) :
    ∀ c ∈ digits ++ percent, isBlank c = false := by
  intro c hc
  obtain hc | hc := List.mem_append.1 hc
  · exact is_blank_digit (hdigits c hc)
  · obtain rfl | rfl := hpercent
    · exact nomatch hc
    · rw [List.mem_singleton.1 hc]
      decide

/-- Such a line is read as an annotation of progress. -/
theorem parse_progress_line (hdigits : ∀ c ∈ digits, isDigit c = true)
    (hpercent : percent = [] ∨ percent = ['%']) :
    Annotation.parseChars (progressLine digits percent).toList =
      some (ExecutionStatus.progressKey.toList, digits ++ percent) := by
  have hkey : '=' ∉ ExecutionStatus.progressKey.toList := by decide
  have hname : dropStart? ExecutionStatus.annotationPrefix.toList
      (trim ExecutionStatus.progressKey.toList) = some "progress".toList := by decide
  have htrim : trim ExecutionStatus.progressKey.toList = ExecutionStatus.progressKey.toList := by
    decide
  rw [progressLine, String.toList_ofList, Annotation.parseChars, splitOnce_append hkey]
  simp only [Option.bind_eq_bind, Option.bind_some]
  rw [hname, Option.bind_some, if_neg (by decide), htrim,
    trim_eq_self (not_blank_of_mem hdigits hpercent)]

/-- A number is read with a percent sign and without one, unless it is too great. -/
theorem progress_of_digits (hne : digits ≠ []) (hdigits : ∀ c ∈ digits, isDigit c = true)
    (hpercent : percent = [] ∨ percent = ['%']) :
    ExecutionStatus.progressOfText (String.ofList (digits ++ percent)) =
      if digitsValue digits ≤ max64 then min (digitsValue digits) 100 else 0 := by
  -- Signs are dropped from the end only, and a digit is none.
  have hlast : dropRightWhile (· == '%') (digits ++ percent) = digits := by
    have hsigns : digits.reverse.dropWhile (· == '%') = digits.reverse := by
      refine drop_while_eq_self fun c hc => ?_
      rw [beq_eq_false_iff_ne]
      rintro rfl
      exact absurd (hdigits _ (List.mem_reverse.1 hc)) (by decide)
    obtain rfl | rfl := hpercent
    · rw [List.append_nil, dropRightWhile, hsigns, List.reverse_reverse]
    · rw [dropRightWhile, List.reverse_append, List.reverse_singleton, List.singleton_append,
        List.dropWhile_cons_of_pos (by decide), hsigns, List.reverse_reverse]
  have hnumber : bounded? max64 digits =
      if digitsValue digits ≤ max64 then some (digitsValue digits) else none := by
    have hnatural : natural? digits = some (digitsValue digits) :=
      natural_eq_some_iff.2 ⟨hne, hdigits, rfl⟩
    -- A plus sign in front would be skipped, but the first character is a digit.
    unfold bounded?
    split
    · exact absurd (hdigits '+' List.mem_cons_self) (by decide)
    · dsimp only
      rw [hnatural, Option.filter_some]
      simp only [decide_eq_true_eq]
  rw [ExecutionStatus.progressOfText, String.toList_ofList,
    trim_eq_self (not_blank_of_mem hdigits hpercent), hlast, hnumber]
  by_cases hle : digitsValue digits ≤ max64
  · rw [if_pos hle, if_pos hle]
  · rw [if_neg hle, if_neg hle]

/-- What a status reports whose annotations were collected from streams, if the last annotation of
progress in them is a number. -/
theorem progress_of_last_progress (hne : digits ≠ []) (hdigits : ∀ c ∈ digits, isDigit c = true)
    (hpercent : percent = [] ∨ percent = ['%']) {streams : List Bytes}
    (h : LastProgress (progressLine digits percent) streams) {s : ExecutionStatus}
    (hs : s.annotations = collected streams) :
    s.progress = if digitsValue digits ≤ max64 then min (digitsValue digits) 100 else 0 := by
  have hchars (c : Char) (hc : c ∈ digits ++ percent) : c ≠ '\n' ∧ c ≠ '\r' := by
    have hblank := not_blank_of_mem hdigits hpercent c hc
    refine ⟨?_, ?_⟩ <;> rintro rfl <;> exact absurd hblank (by decide)
  have htext : (progressLine digits percent).toList =
      ExecutionStatus.progressKey.toList ++ '=' :: (digits ++ percent) := String.toList_ofList
  have hvalue : digits ++ percent ≠ [] := by simp [hne]
  have hlast : (digits ++ percent).getLast hvalue ∈ (progressLine digits percent).toList.getLast? := by
    rw [htext, List.getLast?_append, List.getLast?_cons, List.getLast?_eq_getLast_of_ne_nil hvalue]
    rfl
  have hline : '\n' ∉ (progressLine digits percent).toList := by
    rw [htext, List.mem_append, List.mem_cons]
    rintro (hkey | heq | hc)
    · exact absurd hkey (by decide)
    · exact absurd heq (by decide)
    · exact (hchars _ hc).1 rfl
  have hfind := find_progress_of_last hlast hline (hchars _ (List.getLast_mem hvalue)).2
    (parse_progress_line hdigits hpercent) h
  rw [ExecutionStatus.progress, hs, hfind]
  exact progress_of_digits hne hdigits hpercent

end Output

end TaskFleet
