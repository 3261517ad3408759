import Mathlib.Data.List.DropRight
import TaskFleet.Proofs.Execution.Output
import TaskFleet.Proofs.Text.Decoding

/-!
# Output read line by line

The output of a program is a stream that is read one line after the other: a line is what precedes
the next line feed, and is decoded together with it (`nextLine?`). `Reads` is a reading up to the
end of the stream, which is where it stops and nowhere else. What it leaves is what `annotations`
says (`reads_iff`), and the same as if the stream had been decoded as a whole and cut into lines of
text (`annotations_eq_foldl`). `read_by_line` says this of streams of any bytes.
-/

namespace TaskFleet

open Text

namespace Annotation

/-- A blank at the end of a line is no part of its annotation. -/
theorem parse_chars_append_blank {c : Char} (h : isBlank c = true) (line : List Char) :
    parseChars (line ++ [c]) = parseChars line := by
  have hsep : '=' ∉ [c] := by
    rw [List.mem_singleton]
    rintro rfl
    exact absurd h (by decide)
  rw [parseChars, parseChars, splitOnce_append_right hsep]
  cases splitOnce '=' line with
  | none => rfl
  | some parts =>
      simp only [Option.map_some, Option.bind_eq_bind, Option.bind_some, trim_append_blank h]

/-- Nor is what ends the line. -/
theorem parse_chars_drop_right (line : List Char) :
    parseChars (dropRightWhile (fun c => c == '\n' || c == '\r') line) = parseChars line := by
  show parseChars (line.rdropWhile _) = _
  induction line using List.reverseRecOn with
  | nil => rfl
  | append_singleton line c ih =>
      rw [List.rdropWhile_concat]
      split
      · rename_i hend
        have hblank : isBlank c = true := by
          rw [Bool.or_eq_true, beq_iff_eq, beq_iff_eq] at hend
          obtain rfl | rfl := hend <;> decide
        rw [ih, parse_chars_append_blank hblank]
      · rfl

end Annotation

namespace Output

/-! ## Lines and what follows them -/

/-- The bytes up to the first line feed and with it, and those that follow. -/
def cutLine : Bytes → Bytes × Bytes
  | [] => ([], [])
  | b :: rest =>
    if b = lineFeed then ([b], rest) else (b :: (cutLine rest).1, (cutLine rest).2)

/-- The text of the next line of a stream and what follows it, or `none` at the end. -/
def nextLine? : Bytes → Option (List Char × Bytes)
  | [] => none
  | b :: rest => some (lineText (cutLine (b :: rest)).1, (cutLine (b :: rest)).2)

/-- A reading of a stream to its end, with the annotations before it and after it. -/
inductive Reads : Dict String String → Bytes → Dict String String → Prop where
  | finished {d : Dict String String} {bytes : Bytes} (h : nextLine? bytes = none) : Reads d bytes d
  | line {d e : Dict String String} {bytes rest : Bytes} {text : List Char}
      (h : nextLine? bytes = some (text, rest)) (hrest : Reads (annotate d text) rest e) :
      Reads d bytes e

/-- A stream is a line that is not ended, or a line, its line feed, and another stream. -/
@[elab_as_elim]
theorem by_lines {motive : Bytes → Prop} (last : ∀ line, lineFeed ∉ line → motive line)
    (ended : ∀ line rest, lineFeed ∉ line → motive rest → motive (line ++ lineFeed :: rest))
    (bytes : Bytes) : motive bytes := by
  by_cases hfeed : lineFeed ∈ bytes
  · obtain ⟨line, rest, hbytes, hline⟩ := List.eq_append_cons_of_mem hfeed
    exact hbytes ▸ ended line rest hline (by_lines last ended rest)
  · exact last bytes hfeed
termination_by bytes.length
decreasing_by
  rw [hbytes, List.length_append, List.length_cons]
  omega

theorem next_line_eq_none_iff {bytes : Bytes} : nextLine? bytes = none ↔ bytes = [] := by
  cases bytes <;> simp [nextLine?]

theorem cut_line_ended {line : Bytes} (h : lineFeed ∉ line) (rest : Bytes) :
    cutLine (line ++ lineFeed :: rest) = (line ++ [lineFeed], rest) := by
  induction line with
  | nil => rfl
  | cons b line ih =>
      obtain ⟨hb, hline⟩ := not_or.1 (mt List.mem_cons.2 h)
      rw [List.cons_append, cutLine, if_neg fun heq => hb heq.symm, ih hline, List.cons_append]

theorem cut_line_last {line : Bytes} (h : lineFeed ∉ line) : cutLine line = (line, []) := by
  induction line with
  | nil => rfl
  | cons b line ih =>
      obtain ⟨hb, hline⟩ := not_or.1 (mt List.mem_cons.2 h)
      rw [cutLine, if_neg fun heq => hb heq.symm, ih hline]

/-- Decoding may be cut at a line feed. -/
theorem decode_lossy_ended (a b : Bytes) :
    decodeLossy (a ++ lineFeed :: b) = decodeLossy a ++ '\n' :: decodeLossy b :=
  decode_lossy_append (by decide) a b

/-- A line is decoded with its line feed as without it. -/
theorem line_text_ended (line : Bytes) : lineText (line ++ [lineFeed]) = lineText line := by
  rw [lineText, decode_lossy_ended, decodeLossy, dropRightWhile, List.reverse_append,
    List.reverse_singleton, List.singleton_append, List.dropWhile_cons_of_pos (by decide)]
  rfl

theorem next_line_ended {line : Bytes} (h : lineFeed ∉ line) (rest : Bytes) :
    nextLine? (line ++ lineFeed :: rest) = some (lineText line, rest) := by
  have hcut := cut_line_ended h rest
  rw [← line_text_ended]
  cases line with
  | nil => rw [List.nil_append, nextLine?, ← List.nil_append (lineFeed :: rest), hcut]
  | cons b line => rw [List.cons_append, nextLine?, ← List.cons_append, hcut]

theorem next_line_last {line : Bytes} (h : lineFeed ∉ line) (hne : line ≠ []) :
    nextLine? line = some (lineText line, []) := by
  cases line with
  | nil => exact absurd rfl hne
  | cons b line => rw [nextLine?, cut_line_last h]

/-! ## Readings -/

theorem annotations_ended {line : Bytes} (h : lineFeed ∉ line) (rest : Bytes)
    (d : Dict String String) :
    annotations d (line ++ lineFeed :: rest) = annotations (annotate d (lineText line)) rest := by
  rw [annotations, lines_cons h]
  rfl

theorem annotations_last {line : Bytes} (h : lineFeed ∉ line) (hne : line ≠ [])
    (d : Dict String String) : annotations d line = annotate d (lineText line) := by
  rw [annotations, lines_singleton h hne]
  rfl

/-- Each line is read for its annotation, and the stream is read on behind it. -/
theorem annotations_of_next_line {bytes rest : Bytes} {text : List Char}
    (h : nextLine? bytes = some (text, rest)) (d : Dict String String) :
    annotations d bytes = annotations (annotate d text) rest := by
  induction bytes using by_lines with
  | last line hline =>
      have hne : line ≠ [] := by
        rintro rfl
        cases h
      rw [next_line_last hline hne] at h
      cases h
      exact annotations_last hline hne d
  | ended line rest hline _ =>
      rw [next_line_ended hline] at h
      cases h
      exact annotations_ended hline rest d

/-- A stream has one reading, which goes to its end. -/
theorem reads_iff {d e : Dict String String} {bytes : Bytes} :
    Reads d bytes e ↔ e = annotations d bytes := by
  constructor
  · intro h
    induction h with
    | finished h =>
        rw [next_line_eq_none_iff.1 h]
        rfl
    | line h _ ih => rw [annotations_of_next_line h, ih]
  · rintro rfl
    induction bytes using by_lines generalizing d with
    | last line hline =>
        obtain rfl | hne := eq_or_ne line []
        · exact .finished rfl
        · rw [annotations_last hline hne]
          exact .line (next_line_last hline hne) (.finished rfl)
    | ended line rest hline ih =>
        rw [annotations_ended hline]
        exact .line (next_line_ended hline rest) ih

/-! ## Lines of text -/

/-- The annotations in the lines of a text, in the order of the lines. -/
def annotationsOfText (text : List Char) : List (String × String) :=
  ((splitAll '\n' text).map String.ofList).filterMap Annotation.parse

theorem annotations_of_text_append (s t : List Char) :
    annotationsOfText (s ++ '\n' :: t) = annotationsOfText s ++ annotationsOfText t := by
  rw [annotationsOfText, splitAll_append, List.map_append, List.filterMap_append]
  rfl

/-- What ends a line makes no difference to the annotation in it. -/
theorem annotate_line_text (d : Dict String String) (line : Bytes) :
    annotate d (lineText line) = annotate d (decodeLossy line) := by
  rw [annotate, annotate, lineText, Annotation.parse_chars_drop_right]

/-- The annotation of one line of text. -/
theorem foldl_of_line {text : List Char} (h : '\n' ∉ text) (d : Dict String String) :
    (annotationsOfText text).foldl (fun d e => d.insert e.1 e.2) d = annotate d text := by
  rw [annotationsOfText, splitAll_eq_self h, annotate, List.map_singleton, List.filterMap_cons,
    Annotation.parse, String.toList_ofList]
  cases Annotation.parseChars text <;> rfl

/-- The annotations in a stream are those in its text, in the order of the lines. -/
theorem annotations_eq_foldl (d : Dict String String) (bytes : Bytes) :
    annotations d bytes =
      (annotationsOfText (decodeLossy bytes)).foldl (fun d e => d.insert e.1 e.2) d := by
  -- Line by line: the text of a line holds no line feed, so the text of the stream is cut where its
  -- bytes are.
  induction bytes using by_lines generalizing d with
  | last line hline =>
      rw [foldl_of_line (line_feed_not_mem_decode_lossy hline)]
      obtain rfl | hne := eq_or_ne line []
      · rw [decodeLossy]
        rfl
      · rw [annotations_last hline hne, annotate_line_text]
  | ended line rest hline ih =>
      rw [annotations_ended hline, ih, decode_lossy_ended, annotations_of_text_append,
        List.foldl_append, foldl_of_line (line_feed_not_mem_decode_lossy hline),
        annotate_line_text]

/-- What follows a line feed is read as a stream of its own. -/
theorem annotations_append (d : Dict String String) (a b : Bytes) :
    annotations d (a ++ lineFeed :: b) = annotations (annotations d a) b := by
  rw [annotations_eq_foldl, annotations_eq_foldl d a, annotations_eq_foldl _ b,
    decode_lossy_ended, annotations_of_text_append, List.foldl_append]

/-- A stream overrides, key by key, the annotations that were there before it. -/
theorem find_annotations (d : Dict String String) (bytes : Bytes) (key : String) :
    (annotations d bytes).find? key =
      ((annotations .empty bytes).find? key).or (d.find? key) := by
  rw [annotations_eq_foldl, annotations_eq_foldl .empty, Dict.find?_foldl_insert Prod.fst Prod.snd,
    Dict.find?_foldl_insert Prod.fst Prod.snd, Dict.find?_empty, Option.or_none]

/-- Output of any bytes is read line by line. The reading ends at the end of the stream alone, and
with the annotations in the lines of the stream's text, of which the later count. They override, key
by key, those from before the stream, and what follows a line feed overrides what precedes it. -/
theorem read_by_line :
    (∀ (d e : Dict String String) (bytes : Bytes), Reads d bytes e ↔ e = annotations d bytes) ∧
    (∀ bytes : Bytes, nextLine? bytes = none ↔ bytes = []) ∧
    (∀ bytes : Bytes,
      annotations .empty bytes = .ofList (annotationsOfText (decodeLossy bytes))) ∧
    (∀ (d : Dict String String) (bytes : Bytes) (key : String),
      (annotations d bytes).find? key =
        ((annotations .empty bytes).find? key).or (d.find? key)) ∧
    ∀ (a b : Bytes) (key : String),
      (annotations .empty (a ++ lineFeed :: b)).find? key =
        ((annotations .empty b).find? key).or ((annotations .empty a).find? key) := by
  refine ⟨fun d e bytes => reads_iff, fun bytes => next_line_eq_none_iff,
    annotations_eq_foldl .empty, find_annotations, fun a b key => ?_⟩
  rw [annotations_append, find_annotations]

example : annotations .empty "agentgrid.io/progress = 40\nhalf = done\n".toUTF8.toList =
    .ofList [("agentgrid.io/progress", "40")] := by
  decide +kernel

end Output

end TaskFleet
