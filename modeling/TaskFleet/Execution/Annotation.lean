import TaskFleet.Execution.Basic
import TaskFleet.Text.Split
import TaskFleet.Text.Utf8

/-!
# Annotations

What a running program tells about itself: lines of its output of the form `key=value`, with a key
that begins with `agentgrid.io/`. The output is cut into lines as bytes and each line is decoded by
itself, so bytes that are no text spoil nothing but their line. Of two values for one key the later
counts.
-/

namespace TaskFleet

open Text

namespace Annotation

/-- The key and the value in a line, if it is an annotation. -/
def parseChars (line : List Char) : Option (List Char × List Char) := do
  let (key, value) ← splitOnce '=' line
  let name ← dropStart? ExecutionStatus.annotationPrefix.toList (trim key)
  if name.isEmpty || name.any isBlank then none else some (trim key, trim value)

/-- The key and the value in a line, if it is an annotation. -/
def parse (line : String) : Option (String × String) :=
  (parseChars line.toList).map fun e => (String.ofList e.1, String.ofList e.2)

end Annotation

namespace Output

/-- The byte that ends a line. -/
def lineFeed : UInt8 := 10

/-- The lines of a stream of bytes; the last one need not be ended. -/
def lines : Bytes → List Bytes
  | [] => []
  | b :: rest =>
    if b = lineFeed then [] :: lines rest
    else match lines rest with
      | [] => [[b]]
      | line :: more => (b :: line) :: more

/-- The text of a line, without what ends it. -/
def lineText (line : Bytes) : List Char :=
  dropRightWhile (fun c => c == '\n' || c == '\r') (decodeLossy line)

/-- Adds the annotation in a line, if there is one. -/
def annotate (d : Dict String String) (line : List Char) : Dict String String :=
  match Annotation.parseChars line with
  | some (key, value) => d.insert (String.ofList key) (String.ofList value)
  | none => d

/-- Adds the annotations in a stream. -/
def annotations (d : Dict String String) (bytes : Bytes) : Dict String String :=
  ((lines bytes).map lineText).foldl annotate d

/-- The last line of a stream that is not blank. -/
def tail? (bytes : Bytes) : Option String :=
  (((lines bytes).map fun line => trim (lineText line)).reverse.find? fun line =>
    !line.isEmpty).map String.ofList

end Output

end TaskFleet
