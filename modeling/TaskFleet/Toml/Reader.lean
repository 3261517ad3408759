import TaskFleet.Toml.Scalar

/-!
# Reading TOML

From text to documents by the TOML grammar. Every function takes the characters before it and
gives back those after it, or `none` where the text is no TOML.
-/

namespace TaskFleet.Toml

open Text (hexDigit?)

/-- A function that reads something from the front of a text. -/
abbrev Scanner (α : Type) := List Char → Option (α × List Char)

/-- Cuts blanks and tabs from the front. -/
def skipBlanks (s : List Char) : List Char :=
  s.dropWhile fun c => c == ' ' || c == '\t'

/-- Whether a character may stand in comments and strings as it is. -/
def isPlain (c : Char) : Bool :=
  c == '\t' || (0x20 ≤ c.val && c.val != 0x7F)

/-- Reads the end of a line. -/
def newline? : List Char → Option (List Char)
  | '\n' :: rest => some rest
  | '\r' :: '\n' :: rest => some rest
  | _ => none

/-- Cuts a comment from the front, up to the end of its line. -/
def skipComment : List Char → List Char
  | '#' :: rest => rest.dropWhile isPlain
  | s => s

/-- Cuts blanks, ends of lines and comments from the front. -/
def skipLines : Nat → List Char → List Char
  | 0, s => s
  | fuel + 1, s =>
    let s := skipComment (skipBlanks s)
    match newline? s with
    | some rest => skipLines fuel rest
    | none => s

/-- The character of a code point given by hexadecimal digits. -/
def codePoint? (digits : List Char) : Option Char := do
  let n ← digits.foldlM (fun n c => return 16 * n + (← hexDigit? c)) 0
  if n < 0xD800 ∨ (0xDFFF < n ∧ n < 0x110000) then some (Char.ofNat n) else none

/-- Reads an escape after its backslash. -/
def scanEscape : Scanner Char
  | 'b' :: rest => some ('\x08', rest)
  | 't' :: rest => some ('\t', rest)
  | 'n' :: rest => some ('\n', rest)
  | 'f' :: rest => some ('\x0c', rest)
  | 'r' :: rest => some ('\r', rest)
  | '"' :: rest => some ('"', rest)
  | '\\' :: rest => some ('\\', rest)
  | 'u' :: a :: b :: c :: d :: rest => (codePoint? [a, b, c, d]).map (·, rest)
  | 'U' :: a :: b :: c :: d :: e :: f :: g :: h :: rest =>
    (codePoint? [a, b, c, d, e, f, g, h]).map (·, rest)
  | _ => none

/-- Reads a string in double quotes after the opening one. -/
def scanBasic : Nat → Scanner (List Char)
  | 0, _ => none
  | _ + 1, [] => none
  | fuel + 1, c :: rest =>
    if c = '"' then some ([], rest)
    else if c = '\\' then do
      let (c, rest) ← scanEscape rest
      let (more, rest) ← scanBasic fuel rest
      return (c :: more, rest)
    else if isPlain c then do
      let (more, rest) ← scanBasic fuel rest
      return (c :: more, rest)
    else none

/-- Reads a string in single quotes after the opening one. -/
def scanLiteral (s : List Char) : Option (List Char × List Char) :=
  let content := s.takeWhile fun c => c != '\'' && isPlain c
  match s.drop content.length with
  | '\'' :: rest => some (content, rest)
  | _ => none

/-- Reads the closing quotes of a string of several lines: up to two more belong to the string. -/
def scanClosing (quote : Char) (s : List Char) : Option (List Char × List Char) :=
  let quotes := s.takeWhile (· == quote)
  if 3 ≤ quotes.length then
    let inside := min (quotes.length - 3) 2
    some (List.replicate inside quote, s.drop (inside + 3))
  else none

/-- What follows a backslash at the end of a line, up to the next character that is not blank. -/
def skipContinuation (fuel : Nat) (s : List Char) : Option (List Char) := do
  let rest ← newline? (skipBlanks s)
  let rec skip : Nat → List Char → List Char
    | 0, s => s
    | fuel + 1, s =>
      match newline? (skipBlanks s) with
      | some rest => skip fuel rest
      | none => skipBlanks s
  return skip fuel rest

/-- Reads a string of several lines after its opening quotes; `quote` tells whether it has escapes
(double quotes) or not (single quotes). -/
def scanLines (quote : Char) : Nat → Scanner (List Char)
  | 0, _ => none
  | _ + 1, [] => none
  | fuel + 1, c :: rest =>
    match scanClosing quote (c :: rest), newline? (c :: rest) with
    | some closed, _ => some closed
    | none, some rest => do
      let (more, rest) ← scanLines quote fuel rest
      return ('\n' :: more, rest)
    | none, none =>
      if c = '\\' ∧ quote = '"' then
        match skipContinuation rest.length rest with
        | some rest => scanLines quote fuel rest
        | none => do
          let (c, rest) ← scanEscape rest
          let (more, rest) ← scanLines quote fuel rest
          return (c :: more, rest)
      else if isPlain c then do
        let (more, rest) ← scanLines quote fuel rest
        return (c :: more, rest)
      else none

/-- Drops an end of line that follows the opening quotes at once. -/
def dropFirstNewline (s : List Char) : List Char :=
  (newline? s).getD s

/-- Reads any string. -/
def scanString (s : List Char) : Option (List Char × List Char) :=
  match s with
  | '"' :: '"' :: '"' :: rest => scanLines '"' (rest.length + 1) (dropFirstNewline rest)
  | '\'' :: '\'' :: '\'' :: rest => scanLines '\'' (rest.length + 1) (dropFirstNewline rest)
  | '"' :: rest => scanBasic (rest.length + 1) rest
  | '\'' :: rest => scanLiteral rest
  | _ => none

/-- Whether a character may stand in a key without quotes. -/
def isKeyChar (c : Char) : Bool :=
  c.isAlphanum || c == '_' || c == '-'

/-- Reads one part of a key. -/
def scanSimpleKey : Scanner String
  | '"' :: rest => (scanBasic (rest.length + 1) rest).map fun (k, rest) => (String.ofList k, rest)
  | '\'' :: rest => (scanLiteral rest).map fun (k, rest) => (String.ofList k, rest)
  | s =>
    let key := s.takeWhile isKeyChar
    if key.isEmpty then none else some (String.ofList key, s.drop key.length)

/-- The deepest nesting of arrays and inline tables, and the most parts of a dotted key. -/
def maxDepth : Nat := 79

/-- Reads a key, which may be dotted, in at most so many parts: the parts before the last one, and
the last one. -/
def scanParts : Nat → Scanner (List String × String)
  | 0, _ => none
  | parts + 1, s => do
    let (part, rest) ← scanSimpleKey (skipBlanks s)
    match skipBlanks rest with
    | '.' :: rest =>
      let ((path, key), rest) ← scanParts parts rest
      return ((part :: path, key), rest)
    | rest => return (([], part), rest)

/-- Reads a key. -/
def scanKey : Scanner (List String × String) := scanParts maxDepth

mutual

/-- Reads a value. The arguments bound the work and the nesting. -/
def scanValue : Nat → Nat → Scanner Toml
  | 0, _, _ => none
  | fuel + 1, depth, s =>
    match s with
    | '"' :: _ => (scanString s).map fun (text, rest) => (.string (String.ofList text), rest)
    | '\'' :: _ => (scanString s).map fun (text, rest) => (.string (String.ofList text), rest)
    | '[' :: rest =>
      match depth with
      | 0 => none
      | depth + 1 =>
        (scanElements fuel depth rest).map fun (elements, rest) => (.array elements, rest)
    | '\x7b' :: rest =>
      match depth with
      | 0 => none
      | depth + 1 =>
        match skipBlanks rest with
        | '\x7d' :: rest => some (.inlineTable [], rest)
        | rest =>
          (scanPairs fuel depth [] rest).map fun (entries, rest) => (.inlineTable entries, rest)
    | _ => do
      let (row, rest) := splitScalar s
      let v ← scalar? row
      return (v, rest)

/-- Reads the elements of an array up to its closing bracket. -/
def scanElements : Nat → Nat → Scanner (List Toml)
  | 0, _, _ => none
  | fuel + 1, depth, s =>
    match skipLines s.length s with
    | ']' :: rest => some ([], rest)
    | s => do
      let (v, rest) ← scanValue fuel depth s
      match skipLines rest.length rest with
      | ',' :: rest =>
        let (more, rest) ← scanElements fuel depth rest
        return (v :: more, rest)
      | ']' :: rest => return ([v], rest)
      | _ => none

/-- Reads the pairs of an inline table up to its closing brace. -/
def scanPairs : Nat → Nat → Entries → Scanner Entries
  | 0, _, _, _ => none
  | fuel + 1, depth, entries, s => do
    let ((path, key), rest) ← scanKey s
    match rest with
    | '=' :: rest =>
      let (v, rest) ← scanValue fuel depth (skipBlanks rest)
      let entries ← addDotted path key v entries
      match skipBlanks rest with
      | ',' :: rest => scanPairs fuel depth entries rest
      | '\x7d' :: rest => return (entries, rest)
      | _ => none
    | _ => none

end

/-- What has been read of a document: the root table and the path of the last header. -/
structure SoFar where
  root : Entries := []
  header : List String := []

/-- Reads a header or a pair. -/
def scanExpression (fuel : Nat) (d : SoFar) (s : List Char) : Option (SoFar × List Char) :=
  match s with
  | '[' :: '[' :: rest => do
    let ((path, key), rest) ← scanKey rest
    match rest with
    | ']' :: ']' :: rest => return (⟨← beginElement path key d.root, path ++ [key]⟩, rest)
    | _ => none
  | '[' :: rest => do
    let ((path, key), rest) ← scanKey rest
    match rest with
    | ']' :: rest => return (⟨← beginTable path key d.root, path ++ [key]⟩, rest)
    | _ => none
  | s => do
    let ((path, key), rest) ← scanKey s
    match rest with
    | '=' :: rest =>
      let (v, rest) ← scanValue fuel maxDepth (skipBlanks rest)
      return ({ d with root := ← addAt d.header path key v d.root }, rest)
    | _ => none

/-- Reads the lines of a document. -/
def scanDocument (fuel : Nat) : Nat → SoFar → List Char → Option Entries
  | 0, _, _ => none
  | lines + 1, d, s =>
    match skipLines s.length s with
    | [] => some d.root
    | s => do
      let (d, rest) ← scanExpression fuel d s
      match skipComment (skipBlanks rest) with
      | [] => some d.root
      | rest => scanDocument fuel lines d (← newline? rest)

/-- Reads a document as the object it describes. -/
def read? (text : String) : Option Json :=
  let s := match text.toList with
    | '\uFEFF' :: rest => rest
    | s => s
  let fuel := 2 * s.length + 2
  (scanDocument fuel fuel {} s).map fun root => .obj (toJsonEntries root)

end TaskFleet.Toml
