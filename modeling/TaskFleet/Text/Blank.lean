/-!
# Blank characters and trimming

White space in the sense of the Unicode property `White_Space`, and the functions that cut it
from the ends of a text. `mem_of_mem_trim` says that trimming only removes.
-/

namespace TaskFleet.Text

/-- Whether a character is white space by the Unicode property `White_Space`. -/
def isBlank (c : Char) : Bool :=
  let n := c.toNat
  (9 ≤ n && n ≤ 13) || n == 0x20 || n == 0x85 || n == 0xA0 || n == 0x1680 ||
    (0x2000 ≤ n && n ≤ 0x200A) || n == 0x2028 || n == 0x2029 || n == 0x202F || n == 0x205F ||
    n == 0x3000

/-- Cuts the characters that satisfy `p` from the end. -/
def dropRightWhile (p : Char → Bool) (s : List Char) : List Char :=
  (s.reverse.dropWhile p).reverse

/-- Cuts the blanks from both ends. -/
def trim (s : List Char) : List Char :=
  dropRightWhile isBlank (s.dropWhile isBlank)

/-- Whether a text holds nothing but blanks. -/
def isBlankText (s : String) : Bool :=
  s.toList.all isBlank

theorem mem_of_mem_dropRightWhile {p : Char → Bool} {c : Char} {s : List Char}
    (h : c ∈ dropRightWhile p s) : c ∈ s := by
  have := (List.dropWhile_sublist (l := s.reverse) p).mem (List.mem_reverse.1 h)
  simpa using this

/-- Trimming keeps no character that was not there. -/
theorem mem_of_mem_trim {c : Char} {s : List Char} (h : c ∈ trim s) : c ∈ s :=
  (List.dropWhile_sublist isBlank).mem (mem_of_mem_dropRightWhile h)

end TaskFleet.Text
