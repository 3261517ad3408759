/-!
# Numerals

Natural numbers read from ASCII digits. `natural?` takes decimal digits only, `bounded?` also takes
a leading plus sign and refuses a number above its limit. `isReal` knows the texts of floating-point
numbers.
-/

namespace TaskFleet.Text

/-- Whether a character is one of the ten ASCII digits. -/
def isDigit (c : Char) : Bool :=
  '0' ≤ c && c ≤ '9'

/-- The number that a row of ASCII digits writes, its leading digit first. -/
def digitsValue (s : List Char) : Nat :=
  s.foldl (fun value c => 10 * value + (c.toNat - 48)) 0

/-- The number written by a text of one or more digits. -/
def natural? (s : List Char) : Option Nat :=
  if s.isEmpty then none else if s.all isDigit then some (digitsValue s) else none

/-- The number written by digits after an optional plus sign, if it is at most `limit`. -/
def bounded? (limit : Nat) (s : List Char) : Option Nat :=
  let digits := match s with
    | '+' :: rest => rest
    | _ => s
  (natural? digits).filter (· ≤ limit)

/-- The value of a hexadecimal digit. -/
def hexDigit? (c : Char) : Option Nat :=
  if isDigit c then some (c.toNat - 48)
  else if 'a' ≤ c && c ≤ 'f' then some (c.toNat - 87)
  else if 'A' ≤ c && c ≤ 'F' then some (c.toNat - 55)
  else none

/-- What is left of a text after a plus or minus sign at its front. -/
def dropSign : List Char → List Char
  | '+' :: rest => rest
  | '-' :: rest => rest
  | s => s

/-- Whether a text is nothing or an exponent: a letter `e` and digits after an optional sign. -/
def isExponent : List Char → Bool
  | [] => true
  | e :: rest => (e == 'e' || e == 'E') && (natural? (dropSign rest)).isSome

/-- Whether a text is a floating-point number: after an optional sign digits, which may have a
point before, among or after them, and an optional exponent; or a word for infinity or for no
number. -/
def isReal (s : List Char) : Bool :=
  let s := dropSign s
  let (whole, rest) := s.span isDigit
  let (fraction, rest) := match rest with
    | '.' :: rest => rest.span isDigit
    | _ => ([], rest)
  ["inf", "infinity", "nan"].contains (String.ofList (s.map Char.toLower)) ||
    (!(whole ++ fraction).isEmpty && isExponent rest)

/-- The greatest unsigned number of 32 bits. -/
def max32 : Nat := 0xFFFFFFFF

/-- The greatest unsigned number of 64 bits. -/
def max64 : Nat := 0xFFFFFFFFFFFFFFFF

/-- The greatest unsigned number of 128 bits. -/
def max128 : Nat := 0xFFFFFFFFFFFFFFFFFFFFFFFFFFFFFFFF

/-- A number read under a limit is at most the limit. -/
theorem le_of_bounded? {limit n : Nat} {s : List Char} (h : bounded? limit s = some n) :
    n ≤ limit := by
  simp only [bounded?, Option.filter_eq_some_iff, decide_eq_true_eq] at h
  exact h.2

end TaskFleet.Text
