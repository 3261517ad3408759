import TaskFleet.Resource.Quantity
import TaskFleet.Text.Blank
import TaskFleet.Text.Quoted
import TaskFleet.Text.Split

/-!
# Quantities as text

A quantity is written as a decimal number and a unit suffix: `m` for milli-units, `Ki` to `Pi`
for powers of 1024, `k` to `P` for powers of 1000. `parse` takes any such text and rounds up to a
milli-unit; `render` chooses the greatest suffix that divides the quantity, binary before decimal.
-/

namespace TaskFleet.Quantity

open Text

/-- Why a text is no quantity. -/
inductive Flaw where
  | empty
  | negative
  | unknownSuffix
  | missingNumber
  | badInteger
  | tooManyDigits
  | badFraction
  | overflow
deriving DecidableEq, Repr

/-- The reason as a message gives it. -/
def Flaw.message : Flaw → String
  | .empty => "empty"
  | .negative => "negative quantities are not allowed"
  | .unknownSuffix => "unknown suffix"
  | .missingNumber => "missing number"
  | .badInteger => "bad integer part"
  | .tooManyDigits => "too many fractional digits"
  | .badFraction => "bad fraction"
  | .overflow => "overflow"

/-- A text that is no quantity, with the reason. -/
structure ParseError where
  input : String
  flaw : Flaw
deriving DecidableEq, Repr

def ParseError.message (e : ParseError) : String :=
  "invalid quantity " ++ quoted e.input ++ ": " ++ e.flaw.message

/-- The binary suffixes and the number of units that each stands for, greatest first. -/
def binarySuffixes : List (List Char × Nat) :=
  [(['P', 'i'], 1 <<< 50), (['T', 'i'], 1 <<< 40), (['G', 'i'], 1 <<< 30), (['M', 'i'], 1 <<< 20),
    (['K', 'i'], 1 <<< 10)]

/-- The decimal suffixes and the number of units that each stands for, greatest first. -/
def decimalSuffixes : List (List Char × Nat) :=
  [(['P'], 1000000000000000), (['T'], 1000000000000), (['G'], 1000000000), (['M'], 1000000),
    (['k'], 1000)]

/-- The milli-units in one of what a suffix counts. -/
def milliMultiplier? (suffix : List Char) : Option Nat :=
  if suffix = [] then some 1000
  else if suffix = ['m'] then some 1
  else ((binarySuffixes ++ decimalSuffixes).find? fun s => s.1 = suffix).map (·.2 * 1000)

/-- Whether a character belongs to the number and not to the suffix. -/
def isNumberChar (c : Char) : Bool :=
  isDigit c || c == '.'

/-- The whole milli-units that an integer part stands for; an empty part counts as zero. -/
def integerMillis (multiplier : Nat) (digits : List Char) : Except Flaw Nat :=
  if digits.isEmpty then .ok 0
  else match (natural? digits).filter (· ≤ max128) with
    | none => .error .badInteger
    | some n => if n * multiplier ≤ max128 then .ok (n * multiplier) else .error .overflow

/-- The milli-units that a fraction stands for, rounded up; an empty fraction counts as zero. -/
def fractionMillis (multiplier : Nat) (digits : List Char) : Except Flaw Nat :=
  if digits.isEmpty then .ok 0
  else if 18 < digits.length then .error .tooManyDigits
  else match natural? digits with
    | none => .error .badFraction
    | some n =>
      let scale := Nat.pow 10 digits.length
      .ok ((n * multiplier + (scale - 1)) / scale)

/-- The milli-units that a text without blanks at its ends stands for. -/
def parseMillis (s : List Char) : Except Flaw Nat := do
  if s.isEmpty then throw .empty
  if s.head? = some '-' then throw .negative
  let number := s.takeWhile isNumberChar
  let some multiplier := milliMultiplier? (s.dropWhile isNumberChar) | throw .unknownSuffix
  let (integer, fraction) := (splitOnce '.' number).getD (number, [])
  if integer.isEmpty && fraction.isEmpty then throw .missingNumber
  let whole ← integerMillis multiplier integer
  let part ← fractionMillis multiplier fraction
  if max64 < whole + part then throw .overflow
  return whole + part

/-- Reads a quantity; blanks around it are dropped. -/
def parse (input : String) : Except ParseError Quantity :=
  match parseMillis (trim input.toList) with
  | .ok n => .ok (ofMillis n)
  | .error flaw => .error ⟨input, flaw⟩

/-- The first suffix of a list that divides `units` evenly, with the quotient. -/
def fittingSuffix? (units : Nat) (suffixes : List (List Char × Nat)) :
    Option (Nat × List Char) :=
  (suffixes.find? fun s => s.2 ≤ units && units % s.2 == 0).map fun s => (units / s.2, s.1)

/-- The canonical text of a quantity, as characters. -/
def renderChars (q : Quantity) : List Char :=
  if q.millis % 1000 ≠ 0 then Nat.toDigits 10 q.millis ++ ['m']
  else
    let units := q.millis / 1000
    match fittingSuffix? units (binarySuffixes ++ decimalSuffixes) with
    | some (count, suffix) => Nat.toDigits 10 count ++ suffix
    | none => Nat.toDigits 10 units

/-- The canonical text of a quantity. -/
def render (q : Quantity) : String :=
  String.ofList q.renderChars

instance : ToString Quantity := ⟨render⟩

end TaskFleet.Quantity
