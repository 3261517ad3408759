import TaskFleet.Text.Blank
import TaskFleet.Text.Decimal
import TaskFleet.Text.Quoted
import TaskFleet.Text.Split

/-!
# Durations

A span of time in nanoseconds with the text form that settings and tasks use: `500ms`, `30s`,
`5m`, `1h`, or bare seconds. `render` writes whole seconds as seconds and everything else in
milliseconds, dropping what is finer.
-/

namespace TaskFleet

open Text

/-- A span of time. There is no bound here. All that texts and numbers stand for is less than 2^64
seconds, and so is all that a program can hold. -/
structure Duration where
  nanos : Nat
deriving DecidableEq, Repr, Inhabited

namespace Duration

/-- No time at all. -/
def zero : Duration := ⟨0⟩

/-- The span of `n` milliseconds. -/
def ofMillis (n : Nat) : Duration := ⟨n * 1000000⟩

/-- The span of `n` seconds. -/
def ofSecs (n : Nat) : Duration := ⟨n * 1000000000⟩

/-- Whole seconds, rounded down. -/
def secs (d : Duration) : Nat := d.nanos / 1000000000

/-- Whole seconds, rounded up. With a part of the last second below 2^64 this is 2^64, which 64 bits
do not hold; no text and no number stands for such a span. -/
def secsCeil (d : Duration) : Nat := (d.nanos + 999999999) / 1000000000

/-- Whole milliseconds, rounded down. -/
def millis (d : Duration) : Nat := d.nanos / 1000000

/-- Whether the span is empty. -/
def isZero (d : Duration) : Bool := d.nanos == 0

/-- The shorter of two spans. -/
def min (a b : Duration) : Duration := ⟨Nat.min a.nanos b.nanos⟩

/-- A text that is no duration; blanks around it are already gone. -/
structure ParseError where
  input : String
deriving DecidableEq, Repr

def ParseError.message (e : ParseError) : String :=
  "invalid duration " ++ quoted e.input

/-- The units by their suffix, in milliseconds, in the order in which they are looked for. -/
def units : List (List Char × Nat) :=
  [(['m', 's'], 1), (['s'], 1000), (['m'], 60000), (['h'], 3600000)]

/-- Splits a text into the number part and the milliseconds in one of its units; without a
suffix the unit is the second. -/
def splitUnit (s : List Char) : List Char × Nat :=
  (units.findSome? fun u => (dropEnd? u.1 s).map fun number => (number, u.2)).getD (s, 1000)

/-- The milliseconds that a text without blanks at its ends stands for. -/
def parseMillis? (s : List Char) : Option Nat := do
  let (number, unit) := splitUnit s
  let count ← bounded? max64 (trim number)
  if count * unit ≤ max64 then some (count * unit) else none

/-- Reads a duration; blanks around it and before the unit are dropped. -/
def parse (input : String) : Except ParseError Duration :=
  let s := trim input.toList
  match parseMillis? s with
  | some n => .ok (ofMillis n)
  | none => .error ⟨String.ofList s⟩

/-- The text of a duration, as characters. -/
def renderChars (d : Duration) : List Char :=
  if d.millis % 1000 = 0 then Nat.toDigits 10 d.secs ++ ['s']
  else Nat.toDigits 10 d.millis ++ ['m', 's']

/-- The text of a duration. -/
def render (d : Duration) : String :=
  String.ofList d.renderChars

end Duration

end TaskFleet
