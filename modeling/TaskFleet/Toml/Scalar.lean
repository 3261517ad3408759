import TaskFleet.Json.Reader
import TaskFleet.Text.Blank
import TaskFleet.Text.Split
import TaskFleet.Toml.Basic

/-!
# Numbers and dates in TOML

The values that are written without quotes and brackets, each recognised as a whole from the row
of characters that it consists of. Dates and times are kept in a canonical form: a capital T
between the two, a capital Z, and no more digits of a second than the first nine, without zeros
at their end.
-/

namespace TaskFleet.Toml

open Text (isDigit digitsValue hexDigit? splitOnce splitAll)
/-- Whether digits and underscores stand as they should: a digit first and last, and no two
underscores together. -/
def isSpacedDigits (isDigit : Char → Bool) (s : List Char) : Bool :=
  (splitAll '_' s).all fun part => !part.isEmpty && part.all isDigit

/-- The value of the digits of a row in a base. -/
def basedValue (base : Nat) (s : List Char) : Nat :=
  (s.filter (· ≠ '_')).foldl (fun n c => base * n + (hexDigit? c).getD 0) 0

/-- Splits the sign from a number: whether it is negative, and the rest. -/
def splitSign : List Char → Bool × List Char
  | '+' :: rest => (false, rest)
  | '-' :: rest => (true, rest)
  | s => (false, s)

/-- Whether a row is a decimal integer without sign: spaced digits without a leading zero. -/
def isDecimal (s : List Char) : Bool :=
  isSpacedDigits isDigit s && (s == ['0'] || s.head? != some '0')

/-- The integer, if it fits 64 bits. -/
def int64? (n : Int) : Option Toml :=
  if -0x8000000000000000 ≤ n ∧ n < 0x8000000000000000 then some (.int n) else none

/-- A number in another base than ten, after the marks of its base. -/
def based? (base : Nat) (isDigit : Char → Bool) (s : List Char) : Option Toml :=
  if isSpacedDigits isDigit s then int64? (basedValue base s) else none

/-- Reads an integer. -/
def integer? (s : List Char) : Option Toml :=
  match s with
  | '0' :: 'x' :: rest => based? 16 (fun c => (hexDigit? c).isSome) rest
  | '0' :: 'o' :: rest => based? 8 (fun c => '0' ≤ c && c ≤ '7') rest
  | '0' :: 'b' :: rest => based? 2 (fun c => c == '0' || c == '1') rest
  | _ =>
    let (negative, digits) := splitSign s
    if isDecimal digits then
      let n := basedValue 10 digits
      int64? (if negative then -n else n)
    else none

/-- Whether a row is an exponent after its letter. -/
def isExponent (s : List Char) : Bool :=
  isSpacedDigits isDigit (splitSign s).2

/-- Splits a row at its first letter E. -/
def splitExponent (s : List Char) : Option (List Char × List Char) :=
  splitOnce 'e' (s.map fun c => if c = 'E' then 'e' else c)

/-- The number that an exponent writes. -/
def exponentValue (s : List Char) : Int :=
  let (negative, digits) := splitSign s
  if negative then -(basedValue 10 digits : Int) else basedValue 10 digits

/-- The least number that no floating-point number of 64 bits is near enough to. -/
def floatLimit : Nat := (1 <<< 1024) - (1 <<< 970)

/-- Whether `digits` times a power of ten is beyond the floating-point numbers. The power is only
worked out where it decides. -/
def isBeyondFloats (digits : Nat) (exponent : Int) : Bool :=
  if digits = 0 then false
  else if 0 ≤ exponent then
    308 < exponent || decide (floatLimit ≤ digits * Nat.pow 10 exponent.toNat)
  else
    exponent.natAbs < (Nat.toDigits 10 digits).length &&
      decide (floatLimit * Nat.pow 10 exponent.natAbs ≤ digits)

/-- Reads a floating-point number. One that is too great is refused, but not its negative. -/
def float? (s : List Char) : Option Toml :=
  let (negative, s) := splitSign s
  if s = ['i', 'n', 'f'] ∨ s = ['n', 'a', 'n'] then some .float
  else
    let (mantissa, exponent) := (splitExponent s).getD (s, ['0'])
    let (whole, fraction) := (splitOnce '.' mantissa).getD (mantissa, ['0'])
    let fits := isDecimal whole && isSpacedDigits isDigit fraction && isExponent exponent &&
      (s != whole)
    let places := (fraction.filter (· ≠ '_')).length
    if fits && (negative ||
        !isBeyondFloats (basedValue 10 (whole ++ fraction)) (exponentValue exponent - places))
    then some .float else none

/-- The number that a row of exactly `width` digits writes. -/
def fixedDigits? (width : Nat) (s : List Char) : Option Nat :=
  if s.length = width && s.all isDigit then some (digitsValue s) else none

/-- The number of days in a month. -/
def daysInMonth (year month : Nat) : Nat :=
  if month = 2 then
    if year % 4 = 0 ∧ (year % 100 ≠ 0 ∨ year % 400 = 0) then 29 else 28
  else if month = 4 ∨ month = 6 ∨ month = 9 ∨ month = 11 then 30
  else 31

/-- Reads a date: its text. -/
def date? (s : List Char) : Option (List Char) :=
  match splitAll '-' s with
  | [year, month, day] => do
    let y ← fixedDigits? 4 year
    let m ← fixedDigits? 2 month
    let d ← fixedDigits? 2 day
    if 1 ≤ m ∧ m ≤ 12 ∧ 1 ≤ d ∧ d ≤ daysInMonth y m then some s else none
  | _ => none

/-- Reads hours and minutes: their text. -/
def clock? (hour minute : List Char) : Option (List Char) := do
  let h ← fixedDigits? 2 hour
  let m ← fixedDigits? 2 minute
  if h ≤ 23 ∧ m ≤ 59 then some (hour ++ ':' :: minute) else none

/-- The digits of a part of a second after a point, without what is finer than a nanosecond. -/
def renderFraction (digits : List Char) : List Char :=
  match Text.dropRightWhile (· == '0') (digits.take 9) with
  | [] => []
  | digits => '.' :: digits

/-- Reads seconds: their canonical text. -/
def second? (s : List Char) : Option (List Char) := do
  let (whole, fraction) := (splitOnce '.' s).getD (s, ['0'])
  let n ← fixedDigits? 2 whole
  if n ≤ 60 ∧ fraction ≠ [] ∧ fraction.all isDigit then some (whole ++ renderFraction fraction)
  else none

/-- Reads a time of day without an offset: its canonical text. -/
def time? (s : List Char) : Option (List Char) :=
  match splitAll ':' s with
  | [hour, minute, second] => return (← clock? hour minute) ++ ':' :: (← second? second)
  | _ => none

/-- Reads an offset from universal time: its canonical text. Of no hours and no minutes there is
only the positive one. -/
def offset? (s : List Char) : Option (List Char) :=
  match s with
  | [] => some []
  | ['Z'] | ['z'] => some ['Z']
  | sign :: rest =>
    if sign = '+' ∨ sign = '-' then
      match splitAll ':' rest with
      | [hour, minute] => (clock? hour minute).map fun text =>
        (if text.all fun c => c == '0' || c == ':' then '+' else sign) :: text
      | _ => none
    else none

/-- Reads a time of day, with an offset or without: its canonical text. -/
def offsetTime? (s : List Char) : Option (List Char) :=
  let time := s.takeWhile fun c => isDigit c || c == ':' || c == '.'
  return (← time? time) ++ (← offset? (s.drop time.length))

/-- Reads a date and a time: their canonical text. -/
def dateTime? (s : List Char) : Option (List Char) :=
  match s.drop 10 with
  | c :: time =>
    if c = 'T' ∨ c = 't' ∨ c = ' ' then
      return (← date? (s.take 10)) ++ 'T' :: (← offsetTime? time)
    else none
  | [] => none

/-- Reads a date, a time, or both. -/
def datetime? (s : List Char) : Option Toml :=
  ((date? s).or ((time? s).or (dateTime? s))).map fun text => .datetime (String.ofList text)

/-- Reads a value that is written without quotes and brackets. -/
def scalar? (s : List Char) : Option Toml :=
  if s = ['t', 'r', 'u', 'e'] then some (.bool true)
  else if s = ['f', 'a', 'l', 's', 'e'] then some (.bool false)
  else (integer? s).or ((float? s).or (datetime? s))

/-- Whether a character can belong to such a value. -/
def isScalarChar (c : Char) : Bool :=
  c.isAlphanum || c == '+' || c == '-' || c == '_' || c == '.' || c == ':'

/-- Splits the characters of such a value from the front. A date goes on after a blank if a time
follows. -/
def splitScalar (s : List Char) : List Char × List Char :=
  let first := s.takeWhile isScalarChar
  let rest := s.drop first.length
  match rest with
  | ' ' :: more@(c :: _) =>
    if (date? first).isSome && isDigit c then
      let second := more.takeWhile isScalarChar
      (first ++ ' ' :: second, more.drop second.length)
    else (first, rest)
  | _ => (first, rest)

end TaskFleet.Toml
