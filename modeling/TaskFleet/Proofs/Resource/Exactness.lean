import Mathlib.Algebra.Order.Floor.Semiring
import Mathlib.Data.Rat.Floor
import TaskFleet.Proofs.Text.Numerals
import TaskFleet.Resource.QuantityText

/-!
# Exact reading of quantities

`Numeral` is the grammar of quantities, and `Numeral.millis` the rational number of milli-units that
a text of the grammar stands for. `reads_exactly` says that a text is read exactly if it is in the
grammar and its milli-units, rounded up, fit in 64 bits, and that these are then what is read. It
also says that the reading can be done in words of 128 bits (`parseInWords`), where no result that
is not looked at leaves its word.
-/

namespace TaskFleet.Quantity

open Text

/-! ## The grammar -/

/-- A number with a suffix is cut into the number and the suffix. -/
theorem span_number_append {number suffix : List Char}
    (hnumber : ∀ c ∈ number, isNumberChar c = true) (h : ∀ c ∈ suffix, isNumberChar c = false) :
    (number ++ suffix).takeWhile isNumberChar = number ∧
      (number ++ suffix).dropWhile isNumberChar = suffix := by
  have htake : suffix.takeWhile isNumberChar = [] := by
    cases suffix with
    | nil => rfl
    | cons c rest => simp [h c (by simp)]
  constructor
  · rw [List.takeWhile_append_of_pos hnumber, htake, List.append_nil]
  · rw [List.dropWhile_append_of_pos hnumber, drop_while_eq_self h]

theorem is_number_char_of_digit {c : Char} (h : isDigit c = true) : isNumberChar c = true := by
  simp [isNumberChar, h]

/-- What the number in front of a suffix counts. -/
inductive Multiple where
  | one
  | milli
  | kilo
  | mega
  | giga
  | tera
  | peta
  | kibi
  | mebi
  | gibi
  | tebi
  | pebi
deriving DecidableEq, Repr

namespace Multiple

/-- The suffix by which a multiple is written. -/
def suffix : Multiple → List Char
  | one => []
  | milli => ['m']
  | kilo => ['k']
  | mega => ['M']
  | giga => ['G']
  | tera => ['T']
  | peta => ['P']
  | kibi => ['K', 'i']
  | mebi => ['M', 'i']
  | gibi => ['G', 'i']
  | tebi => ['T', 'i']
  | pebi => ['P', 'i']

/-- The milli-units in one of a multiple. -/
def millis : Multiple → Nat
  | one => 10 ^ 3
  | milli => 1
  | kilo => 10 ^ 3 * 10 ^ 3
  | mega => 10 ^ 6 * 10 ^ 3
  | giga => 10 ^ 9 * 10 ^ 3
  | tera => 10 ^ 12 * 10 ^ 3
  | peta => 10 ^ 15 * 10 ^ 3
  | kibi => 2 ^ 10 * 10 ^ 3
  | mebi => 2 ^ 20 * 10 ^ 3
  | gibi => 2 ^ 30 * 10 ^ 3
  | tebi => 2 ^ 40 * 10 ^ 3
  | pebi => 2 ^ 50 * 10 ^ 3

/-- Every suffix of the table is that of a multiple. -/
theorem exists_of_mem_table {s : List Char × Nat} (h : s ∈ binarySuffixes ++ decimalSuffixes) :
    ∃ unit : Multiple, unit.suffix = s.1 ∧ unit.millis = s.2 * 1000 := by
  have hall : ∀ s ∈ binarySuffixes ++ decimalSuffixes,
      ∃ unit ∈ [pebi, tebi, gibi, mebi, kibi, peta, tera, giga, mega, kilo],
        unit.suffix = s.1 ∧ unit.millis = s.2 * 1000 := by
    decide
  obtain ⟨unit, -, hunit⟩ := hall s h
  exact ⟨unit, hunit⟩

/-- The suffixes that are known are those of the multiples. -/
theorem milli_multiplier_eq_some_iff {suffix : List Char} {multiplier : Nat} :
    milliMultiplier? suffix = some multiplier ↔
      ∃ unit : Multiple, unit.suffix = suffix ∧ unit.millis = multiplier := by
  constructor
  · intro h
    unfold milliMultiplier? at h
    split at h
    · rename_i hempty
      cases h
      exact ⟨one, hempty.symm, rfl⟩
    split at h
    · rename_i hmilli
      cases h
      exact ⟨milli, hmilli.symm, rfl⟩
    · obtain ⟨s, hs, rfl⟩ := Option.map_eq_some_iff.1 h
      have hsuffix : s.1 = suffix := by simpa using List.find?_some hs
      rw [← hsuffix]
      exact exists_of_mem_table (List.mem_of_find?_eq_some hs)
  · rintro ⟨unit, rfl, rfl⟩
    cases unit <;> decide

/-- A suffix holds no character of a number. -/
theorem suffix_chars (unit : Multiple) : ∀ c ∈ unit.suffix, isNumberChar c = false := by
  have hall : (unit.suffix.all fun c => !isNumberChar c) = true := by cases unit <;> decide
  simpa using hall

theorem suffix_not_blank (unit : Multiple) : ∀ c ∈ unit.suffix, isBlank c = false := by
  have hall : (unit.suffix.all fun c => !isBlank c) = true := by cases unit <;> decide
  simpa using hall

theorem millis_pos (unit : Multiple) : 0 < unit.millis := by
  cases unit <;> decide

/-- No multiple is above the greatest binary one. -/
theorem millis_le (unit : Multiple) : unit.millis ≤ 2 ^ 50 * 10 ^ 3 := by
  cases unit <;> decide

end Multiple

/-- A decimal number with the suffix of a multiple: digits, which may have a point before, among or
after them, and no more than 18 of them after the point. -/
structure Numeral where
  whole : List Char
  /-- The digits after the point; `none` where there is no point. -/
  fraction : Option (List Char)
  unit : Multiple
  digits : ∀ c ∈ whole ++ fraction.getD [], isDigit c = true
  ne_nil : whole ++ fraction.getD [] ≠ []
  length_le : (fraction.getD []).length ≤ 18

namespace Numeral

/-- The digits after the point. -/
def places (n : Numeral) : List Char :=
  n.fraction.getD []

/-- The number without its suffix. -/
def number (n : Numeral) : List Char :=
  match n.fraction with
  | none => n.whole
  | some places => n.whole ++ '.' :: places

/-- The text of a numeral. -/
def chars (n : Numeral) : List Char :=
  n.number ++ n.unit.suffix

/-- The milli-units that a numeral stands for, without rounding. -/
def millis (n : Numeral) : ℚ :=
  digitsValue (n.whole ++ n.places) / 10 ^ n.places.length * n.unit.millis

theorem is_digit_whole (n : Numeral) : ∀ c ∈ n.whole, isDigit c = true :=
  fun c hc => n.digits c (List.mem_append_left _ hc)

theorem is_digit_places (n : Numeral) : ∀ c ∈ n.places, isDigit c = true :=
  fun c hc => n.digits c (List.mem_append_right _ hc)

/-- A number holds digits and points. -/
theorem number_chars (n : Numeral) : ∀ c ∈ n.number, isNumberChar c = true := by
  unfold number
  cases hfraction : n.fraction with
  | none => exact fun c hc => is_number_char_of_digit (n.is_digit_whole c hc)
  | some places =>
      intro c hc
      rcases List.mem_append.1 hc with hc | hc
      · exact is_number_char_of_digit (n.is_digit_whole c hc)
      · rcases List.mem_cons.1 hc with rfl | hc
        · rfl
        · refine is_number_char_of_digit (n.is_digit_places c ?_)
          rwa [Numeral.places, hfraction]

/-- A number is cut at its point. -/
theorem split_number (n : Numeral) :
    (splitOnce '.' n.number).getD (n.number, []) = (n.whole, n.places) := by
  have hpoint : '.' ∉ n.whole := fun hmem => by
    have hdigit := n.is_digit_whole '.' hmem
    exact absurd hdigit (by decide)
  unfold number places
  cases n.fraction with
  | none => simp [splitOnce_eq_none_iff.2 hpoint]
  | some places => simp [splitOnce_append hpoint]

/-- The digits of a number and its point are read back from where they were cut. -/
theorem exists_of_split {number integer fraction : List Char} (unit : Multiple)
    (hcut : (splitOnce '.' number).getD (number, []) = (integer, fraction))
    (hdigits : ∀ c ∈ integer ++ fraction, isDigit c = true) (hne : integer ++ fraction ≠ [])
    (hlength : fraction.length ≤ 18) :
    ∃ n : Numeral, n.number = number ∧ n.whole = integer ∧ n.places = fraction ∧ n.unit = unit := by
  cases hsplit : splitOnce '.' number with
  | none =>
      rw [hsplit, Option.getD_none, Prod.mk.injEq] at hcut
      obtain ⟨rfl, rfl⟩ := hcut
      exact ⟨⟨number, none, unit, hdigits, hne, hlength⟩, rfl, rfl, rfl, rfl⟩
  | some parts =>
      rw [hsplit, Option.getD_some] at hcut
      subst hcut
      exact ⟨⟨integer, some fraction, unit, hdigits, hne, hlength⟩,
        (append_of_splitOnce hsplit).symm, rfl, rfl, rfl⟩

theorem number_ne_nil (n : Numeral) : n.number ≠ [] := by
  have hne := n.ne_nil
  unfold number
  cases hfraction : n.fraction with
  | none => simpa [hfraction] using hne
  | some places => simp

/-- The text of a numeral is cut into the number and the suffix. -/
theorem span_chars (n : Numeral) :
    n.chars.takeWhile isNumberChar = n.number ∧ n.chars.dropWhile isNumberChar = n.unit.suffix :=
  span_number_append n.number_chars n.unit.suffix_chars

/-- The text of a numeral begins with a digit or a point. -/
theorem head_chars (n : Numeral) {c : Char} (hc : n.chars.head? = some c) :
    isNumberChar c = true := by
  obtain ⟨rest, hchars⟩ := List.head?_eq_some_iff.1 hc
  by_contra hother
  have hnumber := n.span_chars.1
  rw [hchars, List.takeWhile_cons, if_neg hother] at hnumber
  exact n.number_ne_nil hnumber.symm

/-- The milli-units, rounded up, are those of the digits before the point and those of the digits
after it, rounded up. -/
theorem ceil_millis (n : Numeral) :
    ⌈n.millis⌉₊ = digitsValue n.whole * n.unit.millis +
      (digitsValue n.places * n.unit.millis + (10 ^ n.places.length - 1)) /
        10 ^ n.places.length := by
  have hscale : 0 < 10 ^ n.places.length := Nat.pow_pos (by decide)
  have hscaleQ : (0 : ℚ) < 10 ^ n.places.length := by positivity
  refine eq_of_forall_ge_iff fun bound => ?_
  have hround :
      digitsValue n.whole * n.unit.millis +
          (digitsValue n.places * n.unit.millis + (10 ^ n.places.length - 1)) /
            10 ^ n.places.length =
        (digitsValue (n.whole ++ n.places) * n.unit.millis + (10 ^ n.places.length - 1)) /
          10 ^ n.places.length := by
    rw [digits_value_append, Nat.add_mul, Nat.mul_right_comm, Nat.add_assoc, Nat.add_comm,
      ← Nat.add_mul_div_right _ _ hscale, Nat.add_comm]
  rw [hround, Nat.div_le_iff_le_mul_add_pred hscale, Nat.add_le_add_iff_right, Nat.ceil_le, millis,
    div_mul_eq_mul_div, div_le_iff₀ hscaleQ, Nat.mul_comm _ bound]
  exact_mod_cast Iff.rfl

end Numeral

/-! ## Accepted texts -/

/-- Whole milli-units are read from digits, unless they leave a word of 128 bits. -/
theorem integer_millis_ok_iff {multiplier value : Nat} {digits : List Char} :
    integerMillis multiplier digits = .ok value ↔
      (∀ c ∈ digits, isDigit c = true) ∧ digitsValue digits ≤ max128 ∧
        digitsValue digits * multiplier ≤ max128 ∧ digitsValue digits * multiplier = value := by
  unfold integerMillis
  cases digits with
  | nil =>
      have hzero : digitsValue [] = 0 := rfl
      rw [if_pos List.isEmpty_nil, hzero, Nat.zero_mul, Except.ok.injEq]
      exact ⟨fun h => ⟨List.forall_mem_nil _, Nat.zero_le _, Nat.zero_le _, h⟩, fun h => h.2.2.2⟩
  | cons c rest =>
      rw [if_neg (by simp)]
      cases hread : (natural? (c :: rest)).filter (· ≤ max128) with
      | none =>
          rw [Option.filter_eq_none_iff] at hread
          simp only [reduceCtorEq, false_iff, not_and]
          intro hdigits hmax
          have hsome := natural_eq_some_iff.2 ⟨List.cons_ne_nil c rest, hdigits, rfl⟩
          exact absurd (decide_eq_true hmax) (hread _ hsome)
      | some n =>
          obtain ⟨hsome, hmax⟩ := Option.filter_eq_some_iff.1 hread
          obtain ⟨-, hdigits, rfl⟩ := natural_eq_some_iff.1 hsome
          have hmax := of_decide_eq_true hmax
          dsimp only
          split
          · rename_i hfits
            rw [Except.ok.injEq]
            exact ⟨fun h => ⟨hdigits, hmax, hfits, h⟩, fun h => h.2.2.2⟩
          · rename_i hfits
            exact ⟨(nomatch ·), fun h => absurd h.2.2.1 hfits⟩

/-- Milli-units are read from at most 18 digits after the point, and rounded up. -/
theorem fraction_millis_ok_iff {multiplier value : Nat} {digits : List Char} :
    fractionMillis multiplier digits = .ok value ↔
      (∀ c ∈ digits, isDigit c = true) ∧ digits.length ≤ 18 ∧
        (digitsValue digits * multiplier + (10 ^ digits.length - 1)) / 10 ^ digits.length =
          value := by
  unfold fractionMillis
  cases digits with
  | nil =>
      have hzero : digitsValue [] = 0 := rfl
      rw [if_pos List.isEmpty_nil, hzero, Nat.zero_mul, Except.ok.injEq]
      exact ⟨fun h => ⟨List.forall_mem_nil _, Nat.zero_le _, h⟩, fun h => h.2.2⟩
  | cons c rest =>
      rw [if_neg (by simp)]
      split
      · rename_i hlong
        exact ⟨(nomatch ·), fun h => absurd h.2.1 (Nat.not_le.2 hlong)⟩
      · rename_i hshort
        cases hread : natural? (c :: rest) with
        | none =>
            refine ⟨(nomatch ·), fun h => ?_⟩
            have hsome := natural_eq_some_iff.2 ⟨List.cons_ne_nil c rest, h.1, rfl⟩
            exact absurd (hread.symm.trans hsome) (by simp)
        | some n =>
            obtain ⟨-, hdigits, rfl⟩ := natural_eq_some_iff.1 hread
            simp only [Except.ok.injEq]
            exact ⟨fun h => ⟨hdigits, Nat.not_lt.1 hshort, h⟩, fun h => h.2.2⟩

/-- A check ends the reading with its fault, or lets it go on. -/
theorem check_eq {ε α : Type} {c : Prop} [Decidable c] {e : ε} {next : PUnit → Except ε α} :
    (if c then throw e >>= next else next ⟨⟩) = if c then .error e else next ⟨⟩ := rfl

theorem check_ok_iff {ε α : Type} {c : Prop} [Decidable c] {e : ε} {x : Except ε α} {a : α} :
    (if c then .error e else x) = .ok a ↔ ¬ c ∧ x = .ok a := by
  by_cases hc : c
  · rw [if_pos hc]
    exact ⟨(nomatch ·), fun h => absurd hc h.1⟩
  · rw [if_neg hc, and_iff_right hc]

/-- All that a text has to pass to be read. -/
theorem parse_millis_ok_iff {s : List Char} {value : Nat} :
    parseMillis s = .ok value ↔
      s ≠ [] ∧ s.head? ≠ some '-' ∧ ∃ multiplier integer fraction whole part,
        milliMultiplier? (s.dropWhile isNumberChar) = some multiplier ∧
          (splitOnce '.' (s.takeWhile isNumberChar)).getD (s.takeWhile isNumberChar, []) =
            (integer, fraction) ∧
          integer ++ fraction ≠ [] ∧ integerMillis multiplier integer = .ok whole ∧
          fractionMillis multiplier fraction = .ok part ∧ whole + part ≤ max64 ∧
          whole + part = value := by
  unfold parseMillis
  simp only [check_eq, check_ok_iff]
  rcases hcut : (splitOnce '.' (s.takeWhile isNumberChar)).getD (s.takeWhile isNumberChar, []) with
    ⟨integer, fraction⟩
  cases milliMultiplier? (s.dropWhile isNumberChar) with
  | none => simp [throw, throwThe, MonadExceptOf.throw]
  | some multiplier =>
      cases hwhole : integerMillis multiplier integer with
      | error flaw => simp [check_ok_iff, hwhole, bind, Except.bind]
      | ok whole =>
          cases hpart : fractionMillis multiplier fraction with
          | error flaw => simp [check_ok_iff, hwhole, hpart, bind, Except.bind]
          | ok part => simp [check_ok_iff, hwhole, hpart, bind, Except.bind, pure, Except.pure]

/-- A text without blanks at its ends is read exactly if it is that of a numeral of which the
milli-units, rounded up, fit in 64 bits. -/
theorem parse_millis_numeral_iff {s : List Char} {value : Nat} :
    parseMillis s = .ok value ↔
      ∃ n : Numeral, n.chars = s ∧ ⌈n.millis⌉₊ ≤ max64 ∧ ⌈n.millis⌉₊ = value := by
  rw [parse_millis_ok_iff]
  constructor
  · rintro ⟨-, -, multiplier, integer, fraction, whole, part, hsuffix, hcut, hne, hwhole, hpart,
      hmax, rfl⟩
    obtain ⟨unit, hunit, rfl⟩ := Multiple.milli_multiplier_eq_some_iff.1 hsuffix
    obtain ⟨hinteger, -, -, rfl⟩ := integer_millis_ok_iff.1 hwhole
    obtain ⟨hfraction, hlength, rfl⟩ := fraction_millis_ok_iff.1 hpart
    obtain ⟨n, hnumber, rfl, rfl, rfl⟩ := Numeral.exists_of_split unit hcut
      (List.forall_mem_append.2 ⟨hinteger, hfraction⟩) hne hlength
    rw [← n.ceil_millis] at hmax ⊢
    refine ⟨n, ?_, hmax, rfl⟩
    rw [Numeral.chars, hnumber, hunit, List.takeWhile_append_dropWhile]
  · rintro ⟨n, rfl, hmax, rfl⟩
    obtain ⟨hnumber, hsuffix⟩ := n.span_chars
    rw [hnumber, hsuffix]
    have hceil := n.ceil_millis
    have hproduct : digitsValue n.whole * n.unit.millis ≤ max128 :=
      calc
        _ ≤ ⌈n.millis⌉₊ := hceil ▸ Nat.le_add_right _ _
        _ ≤ max64 := hmax
        _ ≤ max128 := by decide
    have hvalue : digitsValue n.whole ≤ max128 :=
      (Nat.le_mul_of_pos_right _ n.unit.millis_pos).trans hproduct
    refine ⟨fun hempty => ?_, fun hminus => ?_, n.unit.millis, n.whole, n.places, _, _,
      Multiple.milli_multiplier_eq_some_iff.2 ⟨n.unit, rfl, rfl⟩, n.split_number, n.ne_nil,
      integer_millis_ok_iff.2 ⟨n.is_digit_whole, hvalue, hproduct, rfl⟩,
      fraction_millis_ok_iff.2 ⟨n.is_digit_places, n.length_le, rfl⟩, ?_, ?_⟩
    · rw [Numeral.chars, List.append_eq_nil_iff] at hempty
      exact n.number_ne_nil hempty.1
    · exact absurd (n.head_chars hminus) (by decide)
    · exact hceil ▸ hmax
    · exact hceil.symm

/-! ## Words of 128 bits -/

/-- What ends a reading in words early: a fault in the text, or a result that is not looked at and
has left its word. -/
inductive Halt where
  | flaw (flaw : Flaw)
  | overflow
deriving DecidableEq, Repr

/-- A result that is not looked at; it has to be in a word of 128 bits. -/
def inWord (n : Nat) : Except Halt Nat :=
  if n ≤ max128 then .ok n else .error .overflow

/-- The quotient of two words, rounded up by adding one. -/
def ceilDivInWords (a b : Nat) : Except Halt Nat :=
  if a % b = 0 then .ok (a / b) else inWord (a / b + 1)

/-- `milliMultiplier?` in words. -/
def multiplierInWords (suffix : List Char) : Except Halt Nat :=
  if suffix = [] then .ok 1000
  else if suffix = ['m'] then .ok 1
  else match (binarySuffixes ++ decimalSuffixes).find? fun s => s.1 = suffix with
    | none => .error (.flaw .unknownSuffix)
    | some s => inWord (s.2 * 1000)

/-- `fractionMillis` in words: of the numbers on the way only the one that the digits write is
looked at. -/
def fractionInWords (multiplier : Nat) (digits : List Char) : Except Halt Nat :=
  if digits.isEmpty then .ok 0
  else if 18 < digits.length then .error (.flaw .tooManyDigits)
  else match (natural? digits).filter (· ≤ max128) with
    | none => .error (.flaw .badFraction)
    | some n => do
      let scale ← inWord (10 ^ digits.length)
      let product ← inWord (n * multiplier)
      ceilDivInWords product scale

/-- `parseMillis` in words. Whole milli-units are looked at wherever they could leave their word. -/
def parseInWords (s : List Char) : Except Halt Nat := do
  if s.isEmpty then throw (.flaw .empty)
  if s.head? = some '-' then throw (.flaw .negative)
  let number := s.takeWhile isNumberChar
  let multiplier ← multiplierInWords (s.dropWhile isNumberChar)
  let (integer, fraction) := (splitOnce '.' number).getD (number, [])
  if integer.isEmpty && fraction.isEmpty then throw (.flaw .missingNumber)
  let whole ← (integerMillis multiplier integer).mapError .flaw
  let part ← fractionInWords multiplier fraction
  if max128 < whole + part then throw (.flaw .overflow)
  if max64 < whole + part then throw (.flaw .overflow)
  return whole + part

theorem in_word_eq {n : Nat} (h : n ≤ max128) : inWord n = .ok n :=
  if_pos h

/-- A quotient that is rounded up is not above what is divided. -/
theorem ceil_div_in_words {a b : Nat} (ha : a ≤ max128) (hb : 0 < b) :
    ceilDivInWords a b = .ok ((a + (b - 1)) / b) := by
  have hdiv := Nat.div_add_mod' a b
  have hlt := Nat.mod_lt a hb
  unfold ceilDivInWords
  split
  · rename_i hmod
    have hexact : (a + (b - 1)) / b = a / b :=
      Nat.div_eq_of_lt_le (by omega) (by rw [Nat.succ_mul]; omega)
    rw [hexact]
  · rename_i hmod
    have hquotient : a / b ≤ a / b * b := Nat.le_mul_of_pos_right _ hb
    have hround : (a + (b - 1)) / b = a / b + 1 :=
      Nat.div_eq_of_lt_le (by rw [Nat.succ_mul]; omega) (by rw [Nat.succ_mul, Nat.succ_mul]; omega)
    rw [hround]
    exact in_word_eq (by omega)

theorem multiplier_in_words (suffix : List Char) :
    multiplierInWords suffix =
      match milliMultiplier? suffix with
      | none => .error (.flaw .unknownSuffix)
      | some multiplier => .ok multiplier := by
  have htable : ∀ s ∈ binarySuffixes ++ decimalSuffixes, s.2 * 1000 ≤ max128 := by decide
  unfold multiplierInWords milliMultiplier?
  split
  · rfl
  split
  · rfl
  cases hfind : (binarySuffixes ++ decimalSuffixes).find? fun s => s.1 = suffix with
  | none => rfl
  | some s => exact in_word_eq (htable s (List.mem_of_find?_eq_some hfind))

/-- The milli-units after the point stay in words for every multiple and any digits. -/
theorem fraction_in_words {multiplier : Nat} (h : multiplier ≤ 2 ^ 50 * 10 ^ 3)
    (digits : List Char) :
    fractionInWords multiplier digits = (fractionMillis multiplier digits).mapError .flaw := by
  unfold fractionInWords fractionMillis
  split
  · rfl
  split
  · rfl
  rename_i hlength
  cases hread : natural? digits with
  | none => rfl
  | some n =>
      obtain ⟨-, hdigits, rfl⟩ := natural_eq_some_iff.1 hread
      have hscale : 10 ^ digits.length ≤ 10 ^ 18 :=
        Nat.pow_le_pow_right (by decide) (Nat.not_lt.1 hlength)
      have hvalue : digitsValue digits < 10 ^ 18 := (digits_value_lt hdigits).trans_le hscale
      have hproduct : digitsValue digits * multiplier ≤ 10 ^ 18 * (2 ^ 50 * 10 ^ 3) :=
        Nat.mul_le_mul hvalue.le h
      have hwide : 10 ^ 18 * (2 ^ 50 * 10 ^ 3) ≤ max128 := by decide
      have hword : digitsValue digits ≤ max128 := hvalue.le.trans (by decide)
      rw [Option.filter_some, if_pos (decide_eq_true hword)]
      dsimp only
      rw [in_word_eq (hscale.trans (by decide)), in_word_eq (hproduct.trans hwide)]
      exact ceil_div_in_words (hproduct.trans hwide) (Nat.pow_pos (by decide))

/-- A reading in words comes to the same as one that is not bound to them. -/
theorem parse_in_words (s : List Char) :
    parseInWords s = (parseMillis s).mapError .flaw := by
  unfold parseInWords parseMillis
  simp only [check_eq, multiplier_in_words]
  by_cases hempty : s.isEmpty = true
  · rw [if_pos hempty, if_pos hempty]
    rfl
  rw [if_neg hempty, if_neg hempty]
  by_cases hminus : s.head? = some '-'
  · rw [if_pos hminus, if_pos hminus]
    rfl
  rw [if_neg hminus, if_neg hminus]
  cases hsuffix : milliMultiplier? (s.dropWhile isNumberChar) with
  | none => rfl
  | some multiplier =>
    obtain ⟨unit, -, rfl⟩ := Multiple.milli_multiplier_eq_some_iff.1 hsuffix
    generalize (splitOnce '.' (s.takeWhile isNumberChar)).getD (s.takeWhile isNumberChar, []) = cut
    simp only [bind, Except.bind, fraction_in_words unit.millis_le]
    split
    · rfl
    cases integerMillis unit.millis cut.1 with
    | error flaw => rfl
    | ok whole =>
      cases fractionMillis unit.millis cut.2 with
      | error flaw => rfl
      | ok part =>
        simp only [Except.mapError]
        by_cases hmax : max64 < whole + part
        · rw [if_pos hmax, if_pos hmax, ite_self]
        · have hword : ¬ max128 < whole + part := fun hlt =>
            hmax ((show max64 ≤ max128 by decide).trans_lt hlt)
          rw [if_neg hword, if_neg hmax, if_neg hmax]
          rfl

/-! ## Reading -/

/-- A text stands for one number of milli-units. -/
theorem Numeral.millis_eq_of_chars {n m : Numeral} (h : n.chars = m.chars) :
    n.millis = m.millis := by
  obtain ⟨hnumber, hsuffix⟩ := n.span_chars
  obtain ⟨hnumber', hsuffix'⟩ := m.span_chars
  rw [h] at hnumber hsuffix
  have hcut := n.split_number
  rw [hnumber.symm.trans hnumber', m.split_number, Prod.mk.injEq] at hcut
  have hunit := Multiple.milli_multiplier_eq_some_iff.2 ⟨n.unit, rfl, rfl⟩
  rw [← hsuffix, hsuffix', Multiple.milli_multiplier_eq_some_iff.2 ⟨m.unit, rfl, rfl⟩,
    Option.some.injEq] at hunit
  rw [Numeral.millis, Numeral.millis, hcut.1, hcut.2, hunit]

/-- Blanks at the ends of a text are no part of the quantity. -/
theorem parse_ok_iff {input : String} {q : Quantity} :
    parse input = .ok q ↔ parseMillis (trim input.toList) = .ok q.millis := by
  unfold parse
  cases hread : parseMillis (trim input.toList) with
  | error flaw => simp
  | ok value =>
      obtain ⟨n, -, hmax, rfl⟩ := parse_millis_numeral_iff.1 hread
      simp only [Except.ok.injEq, Quantity.ext_iff, millis_ofMillis, Nat.min_eq_left hmax]

/-- A text is read exactly if it is, without the blanks at its ends, that of a numeral of which the
milli-units, rounded up, fit in 64 bits; these are then what is read. In words of 128 bits the
reading comes to the same, and no result leaves its word unnoticed. -/
theorem reads_exactly (input : String) :
    ((∃ q, parse input = .ok q) ↔
      ∃ n : Numeral, n.chars = trim input.toList ∧ ⌈n.millis⌉₊ ≤ max64) ∧
    (∀ q (n : Numeral), n.chars = trim input.toList →
      (parse input = .ok q ↔ q.millis = ⌈n.millis⌉₊)) ∧
    parseInWords (trim input.toList) = (parseMillis (trim input.toList)).mapError .flaw := by
  refine ⟨⟨?_, ?_⟩, fun q n hn => ?_, parse_in_words _⟩
  · rintro ⟨q, hq⟩
    obtain ⟨n, hn, hmax, -⟩ := parse_millis_numeral_iff.1 (parse_ok_iff.1 hq)
    exact ⟨n, hn, hmax⟩
  · rintro ⟨n, hn, hmax⟩
    exact ⟨⟨⌈n.millis⌉₊, hmax⟩, parse_ok_iff.2 (parse_millis_numeral_iff.2 ⟨n, hn, hmax, rfl⟩)⟩
  · rw [parse_ok_iff, parse_millis_numeral_iff]
    constructor
    · rintro ⟨m, hm, -, hvalue⟩
      rw [← hvalue, Numeral.millis_eq_of_chars (hm.trans hn.symm)]
    · intro hvalue
      exact ⟨n, hn, hvalue ▸ q.le_max, hvalue.symm⟩

end TaskFleet.Quantity
