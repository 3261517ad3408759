import Mathlib.Algebra.Group.Nat.Defs
import TaskFleet.Text.Blank
import TaskFleet.Text.Decimal
import TaskFleet.Text.Split

/-!
# Written numbers

The digits that `Nat.toDigits` writes are read back as the same number (`natural_to_digits`), and
neither they nor a suffix of letters are changed by trimming (`trim_eq_self`).
-/

namespace TaskFleet.Text

/-- The digits of this library are the ASCII digits of the character type. -/
theorem is_digit_eq (c : Char) : isDigit c = c.isDigit := by
  rw [Bool.eq_iff_iff]
  simp only [isDigit, Char.isDigit, Bool.and_eq_true, decide_eq_true_eq, Char.le_def, ge_iff_le]

theorem is_digit_of_mem {c : Char} {n : Nat} (h : c ∈ Nat.toDigits 10 n) : isDigit c = true := by
  rw [is_digit_eq]
  exact Nat.isDigit_of_mem_toDigits (by omega) (by omega) h

/-- A character that is no digit does not occur in a written number. -/
theorem not_mem_digits {c : Char} (h : isDigit c = false) (n : Nat) : c ∉ Nat.toDigits 10 n := by
  intro hmem
  rw [is_digit_of_mem hmem] at h
  exact absurd h (by decide)

theorem digits_value_eq (s : List Char) : digitsValue s = Nat.ofDigitChars 10 s 0 := by
  rw [Nat.ofDigitChars_eq_foldl]
  rfl

/-- Digits that follow others count for as many tens less. -/
theorem digits_value_append (a b : List Char) :
    digitsValue (a ++ b) = digitsValue a * 10 ^ b.length + digitsValue b := by
  rw [digits_value_eq, digits_value_eq, digits_value_eq, Nat.ofDigitChars_append,
    Nat.ofDigitChars_eq_ofDigitChars_zero, Nat.mul_comm]

/-- A row of digits writes a number below the next power of ten. -/
theorem digits_value_lt {s : List Char} (h : ∀ c ∈ s, isDigit c = true) :
    digitsValue s < 10 ^ s.length := by
  induction s with
  | nil => exact Nat.one_pos
  | cons c rest ih =>
      obtain ⟨hc, hrest⟩ := List.forall_mem_cons.1 h
      have hvalue : digitsValue [c] ≤ 9 := by
        have hrange : 48 ≤ c.toNat ∧ c.toNat ≤ 57 := by
          simpa [isDigit, Char.le_def, UInt32.le_iff_toNat_le] using hc
        show 10 * 0 + (c.toNat - 48) ≤ 9
        omega
      have hlt := ih hrest
      have hmul := Nat.mul_le_mul_right (10 ^ rest.length) hvalue
      rw [← List.singleton_append, digits_value_append, List.length_append, List.length_singleton,
        Nat.pow_add]
      omega

theorem natural_eq_some_iff {s : List Char} {n : Nat} :
    natural? s = some n ↔ s ≠ [] ∧ (∀ c ∈ s, isDigit c = true) ∧ digitsValue s = n := by
  unfold natural?
  by_cases hempty : s = []
  · simp [hempty]
  · simp [hempty]

/-- A written number is read back. -/
@[simp] theorem natural_to_digits (n : Nat) : natural? (Nat.toDigits 10 n) = some n := by
  have hne : (Nat.toDigits 10 n).isEmpty = false := by
    simp [List.isEmpty_eq_false_iff, Nat.toDigits_ne_nil]
  have hall : (Nat.toDigits 10 n).all isDigit = true :=
    List.all_eq_true.2 fun c hc => is_digit_of_mem hc
  simp [natural?, hne, hall, digits_value_eq, Nat.ofDigitChars_ten_toDigits]

/-- A written number is read back under a limit exactly if it keeps to the limit. -/
theorem bounded_to_digits (limit n : Nat) :
    bounded? limit (Nat.toDigits 10 n) = if n ≤ limit then some n else none := by
  have hplus := not_mem_digits (c := '+') (by decide) n
  unfold bounded?
  split
  · rename_i rest heq
    rw [heq] at hplus
    exact absurd (List.mem_cons_self ..) hplus
  · simp only [natural_to_digits]
    by_cases h : n ≤ limit
    · simp [h]
    · simp [h, Nat.lt_of_not_le h]

theorem is_blank_digit {c : Char} (h : isDigit c = true) : isBlank c = false := by
  have hrange : 48 ≤ c.toNat ∧ c.toNat ≤ 57 := by
    simpa [isDigit, Char.le_def, UInt32.le_iff_toNat_le] using h
  simp only [isBlank, Bool.or_eq_false_iff, Bool.and_eq_false_iff, decide_eq_false_iff_not,
    beq_eq_false_iff_ne]
  omega

theorem drop_while_eq_self {p : Char → Bool} {s : List Char} (h : ∀ c ∈ s, p c = false) :
    s.dropWhile p = s := by
  cases s with
  | nil => rfl
  | cons c rest => simp [h c (by simp)]

/-- A text without blanks is not changed by trimming. -/
theorem trim_eq_self {s : List Char} (h : ∀ c ∈ s, isBlank c = false) : trim s = s := by
  rw [trim, dropRightWhile, drop_while_eq_self h, drop_while_eq_self, List.reverse_reverse]
  intro c hc
  exact h c (List.mem_reverse.1 hc)

/-- Neither a written number nor a number with a suffix that holds no blank is changed by
trimming. -/
theorem trim_digits_append (n : Nat) {suffix : List Char} (h : ∀ c ∈ suffix, isBlank c = false) :
    trim (Nat.toDigits 10 n ++ suffix) = Nat.toDigits 10 n ++ suffix := by
  refine trim_eq_self fun c hc => ?_
  rcases List.mem_append.1 hc with hc | hc
  · exact is_blank_digit (is_digit_of_mem hc)
  · exact h c hc

@[simp] theorem trim_digits (n : Nat) : trim (Nat.toDigits 10 n) = Nat.toDigits 10 n := by
  simpa using trim_digits_append n (List.forall_mem_nil fun c => isBlank c = false)

/-- The ending of a text can be cut off. -/
@[simp] theorem drop_end_append (s ending : List Char) : dropEnd? ending (s ++ ending) = some s := by
  have hsuffix : ending.isSuffixOf (s ++ ending) = true :=
    List.isSuffixOf_iff_suffix.2 (List.suffix_append s ending)
  simp [dropEnd?, hsuffix]

/-- An ending with a character that a text lacks cannot be cut off from it. -/
theorem drop_end_eq_none {s ending : List Char} {c : Char} (hc : c ∈ ending) (h : c ∉ s) :
    dropEnd? ending s = none := by
  unfold dropEnd?
  rw [if_neg]
  intro hsuffix
  exact h ((List.isSuffixOf_iff_suffix.1 hsuffix).subset hc)

end TaskFleet.Text
