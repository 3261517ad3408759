import TaskFleet.Duration
import TaskFleet.Proofs.Resource.Exactness
import TaskFleet.Resource.Kind

/-!
# Quantities and durations as text

What `render` writes, `parse` reads. A quantity comes back as it was (`parse_render`). A duration
comes back in whole milliseconds, if there are at most `max64` of them, and is refused otherwise
(`Duration.parse_render`).
-/

namespace TaskFleet

open Text

namespace Quantity

/-- A whole number of a multiple. -/
def Numeral.ofNat (n : Nat) (unit : Multiple) : Numeral where
  whole := Nat.toDigits 10 n
  fraction := none
  unit := unit
  digits c hc := is_digit_of_mem (n := n) (by simpa using hc)
  ne_nil := by simp [Nat.toDigits_ne_nil]
  length_le := Nat.zero_le _

theorem Numeral.ceil_ofNat (n : Nat) (unit : Multiple) :
    ⌈(ofNat n unit).millis⌉₊ = n * unit.millis := by
  have hvalue : digitsValue (Nat.toDigits 10 n) = n := by
    rw [digits_value_eq, Nat.ofDigitChars_ten_toDigits]
  rw [ceil_millis]
  show digitsValue (Nat.toDigits 10 n) * unit.millis + (digitsValue [] * unit.millis + 0) / 1 = _
  rw [hvalue]
  simp [digitsValue]

/-- A number with a suffix stands for the product, if that is no more than the greatest
quantity. -/
theorem parse_millis_digits (n : Nat) (unit : Multiple) (hmax : n * unit.millis ≤ max64) :
    parseMillis (Nat.toDigits 10 n ++ unit.suffix) = .ok (n * unit.millis) := by
  have hceil := Numeral.ceil_ofNat n unit
  exact parse_millis_numeral_iff.2 ⟨.ofNat n unit, rfl, hceil ▸ hmax, hceil⟩

/-- The canonical text is a number and a suffix with the right product. -/
theorem render_chars_eq (q : Quantity) :
    ∃ n, ∃ unit : Multiple,
      q.renderChars = Nat.toDigits 10 n ++ unit.suffix ∧ n * unit.millis = q.millis := by
  unfold renderChars
  split
  · exact ⟨q.millis, .milli, rfl, Nat.mul_one _⟩
  · rename_i hwhole
    have hunits : q.millis / 1000 * 1000 = q.millis := by omega
    cases hfit : fittingSuffix? (q.millis / 1000) (binarySuffixes ++ decimalSuffixes) with
    | none => exact ⟨q.millis / 1000, .one, by simp [hfit, Multiple.suffix], hunits⟩
    | some found =>
        obtain ⟨s, hs, rfl⟩ := Option.map_eq_some_iff.1 hfit
        have hdiv := List.find?_some hs
        simp only [Bool.and_eq_true, decide_eq_true_eq, beq_iff_eq] at hdiv
        obtain ⟨unit, hsuffix, hmillis⟩ :=
          Multiple.exists_of_mem_table (List.mem_of_find?_eq_some hs)
        refine ⟨q.millis / 1000 / s.2, unit, by simp [hfit, hsuffix], ?_⟩
        rw [hmillis, ← Nat.mul_assoc, Nat.div_mul_cancel (Nat.dvd_of_mod_eq_zero hdiv.2), hunits]

/-- The canonical text of a quantity is read as that quantity. -/
@[simp] theorem parse_render (q : Quantity) : parse q.render = .ok q := by
  obtain ⟨n, unit, hchars, hproduct⟩ := render_chars_eq q
  have htrim := trim_digits_append n unit.suffix_not_blank
  have hread := parse_millis_digits n unit (hproduct ▸ q.le_max)
  rw [parse_ok_iff, render, String.toList_ofList, hchars, htrim, hread, hproduct]

end Quantity

namespace Duration

@[simp] theorem millis_ofMillis (n : Nat) : (ofMillis n).millis = n :=
  Nat.mul_div_cancel n (by decide)

/-- What is read is a number of whole milliseconds that fits in 64 bits. -/
theorem whole_of_parse {input : String} {d : Duration} (h : parse input = .ok d) :
    d.millis ≤ max64 ∧ d = .ofMillis d.millis := by
  unfold parse at h
  dsimp only at h
  split at h
  · rename_i n hread
    cases h
    obtain ⟨count, -, hfits⟩ := Option.bind_eq_some_iff.1 hread
    rw [millis_ofMillis]
    obtain ⟨hmax, hvalue⟩ := Option.ite_none_right_eq_some.1 hfits
    exact ⟨Option.some.inj hvalue ▸ hmax, rfl⟩
  · exact nomatch h

/-- A number of seconds is written and read in seconds. -/
theorem parse_millis_secs (n : Nat) :
    parseMillis? (Nat.toDigits 10 n ++ ['s']) =
      if n * 1000 ≤ max64 then some (n * 1000) else none := by
  have hms : dropEnd? ['m', 's'] (Nat.toDigits 10 n ++ ['s']) = none :=
    drop_end_eq_none (c := 'm') (by simp)
      (by simp [not_mem_digits (c := 'm') (by decide) n])
  have hsplit : splitUnit (Nat.toDigits 10 n ++ ['s']) = (Nat.toDigits 10 n, 1000) := by
    simp [splitUnit, units, hms]
  simp only [parseMillis?, hsplit, trim_digits, bounded_to_digits]
  by_cases h : n * 1000 ≤ max64
  · simp [h, show n ≤ max64 by omega]
  · by_cases hn : n ≤ max64 <;> simp [h, hn]

/-- A number of milliseconds is written and read in milliseconds. -/
theorem parse_millis_millis (n : Nat) :
    parseMillis? (Nat.toDigits 10 n ++ ['m', 's']) = if n ≤ max64 then some n else none := by
  have hsplit : splitUnit (Nat.toDigits 10 n ++ ['m', 's']) = (Nat.toDigits 10 n, 1) := by
    simp [splitUnit, units]
  simp only [parseMillis?, hsplit, trim_digits, bounded_to_digits]
  by_cases h : n ≤ max64 <;> simp [h]

/-- The text of a duration is read as its whole milliseconds, unless there are too many. -/
theorem parse_render (d : Duration) :
    parse d.render =
      if d.millis ≤ max64 then .ok (ofMillis d.millis) else .error ⟨d.render⟩ := by
  have htrim : trim d.renderChars = d.renderChars := by
    unfold renderChars
    split
    · exact trim_digits_append _ (List.forall_mem_singleton.2 (by decide))
    · exact trim_digits_append _
        (List.forall_mem_cons.2 ⟨by decide, List.forall_mem_singleton.2 (by decide)⟩)
  have hread : parseMillis? d.renderChars = if d.millis ≤ max64 then some d.millis else none := by
    unfold renderChars
    split
    · rename_i hwhole
      have hsecs : d.secs * 1000 = d.millis := by
        unfold secs millis at *
        omega
      rw [parse_millis_secs, hsecs]
    · exact parse_millis_millis _
  unfold parse render
  rw [String.toList_ofList]
  simp only [htrim, hread]
  by_cases h : d.millis ≤ max64 <;> simp [h]

end Duration

end TaskFleet
