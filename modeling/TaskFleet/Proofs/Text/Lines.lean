import Mathlib.Data.List.DropRight
import Mathlib.Tactic.IntervalCases
import TaskFleet.Text.Blank
import TaskFleet.Text.Utf8

/-!
# Lines in files

A text that is written as UTF-8 is read back (`decode_encode`). What is trimmed is not changed by
trimming it again, nor does a line break at the end make a difference, so a line that is written and
then read and trimmed is the trimmed text (`decode_line`).
-/

namespace TaskFleet.Text

/-! ## Bytes and characters -/

/-- The bytes that are read one by one from an array are those that it holds. -/
theorem to_list_loop (bytes : ByteArray) (i : Nat) (read : Bytes) :
    ByteArray.toList.loop bytes i read = read.reverse ++ bytes.data.toList.drop i := by
  fun_induction ByteArray.toList.loop bytes i read with
  | case1 i read h ih =>
      have hi : i < bytes.data.toList.length := by simpa using h
      rw [ih, List.drop_eq_getElem_cons hi]
      simp [ByteArray.get!, h]
  | case2 i read h =>
      rw [List.drop_eq_nil_of_le (by simpa using Nat.le_of_not_lt h), List.append_nil]

/-- A text is encoded character by character. -/
theorem encode_eq (s : String) : encode s = s.toList.flatMap String.utf8EncodeChar := by
  unfold encode ByteArray.toList
  rw [to_list_loop, String.toUTF8, ← String.utf8Encode_toList]
  simp [List.utf8Encode]

/-- A number below 256 is the number of its byte. -/
theorem to_nat_byte {n : Nat} (h : n < 256) : (UInt8.ofNat n).toNat = n := by
  simp only [UInt8.toNat_ofNat']
  omega

/-- The byte of an ASCII character leads a character by itself. -/
theorem lead_one {n : Nat} (h : n ≤ 0x7F) : lead? (.ofNat n) = some ⟨n, 0, 0, 0⟩ := by
  have hn := to_nat_byte (show n < 256 by omega)
  simp [lead?, UInt8.le_iff_toNat_le, hn, h]

/-- What leads a character of two bytes. -/
theorem lead_two {n : Nat} (hlow : 0xC2 ≤ n) (hhigh : n ≤ 0xDF) :
    lead? (.ofNat n) = some ⟨n - 0xC0, 1, 0x80, 0xBF⟩ := by
  have hn := to_nat_byte (show n < 256 by omega)
  simp [lead?, UInt8.le_iff_toNat_le, hn, hlow, hhigh]
  omega

/-- What leads a character of three bytes, and which byte may follow. -/
theorem lead_three {n : Nat} (hlow : 0xE0 ≤ n) (hhigh : n ≤ 0xEF) :
    lead? (.ofNat n) = some ⟨n - 0xE0, 2, if n = 0xE0 then 0xA0 else 0x80,
      if n = 0xED then 0x9F else 0xBF⟩ := by
  interval_cases n <;> rfl

/-- What leads a character of four bytes, and which byte may follow. -/
theorem lead_four {n : Nat} (hlow : 0xF0 ≤ n) (hhigh : n ≤ 0xF4) :
    lead? (.ofNat n) = some ⟨n - 0xF0, 3, if n = 0xF0 then 0x90 else 0x80,
      if n = 0xF4 then 0x8F else 0xBF⟩ := by
  interval_cases n <;> rfl

/-- A following byte within its window adds six bits. -/
theorem take_following_cons {count value n : Nat} {low high : UInt8} {rest : Bytes}
    (hlow : low.toNat ≤ n) (hhigh : n ≤ high.toNat) :
    takeFollowing (count + 1) value low high (.ofNat n :: rest) =
      takeFollowing count (value * 64 + (n - 0x80)) 0x80 0xBF rest := by
  have hn := to_nat_byte (hhigh.trans_lt high.toNat_lt)
  simp [takeFollowing, UInt8.le_iff_toNat_le, hn, hlow, hhigh]

/-- The bytes of a character are read as the character, whatever follows them. -/
theorem take_char_encoded (c : Char) (rest : Bytes) :
    ∃ b more, String.utf8EncodeChar c = b :: more ∧ takeChar b (more ++ rest) = (some c, rest) := by
  have hrange : c.val.toNat < 0xD800 ∨ 0xDFFF < c.val.toNat ∧ c.val.toNat < 0x110000 := c.valid
  have hchar {n : Nat} (h : n = c.val.toNat) : Char.ofNat n = c := h ▸ Char.ofNat_toNat c
  -- One case for each number of bytes; the bytes put the value together again, and the windows
  -- leave out only overlong bytes, surrogates and what is above the last character.
  simp only [String.utf8EncodeChar]
  generalize c.val.toNat = v at hrange hchar
  split
  · refine ⟨_, _, rfl, ?_⟩
    rw [takeChar, lead_one (by omega)]
    simp [takeFollowing, hchar]
  split
  · refine ⟨_, _, rfl, ?_⟩
    rw [takeChar, lead_two (by omega) (by omega)]
    simp only [List.cons_append, List.nil_append]
    rw [take_following_cons (by simp) (by simp; omega)]
    simp only [takeFollowing, Option.map_some]
    rw [hchar (by omega)]
  split
  · refine ⟨_, _, rfl, ?_⟩
    rw [takeChar, lead_three (by omega) (by omega)]
    simp only [List.cons_append, List.nil_append]
    rw [take_following_cons (by split <;> simp; omega) (by split <;> (simp; omega)),
      take_following_cons (by simp) (by simp; omega)]
    simp only [takeFollowing, Option.map_some]
    rw [hchar (by omega)]
  · refine ⟨_, _, rfl, ?_⟩
    rw [takeChar, lead_four (by omega) (by omega)]
    simp only [List.cons_append, List.nil_append]
    rw [take_following_cons (by split <;> simp; omega) (by split <;> (simp; omega)),
      take_following_cons (by simp) (by simp; omega),
      take_following_cons (by simp) (by simp; omega)]
    simp only [takeFollowing, Option.map_some]
    rw [hchar (by omega)]

/-- Encoded characters are decoded one after the other. -/
theorem decode_chars_flat_map (s : List Char) :
    decodeChars? (s.flatMap String.utf8EncodeChar) = some s := by
  induction s with
  | nil => simp [decodeChars?]
  | cons c s ih =>
      obtain ⟨b, more, hbytes, htake⟩ := take_char_encoded c (s.flatMap String.utf8EncodeChar)
      rw [List.flatMap_cons, hbytes, List.cons_append, decodeChars?, htake, ih]
      rfl

/-- What is written as UTF-8 is read back. -/
@[simp] theorem decode_encode (s : String) : decodeChars? (encode s) = some s.toList := by
  rw [encode_eq, decode_chars_flat_map]

/-- What is written as UTF-8 is read back by the reader that refuses nothing, too. -/
@[simp] theorem decode_lossy_encode (s : String) : decodeLossy (encode s) = s.toList := by
  rw [encode_eq]
  induction s.toList with
  | nil => simp [decodeLossy]
  | cons c s ih =>
      obtain ⟨b, more, hbytes, htake⟩ := take_char_encoded c (s.flatMap String.utf8EncodeChar)
      rw [List.flatMap_cons, hbytes, List.cons_append, decodeLossy, htake, ih]
      rfl

/-- The bytes of a character are all above ASCII, or the character is the one byte. -/
theorem ascii_of_mem_bytes {c : Char} {b : UInt8} (hb : b ∈ String.utf8EncodeChar c)
    (hascii : b.toNat < 0x80) : c.toNat = b.toNat := by
  have hrange : c.val.toNat < 0x110000 := by
    obtain h | ⟨-, h⟩ : c.val.toNat < 0xD800 ∨ 0xDFFF < c.val.toNat ∧ c.val.toNat < 0x110000 :=
      c.valid
    · omega
    · exact h
  show c.val.toNat = b.toNat
  simp only [String.utf8EncodeChar] at hb
  generalize c.val.toNat = v at hrange hb ⊢
  split at hb
  · rw [List.mem_singleton.1 hb, to_nat_byte (by omega)]
  · split at hb
    · simp only [List.mem_cons, List.not_mem_nil, or_false] at hb
      obtain rfl | rfl := hb <;> rw [to_nat_byte (by omega)] at hascii <;> omega
    · split at hb
      · simp only [List.mem_cons, List.not_mem_nil, or_false] at hb
        obtain rfl | rfl | rfl := hb <;> rw [to_nat_byte (by omega)] at hascii <;> omega
      · simp only [List.mem_cons, List.not_mem_nil, or_false] at hb
        obtain rfl | rfl | rfl | rfl := hb <;> rw [to_nat_byte (by omega)] at hascii <;> omega

/-! ## Trimming -/

/-- Trimming drops blanks at both ends. -/
theorem trim_eq_rdrop_while (s : List Char) : trim s = (s.dropWhile isBlank).rdropWhile isBlank :=
  rfl

/-- A blank at the end is cut off with the others. -/
theorem trim_append_blank {s : List Char} {c : Char} (h : isBlank c = true) :
    trim (s ++ [c]) = trim s := by
  simp only [trim_eq_rdrop_while, List.dropWhile_append]
  split
  · rename_i hempty
    simp [List.isEmpty_iff.1 hempty, h]
  · exact List.rdropWhile_concat_pos isBlank _ c h

/-- Trimming twice is trimming once. -/
@[simp] theorem trim_trim (s : List Char) : trim (trim s) = trim s := by
  have hfront : (trim s).dropWhile isBlank = trim s := by
    rw [List.dropWhile_eq_self_iff]
    intro hpos
    have hfirst : trim s <+: s.dropWhile isBlank := List.rdropWhile_prefix isBlank _
    rw [hfirst.getElem]
    exact List.dropWhile_get_zero_not isBlank s (hfirst.length_le.trans_lt' hpos)
  rw [trim_eq_rdrop_while (trim s), hfront, trim_eq_rdrop_while s, List.rdropWhile_idempotent]

/-- A text that is written as a line comes back without the blanks at its ends. -/
theorem decode_line (s : String) :
    (decodeChars? (encode (s ++ "\n"))).map trim = some (trim s.toList) := by
  simp only [decode_encode, Option.map_some, String.toList_append]
  exact congrArg some (trim_append_blank rfl)

end TaskFleet.Text
