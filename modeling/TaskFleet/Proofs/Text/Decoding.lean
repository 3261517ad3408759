import Mathlib.Algebra.Group.Nat.Defs
import TaskFleet.Text.Utf8

/-!
# Decoding in pieces

A byte below 0x80 is a character by itself and no part of another one, so what is decoded without
refusal may be cut at each such byte (`decode_lossy_append`): a character that is broken off there
is replaced on the near side of the cut. A text has a line feed only where its bytes have one
(`line_feed_not_mem_decode_lossy`).
-/

namespace TaskFleet.Text

/-! ## Characters -/

/-- A byte in first place is a character by itself, or bytes above ASCII follow it and the
character is above ASCII as well. -/
theorem lead_cases {b : UInt8} {lead : Lead} (h : lead? b = some lead) :
    (lead.following = 0 ∧ lead.bits = b.toNat) ∨
      ∃ count, lead.following = count + 1 ∧ 0x80 ≤ lead.low.toNat ∧
        0x80 ≤ (lead.bits * 64 + (lead.low.toNat - 0x80)) * 64 ^ count := by
  simp only [lead?, Bool.and_eq_true, decide_eq_true_eq, beq_iff_eq, UInt8.le_iff_toNat_le,
    UInt8.reduceToNat] at h
  split at h
  · obtain rfl := Option.some.inj h
    exact .inl ⟨rfl, rfl⟩
  -- Otherwise the windows are above ASCII; where the lead byte has no bits of its own, its window
  -- leaves out the bytes that would make the character too small.
  right
  split at h
  · obtain rfl := Option.some.inj h
    exact ⟨0, rfl, Nat.le_refl _, by simp only [UInt8.reduceToNat]; omega⟩
  split at h
  · obtain rfl := Option.some.inj h
    exact ⟨1, rfl, by decide, by decide⟩
  split at h
  · obtain rfl := Option.some.inj h
    exact ⟨1, rfl, by decide, by decide⟩
  split at h
  · obtain rfl := Option.some.inj h
    exact ⟨1, rfl, Nat.le_refl _, by simp only [UInt8.reduceToNat]; omega⟩
  split at h
  · obtain rfl := Option.some.inj h
    exact ⟨2, rfl, by decide, by decide⟩
  split at h
  · obtain rfl := Option.some.inj h
    exact ⟨2, rfl, Nat.le_refl _, by simp only [UInt8.reduceToNat]; omega⟩
  split at h
  · obtain rfl := Option.some.inj h
    exact ⟨2, rfl, by decide, by decide⟩
  · cases h

theorem lead_ascii {c : UInt8} (h : c.toNat < 0x80) : lead? c = some ⟨c.toNat, 0, 0, 0⟩ := by
  have hle : c ≤ 0x7F := UInt8.le_iff_toNat_le.2 (Nat.le_of_lt_succ h)
  rw [lead?, if_pos hle]

/-- A byte below 0x80 is the character of that number. -/
theorem take_char_ascii {c : UInt8} (h : c.toNat < 0x80) (rest : Bytes) :
    takeChar c rest = (some (.ofNat c.toNat), rest) := by
  simp [takeChar, lead_ascii h, takeFollowing]

/-- Following bytes are not looked for beyond a byte that is none. -/
theorem take_following_append {count value : Nat} {low high c : UInt8}
    (hlow : 0 < count → 0x80 ≤ low.toNat) (hc : c.toNat < 0x80) (a b : Bytes) :
    takeFollowing count value low high (a ++ c :: b) =
      ((takeFollowing count value low high a).1,
        (takeFollowing count value low high a).2 ++ c :: b) := by
  induction count generalizing value low high a with
  | zero => rfl
  | succ count ih =>
      -- The byte is in no window, so it is left to what follows.
      have hwindow : ¬ (decide (low ≤ c) && decide (c ≤ high)) = true := by
        have := hlow (Nat.zero_lt_succ count)
        simp only [Bool.and_eq_true, decide_eq_true_eq, UInt8.le_iff_toNat_le]
        omega
      cases a with
      | nil => simp only [takeFollowing, List.nil_append, if_neg hwindow]
      | cons x a =>
          simp only [takeFollowing, List.cons_append]
          split
          · exact ih (fun _ => by decide) a
          · rfl

/-- A character ends before a byte below 0x80, if it has not ended earlier. -/
theorem take_char_append {c : UInt8} (hc : c.toNat < 0x80) (x : UInt8) (a b : Bytes) :
    takeChar x (a ++ c :: b) = ((takeChar x a).1, (takeChar x a).2 ++ c :: b) := by
  unfold takeChar
  cases hlead : lead? x with
  | none => rfl
  | some lead =>
      have hlow : 0 < lead.following → 0x80 ≤ lead.low.toNat := by
        obtain ⟨hzero, -⟩ | ⟨count, -, hlow, -⟩ := lead_cases hlead
        · omega
        · exact fun _ => hlow
      dsimp only
      rw [take_following_append hlow hc]

/-- A value that is put together has taken a byte of its window for each that was to follow. -/
theorem of_take_following_succ {count value v : Nat} {low high : UInt8} {bytes : Bytes}
    (h : (takeFollowing (count + 1) value low high bytes).1 = some v) :
    ∃ (b : UInt8) (rest : Bytes), low.toNat ≤ b.toNat ∧
      (takeFollowing count (value * 64 + (b.toNat - 0x80)) 0x80 0xBF rest).1 = some v := by
  cases bytes with
  | nil => cases h
  | cons b rest =>
      rw [takeFollowing] at h
      split at h
      · rename_i hwindow
        rw [Bool.and_eq_true, decide_eq_true_eq, UInt8.le_iff_toNat_le] at hwindow
        exact ⟨b, rest, hwindow.1, h⟩
      · cases h

/-- Each following byte adds six bits to the value. -/
theorem le_take_following {count value v : Nat} {low high : UInt8} {bytes : Bytes}
    (h : (takeFollowing count value low high bytes).1 = some v) : value * 64 ^ count ≤ v := by
  induction count generalizing value low high bytes with
  | zero =>
      rw [takeFollowing, Option.some.injEq] at h
      omega
  | succ count ih =>
      obtain ⟨b, rest, -, hrest⟩ := of_take_following_succ h
      calc value * 64 ^ (count + 1)
          = value * 64 * 64 ^ count := by
            rw [Nat.pow_succ, Nat.mul_comm (64 ^ count), Nat.mul_assoc]
        _ ≤ (value * 64 + (b.toNat - 0x80)) * 64 ^ count :=
            Nat.mul_le_mul_right _ (Nat.le_add_right ..)
        _ ≤ v := ih hrest

/-- No byte but the line feed itself begins a line feed. -/
theorem take_char_line_feed {b : UInt8} {rest : Bytes} (h : (takeChar b rest).1 = some '\n') :
    b = 10 := by
  unfold takeChar at h
  cases hlead : lead? b with
  | none => rw [hlead] at h; cases h
  | some lead =>
      rw [hlead] at h
      obtain ⟨v, hv, hchar⟩ := Option.map_eq_some_iff.1 h
      have hten : v = 10 := by
        by_cases hvalid : v.isValidChar
        · rw [Char.ofNat, dif_pos hvalid] at hchar
          exact congrArg Char.toNat hchar
        · rw [Char.ofNat, dif_neg hvalid] at hchar
          cases hchar
      obtain ⟨hzero, hbits⟩ | ⟨count, hcount, -, hleast⟩ := lead_cases hlead
      · rw [hzero, takeFollowing, Option.some.injEq, hbits, hten] at hv
        exact UInt8.toNat_inj.1 hv
      · rw [hcount] at hv
        obtain ⟨x, more, hlow, hmore⟩ := of_take_following_succ hv
        have hsmall : 0x80 ≤ v :=
          calc 0x80 ≤ (lead.bits * 64 + (lead.low.toNat - 0x80)) * 64 ^ count := hleast
            _ ≤ (lead.bits * 64 + (x.toNat - 0x80)) * 64 ^ count :=
              Nat.mul_le_mul_right _ (by omega)
            _ ≤ v := le_take_following hmore
        omega

theorem take_following_suffix (count value : Nat) (low high : UInt8) (bytes : Bytes) :
    (takeFollowing count value low high bytes).2 <:+ bytes := by
  induction count generalizing value low high bytes with
  | zero => exact List.suffix_refl bytes
  | succ count ih =>
      cases bytes with
      | nil => exact List.suffix_refl []
      | cons b rest =>
          rw [takeFollowing]
          split
          · exact (ih ..).trans (List.suffix_cons b rest)
          · exact List.suffix_refl (b :: rest)

/-- What follows a character is the end of the bytes. -/
theorem take_char_suffix (b : UInt8) (rest : Bytes) : (takeChar b rest).2 <:+ rest := by
  unfold takeChar
  split
  · exact List.suffix_refl rest
  · exact take_following_suffix ..

/-! ## Texts -/

/-- What is decoded may be cut at each byte below 0x80. -/
theorem decode_lossy_append {c : UInt8} (hc : c.toNat < 0x80) (a b : Bytes) :
    decodeLossy (a ++ c :: b) = decodeLossy a ++ .ofNat c.toNat :: decodeLossy b := by
  fun_induction decodeLossy a with
  | case1 => rw [List.nil_append, decodeLossy, take_char_ascii hc]; rfl
  | case2 x a ih => rw [List.cons_append, decodeLossy, take_char_append hc, ih, List.cons_append]

/-- A text has no line feed where its bytes have none. -/
theorem line_feed_not_mem_decode_lossy {bytes : Bytes} (h : 10 ∉ bytes) :
    '\n' ∉ decodeLossy bytes := by
  fun_induction decodeLossy bytes with
  | case1 => simp
  | case2 b rest ih =>
      obtain ⟨hb, hrest⟩ := not_or.1 (mt List.mem_cons.2 h)
      rw [List.mem_cons, not_or]
      refine ⟨fun heq => ?_, ih fun hmem => hrest ((take_char_suffix b rest).mem hmem)⟩
      cases hchar : (takeChar b rest).1 with
      | none => rw [hchar] at heq; revert heq; decide
      | some c =>
          rw [hchar, Option.getD_some] at heq
          exact hb (take_char_line_feed (heq ▸ hchar)).symm

end TaskFleet.Text
