import Mathlib
import TaskFleet.Proofs.Placement.Ranking

/-!
# Ties

Two scores tie if they are equal as numbers, and then the smaller name should come first in a
ranking. The ranking looks at bit patterns, and numbers that are equal have one pattern, but for the
two zeros (`ties_iff`). So it does as it should, except that a zero without a sign always comes
before a zero with one: `ties_by_name`.
-/

namespace TaskFleet

namespace Score

open Float.Model.UnpackedFloat

/-- The number that a score stands for. -/
def toFloat (s : Score) : Float :=
  .ofBits s.bits

/-- The scores are equal as floating-point numbers are compared: one that is no number is not even
equal to itself, and zero is equal to zero whatever the signs. -/
def Ties (a b : Score) : Prop :=
  (a.toFloat == b.toFloat) = true

instance (a b : Score) : Decidable (a.Ties b) :=
  inferInstanceAs (Decidable (_ = true))

/-- Zero with its sign set. -/
def negZero : Score := ⟨0x8000000000000000⟩

theorem is_nan_iff {s : Score} : s.isNaN = true ↔ 0x7FF0000000000000 < s.magnitude := by
  have hmask : (s.bits &&& 0x7FFFFFFFFFFFFFFF).toNat = s.magnitude := by
    rw [UInt64.toNat_and]
    exact Nat.and_two_pow_sub_one_eq_mod s.bits.toNat 63
  unfold isNaN
  rw [decide_eq_true_iff, UInt64.lt_iff_toNat_lt, hmask]
  rfl

/-- A magnitude above that of the infinities has all bits of the exponent set and some of the
fraction. -/
theorem is_nan_bits_iff {s : Score} :
    @isNaNBits .binary64 s.bits.toBitVec = true ↔ s.isNaN = true := by
  have hexponent : (@unpackExponent .binary64 s.bits.toBitVec).toNat =
      s.bits.toNat / 2 ^ 52 % 2 ^ 11 := by
    rw [unpackExponent_def, BitVec.extractLsb'_toNat, Nat.shiftRight_eq_div_pow]
    rfl
  have hfraction : (@unpackMantissa .binary64 s.bits.toBitVec).toNat = s.bits.toNat % 2 ^ 52 := by
    rw [unpackMantissa_def, BitVec.extractLsb'_toNat, Nat.shiftRight_zero]
    rfl
  rw [is_nan_iff, isNaNBits, decide_eq_true_iff, ne_eq, ← BitVec.toNat_inj, ← BitVec.toNat_inj,
    hexponent, hfraction]
  show s.bits.toNat / 2 ^ 52 % 2 ^ 11 = 2047 ∧ ¬ s.bits.toNat % 2 ^ 52 = 0 ↔ _
  unfold magnitude
  omega

/-- A number keeps the bits of its score. -/
theorem bits_to_float {s : Score} (h : s.isNaN = false) : s.toFloat.toBits = s.bits := by
  have hpack := @pack_unpack .binary64 s.bits.toBitVec (by decide)
  rw [if_neg fun hbits => by simp [is_nan_bits_iff.1 hbits] at h] at hpack
  exact congrArg UInt64.ofBitVec hpack

theorem to_float_of_nan {s : Score} (h : s.isNaN = true) : s.toFloat = Float.nan := by
  have hpack := @pack_unpack .binary64 s.bits.toBitVec (by decide)
  rw [if_pos (is_nan_bits_iff.2 h)] at hpack
  have hnan : Float.nan.toBits = UInt64.ofBitVec (packedNaN .binary64) := by decide
  rw [← Float.toBits_inj, hnan]
  exact congrArg UInt64.ofBitVec hpack

/-- A score stands for a certain number if it has the bits of that number. -/
theorem to_float_eq_iff {s : Score} (h : s.isNaN = false) {x : Float} :
    s.toFloat = x ↔ s = ⟨x.toBits⟩ := by
  rw [← Float.toBits_inj, bits_to_float h]
  cases s
  simp

theorem to_float_ne_nan_iff {s : Score} : s.toFloat ≠ Float.nan ↔ s.isNaN = false := by
  constructor
  · intro h
    exact Bool.eq_false_iff.2 fun hnan => h (to_float_of_nan hnan)
  · intro h hnan
    rw [(to_float_eq_iff h).1 hnan] at h
    exact absurd h (by decide)

/-- Scores tie exactly if both are numbers and they are the same, or zeros of different signs. -/
theorem ties_iff {a b : Score} :
    a.Ties b ↔ a.isNaN = false ∧ b.isNaN = false ∧
      (a = b ∨ a = ⟨0⟩ ∧ b = negZero ∨ a = negZero ∧ b = ⟨0⟩) := by
  unfold Ties
  rw [Float.beq_iff_ne_nan_and_eq, to_float_ne_nan_iff, to_float_ne_nan_iff]
  refine and_congr_right fun ha => and_congr_right fun hb => ?_
  have hzero : (0 : Float).toBits = 0 := by decide
  have hnegative : (-0 : Float).toBits = 0x8000000000000000 := by decide
  rw [to_float_eq_iff ha, to_float_eq_iff ha, to_float_eq_iff ha, to_float_eq_iff hb,
    to_float_eq_iff hb, bits_to_float hb, hzero, hnegative]
  rfl

theorem ranked_of_number {s : Score} (h : s.isNaN = false) : s.ranked = s := by
  unfold ranked
  rw [h]
  rfl

end Score

/-- Of two members of a list one stands before the other. -/
theorem sublist_of_mem {α : Type} {l : List α} {x y : α} (hx : x ∈ l) (hy : y ∈ l) (hne : x ≠ y) :
    [x, y].Sublist l ∨ [y, x].Sublist l := by
  obtain ⟨before, after, rfl⟩ := List.append_of_mem hx
  obtain hbefore | hafter := List.mem_append.1 hy
  · exact .inr ((List.singleton_sublist.2 hbefore).append
      (List.singleton_sublist.2 List.mem_cons_self))
  · obtain heq | hafter := List.mem_cons.1 hafter
    · exact absurd heq.symm hne
    · exact .inl (((List.singleton_sublist.2 hafter).cons_cons x).trans
        (List.sublist_append_right before _))

variable {score : Snapshot → Score} {agents : List Snapshot}

/-- Of two agents the one that precedes the other stands before it in a ranking. -/
theorem stands_before (hnames : (agents.map Snapshot.name).Nodup) {a b : Snapshot}
    (ha : a ∈ agents) (hb : b ∈ agents) (h : (a.scored score).Before (b.scored score)) :
    [a.scored score, b.scored score].Sublist (rankAgents score agents) := by
  have hmem {x : Snapshot} (hx : x ∈ agents) : x.scored score ∈ rankAgents score agents :=
    rank_agents_perm.mem_iff.2 (List.mem_map.2 ⟨x, hx, rfl⟩)
  have hne : a.scored score ≠ b.scored score := fun heq => (heq ▸ h).asymm (heq ▸ h)
  obtain hfirst | hsecond := sublist_of_mem (hmem ha) (hmem hb) hne
  · exact hfirst
  · have hother := List.pairwise_iff_forall_sublist.1 (rank_agents_before hnames) hsecond
    exact absurd h hother.asymm

/-- Of two candidates whose scores are numerically equal the one with the smaller name comes first,
however the others are scored, unless both scores are zero and that of the smaller name alone has
its sign set. In that case the larger name comes first. -/
theorem ties_by_name {score : Task → Snapshot → Score} {t : Task}
    (hnames : (agents.map Snapshot.name).Nodup) {a b : Snapshot} (ha : a ∈ agents)
    (hb : b ∈ agents) (hname : a.name < b.name) (hties : (score t a).Ties (score t b)) :
    if score t a = .negZero ∧ score t b = ⟨0⟩ then
      [⟨score t b, b⟩, ⟨score t a, a⟩].Sublist (rankAgents (score t) agents)
    else [⟨score t a, a⟩, ⟨score t b, b⟩].Sublist (rankAgents (score t) agents) := by
  obtain ⟨hnumber, hnumber', hpatterns⟩ := Score.ties_iff.1 hties
  have hscored : a.scored (score t) = ⟨score t a, a⟩ := by
    rw [Snapshot.scored, Score.ranked_of_number hnumber]
  have hscored' : b.scored (score t) = ⟨score t b, b⟩ := by
    rw [Snapshot.scored, Score.ranked_of_number hnumber']
  have hzeros : Score.Below .negZero ⟨0⟩ := by decide
  rw [← hscored, ← hscored']
  split
  case isTrue hsigns =>
    refine stands_before hnames hb ha (.inl ?_)
    rw [hscored, hscored']
    show (score t a).Below (score t b)
    rw [hsigns.1, hsigns.2]
    exact hzeros
  case isFalse hsigns =>
    refine stands_before hnames ha hb ?_
    rw [hscored, hscored']
    obtain hsame | ⟨hzero, hnegative⟩ | hreversed := hpatterns
    · exact .inr ⟨hsame, hname⟩
    · refine .inl ?_
      show (score t b).Below (score t a)
      rw [hzero, hnegative]
      exact hzeros
    · exact absurd hreversed hsigns

/-- Scores of which those of the first and the last agent are the same, and that of the second is
zero with the other sign. -/
def signedScore (_ : Task) (a : Snapshot) : Score :=
  if a.name = "b" then ⟨0⟩ else .negZero

theorem ties_by_name_same_sign :
    [⟨.negZero, ⟨"a", ⟨∅, ∅, .empty⟩⟩⟩, ⟨.negZero, ⟨"c", ⟨∅, ∅, .empty⟩⟩⟩].Sublist
      (rankAgents (signedScore default) (bareAgents ["c", "b", "a"])) := by
  have hties := @ties_by_name (bareAgents ["c", "b", "a"]) signedScore default (by decide)
    ⟨"a", ⟨∅, ∅, .empty⟩⟩ ⟨"c", ⟨∅, ∅, .empty⟩⟩ (by decide) (by decide) (by decide) (by decide)
  rw [if_neg (by decide)] at hties
  exact hties

/-- Two agents whose scores are numerically equal, of which the one with the larger name comes
first. -/
theorem larger_name_first :
    (signedScore default ⟨"a", ⟨∅, ∅, .empty⟩⟩).Ties (signedScore default ⟨"b", ⟨∅, ∅, .empty⟩⟩) ∧
      "a" < "b" ∧
      (rankAgents (signedScore default) (bareAgents ["a", "b"])).map (·.agent.name) = ["b", "a"] := by
  refine ⟨by decide, by decide, ?_⟩
  have hzeros : Score.Below .negZero ⟨0⟩ := by decide
  have hfirst := @stands_before (signedScore default) (bareAgents ["a", "b"]) (by decide)
    ⟨"b", ⟨∅, ∅, .empty⟩⟩ ⟨"a", ⟨∅, ∅, .empty⟩⟩ (by decide) (by decide) (.inl hzeros)
  have hlength : (rankAgents (signedScore default) (bareAgents ["a", "b"])).length = 2 :=
    rank_agents_perm.length_eq
  rw [← hfirst.eq_of_length hlength.symm]
  rfl

end TaskFleet
