import TaskFleet.Placement.Schedule

/-!
# The order of candidates

Candidates are ranked by their scores, and by their names where the scores are the same. Scores are
compared as IEEE 754 orders all bit patterns: by sign, then by magnitude (`Score.Below`); the place of
a score in that order is `Score.rank`. `rank_agents_cons` says of the first candidate of a ranking that
it is ahead of every other one, and `ranked_in_one_order` that a ranking does not depend on the order
in which the candidates come.
-/

namespace TaskFleet

namespace Score

/-- Whether the sign bit is set. -/
def isNegative (s : Score) : Bool :=
  0x8000000000000000 ≤ s.bits.toNat

/-- The bits other than the sign. -/
def magnitude (s : Score) : Nat :=
  s.bits.toNat % 0x8000000000000000

/-- The order of all bit patterns: negative ones come first, the greater magnitude before the
smaller one; then the others, the smaller magnitude before the greater one. -/
def Below (a b : Score) : Prop :=
  match a.isNegative, b.isNegative with
  | true, false => True
  | false, true => False
  | false, false => a.magnitude < b.magnitude
  | true, true => b.magnitude < a.magnitude

/-- The rank is the place in the order of bit patterns. -/
theorem below_iff_rank {a b : Score} : a.Below b ↔ a.rank < b.rank := by
  have ha := a.bits.toNat_lt
  have hb := b.bits.toNat_lt
  unfold Below isNegative magnitude rank
  by_cases hsign : 0x8000000000000000 ≤ a.bits.toNat <;>
    by_cases hsign' : 0x8000000000000000 ≤ b.bits.toNat <;>
    simp only [hsign, hsign', decide_true, decide_false] <;> grind

instance (a b : Score) : Decidable (a.Below b) :=
  decidable_of_iff _ below_iff_rank.symm

/-- Different bit patterns have different places. -/
theorem rank_inj {a b : Score} (h : a.rank = b.rank) : a = b := by
  have ha := a.bits.toNat_lt
  have hb := b.bits.toNat_lt
  have hbits : a.bits.toNat = b.bits.toNat := by
    unfold rank at h
    grind
  exact congrArg Score.mk (UInt64.toNat_inj.1 hbits)

end Score

/-- Of two agents the first comes before the second in a ranking: its score is higher, or the scores
are the same and its name is smaller. A score that is no number counts as minus infinity. -/
def Snapshot.Precedes (score : Snapshot → Score) (a b : Snapshot) : Prop :=
  (score b).ranked.Below (score a).ranked ∨ (score a).ranked = (score b).ranked ∧ a.name < b.name

instance (score : Snapshot → Score) (a b : Snapshot) : Decidable (a.Precedes score b) :=
  inferInstanceAs (Decidable (_ ∨ _))

namespace Candidate

theorem ahead_iff {a b : Candidate} :
    a.ahead b = true ↔
      b.score.rank < a.score.rank ∨ a.score.rank = b.score.rank ∧ a.agent.name ≤ b.agent.name := by
  have hnames : ¬ b.agent.name < a.agent.name ↔ a.agent.name ≤ b.agent.name := String.not_lt
  unfold ahead
  by_cases h : a.score.rank = b.score.rank
  · simp only [h, if_true, Bool.not_eq_true', decide_eq_false_iff_not, hnames, Nat.lt_irrefl,
      false_or, true_and]
  · simp [h]

theorem ahead_trans (a b c : Candidate) (hab : a.ahead b = true) (hbc : b.ahead c = true) :
    a.ahead c = true := by
  rw [ahead_iff] at *
  obtain hab | ⟨hab, hnames⟩ := hab
  · obtain hbc | ⟨hbc, -⟩ := hbc
    · exact .inl (Nat.lt_trans hbc hab)
    · exact .inl (hbc ▸ hab)
  · obtain hbc | ⟨hbc, hnames'⟩ := hbc
    · exact .inl (hab ▸ hbc)
    · exact .inr ⟨hab.trans hbc, String.le_trans hnames hnames'⟩

theorem ahead_total (a b : Candidate) : (a.ahead b || b.ahead a) = true := by
  rw [Bool.or_eq_true, ahead_iff, ahead_iff]
  have hnames := String.le_total a.agent.name b.agent.name
  grind

end Candidate

/-- An agent with the score by which it is ranked. -/
def Snapshot.scored (score : Snapshot → Score) (a : Snapshot) : Candidate :=
  ⟨(score a).ranked, a⟩

variable {score : Snapshot → Score} {agents : List Snapshot}

theorem rank_agents_perm : (rankAgents score agents).Perm (agents.map (·.scored score)) :=
  List.mergeSort_perm _ _

theorem rank_agents_sorted : (rankAgents score agents).Pairwise fun a b => a.ahead b = true :=
  List.pairwise_mergeSort Candidate.ahead_trans Candidate.ahead_total _

/-- The first candidate of a ranking is one of the ranked agents, and precedes every one of another
name. -/
theorem rank_agents_cons {best : Candidate} {rest : List Candidate}
    (h : rankAgents score agents = best :: rest) :
    best.agent ∈ agents ∧
      ∀ other ∈ agents, other.name ≠ best.agent.name → best.agent.Precedes score other := by
  have hperm : (rankAgents score agents).Perm (agents.map (·.scored score)) := rank_agents_perm
  have hsorted : (rankAgents score agents).Pairwise fun a b => a.ahead b = true :=
    rank_agents_sorted
  rw [h] at hperm hsorted
  obtain ⟨a, ha, rfl⟩ := List.mem_map.1 (hperm.mem_iff.1 List.mem_cons_self)
  refine ⟨ha, fun other hother hne => ?_⟩
  have hmem := hperm.mem_iff.2 (List.mem_map.2 ⟨other, hother, rfl⟩)
  obtain heq | hbehind := List.mem_cons.1 hmem
  · exact absurd (congrArg (·.agent.name) heq) hne
  · have hahead := List.rel_of_pairwise_cons hsorted hbehind
    obtain hscore | ⟨hscore, hname⟩ := Candidate.ahead_iff.1 hahead
    · exact .inl (Score.below_iff_rank.2 hscore)
    · have hlt : a.name < other.name :=
        String.not_le.1 fun hle => hne (String.le_antisymm hle hname)
      exact .inr ⟨Score.rank_inj hscore, hlt⟩

/-- Only of no agents the ranking is empty. -/
theorem rank_agents_eq_nil_iff : rankAgents score agents = [] ↔ agents = [] := by
  rw [← List.length_eq_zero_iff, rank_agents_perm.length_eq, List.length_map,
    List.length_eq_zero_iff]

/-- Of two candidates the first comes before the second: its score is higher, or the scores are the
same and its name is smaller. -/
def Candidate.Before (a b : Candidate) : Prop :=
  b.score.Below a.score ∨ a.score = b.score ∧ a.agent.name < b.agent.name

/-- No two candidates come before each other. -/
theorem Candidate.Before.asymm {a b : Candidate} (h : a.Before b) : ¬ b.Before a := by
  unfold Candidate.Before at *
  rw [Score.below_iff_rank] at *
  rintro (hscore | ⟨hscore, hname⟩)
  · obtain hscore' | ⟨hscore', -⟩ := h
    · exact Nat.lt_asymm hscore hscore'
    · exact Nat.lt_irrefl _ (hscore' ▸ hscore)
  · obtain hscore' | ⟨-, hname'⟩ := h
    · exact Nat.lt_irrefl _ (hscore ▸ hscore')
    · exact String.lt_asymm hname hname'

/-- Where the names tell the agents apart, the candidates of a ranking come one before the other. -/
theorem rank_agents_before (hnames : (agents.map Snapshot.name).Nodup) :
    (rankAgents score agents).Pairwise Candidate.Before := by
  have hperm : (rankAgents score agents).Perm (agents.map (·.scored score)) := rank_agents_perm
  have hdistinct : ((rankAgents score agents).map (·.agent.name)).Nodup := by
    rw [(hperm.map _).nodup_iff, List.map_map]
    exact hnames
  refine (rank_agents_sorted.and (List.pairwise_map.1 hdistinct)).imp ?_
  rintro a b ⟨hahead, hne⟩
  obtain hscore | ⟨hscore, hname⟩ := Candidate.ahead_iff.1 hahead
  · exact .inl (Score.below_iff_rank.2 hscore)
  · exact .inr ⟨Score.rank_inj hscore,
      String.not_le.1 fun hle => hne (String.le_antisymm hname hle)⟩

/-- However candidates of different names are scored, and in whatever order they come, their ranking
is one and the same: it holds each of them once, with its score, or minus infinity where that is no
number, and each comes before all that follow it. -/
theorem ranked_in_one_order {score : Task → Snapshot → Score} {t : Task}
    {agents others : List Snapshot} (hnames : (agents.map Snapshot.name).Nodup)
    (hsame : agents.Perm others) :
    rankAgents (score t) agents = rankAgents (score t) others ∧
      (rankAgents (score t) agents).Perm (agents.map fun a =>
        ⟨if (score t a).isNaN then .negInfinity else score t a, a⟩) ∧
      (rankAgents (score t) agents).Pairwise Candidate.Before := by
  have hnames' : (others.map Snapshot.name).Nodup := (hsame.map _).nodup_iff.1 hnames
  have hperm : (rankAgents (score t) agents).Perm (rankAgents (score t) others) :=
    rank_agents_perm.trans ((hsame.map _).trans rank_agents_perm.symm)
  refine ⟨?_, rank_agents_perm, rank_agents_before hnames⟩
  exact hperm.eq_of_pairwise (fun a b _ _ hab hba => absurd hba hab.asymm)
    (rank_agents_before hnames) (rank_agents_before hnames')

/-- Scores of which two are no numbers, of either sign, two are zeros, and one is minus infinity. -/
def oddScore (_ : Task) (a : Snapshot) : Score :=
  match a.name with
  | "a" => ⟨0x7FF8000000000000⟩
  | "b" => .negInfinity
  | "c" => ⟨0x8000000000000000⟩
  | "d" => ⟨0⟩
  | _ => ⟨0xFFF8000000000001⟩

/-- Agents of some names that offer nothing. -/
def bareAgents (names : List String) : List Snapshot :=
  names.map fun name => ⟨name, ⟨∅, ∅, .empty⟩⟩

theorem ranked_in_one_order_reversed :
    rankAgents (oddScore default) (bareAgents ["e", "a", "d", "c", "b"]) =
        rankAgents (oddScore default) (bareAgents ["b", "c", "d", "a", "e"]) ∧
      (rankAgents (oddScore default) (bareAgents ["e", "a", "d", "c", "b"])).map (·.agent.name) =
        ["d", "c", "a", "b", "e"] := by
  have hnames : ((bareAgents ["e", "a", "d", "c", "b"]).map Snapshot.name).Nodup := by decide
  have hshuffled : (bareAgents ["e", "a", "d", "c", "b"]).Perm
      (bareAgents ["b", "c", "d", "a", "e"]) := by decide
  obtain ⟨hsame, hperm, hbefore⟩ := @ranked_in_one_order oddScore default _ _ hnames hshuffled
  refine ⟨hsame, ?_⟩
  have hinOrder : (bareAgents ["e", "a", "d", "c", "b"]).Perm
      (bareAgents ["d", "c", "a", "b", "e"]) := by decide
  have hprecede : (bareAgents ["d", "c", "a", "b", "e"]).Pairwise
      (Snapshot.Precedes (oddScore default)) := by decide
  rw [(hperm.trans (hinOrder.map _)).eq_of_pairwise
    (fun a b _ _ hab hba => absurd hba hab.asymm) hbefore (List.pairwise_map.2 hprecede)]
  rfl

end TaskFleet
