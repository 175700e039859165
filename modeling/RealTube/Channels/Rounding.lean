import RealTube.Channels.Score

/-!
# The rounding of a channel score

A channel score is computed in four places, by the workers and by a function for unit tests in each
backend, and rounded to two decimals in three ways: `math.Round`, truncation after adding a half,
and `round`. The first two round halves up, so Go agrees with itself; Python rounds them to even.
They differ at every half above an even number, and nowhere else (`channelScoresAgree_iff`).
-/

namespace RealTube

/-! ### Halves -/

/-- The number is a half above an even number, where rounding to even is rounding down. -/
def HalfAboveEven (x : ℚ) : Prop := Int.fract x = 1 / 2 ∧ Even ⌊x⌋

variable {x : ℚ}

/-- **Rounding halves up.** -/
theorem floor_add_half (x : ℚ) : ⌊x + 1 / 2⌋ = if Int.fract x < 1 / 2 then ⌊x⌋ else ⌊x⌋ + 1 := by
  have hx : (⌊x⌋ : ℚ) + Int.fract x = x := Int.floor_add_fract x
  have hfract₀ := Int.fract_nonneg x
  have hfract₁ := Int.fract_lt_one x
  rw [Int.floor_eq_iff]
  split_ifs with h
  · constructor <;> linarith
  · push_cast
    constructor <;> linarith

/-- **Rounding halves to even.** -/
theorem roundHalfEven_eq (x : ℚ) : roundHalfEven x =
    if Int.fract x < 1 / 2 ∨ Int.fract x = 1 / 2 ∧ Even ⌊x⌋ then ⌊x⌋ else ⌊x⌋ + 1 := by
  rw [roundHalfEven, Int.self_sub_floor]
  rcases lt_trichotomy (Int.fract x) (1 / 2) with h | h | h
  · rw [if_pos h, if_pos (Or.inl h)]
  · simp only [h, lt_irrefl, if_false, false_or, true_and, Int.even_iff]
  · rw [if_neg h.not_gt, if_pos h, if_neg (not_or.2 ⟨h.not_gt, fun heq ↦ h.ne' heq.1⟩)]

/-- **The two differ at halves above even numbers only.** -/
theorem floor_add_half_eq_roundHalfEven_iff :
    ⌊x + 1 / 2⌋ = roundHalfEven x ↔ ¬ HalfAboveEven x := by
  rw [floor_add_half, roundHalfEven_eq, HalfAboveEven]
  by_cases hlt : Int.fract x < 1 / 2
  · rw [if_pos hlt, if_pos (Or.inl hlt)]
    exact iff_of_true rfl fun heven ↦ hlt.ne heven.1
  · by_cases heven : Int.fract x = 1 / 2 ∧ Even ⌊x⌋
    · rw [if_neg hlt, if_pos (Or.inr heven)]
      exact iff_of_false (by omega) (not_not.2 heven)
    · rw [if_neg hlt, if_neg (not_or.2 ⟨hlt, heven⟩)]
      exact iff_of_true rfl heven

theorem mathRound_of_nonneg (h : 0 ≤ x) : Go.mathRound x = ⌊x + 1 / 2⌋ := if_pos h

theorem round_go_of_nonneg (h : 0 ≤ x) : Backend.go.round x = ⌊x + 1 / 2⌋ :=
  truncate_eq_floor (by linarith)

/-- **An even bound is reached by either rounding** from a half below it on. -/
theorem Backend.le_round_iff (b : Backend) {n : ℤ} (hn : Even n) (hx : 0 ≤ x) :
    n ≤ b.round x ↔ (n : ℚ) - 1 / 2 ≤ x := by
  have hup : n ≤ ⌊x + 1 / 2⌋ ↔ (n : ℚ) - 1 / 2 ≤ x := by
    rw [Int.le_floor, sub_le_iff_le_add]
  cases b with
  | go => rw [round_go_of_nonneg hx, hup]
  | python =>
    rw [Backend.round]
    by_cases heven : HalfAboveEven x
    · -- rounding up would give the odd number above
      have hdown : roundHalfEven x = ⌊x⌋ := (roundHalfEven_eq x).trans (if_pos (Or.inr heven))
      rw [← hup, hdown, floor_add_half, if_neg heven.1.not_lt]
      obtain ⟨k, hk⟩ := hn
      obtain ⟨l, hl⟩ := heven.2
      omega
    · rw [← floor_add_half_eq_roundHalfEven_iff.2 heven, hup]

/-! ### The four computations -/

variable (flagged tracked : ℕ) (avgFlaggedScore : ℚ)

/-- The four computations of a channel score agree. -/
def ChannelScoresAgree : Prop :=
  let stats : ChannelStats := ⟨flagged, tracked, avgFlaggedScore⟩
  Go.computeChannelScorePure flagged tracked avgFlaggedScore = Backend.go.channelScore stats ∧
    Backend.go.channelScore stats =
      Python.computeChannelScorePure flagged tracked avgFlaggedScore ∧
    Python.computeChannelScorePure flagged tracked avgFlaggedScore =
      Backend.python.channelScore stats

/-- **The channel scores agree exactly when** there are too few tracked videos, or the score is not
a half above an even number of hundredths. -/
theorem channelScoresAgree_iff (havg : 0 ≤ avgFlaggedScore) :
    ChannelScoresAgree flagged tracked avgFlaggedScore ↔
      tracked < 3 ∨ ¬ HalfAboveEven (flagged / tracked * avgFlaggedScore * 100) := by
  rw [ChannelScoresAgree, Go.computeChannelScorePure, Python.computeChannelScorePure,
    Backend.channelScore, Backend.channelScore]
  by_cases hfew : tracked < 3
  · simp [hfew]
  · have hnonneg : (0 : ℚ) ≤ flagged / tracked * avgFlaggedScore * 100 := by positivity
    simp only [hfew, not_lt.1 hfew, if_true, if_false, false_or, ChannelStats.rawScore]
    rw [mathRound_of_nonneg hnonneg, round_go_of_nonneg hnonneg,
      ← floor_add_half_eq_roundHalfEven_iff, Backend.round]
    rw [div_left_inj' (by norm_num), Int.cast_inj]
    simp

/-- Three of four videos are flagged, with an average of 60. -/
theorem channelScoresAgree_threeOfFour : ChannelScoresAgree 3 4 60 :=
  (channelScoresAgree_iff 3 4 60 (by norm_num)).2 (.inr fun h ↦ by
    have hfract := h.1
    revert hfract
    decide +kernel)

/-- **One of 16 videos, with a score of 50**: 3.13 in Go and 3.12 in Python. -/
theorem not_channelScoresAgree_oneOfSixteen : ¬ ∀ (flagged tracked : ℕ) (avgFlaggedScore : ℚ),
    0 ≤ avgFlaggedScore → ChannelScoresAgree flagged tracked avgFlaggedScore := by
  intro h
  have hworkers := (h 1 16 50 (by norm_num)).2.1
  revert hworkers
  decide +kernel

end RealTube
