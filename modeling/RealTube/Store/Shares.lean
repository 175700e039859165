import Mathlib.Algebra.BigOperators.Group.Finset.Basic
import Mathlib.Algebra.Order.Field.Rat
import Mathlib.Algebra.Order.Field.Basic
import Mathlib.Tactic.Linarith
import Mathlib.Tactic.Positivity
import Mathlib.Tactic.FieldSimp
import Mathlib.Tactic.GCongr
import Mathlib.Tactic.Ring

/-!
# The highest share

A total is divided among categories; `IsTopShare` is the highest percentage that any of them has,
and 0 if none has any. It is the least upper bound of the shares, so it is what a loop over the
categories finds in any order, and it is unique.

Adding weight to one category raises the share of that category and lowers all others. Whether the
highest share falls is a matter of the category that gains: `topShare_mono_iff` says that it does
not fall exactly when the weight is 0, or the category ends with a share that is at least as high as
every share before.
-/

namespace Shares

variable {K : Type}

/-- The highest percentage of the total that a category has, and at least 0. -/
def IsTopShare (f : K → ℚ) (total m : ℚ) : Prop :=
  ∀ x, m ≤ x ↔ 0 ≤ x ∧ ∀ c, f c / total * 100 ≤ x

variable {f : K → ℚ} {total m m' : ℚ}

namespace IsTopShare

theorem nonneg (h : IsTopShare f total m) : 0 ≤ m := ((h m).1 le_rfl).1

theorem share_le (h : IsTopShare f total m) (c : K) : f c / total * 100 ≤ m := ((h m).1 le_rfl).2 c

/-- **There is only one highest share.** -/
theorem unique (h : IsTopShare f total m) (h' : IsTopShare f total m') : m = m' :=
  eq_of_forall_ge_iff fun x ↦ (h x).trans (h' x).symm

/-- Nothing is shared. -/
theorem eq_zero (h : IsTopShare f 0 m) : m = 0 := by
  refine le_antisymm ((h 0).2 ⟨le_rfl, fun c ↦ ?_⟩) h.nonneg
  rw [div_zero, zero_mul]

end IsTopShare

/-- One category gains weight. -/
def gain [DecidableEq K] (f : K → ℚ) (c : K) (w : ℚ) : K → ℚ := fun c' ↦
  f c' + if c' = c then w else 0

variable [DecidableEq K] {c : K} {w : ℚ}

theorem gain_self : gain f c w c = f c + w := by rw [gain, if_pos rfl]

theorem gain_of_ne {c' : K} (h : c' ≠ c) : gain f c w c' = f c' := by
  rw [gain, if_neg h, add_zero]

theorem gain_zero : gain f c 0 = f := funext fun c' ↦ by rw [gain, ite_self, add_zero]

/-- **A category that gains weight keeps the highest share from falling exactly when** the weight is
0, or the category has in the end at least the share that every category had before. -/
theorem topShare_mono_iff (hf : ∀ c, 0 ≤ f c) (hle : ∀ c, f c ≤ total) (hw : 0 ≤ w)
    (h : IsTopShare f total m) (h' : IsTopShare (gain f c w) (total + w) m') :
    m ≤ m' ↔ w = 0 ∨ ∀ c', f c' * (total + w) ≤ (f c + w) * total := by
  have htotal : 0 ≤ total := (hf c).trans (hle c)
  rcases hw.eq_or_lt with rfl | hpos
  · rw [gain_zero, add_zero] at h'
    simp [h.unique h']
  rcases htotal.eq_or_lt with rfl | htpos
  · -- nothing was shared before
    have hzero : ∀ c', f c' = 0 := fun c' ↦ le_antisymm (hle c') (hf c')
    simp [h.eq_zero, h'.nonneg, hzero]
  have hsum : 0 < total + w := by linarith
  -- the share of the category that gains, compared by cross-multiplication
  have hcross : ∀ c', f c' / total * 100 ≤ (f c + w) / (total + w) * 100 ↔
      f c' * (total + w) ≤ (f c + w) * total := fun c' ↦ by
    rw [mul_le_mul_iff_left₀ (by norm_num : (0 : ℚ) < 100), div_le_div_iff₀ htpos hsum]
  have hgain : (f c + w) / (total + w) * 100 ≤ m' := by
    have hshare := h'.share_le c
    rwa [gain_self] at hshare
  have hshare₀ : 0 ≤ (f c + w) / (total + w) * 100 := by
    have := hf c
    positivity
  rw [or_iff_right hpos.ne', ← forall_congr' hcross]
  refine ⟨fun hmono ↦ ?_, fun hall ↦ ((h _).2 ⟨hshare₀, hall⟩).trans hgain⟩
  -- otherwise all shares have fallen below the highest one
  by_contra hfall
  obtain ⟨c₀, hc₀⟩ := not_forall.1 hfall
  have hm : (f c + w) / (total + w) * 100 < m := (not_le.1 hc₀).trans_le (h.share_le c₀)
  have hmpos : 0 < m := hshare₀.trans_lt hm
  have hscale : m * total / (total + w) < m := by
    rw [div_lt_iff₀ hsum]
    nlinarith
  have hbound : m' ≤ max ((f c + w) / (total + w) * 100) (m * total / (total + w)) := by
    refine (h' _).2 ⟨hshare₀.trans (le_max_left _ _), fun c' ↦ ?_⟩
    by_cases hc' : c' = c
    · rw [hc', gain_self]
      exact le_max_left _ _
    · rw [gain_of_ne hc']
      refine le_trans ?_ (le_max_right _ _)
      calc f c' / (total + w) * 100 = f c' / total * 100 * total / (total + w) := by
            field_simp
        _ ≤ m * total / (total + w) := by
            gcongr
            exact h.share_le c'
  exact absurd (hmono.trans hbound) (not_le.2 (max_lt hm hscale))

end Shares
