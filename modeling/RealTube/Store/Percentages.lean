import RealTube.Store.Shares
import Mathlib.Algebra.Order.BigOperators.Group.Finset
import Mathlib.Algebra.BigOperators.Field
import Mathlib.Data.Finset.Lattice.Fold

/-!
# Percentages of a list

A list of categories with weights. `score` is the percentage that a category has of the total
weight; a category that does not occur has none, and without any weight there is none at all. `top`
is the highest of them. Neither depends on the order of the list (`score_perm`, `top_perm`).

With weight, the categories that occur share 100. So the highest percentage is at least 100 divided
by their number (`div_card_le_top`), and it is 100 exactly if one category has all weight
(`top_eq_iff`). Another element does not lower the percentage of its own category
(`score_le_score_cons`), and raises that of no other (`score_cons_le`).
-/

namespace Shares

variable {K : Type} [DecidableEq K]

/-- The weight of a category. -/
def weight (xs : List (K × ℚ)) (c : K) : ℚ := (xs.map fun x ↦ if x.1 = c then x.2 else 0).sum

/-- The weight of all. -/
def total (xs : List (K × ℚ)) : ℚ := (xs.map Prod.snd).sum

/-- The categories that occur. -/
def categories (xs : List (K × ℚ)) : Finset K := (xs.map Prod.fst).toFinset

/-- The percentage of a category. -/
def score (xs : List (K × ℚ)) (c : K) : Option ℚ :=
  if total xs = 0 ∨ c ∉ categories xs then none else some (weight xs c / total xs * 100)

/-- The highest percentage. -/
def top (xs : List (K × ℚ)) : ℚ := (categories xs).fold max 0 fun c ↦ weight xs c / total xs * 100

variable {xs ys : List (K × ℚ)} {c : K}

theorem weight_cons (x : K × ℚ) (xs : List (K × ℚ)) (c : K) :
    weight (x :: xs) c = (if x.1 = c then x.2 else 0) + weight xs c := List.sum_cons

omit [DecidableEq K] in
theorem total_cons (x : K × ℚ) (xs : List (K × ℚ)) : total (x :: xs) = x.2 + total xs :=
  List.sum_cons

theorem mem_categories : c ∈ categories xs ↔ ∃ w, (c, w) ∈ xs := by
  simp [categories]

theorem mem_categories_cons {x : K × ℚ} :
    c ∈ categories (x :: xs) ↔ c = x.1 ∨ c ∈ categories xs := by
  simp [categories]

/-- A category that does not occur has no weight. -/
theorem weight_of_notMem (h : c ∉ categories xs) : weight xs c = 0 := by
  refine List.sum_eq_zero fun w hw ↦ ?_
  obtain ⟨x, hx, rfl⟩ := List.mem_map.1 hw
  refine if_neg ?_
  rintro rfl
  exact h (mem_categories.2 ⟨x.2, hx⟩)

/-- **The categories partition the weight.** -/
theorem sum_weight (xs : List (K × ℚ)) : ∑ c ∈ categories xs, weight xs c = total xs := by
  have hall : ∀ s : Finset K, categories xs ⊆ s → ∑ c ∈ s, weight xs c = total xs := by
    intro s
    induction xs with
    | nil => exact fun _ ↦ Finset.sum_const_zero
    | cons x xs ih =>
      intro hs
      have hx : x.1 ∈ s := hs (mem_categories_cons.2 (Or.inl rfl))
      simp only [weight_cons, total_cons, Finset.sum_add_distrib, Finset.sum_ite_eq, hx, if_true]
      rw [ih fun c hc ↦ hs (mem_categories_cons.2 (Or.inr hc))]
  exact hall _ (Finset.Subset.refl _)

/-! ### The order of the list -/

theorem weight_perm (h : xs.Perm ys) : weight xs = weight ys :=
  funext fun _ ↦ (h.map _).sum_eq

omit [DecidableEq K] in
theorem total_perm (h : xs.Perm ys) : total xs = total ys := (h.map _).sum_eq

theorem categories_perm (h : xs.Perm ys) : categories xs = categories ys :=
  List.toFinset_eq_of_perm _ _ (h.map _)

/-- **The percentages do not depend on the order.** -/
theorem score_perm (h : xs.Perm ys) : score xs = score ys := by
  funext c
  rw [score, score, weight_perm h, total_perm h, categories_perm h]

theorem top_perm (h : xs.Perm ys) : top xs = top ys := by
  rw [top, top, weight_perm h, total_perm h, categories_perm h]

/-- **The highest percentage is the highest share.** -/
theorem isTopShare_top (xs : List (K × ℚ)) : IsTopShare (weight xs) (total xs) (top xs) := by
  intro x
  rw [top, Finset.fold_max_le]
  refine and_congr_right fun hx ↦ ⟨fun h c ↦ ?_, fun h c _ ↦ h c⟩
  by_cases hc : c ∈ categories xs
  · exact h c hc
  · rwa [weight_of_notMem hc, zero_div, zero_mul]

/-! ### Without weight -/

theorem score_of_total_eq_zero (h : total xs = 0) : score xs = fun _ ↦ none :=
  funext fun _ ↦ if_pos (Or.inl h)

theorem top_of_total_eq_zero (h : total xs = 0) : top xs = 0 := by
  have htop := isTopShare_top xs
  rw [h] at htop
  exact htop.eq_zero

/-! ### With weight -/

section Positive

variable (hnonneg : ∀ x ∈ xs, 0 ≤ x.2) (hpos : 0 < total xs)

include hnonneg in
theorem weight_nonneg (c : K) : 0 ≤ weight xs c := by
  refine List.sum_nonneg fun w hw ↦ ?_
  obtain ⟨x, hx, rfl⟩ := List.mem_map.1 hw
  split_ifs
  · exact hnonneg x hx
  · exact le_rfl

include hnonneg in
theorem weight_le_total (c : K) : weight xs c ≤ total xs := by
  refine List.sum_le_sum fun x hx ↦ ?_
  split_ifs
  · exact le_rfl
  · exact hnonneg x hx

include hpos in
theorem getD_score (c : K) : (score xs c).getD 0 = weight xs c / total xs * 100 := by
  rw [score]
  by_cases hc : c ∈ categories xs
  · rw [if_neg (not_or.2 ⟨hpos.ne', not_not.2 hc⟩), Option.getD_some]
  · rw [if_pos (Or.inr hc), weight_of_notMem hc, zero_div, zero_mul, Option.getD_none]

include hpos in
theorem score_eq_some_iff {x : ℚ} :
    score xs c = some x ↔ c ∈ categories xs ∧ weight xs c / total xs * 100 = x := by
  rw [score]
  by_cases hc : c ∈ categories xs <;> simp [hpos.ne', hc]

include hpos in
theorem categories_nonempty : (categories xs).Nonempty := by
  rw [Finset.nonempty_iff_ne_empty]
  intro hempty
  have hsum := sum_weight xs
  rw [hempty, Finset.sum_empty] at hsum
  exact hpos.ne hsum

include hpos in
/-- The categories share 100. -/
theorem sum_percentages : ∑ c ∈ categories xs, weight xs c / total xs * 100 = 100 := by
  rw [← Finset.sum_mul, ← Finset.sum_div, sum_weight, div_self hpos.ne', one_mul]

include hnonneg hpos in
/-- **Some category has the highest percentage.** -/
theorem exists_score_eq_top : ∃ c, score xs c = some (top xs) := by
  obtain ⟨c, hc, hmax⟩ := Finset.exists_max_image (categories xs)
    (fun c ↦ weight xs c / total xs * 100) (categories_nonempty hpos)
  refine ⟨c, (score_eq_some_iff hpos).2 ⟨hc, le_antisymm ((isTopShare_top xs).share_le c) ?_⟩⟩
  refine (isTopShare_top xs _).2 ⟨?_, fun c' ↦ ?_⟩
  · have := weight_nonneg hnonneg c
    positivity
  · by_cases hc' : c' ∈ categories xs
    · exact hmax c' hc'
    · rw [weight_of_notMem hc', zero_div, zero_mul]
      have := weight_nonneg hnonneg c
      positivity

include hpos in
/-- **A lower bound of the highest percentage**, by the pigeonhole principle. -/
theorem div_card_le_top : 100 / ((categories xs).card : ℚ) ≤ top xs := by
  have hcard : 0 < ((categories xs).card : ℚ) :=
    Nat.cast_pos.2 (Finset.card_pos.2 (categories_nonempty hpos))
  rw [div_le_iff₀ hcard, mul_comm, ← nsmul_eq_mul, ← sum_percentages hpos]
  exact Finset.sum_le_card_nsmul _ _ _ fun c _ ↦ (isTopShare_top xs).share_le c

include hnonneg hpos in
theorem top_le : top xs ≤ 100 := by
  refine (isTopShare_top xs _).2 ⟨by norm_num, fun c ↦ ?_⟩
  have hle := div_le_one_of_le₀ (weight_le_total hnonneg c) hpos.le
  linarith

include hnonneg in
/-- A category has all weight exactly if no other category has any. -/
theorem weight_eq_total_iff : weight xs c = total xs ↔ ∀ x ∈ xs, 0 < x.2 → x.1 = c := by
  induction xs with
  | nil => simp [weight, total]
  | cons x xs ih =>
    obtain ⟨hx, hxs⟩ := List.forall_mem_cons.1 hnonneg
    have hle := weight_le_total hxs c
    rw [weight_cons, total_cons, List.forall_mem_cons, ← ih hxs]
    by_cases hc : x.1 = c
    · simp [hc]
    · simp only [hc, if_false, zero_add, imp_false, not_lt]
      constructor
      · exact fun h ↦ ⟨by linarith, by linarith⟩
      · rintro ⟨h, h'⟩
        linarith

include hnonneg hpos in
/-- **The highest percentage is 100 exactly if one category has all weight.** -/
theorem top_eq_iff : top xs = 100 ↔ ∃ c, ∀ x ∈ xs, 0 < x.2 → x.1 = c := by
  have hshare : ∀ c, weight xs c / total xs * 100 = 100 ↔ weight xs c = total xs := by
    intro c
    rw [mul_eq_right₀ (by norm_num), div_eq_one_iff_eq hpos.ne']
  constructor
  · intro htop
    obtain ⟨c, hc⟩ := exists_score_eq_top hnonneg hpos
    have hscore := ((score_eq_some_iff hpos).1 hc).2
    exact ⟨c, (weight_eq_total_iff hnonneg).1 ((hshare c).1 (hscore.trans htop))⟩
  · rintro ⟨c, hc⟩
    refine le_antisymm (top_le hnonneg hpos) ?_
    rw [← (hshare c).2 ((weight_eq_total_iff hnonneg).2 hc)]
    exact (isTopShare_top xs).share_le c

end Positive

/-! ### The scale of the weights -/

/-- The list with all weights multiplied. -/
def scale (k : ℚ) (xs : List (K × ℚ)) : List (K × ℚ) := xs.map fun x ↦ (x.1, k * x.2)

omit [DecidableEq K] in
theorem total_scale (k : ℚ) (xs : List (K × ℚ)) : total (scale k xs) = k * total xs := by
  rw [total, scale, List.map_map, total, ← List.sum_map_mul_left]
  rfl

theorem weight_scale (k : ℚ) (xs : List (K × ℚ)) (c : K) :
    weight (scale k xs) c = k * weight xs c := by
  rw [weight, scale, List.map_map, weight, ← List.sum_map_mul_left]
  refine congrArg List.sum (List.map_congr_left fun x _ ↦ ?_)
  simp only [Function.comp_apply, mul_ite, mul_zero]

theorem categories_scale (k : ℚ) (xs : List (K × ℚ)) : categories (scale k xs) = categories xs := by
  rw [categories, scale, List.map_map]
  rfl

theorem percentage_scale {k : ℚ} (hk : k ≠ 0) (xs : List (K × ℚ)) (c : K) :
    weight (scale k xs) c / total (scale k xs) * 100 = weight xs c / total xs * 100 := by
  rw [weight_scale, total_scale, mul_div_mul_left _ _ hk]

/-- **The percentages do not depend on the scale.** -/
theorem score_scale {k : ℚ} (hk : k ≠ 0) (xs : List (K × ℚ)) : score (scale k xs) = score xs := by
  funext c
  have hiff : total (scale k xs) = 0 ↔ total xs = 0 := by simp [total_scale, hk]
  rw [score, score, percentage_scale hk, categories_scale, if_congr (or_congr_left hiff) rfl rfl]

theorem top_scale {k : ℚ} (hk : k ≠ 0) (xs : List (K × ℚ)) : top (scale k xs) = top xs := by
  simp only [top, percentage_scale hk, categories_scale]

/-! ### The names of the categories -/

/-- The list with all categories renamed. -/
def rename {L : Type} (f : K → L) (xs : List (K × ℚ)) : List (L × ℚ) := xs.map fun x ↦ (f x.1, x.2)

section Rename

variable {L : Type} [DecidableEq L] {f : K → L} (hf : Function.Injective f)

omit [DecidableEq K] [DecidableEq L] in
theorem total_rename (f : K → L) (xs : List (K × ℚ)) : total (rename f xs) = total xs := by
  rw [total, rename, List.map_map]
  rfl

theorem categories_rename (f : K → L) (xs : List (K × ℚ)) :
    categories (rename f xs) = (categories xs).image f := by
  ext c
  simp [categories, rename]

include hf

theorem weight_rename (xs : List (K × ℚ)) (c : K) : weight (rename f xs) (f c) = weight xs c := by
  rw [weight, rename, List.map_map, weight]
  refine congrArg List.sum (List.map_congr_left fun x _ ↦ ?_)
  simp only [Function.comp_apply, hf.eq_iff]

theorem score_rename (xs : List (K × ℚ)) (c : K) : score (rename f xs) (f c) = score xs c := by
  simp only [score, total_rename, weight_rename hf, categories_rename, hf.mem_finset_image]

theorem top_rename (xs : List (K × ℚ)) : top (rename f xs) = top xs := by
  rw [top, categories_rename, Finset.fold_image fun c _ c' _ h ↦ hf h, top]
  simp only [weight_rename hf, total_rename, Function.comp_def]

end Rename

/-! ### One more element -/

section Cons

variable {w : ℚ} (hnonneg : ∀ x ∈ xs, 0 ≤ x.2) (hpos : 0 < total xs) (hw : 0 ≤ w)
include hnonneg hpos hw

/-- **Another element does not lower the percentage of its category.** -/
theorem score_le_score_cons (c : K) :
    (score xs c).getD 0 ≤ (score ((c, w) :: xs) c).getD 0 := by
  have htotal : total ((c, w) :: xs) = w + total xs := total_cons _ _
  have hle := weight_le_total hnonneg c
  rw [getD_score hpos, getD_score (by linarith), htotal, weight_cons, if_pos rfl,
    mul_le_mul_iff_left₀ (by norm_num), div_le_div_iff₀ hpos (by linarith)]
  nlinarith

/-- **Another element does not raise the percentage of another category.** -/
theorem score_cons_le {c' : K} (hne : c' ≠ c) :
    (score ((c, w) :: xs) c').getD 0 ≤ (score xs c').getD 0 := by
  have htotal : total ((c, w) :: xs) = w + total xs := total_cons _ _
  have hweight := weight_nonneg hnonneg c'
  rw [getD_score hpos, getD_score (by linarith), htotal, weight_cons, if_neg hne.symm, zero_add]
  gcongr
  linarith

end Cons

end Shares
