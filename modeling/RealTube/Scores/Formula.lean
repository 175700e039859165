import RealTube.Scores.Monotone
import RealTube.Store.Percentages
import RealTube.Model.Handlers

/-!
# Four computations of the scores

The scores of a video are computed from its votes in four places: `RecalculateVideoScore` and
`recalculate_video_score` store them, `ComputeCategoryScores` returns them, all from sums that the
database groups by category; `compute_scores_from_votes` folds a list of votes into a dictionary.
`DB.HasVotes` says that a list has the votes of a video, in any order.

Each computes the percentages of the list (`Store.Percentages`). So with weight all four agree, in
any order of the votes (`scores_eq_of_perm`), and what is true of percentages is true of the scores
(`scores_bounds`). Without weight the two that return find no category at all, while the two that
store reset the rows of all categories to 0.
-/

open Tx

namespace RealTube

/-! ### The votes on a video as a list -/

/-- The votes on a video: their categories and weights. -/
def DB.castVotes (db : DB) (v : VideoID) : Multiset (Category × ℚ) :=
  db.votes.sum fun k row ↦ if k.1 = v then {(row.category, row.trustWeight)} else 0

/-- A list has the votes on a video, and these have the rows that a vote creates. -/
structure DB.HasVotes (db : DB) (v : VideoID) (votes : List (Category × ℚ)) : Prop where
  castVotes_eq : db.castVotes v = votes
  video : votes ≠ [] → db.videos.lookup v ≠ none
  videoCategory : ∀ vote ∈ votes, db.videoCategories.lookup (v, vote.1) ≠ none

section Aggregates

variable (db : DB) (v : VideoID) (c : Category)

/-- **An aggregate of the votes on a video** is a sum over the rows of `votes`. -/
theorem hom_castVotes {M : Type} [AddCommMonoid M] (φ : Multiset (Category × ℚ) →+ M) :
    φ (db.castVotes v) =
      db.votes.sum fun k row ↦ if k.1 = v then φ {(row.category, row.trustWeight)} else 0 := by
  rw [DB.castVotes, Table.apply_sum]
  refine Table.sum_congr fun k row _ ↦ ?_
  split_ifs
  · rfl
  · exact φ.map_zero

theorem weightOn_eq_castVotes : db.weightOn v = ((db.castVotes v).map Prod.snd).sum := by
  refine Eq.trans ?_ (hom_castVotes db v
    (Multiset.sumAddMonoidHom.comp (Multiset.mapAddMonoidHom Prod.snd))).symm
  simp [DB.weightOn]

theorem weightIn_eq_castVotes :
    db.weightIn v c = ((db.castVotes v).map fun x ↦ if x.1 = c then x.2 else 0).sum := by
  refine Eq.trans ?_ (hom_castVotes db v (Multiset.sumAddMonoidHom.comp
    (Multiset.mapAddMonoidHom fun x : Category × ℚ ↦ if x.1 = c then x.2 else 0))).symm
  simp [DB.weightIn, ite_and]

theorem votesIn_eq_castVotes : db.votesIn v c = (db.castVotes v).countP fun x ↦ x.1 = c := by
  refine Eq.trans ?_ (hom_castVotes db v
    (Multiset.countPAddMonoidHom fun x : Category × ℚ ↦ x.1 = c)).symm
  refine Table.sum_congr fun k row _ ↦ ?_
  by_cases hk : k.1 = v <;> by_cases hc : row.category = c <;>
    simp [hk, hc, ← Multiset.cons_zero]

end Aggregates

section HasVotes

variable {db : DB} {v : VideoID} {votes : List (Category × ℚ)} (h : db.HasVotes v votes)
include h

theorem DB.HasVotes.weightOn_eq : db.weightOn v = Shares.total votes := by
  rw [weightOn_eq_castVotes, h.castVotes_eq]
  rfl

theorem DB.HasVotes.weightIn_eq (c : Category) : db.weightIn v c = Shares.weight votes c := by
  rw [weightIn_eq_castVotes, h.castVotes_eq]
  rfl

theorem DB.HasVotes.votesIn_pos_iff (c : Category) :
    0 < db.votesIn v c ↔ c ∈ Shares.categories votes := by
  rw [votesIn_eq_castVotes, h.castVotes_eq, Multiset.countP_pos]
  simp [Shares.categories]

/-- The score a video should have is the highest percentage of its votes. -/
theorem DB.HasVotes.videoScore_eq : db.videoScore v = Shares.top votes := by
  have hshare := isTopShare_videoScore db v
  rw [h.weightOn_eq, funext h.weightIn_eq] at hshare
  exact hshare.unique (Shares.isTopShare_top votes)

end HasVotes

/-- **Every list is that of the votes on some video.** -/
theorem exists_hasVotes (v : VideoID) (votes : List (Category × ℚ)) :
    ∃ db : DB, db.HasVotes v votes := by
  induction votes with
  | nil => exact ⟨⟨∅, ∅, ∅, ∅, ∅⟩, rfl, fun h ↦ absurd rfl h, fun _ h ↦ absurd h List.not_mem_nil⟩
  | cons vote votes ih =>
    obtain ⟨db, h⟩ := ih
    -- a user who has not voted
    obtain ⟨u, hu⟩ := Infinite.exists_notMem_finset (db.votes.keys.image Prod.snd)
    have hnone : db.votes.lookup (v, u) = none := Table.lookup_eq_none_of_notMem_keys fun hk ↦
      hu (Finset.mem_image_of_mem Prod.snd hk)
    refine ⟨{ db with
      votes := db.votes.insert (v, u) ⟨vote.1, vote.2, 0, "", none⟩
      videos := db.videos.insert v (.new 0)
      videoCategories := db.videoCategories.insert (v, vote.1) ⟨1, 0⟩ }, ?_, ?_, ?_⟩
    · rw [DB.castVotes, Table.sum_insert, if_pos rfl, Table.erase_eq_self hnone, ← DB.castVotes,
        h.castVotes_eq]
      rfl
    · rw [Table.lookup_insert_self]
      exact fun _ ↦ Option.some_ne_none _
    · intro vote' hvote'
      rw [Table.lookup_insert]
      split_ifs with heq
      · exact Option.some_ne_none _
      · refine h.videoCategory vote' ((List.mem_cons.1 hvote').resolve_left fun hv ↦ heq ?_)
        rw [hv]

/-! ### The computations -/

/-- The scores of a video: those of its categories, and the overall score. -/
@[ext]
structure VoteScores where
  categories : Category → Option ℚ
  overall : ℚ

/-- What `compute_scores_from_votes` returns. -/
def Python.voteScores (votes : List (Category × ℚ)) : VoteScores where
  categories c :=
    (computeScoresFromVotes (Shares.rename Category.name votes)).1.bind fun scores ↦ scores c.name
  overall := (computeScoresFromVotes (Shares.rename Category.name votes)).2

/-- What `ComputeCategoryScores` returns. -/
def Go.voteScores (groupOrder : RowOrder) (v : VideoID) (db : DB) : VoteScores where
  categories c :=
    let categories := ((computeCategoryScores groupOrder v).run db).1.1
    (categories.find? fun cs ↦ cs.category = c).map CategoryScore.weightedScore
  overall := ((computeCategoryScores groupOrder v).run db).1.2

/-- What a recalculation stores for the categories that have votes, and as the overall score. -/
def DB.storedScores (db : DB) (b : Backend) (q : RecalculateRequest) : VoteScores where
  categories c :=
    if 0 < db.votesIn q.videoID c then
      (((recalculateVideoScore b q).run db).2.videoCategories.lookup (q.videoID, c)).map
        VideoCategory.weightedScore
    else none
  overall := db.recalculatedScore b q

/-- **The scores that are returned** for a list of votes. -/
inductive Returned (votes : List (Category × ℚ)) : VoteScores → Prop
  | computeScoresFromVotes : Returned votes (Python.voteScores votes)
  | computeCategoryScores {groupOrder : RowOrder} {v : VideoID} {db : DB}
      (h : db.HasVotes v votes) : Returned votes (Go.voteScores groupOrder v db)

/-- **The scores that are stored** for a list of votes. -/
inductive Stored (votes : List (Category × ℚ)) : VoteScores → Prop
  | recalculateVideoScore {b : Backend} {q : RecalculateRequest} {db : DB}
      (h : db.HasVotes q.videoID votes) : Stored votes (db.storedScores b q)

/-! ### All compute the percentages of the votes -/

/-- The percentages of the votes and the highest of them. -/
def percentages (votes : List (Category × ℚ)) : VoteScores := ⟨Shares.score votes, Shares.top votes⟩

/-- Every category that has votes is reset. -/
def resetVotes (votes : List (Category × ℚ)) : VoteScores :=
  ⟨fun c ↦ if c ∈ Shares.categories votes then some 0 else none, 0⟩

theorem mem_keys_categoryWeights {votes : List (String × ℚ)} {cat : String} :
    cat ∈ (Python.categoryWeights votes).keys ↔ cat ∈ Shares.categories votes := by
  suffices h : ∀ d : Table String ℚ,
      cat ∈ (votes.foldl Python.addWeight d).keys ↔ cat ∈ d.keys ∨ cat ∈ Shares.categories votes by
    rw [Python.categoryWeights, h ∅, Finmap.keys_empty]
    simp
  induction votes with
  | nil => simp [Shares.categories]
  | cons vote votes ih =>
    intro d
    rw [List.foldl_cons, ih, Shares.mem_categories_cons, Python.addWeight, Table.insert,
      Finmap.mem_keys, Finmap.mem_insert, Finmap.mem_keys]
    tauto

/-- **The dictionary has the categories that occur, with their weights.** -/
theorem lookup_categoryWeights_eq (votes : List (String × ℚ)) (cat : String) :
    (Python.categoryWeights votes).lookup cat =
      if cat ∈ Shares.categories votes then some (Shares.weight votes cat) else none := by
  have hweight := lookup_categoryWeights votes cat
  split_ifs with hcat
  · obtain ⟨w, hw⟩ := Finmap.mem_iff.1 (Finmap.mem_keys.1 (mem_keys_categoryWeights.2 hcat))
    have hlook : (Python.categoryWeights votes).lookup cat = some w := hw
    rw [hlook, Option.getD_some] at hweight
    rw [hlook, hweight]
    rfl
  · exact Table.lookup_eq_none_of_notMem_keys (mt mem_keys_categoryWeights.1 hcat)

theorem computeScoresFromVotes_eq (votes : List (String × ℚ)) :
    Python.computeScoresFromVotes votes =
      (if Shares.total votes = 0 then none else some (Shares.score votes), Shares.top votes) := by
  refine Prod.ext ?_ ((isTopShare_computeScores votes).unique (Shares.isTopShare_top votes))
  rw [Python.computeScoresFromVotes]
  change _ = if (votes.map Prod.snd).sum = 0 then none else _
  by_cases hnil : votes = []
  · simp [hnil]
  by_cases htotal : (votes.map Prod.snd).sum = 0
  · simp [htotal]
  simp only [hnil, htotal, if_false, Option.some.injEq]
  funext cat
  rw [lookup_categoryWeights_eq, Shares.score]
  by_cases hcat : cat ∈ Shares.categories votes
  · simp only [hcat, if_true, not_true, or_false, if_neg (show Shares.total votes ≠ 0 from htotal)]
    rfl
  · simp [hcat]

theorem Category.name_injective : Function.Injective name := by
  intro c c'
  cases c <;> cases c' <;> decide

theorem Python.voteScores_eq (votes : List (Category × ℚ)) :
    voteScores votes = percentages votes := by
  rw [voteScores, computeScoresFromVotes_eq, Shares.total_rename,
    Shares.top_rename Category.name_injective, percentages]
  congr 1
  funext c
  split_ifs with h
  · rw [Shares.score_of_total_eq_zero h]
    rfl
  · exact Shares.score_rename Category.name_injective votes c

theorem Go.run_computeCategoryScores (groupOrder : RowOrder) (v : VideoID) (db : DB) :
    (computeCategoryScores groupOrder v).run db =
      (if db.weightOn v = 0 then ([], 0)
        else scanGroups (db.weightOn v) (selectGroups groupOrder v db), db) := by
  rw [computeCategoryScores, query_bind, run_stmt_after, after_query, selectTotalWeight]
  split_ifs <;> rfl

theorem find?_scanGroups (groupOrder : RowOrder) (v : VideoID) (db : DB) (W : ℚ) (c : Category) :
    ((Go.scanGroups W (selectGroups groupOrder v db)).1.find? fun cs ↦ cs.category = c).map
        CategoryScore.weightedScore =
      if 0 < db.votesIn v c then some (db.weightIn v c / W * 100) else none := by
  set groups := selectGroups groupOrder v db with hgroups
  rw [Go.scanGroups_eq, List.find?_map, Option.map_map]
  rcases hfind : groups.find? ((fun cs : CategoryScore ↦ decide (cs.category = c)) ∘
      Go.categoryScore W) with - | group
  · rw [if_neg fun hpos ↦ ?_, Option.map_none]
    have hmem : (c, db.weightIn v c) ∈ groups := mem_selectGroups.2 ⟨hpos, rfl⟩
    exact List.find?_eq_none.1 hfind _ hmem (decide_eq_true rfl)
  · have hc : group.1 = c := of_decide_eq_true (p := group.1 = c) (List.find?_some hfind :)
    obtain ⟨hpos, hw⟩ := mem_selectGroups.1 (List.mem_of_find?_eq_some hfind)
    rw [hc] at hpos hw
    rw [if_pos hpos, Option.map_some, ← hw]
    rfl

section Groups

variable {db : DB} {v : VideoID} {votes : List (Category × ℚ)}

/-- The percentages of the votes, from the aggregates of the queries. -/
theorem DB.HasVotes.score_eq (h : db.HasVotes v votes) (hW : db.weightOn v ≠ 0) (c : Category) :
    Shares.score votes c = if 0 < db.votesIn v c then some (db.categoryScore v c) else none := by
  rw [Shares.score, DB.categoryScore, h.weightIn_eq, ← h.weightOn_eq]
  by_cases hc : 0 < db.votesIn v c
  · rw [if_pos hc, if_neg (not_or.2 ⟨hW, not_not.2 ((h.votesIn_pos_iff c).1 hc)⟩)]
  · rw [if_neg hc, if_pos (Or.inr (mt (h.votesIn_pos_iff c).2 hc))]

theorem Go.voteScores_eq (h : db.HasVotes v votes) (groupOrder : RowOrder) :
    voteScores groupOrder v db = percentages votes := by
  rw [voteScores, run_computeCategoryScores, percentages]
  by_cases hW : db.weightOn v = 0
  · have htotal : Shares.total votes = 0 := h.weightOn_eq ▸ hW
    rw [if_pos hW, Shares.score_of_total_eq_zero htotal, Shares.top_of_total_eq_zero htotal]
    rfl
  · simp only [if_neg hW]
    refine congrArg₂ VoteScores.mk (funext fun c ↦ ?_) ?_
    · rw [find?_scanGroups, h.score_eq hW]
      rfl
    · rw [scanGroups_eq, topScore_selectGroups, h.videoScore_eq]

/-- **A recalculation stores the percentages**, and without weight resets the rows. -/
theorem DB.HasVotes.storedScores_eq {q : RecalculateRequest} (h : db.HasVotes q.videoID votes)
    (b : Backend) : db.storedScores b q =
      if Shares.total votes = 0 then resetVotes votes else percentages votes := by
  have hoverall : db.recalculatedScore b q = Shares.top votes := by
    rw [recalculatedScore_eq b, h.videoScore_eq]
    refine fun hW ↦ h.video ?_
    rintro rfl
    exact hW h.weightOn_eq
  have hstored : ∀ c, 0 < db.votesIn q.videoID c →
      (((recalculateVideoScore b q).run db).2.videoCategories.lookup (q.videoID, c)).map
        VideoCategory.weightedScore = some (db.categoryScore q.videoID c) := by
    intro c hc
    obtain ⟨w, hw⟩ := Shares.mem_categories.1 ((h.votesIn_pos_iff c).1 hc)
    obtain ⟨row, hrow⟩ := Option.ne_none_iff_exists'.1 (h.videoCategory _ hw)
    rw [run_recalculateVideoScore, lookup_recalculate, hrow, Option.map_some, Option.map_some,
      if_pos (Or.inr hc)]
  rw [storedScores, hoverall, percentages, resetVotes]
  split_ifs with htotal
  · refine congrArg₂ VoteScores.mk (funext fun c ↦ ?_) (Shares.top_of_total_eq_zero htotal)
    have hW : db.weightOn q.videoID = 0 := h.weightOn_eq.trans htotal
    by_cases hc : 0 < db.votesIn q.videoID c
    · rw [if_pos hc, hstored c hc, if_pos ((h.votesIn_pos_iff c).1 hc),
        db.categoryScore_of_weightOn_eq_zero _ c hW]
    · rw [if_neg hc, if_neg (mt (h.votesIn_pos_iff c).2 hc)]
  · refine congrArg₂ VoteScores.mk (funext fun c ↦ ?_) rfl
    rw [h.score_eq (h.weightOn_eq ▸ htotal)]
    by_cases hc : 0 < db.votesIn q.videoID c
    · rw [if_pos hc, if_pos hc, hstored c hc]
    · rw [if_neg hc, if_neg hc]

end Groups

theorem Returned.eq_percentages {votes : List (Category × ℚ)} {s : VoteScores}
    (h : Returned votes s) : s = percentages votes := by
  cases h with
  | computeScoresFromVotes => exact Python.voteScores_eq votes
  | computeCategoryScores h => exact Go.voteScores_eq h _

theorem Stored.eq_percentages {votes : List (Category × ℚ)} {s : VoteScores}
    (h : Stored votes s) (htotal : Shares.total votes ≠ 0) : s = percentages votes := by
  cases h with
  | recalculateVideoScore h => rw [h.storedScores_eq, if_neg htotal]

theorem percentages_perm {votes votes' : List (Category × ℚ)} (hperm : votes.Perm votes') :
    percentages votes = percentages votes' := by
  rw [percentages, Shares.score_perm hperm, Shares.top_perm hperm, percentages]

/-- **The four computations agree, in any order of the votes**: if the votes have weight, all find
the same scores. Otherwise the overall score is 0; those that return find no category, and those
that store reset each category that has votes. Every list is that of the votes on some video. -/
theorem scores_eq_of_perm (votes votes' : List (Category × ℚ)) (hperm : votes.Perm votes') :
    (∀ v, ∃ db : DB, db.HasVotes v votes) ∧
    (Shares.total votes ≠ 0 → ∀ s s', Returned votes s ∨ Stored votes s →
      Returned votes' s' ∨ Stored votes' s' → s = s') ∧
    (Shares.total votes = 0 → ∀ s,
      (Returned votes' s → s = ⟨fun _ ↦ none, 0⟩) ∧
      (Stored votes' s →
        s = ⟨fun c ↦ if c ∈ Shares.categories votes then some 0 else none, 0⟩)) := by
  have htotal := Shares.total_perm hperm
  refine ⟨fun v ↦ exists_hasVotes v votes, fun hne s s' hs hs' ↦ ?_, fun hzero s ↦ ⟨?_, ?_⟩⟩
  · have hs₀ : s = percentages votes :=
      hs.elim Returned.eq_percentages fun h ↦ h.eq_percentages hne
    have hs₁ : s' = percentages votes' :=
      hs'.elim Returned.eq_percentages fun h ↦ h.eq_percentages (htotal ▸ hne)
    rw [hs₀, hs₁, percentages_perm hperm]
  · intro h
    rw [h.eq_percentages, ← percentages_perm hperm, percentages,
      Shares.score_of_total_eq_zero hzero, Shares.top_of_total_eq_zero hzero]
  · rintro ⟨h⟩
    rw [h.storedScores_eq, if_pos (htotal ▸ hzero), resetVotes, Shares.categories_perm hperm]

/-- Two users vote for different categories. -/
def splitVotes : DB :=
  let vote (userID : UserID) (category : Category) : VoteEvent := .request (.submit .go
    { videoID := "v", userID, category, ipHash := "", userAgent := none, now := 0 })
  (DB.start ∅ ∅).runVotes [vote "a" .fullyAI, vote "b" .aiVisuals]

/-- What is stored for two votes is what is returned for them in the other order. -/
theorem scores_eq_splitVotes :
    Python.voteScores [(.aiVisuals, 3 / 10), (.fullyAI, 3 / 10)] =
      splitVotes.storedScores .go recalculateNow :=
  (scores_eq_of_perm _ [(.fullyAI, 3 / 10), (.aiVisuals, 3 / 10)] (.swap _ _ [])).2.1
    (by decide +kernel) _ _ (.inl .computeScoresFromVotes)
    (.inr (.recalculateVideoScore ⟨by decide +kernel, by decide +kernel, by decide +kernel⟩))

/-- The vote of a user without trust. -/
def weightlessVote : DB :=
  (DB.start (Table.insert ∅ "a" { User.new 0 with trustScore := 0 }) ∅).runVotes
    [.request (.submit .go
      { videoID := "v", userID := "a", category := .fullyAI, ipHash := "", userAgent := none,
        now := 0 })]

/-- **Without weight a score is stored that is not returned**: that of the category of the vote. -/
theorem not_scores_eq_weightlessVote :
    ¬ ∀ votes : List (Category × ℚ), (∀ vote ∈ votes, 0 ≤ vote.2) →
      ∀ s s', Returned votes s → Stored votes s' → s = s' := by
  intro h
  have heq := h [(.fullyAI, 0)] (by decide +kernel) _
    (weightlessVote.storedScores .go recalculateNow) .computeScoresFromVotes
    (.recalculateVideoScore ⟨by decide +kernel, by decide +kernel, by decide +kernel⟩)
  have hcategory := congrArg (fun s ↦ s.categories .fullyAI) heq
  revert hcategory
  decide +kernel

/-- **The scores of votes with weight.** The overall score is the maximum of the category scores,
at least 100 divided by the number of categories and at most 100, and it is 100 exactly if all
positive weight is in one category. No score depends on the scale of the weights. One more vote does
not lower the score of its category and does not raise the score of another. -/
theorem scores_bounds (votes : List (Category × ℚ)) (hnonneg : ∀ vote ∈ votes, 0 ≤ vote.2)
    (hpos : 0 < Shares.total votes) (s : VoteScores) (hs : Returned votes s ∨ Stored votes s) :
    ((∃ c, s.categories c = some s.overall) ∧ ∀ c x, s.categories c = some x → x ≤ s.overall) ∧
    100 / ((Shares.categories votes).card : ℚ) ≤ s.overall ∧ s.overall ≤ 100 ∧
    (s.overall = 100 ↔ ∃ c, ∀ vote ∈ votes, 0 < vote.2 → vote.1 = c) ∧
    (∀ k s', 0 < k → Returned (Shares.scale k votes) s' ∨ Stored (Shares.scale k votes) s' →
      s' = s) ∧
    ∀ c w votes' s', 0 ≤ w → votes'.Perm ((c, w) :: votes) →
      Returned votes' s' ∨ Stored votes' s' →
      (s.categories c).getD 0 ≤ (s'.categories c).getD 0 ∧
      ∀ c', c' ≠ c → (s'.categories c').getD 0 ≤ (s.categories c').getD 0 := by
  have hall : ∀ {votes s}, 0 < Shares.total votes → Returned votes s ∨ Stored votes s →
      s = percentages votes := fun hpos hs ↦
    hs.elim Returned.eq_percentages fun h ↦ h.eq_percentages hpos.ne'
  obtain rfl := hall hpos hs
  refine ⟨⟨Shares.exists_score_eq_top hnonneg hpos, fun c x hx ↦ ?_⟩, Shares.div_card_le_top hpos,
    Shares.top_le hnonneg hpos, Shares.top_eq_iff hnonneg hpos, fun k s' hk hs' ↦ ?_, ?_⟩
  · obtain ⟨-, rfl⟩ := (Shares.score_eq_some_iff hpos).1 hx
    exact (Shares.isTopShare_top votes).share_le c
  · have hscale : 0 < Shares.total (Shares.scale k votes) := by
      rw [Shares.total_scale]
      positivity
    rw [hall hscale hs', percentages, Shares.score_scale hk.ne', Shares.top_scale hk.ne',
      percentages]
  · intro c w votes' s' hw hperm hs'
    have htotal : 0 < Shares.total votes' := by
      rw [Shares.total_perm hperm, Shares.total_cons]
      exact add_pos_of_nonneg_of_pos hw hpos
    rw [hall htotal hs', percentages_perm hperm]
    exact ⟨Shares.score_le_score_cons hnonneg hpos hw c,
      fun c' hc' ↦ Shares.score_cons_le hnonneg hpos hw hc'⟩

/-- Two votes of equal weight have an overall score of at least 50. -/
theorem scores_bounds_splitVotes : 100 / 2 ≤ (splitVotes.storedScores .go recalculateNow).overall :=
  (scores_bounds [(.fullyAI, 3 / 10), (.aiVisuals, 3 / 10)] (by decide +kernel)
    (by decide +kernel) _ (.inr (.recalculateVideoScore
      ⟨by decide +kernel, by decide +kernel, by decide +kernel⟩))).2.1

end RealTube
