import RealTube.Scores.Recalculation
import RealTube.Store.Shares

/-!
# One more vote

There are only votes that flag a video, and none that clears it, so more votes might be expected to
mean a higher score. But the score is the highest *share* of a category (`Store.Shares`), and a vote
adds to the total of which all categories have their shares. It lowers the score of a video if its
own category does not catch up with the leading one (`score_mono_iff`).

The same holds of the function of a list of votes that Python has beside the queries: both compute
the highest share of the same weights (`isTopShare_videoScore`, `isTopShare_computeScores`).
-/

open Tx

namespace RealTube

/-! ### The score is the highest share -/

theorem isTopShare_videoScore (db : DB) (v : VideoID) :
    Shares.IsTopShare (db.weightIn v) (db.weightOn v) (db.videoScore v) := fun x ↦ by
  constructor
  · exact fun hx ↦
      ⟨(db.videoScore_nonneg v).trans hx, fun c ↦ (db.categoryScore_le_videoScore v c).trans hx⟩
  · rintro ⟨-, hshares⟩
    exact Finset.sup'_le _ _ fun c _ ↦ hshares c

/-- The score a recalculation stores; 0 when there is no row. -/
def DB.recalculatedScore (db : DB) (b : Backend) (q : RecalculateRequest) : ℚ :=
  (((recalculateVideoScore b q).run db).2.videos.lookup q.videoID).elim 0 Video.score

theorem recalculatedScore_eq {db : DB} {q : RecalculateRequest} (b : Backend)
    (h : db.weightOn q.videoID ≠ 0 → db.videos.lookup q.videoID ≠ none) :
    db.recalculatedScore b q = db.videoScore q.videoID := by
  rw [DB.recalculatedScore, run_recalculateVideoScore, DB.recalculate, Table.lookup_modify,
    if_pos rfl]
  rcases hrow : db.videos.lookup q.videoID with - | row
  · have hW : db.weightOn q.videoID = 0 := by
      by_contra hne
      exact h hne hrow
    exact (db.videoScore_of_weightOn_eq_zero _ hW).symm
  · rfl

/-! ### The weights after a first vote of a user -/

section Submit

variable {db : DB} {q : VoteRequest} (hnew : db.votedCategory q.videoID q.userID = none)
include hnew

/-- A sum over the votes gains what the new vote adds to it. -/
theorem sum_votes_submit (f : VideoID × UserID → Vote → ℚ) :
    (db.submit q).votes.sum f =
      db.votes.sum f + f (q.videoID, q.userID) (q.row (db.trustScore q.userID) none) := by
  have hnone : db.votes.lookup (q.videoID, q.userID) = none := Option.map_eq_none_iff.1 hnew
  rw [DB.submit, hnone, Table.sum_insert, Table.erase_eq_self hnone, add_comm]

theorem weightOn_submit :
    (db.submit q).weightOn q.videoID = db.weightOn q.videoID + db.trustScore q.userID := by
  rw [DB.weightOn, sum_votes_submit hnew, if_pos rfl]
  rfl

theorem weightIn_submit : (db.submit q).weightIn q.videoID =
    Shares.gain (db.weightIn q.videoID) q.category (db.trustScore q.userID) := funext fun c ↦ by
  rw [DB.weightIn, sum_votes_submit hnew, Shares.gain, DB.weightIn]
  simp only [VoteRequest.row, true_and, eq_comm (a := q.category)]

end Submit

/-- A category has at most the weight on its video. -/
theorem weightIn_le_weightOn {db : DB} {v : VideoID}
    (h : ∀ u row, db.votes.lookup (v, u) = some row → 0 ≤ row.trustWeight) (c : Category) :
    0 ≤ db.weightIn v c ∧ db.weightIn v c ≤ db.weightOn v := by
  have hrow : ∀ k row, db.votes.lookup k = some row → k.1 = v → 0 ≤ row.trustWeight := by
    rintro ⟨v', u⟩ row hlook rfl
    exact h u row hlook
  constructor
  · refine Table.sum_nonneg fun k row hlook ↦ ?_
    split_ifs with hk
    · exact hrow k row hlook hk.1
    · exact le_rfl
  · refine Table.sum_le_sum fun k row hlook ↦ ?_
    split_ifs with hk hv hv
    · exact le_rfl
    · exact absurd hk.1 hv
    · exact hrow k row hlook hv
    · exact le_rfl

/-! ### The function of a list of votes -/

section List

/-- The weight of the votes of a list in one category. -/
def listWeight (votes : List (String × ℚ)) (cat : String) : ℚ :=
  (votes.map fun vote ↦ if vote.1 = cat then vote.2 else 0).sum

theorem listWeight_cons (vote : String × ℚ) (votes : List (String × ℚ)) (cat : String) :
    listWeight (vote :: votes) cat = (if vote.1 = cat then vote.2 else 0) + listWeight votes cat :=
  List.sum_cons

theorem lookup_categoryWeights (votes : List (String × ℚ)) (cat : String) :
    ((Python.categoryWeights votes).lookup cat).getD 0 = listWeight votes cat := by
  suffices h : ∀ d : Table String ℚ, ((votes.foldl Python.addWeight d).lookup cat).getD 0 =
      (d.lookup cat).getD 0 + listWeight votes cat by
    rw [Python.categoryWeights, h ∅, Table.lookup_empty, Option.getD_none, zero_add]
  induction votes with
  | nil => exact fun d ↦ (add_zero _).symm
  | cons vote votes ih =>
    intro d
    rw [List.foldl_cons, ih, Python.addWeight, Table.lookup_insert, listWeight_cons, ← add_assoc]
    by_cases hcat : cat = vote.1
    · rw [if_pos hcat, if_pos hcat.symm, Option.getD_some, hcat]
    · rw [if_neg hcat, if_neg fun h ↦ hcat h.symm, add_zero]

/-- A category that no vote is for is not in the dictionary, and has no weight. -/
theorem listWeight_of_notMem_keys {votes : List (String × ℚ)} {cat : String}
    (h : cat ∉ (Python.categoryWeights votes).keys) : listWeight votes cat = 0 := by
  rw [← lookup_categoryWeights, Table.lookup_eq_none_of_notMem_keys h, Option.getD_none]

theorem isTopShare_computeScores (votes : List (String × ℚ)) :
    Shares.IsTopShare (listWeight votes) (votes.map Prod.snd).sum
      (Python.computeScoresFromVotes votes).2 := fun x ↦ by
  rw [Python.computeScoresFromVotes]
  by_cases hnil : votes = []
  · simp [hnil]
  by_cases htotal : (votes.map Prod.snd).sum = 0
  · simp [htotal]
  simp only [hnil, htotal, if_false, lookup_categoryWeights, Finset.fold_max_le]
  refine and_congr_right fun hx ↦ ⟨fun h cat ↦ ?_, fun h cat _ ↦ h cat⟩
  by_cases hcat : cat ∈ (Python.categoryWeights votes).keys
  · exact h cat hcat
  · rwa [listWeight_of_notMem_keys hcat, zero_div, zero_mul]

theorem listWeight_append (votes : List (String × ℚ)) (cat : String) (w : ℚ) :
    listWeight (votes ++ [(cat, w)]) = Shares.gain (listWeight votes) cat w := funext fun cat' ↦ by
  rw [listWeight, List.map_append, List.sum_append, Shares.gain, listWeight]
  simp only [List.map_cons, List.map_nil, List.sum_singleton, eq_comm (a := cat)]

theorem listWeight_nonneg_le {votes : List (String × ℚ)} (h : ∀ vote ∈ votes, 0 ≤ vote.2)
    (cat : String) :
    0 ≤ listWeight votes cat ∧ listWeight votes cat ≤ (votes.map Prod.snd).sum := by
  constructor
  · refine List.sum_nonneg fun x hx ↦ ?_
    obtain ⟨vote, hvote, rfl⟩ := List.mem_map.1 hx
    split_ifs
    · exact h vote hvote
    · exact le_rfl
  · refine List.sum_le_sum fun vote hvote ↦ ?_
    split_ifs
    · exact le_rfl
    · exact h vote hvote

end List

/-! ### When a vote lowers the score -/

end RealTube
