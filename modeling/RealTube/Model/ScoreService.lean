import RealTube.Model.Schema
import Mathlib.Data.List.Perm.Basic

/-!
# Score recalculation

`RecalculateVideoScore` of `service/score_svc.go` and `recalculate_video_score` of
`services/score_service.py`, statement by statement. Two statements return or change several rows,
in an order PostgreSQL does not promise; a `RowOrder` is one such order, and is an argument.

* `SELECT … GROUP BY category` returns the categories that have a vote, in the group order.
* `UPDATE video_categories … WHERE video_id = $1` changes the rows it finds one after the other, in
  the scan order, waiting for each row lock in turn: it is the query that finds them followed by one
  statement per row.

Go reads all groups before it updates the first row and Python updates each row as it goes; the
statements they send are the same (`recalculate_python_eq_go`). Python has the algorithm a second
time, as a function of a list of votes (`Python.computeScoresFromVotes`).
-/

open Tx

namespace RealTube

/-- An order in which the rows of a video's categories may come. -/
structure RowOrder where
  categories : List Category
  perm : categories.Perm Category.all

/-- The arguments of a recalculation: the video, the transaction's `NOW()`, and the orders of the
rows. -/
structure RecalculateRequest where
  videoID : VideoID
  now : Time
  groupOrder : RowOrder
  scanOrder : RowOrder

/-- `CategoryScore`. -/
structure CategoryScore where
  category : Category
  weightSum : ℚ
  weightedScore : ℚ

/-! ### Statements -/

/-- `SELECT COALESCE(SUM(trust_weight), 0) FROM votes`. -/
def selectTotalWeight (v : VideoID) (db : DB) : ℚ := db.weightOn v

/-- `SELECT category, COALESCE(SUM(trust_weight), 0) … GROUP BY category`. -/
def selectGroups (order : RowOrder) (v : VideoID) (db : DB) : List (Category × ℚ) :=
  (order.categories.filter fun c ↦ 0 < db.votesIn v c).map fun c ↦ (c, db.weightIn v c)

/-- The rows `UPDATE video_categories … WHERE video_id = $1` finds. -/
def selectCategories (order : RowOrder) (v : VideoID) (db : DB) : List Category :=
  order.categories.filter fun c ↦ (db.videoCategories.lookup (v, c)).isSome

/-- `UPDATE video_categories SET weighted_score`, on one row. -/
def setWeightedScore (v : VideoID) (weightedScore : ℚ) (c : Category) (db : DB) : List Write :=
  match db.videoCategories.lookup (v, c) with
  | none => []
  | some row => [.videoCategory v c { row with weightedScore }]

/-- `UPDATE videos SET score, last_updated = NOW()`. -/
def setScore (now : Time) (v : VideoID) (score : ℚ) (db : DB) : List Write :=
  match db.videos.lookup v with
  | none => []
  | some row => [.video v { row with score, lastUpdated := now }]

/-! ### Transactions -/

/-- The branch without weight: every score of the video becomes 0. -/
def resetScores (q : RecalculateRequest) : Tx DB Write Unit := do
  exec (setScore q.now q.videoID 0)
  let rows ← query (selectCategories q.scanOrder q.videoID)
  rows.forM fun c ↦ exec (setWeightedScore q.videoID 0 c)

namespace Go

/-- The weighted score of a category. -/
def categoryScore (totalWeight : ℚ) : Category × ℚ → CategoryScore
  | (category, weightSum) => ⟨category, weightSum, weightSum / totalWeight * 100⟩

/-- The loop over the groups. -/
def scanGroups (totalWeight : ℚ) (groups : List (Category × ℚ)) : List CategoryScore × ℚ :=
  groups.foldl
    (fun (categories, maxScore) group ↦
      let cs := categoryScore totalWeight group
      (categories ++ [cs], if cs.weightedScore > maxScore then cs.weightedScore else maxScore))
    ([], 0)

/-- `ScoreService.RecalculateVideoScore`. -/
def recalculateVideoScore (q : RecalculateRequest) : Tx DB Write Unit := do
  let totalWeight ← query (selectTotalWeight q.videoID)
  if totalWeight = 0 then
    resetScores q
  else
    let groups ← query (selectGroups q.groupOrder q.videoID)
    let (categories, maxScore) := scanGroups totalWeight groups
    categories.forM fun cs ↦ exec (setWeightedScore q.videoID cs.weightedScore cs.category)
    exec (setScore q.now q.videoID maxScore)

/-- `ScoreService.ComputeCategoryScores`, two queries that are in no transaction. -/
def computeCategoryScores (groupOrder : RowOrder) (v : VideoID) :
    Tx DB Write (List CategoryScore × ℚ) := do
  let totalWeight ← query (selectTotalWeight v)
  if totalWeight = 0 then
    return ([], 0)
  else
    let groups ← query (selectGroups groupOrder v)
    return scanGroups totalWeight groups

end Go

namespace Python

/-- The loop over the groups, which updates each row as it goes. -/
def updateGroups (v : VideoID) (totalWeight : ℚ) : List (Category × ℚ) → ℚ → Tx DB Write ℚ
  | [], maxScore => pure maxScore
  | (category, weightSum) :: rows, maxScore => do
    let weightedScore := weightSum / totalWeight * 100
    let maxScore := if weightedScore > maxScore then weightedScore else maxScore
    exec (setWeightedScore v weightedScore category)
    updateGroups v totalWeight rows maxScore

/-- `recalculate_video_score`. -/
def recalculateVideoScore (q : RecalculateRequest) : Tx DB Write Unit := do
  let totalWeight ← query (selectTotalWeight q.videoID)
  if totalWeight = 0 then
    resetScores q
  else
    let rows ← query (selectGroups q.groupOrder q.videoID)
    let maxScore ← updateGroups q.videoID totalWeight rows 0
    exec (setScore q.now q.videoID maxScore)

end Python

/-! ### The two backends send the same statements -/

/-- The highest weighted score of the groups, and at least `m`. -/
def topScore (totalWeight : ℚ) (groups : List (Category × ℚ)) (m : ℚ) : ℚ :=
  groups.foldl (fun m group ↦ max m (group.2 / totalWeight * 100)) m

/-- One update per group. -/
def updateCategories (v : VideoID) (totalWeight : ℚ) (groups : List (Category × ℚ)) :
    Tx DB Write Unit :=
  groups.forM fun group ↦ exec (setWeightedScore v (group.2 / totalWeight * 100) group.1)

/-- What a recalculation does once it has read the groups. -/
def updateScores (q : RecalculateRequest) (totalWeight : ℚ) (groups : List (Category × ℚ)) :
    Tx DB Write Unit := do
  updateCategories q.videoID totalWeight groups
  exec (setScore q.now q.videoID (topScore totalWeight groups 0))

@[simp] theorem updateCategories_nil (v : VideoID) (totalWeight : ℚ) :
    updateCategories v totalWeight [] = ret () := rfl

@[simp] theorem updateCategories_cons (v : VideoID) (totalWeight : ℚ) (group : Category × ℚ)
    (groups : List (Category × ℚ)) : updateCategories v totalWeight (group :: groups) =
      stmt (setWeightedScore v (group.2 / totalWeight * 100) group.1) fun _ ↦
        updateCategories v totalWeight groups := rfl

@[simp] theorem topScore_cons (totalWeight : ℚ) (group : Category × ℚ)
    (groups : List (Category × ℚ)) (m : ℚ) : topScore totalWeight (group :: groups) m =
      topScore totalWeight groups (max m (group.2 / totalWeight * 100)) := rfl

theorem Go.scanGroups_eq (totalWeight : ℚ) (groups : List (Category × ℚ)) :
    scanGroups totalWeight groups =
      (groups.map (categoryScore totalWeight), topScore totalWeight groups 0) := by
  suffices h : ∀ (categories : List CategoryScore) (m : ℚ),
      groups.foldl (fun (categories, maxScore) group ↦
        let cs := categoryScore totalWeight group
        (categories ++ [cs], if cs.weightedScore > maxScore then cs.weightedScore else maxScore))
        (categories, m) =
      (categories ++ groups.map (categoryScore totalWeight), topScore totalWeight groups m) by
    exact h [] 0
  induction groups with
  | nil => simp [topScore]
  | cons group groups ih =>
    intro categories m
    rw [List.foldl_cons, ih, topScore, topScore, List.foldl_cons, List.map_cons, max_def_lt,
      List.append_assoc]
    rfl

theorem Python.updateGroups_eq (v : VideoID) (totalWeight : ℚ) (groups : List (Category × ℚ))
    (m : ℚ) : updateGroups v totalWeight groups m = do
      updateCategories v totalWeight groups
      return topScore totalWeight groups m := by
  induction groups generalizing m with
  | nil => rfl
  | cons group groups ih =>
    simp only [updateGroups, ih, updateCategories_cons, exec_bind, stmt_bind, topScore_cons,
      max_def_lt, gt_iff_lt]

/-- A recalculation, statement by statement. -/
theorem Go.recalculateVideoScore_eq (q : RecalculateRequest) :
    recalculateVideoScore q = stmt (fun _ ↦ []) fun s ↦
      if s.weightOn q.videoID = 0 then resetScores q
      else stmt (fun _ ↦ []) fun s' ↦
        updateScores q (s.weightOn q.videoID) (selectGroups q.groupOrder q.videoID s') := by
  have hmap : ∀ (totalWeight : ℚ) (groups : List (Category × ℚ)),
      ((groups.map (categoryScore totalWeight)).forM fun cs ↦
        exec (setWeightedScore q.videoID cs.weightedScore cs.category)) =
        updateCategories q.videoID totalWeight groups := by
    intro totalWeight groups
    induction groups with
    | nil => rfl
    | cons group groups ih => exact congrArg _ (funext fun _ ↦ ih)
  simp only [recalculateVideoScore, query_bind, scanGroups_eq, selectTotalWeight, hmap]
  rfl

/-- **The two backends recalculate alike.** -/
theorem recalculate_python_eq_go (q : RecalculateRequest) :
    Python.recalculateVideoScore q = Go.recalculateVideoScore q := by
  rw [Go.recalculateVideoScore_eq]
  simp only [Python.recalculateVideoScore, query_bind, Python.updateGroups_eq, bind_assoc,
    pure_bind, selectTotalWeight]
  rfl

/-- A recalculation by either backend. -/
def recalculateVideoScore : Backend → RecalculateRequest → Tx DB Write Unit
  | .go => Go.recalculateVideoScore
  | .python => Python.recalculateVideoScore

theorem recalculateVideoScore_eq (b : Backend) (q : RecalculateRequest) :
    recalculateVideoScore b q = Go.recalculateVideoScore q := by
  cases b
  · rfl
  · exact recalculate_python_eq_go q

/-! ### The scores of a list of votes -/

namespace Python

/-- `category_weights[cat] = category_weights.get(cat, 0.0) + w`, for one vote. -/
def addWeight (categoryWeights : Table String ℚ) (vote : String × ℚ) : Table String ℚ :=
  categoryWeights.insert vote.1 ((categoryWeights.lookup vote.1).getD 0 + vote.2)

/-- The dictionary `category_weights`. -/
def categoryWeights (votes : List (String × ℚ)) : Table String ℚ := votes.foldl addWeight ∅

/-- `compute_scores_from_votes`: the scores of the categories, if there is any weight, and the
highest of them. -/
def computeScoresFromVotes (votes : List (String × ℚ)) : Option (String → Option ℚ) × ℚ :=
  let totalWeight := (votes.map Prod.snd).sum
  if votes = [] then (none, 0)
  else if totalWeight = 0 then (none, 0)
  else
    let score (w : ℚ) : ℚ := w / totalWeight * 100
    (some fun cat ↦ ((categoryWeights votes).lookup cat).map score,
      (categoryWeights votes).keys.fold max 0 fun cat ↦
        score (((categoryWeights votes).lookup cat).getD 0))

end Python

end RealTube
