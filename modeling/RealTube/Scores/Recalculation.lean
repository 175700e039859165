import RealTube.Model.ScoreService
import RealTube.Votes.Counters
import Mathlib.Algebra.BigOperators.Field
import Mathlib.Algebra.Order.BigOperators.Group.Finset

/-!
# Recalculations run one at a time

What the scores should be is stated over the votes alone: the share of each category in the weight
on the video (`DB.categoryScore`), and the highest share (`DB.videoScore`). The loop of a
recalculation finds the latter in any order of the groups (`topScore_selectGroups`), and the rows it
updates get the former (`DB.recalculate`, `lookup_recalculate`).

The rows it updates are those of the categories that have a vote, or all rows when there is no
weight. So a row whose category has lost its last vote, on a video that still has some, keeps the
score of the time when it had votes. `scoresRight_iff` says that this is the only way in which the
weighted scores of a video are wrong right after a recalculation.
-/

open Tx

namespace RealTube

/-! ### What the scores should be -/

namespace DB

variable (db : DB) (v : VideoID) (c : Category)

/-- The share of a category in the weight of the votes on a video, in percent; 0 without weight. -/
def categoryScore : ℚ := db.weightIn v c / db.weightOn v * 100

/-- The score of a video: that of its highest category. -/
def videoScore : ℚ := Finset.univ.sup' Finset.univ_nonempty (db.categoryScore v)

theorem categoryScore_of_weightOn_eq_zero (h : db.weightOn v = 0) : db.categoryScore v c = 0 := by
  rw [categoryScore, h, div_zero, zero_mul]

theorem videoScore_of_weightOn_eq_zero (h : db.weightOn v = 0) : db.videoScore v = 0 := by
  rw [videoScore, show db.categoryScore v = fun _ ↦ 0 from
    funext fun c ↦ db.categoryScore_of_weightOn_eq_zero v c h, Finset.sup'_const]

/-- A category without votes has no weight. -/
theorem weightIn_eq_zero (h : db.votesIn v c = 0) : db.weightIn v c = 0 :=
  Finset.sum_eq_zero fun k _ ↦ by
    cases hk : db.votes.lookup k with
    | none => rfl
    | some row => exact if_neg ((Table.count_eq_zero_iff _).1 h k row hk)

/-- **The categories partition the weight.** -/
theorem sum_weightIn : ∑ c, db.weightIn v c = db.weightOn v := by
  unfold weightIn weightOn
  rw [Table.sum_finset_sum]
  refine Table.sum_congr fun k row _ ↦ ?_
  by_cases hk : k.1 = v
  · simp [hk]
  · simp [hk]

/-- With any weight at all, the categories share 100. -/
theorem sum_categoryScore (h : db.weightOn v ≠ 0) : ∑ c, db.categoryScore v c = 100 := by
  unfold categoryScore
  rw [← Finset.sum_mul, ← Finset.sum_div, sum_weightIn, div_self h, one_mul]

theorem categoryScore_le_videoScore : db.categoryScore v c ≤ db.videoScore v :=
  Finset.le_sup' _ (Finset.mem_univ c)

/-- Some category has a share, so the score is not negative. -/
theorem videoScore_nonneg : 0 ≤ db.videoScore v := by
  by_cases h : db.weightOn v = 0
  · rw [← db.categoryScore_of_weightOn_eq_zero v .fullyAI h]
    exact db.categoryScore_le_videoScore v .fullyAI
  · by_contra hneg
    have hsum : ∑ c, db.categoryScore v c ≤ ∑ _c : Category, 0 :=
      Finset.sum_le_sum fun c _ ↦
        (db.categoryScore_le_videoScore v c).trans (not_le.1 hneg).le
    rw [db.sum_categoryScore v h, Finset.sum_const_zero] at hsum
    norm_num at hsum

end DB

theorem topScore_le_iff {W m x : ℚ} {groups : List (Category × ℚ)} :
    topScore W groups m ≤ x ↔ m ≤ x ∧ ∀ group ∈ groups, group.2 / W * 100 ≤ x := by
  induction groups generalizing m with
  | nil => simp [topScore]
  | cons group groups ih =>
    rw [topScore_cons, ih, max_le_iff, List.forall_mem_cons, and_assoc]

theorem mem_selectGroups {order : RowOrder} {v : VideoID} {db : DB} {group : Category × ℚ} :
    group ∈ selectGroups order v db ↔
      0 < db.votesIn v group.1 ∧ group.2 = db.weightIn v group.1 := by
  rw [selectGroups]
  rw [List.mem_map]
  constructor
  · rintro ⟨c, hc, rfl⟩
    exact ⟨of_decide_eq_true (List.mem_filter.1 hc).2, rfl⟩
  · rintro ⟨hpos, hw⟩
    exact ⟨group.1, List.mem_filter.2 ⟨order.perm.mem_iff.2 (Category.mem_all _),
      decide_eq_true hpos⟩, Prod.ext rfl hw.symm⟩

/-- **The loop finds the score**, whatever the order of the groups. -/
theorem topScore_selectGroups (order : RowOrder) (v : VideoID) (db : DB) :
    topScore (db.weightOn v) (selectGroups order v db) 0 = db.videoScore v := by
  refine eq_of_forall_ge_iff fun x ↦ ?_
  rw [topScore_le_iff, DB.videoScore, Finset.sup'_le_iff]
  constructor
  · rintro ⟨hx, hgroups⟩ c -
    by_cases hc : 0 < db.votesIn v c
    · exact hgroups (c, db.weightIn v c) (mem_selectGroups.2 ⟨hc, rfl⟩)
    · rw [DB.categoryScore, db.weightIn_eq_zero v c (Nat.eq_zero_of_not_pos hc), zero_div, zero_mul]
      exact hx
  · intro h
    refine ⟨(db.videoScore_nonneg v).trans (Finset.sup'_le _ _ h), fun group hgroup ↦ ?_⟩
    rw [(mem_selectGroups.1 hgroup).2]
    exact h group.1 (Finset.mem_univ _)

/-! ### A recalculation run alone -/

theorem after_setScore (db : DB) (now : Time) (v : VideoID) (score : ℚ) :
    db.after (setScore now v score) =
      { db with videos := db.videos.modify v fun row ↦
        { row with score, lastUpdated := now } } := by
  rw [DB.after, setScore, Table.modify]
  cases db.videos.lookup v <;> rfl

theorem after_setWeightedScore (db : DB) (v : VideoID) (weightedScore : ℚ) (c : Category) :
    db.after (setWeightedScore v weightedScore c) =
      { db with videoCategories :=
          db.videoCategories.modify (v, c) fun row ↦ { row with weightedScore } } := by
  rw [DB.after, setWeightedScore, Table.modify]
  cases db.videoCategories.lookup (v, c) <;> rfl

/-- The category rows after updates of the listed categories. -/
def setWeightedScores (v : VideoID) (f : Category → ℚ) (cs : List Category)
    (t : Table (VideoID × Category) VideoCategory) : Table (VideoID × Category) VideoCategory :=
  cs.foldl (fun t c ↦ t.modify (v, c) fun row ↦ { row with weightedScore := f c }) t

theorem lookup_setWeightedScores (v : VideoID) (f : Category → ℚ) (cs : List Category)
    (t : Table (VideoID × Category) VideoCategory) (v' : VideoID) (c : Category) :
    (setWeightedScores v f cs t).lookup (v', c) =
      if v' = v ∧ c ∈ cs then
        (t.lookup (v', c)).map fun row ↦ { row with weightedScore := f c }
      else t.lookup (v', c) := by
  induction cs generalizing t with
  | nil => simp [setWeightedScores]
  | cons c' cs ih =>
    rw [setWeightedScores, List.foldl_cons, ← setWeightedScores, ih, Table.lookup_modify]
    by_cases hk : (v', c) = (v, c')
    · obtain ⟨rfl, rfl⟩ := Prod.mk.inj hk
      simp only [if_true, true_and, List.mem_cons_self]
      split_ifs
      · rw [Option.map_map]
        rfl
      · rfl
    · have hiff : v' = v ∧ c ∈ c' :: cs ↔ v' = v ∧ c ∈ cs := by
        refine and_congr_right fun hv ↦ List.mem_cons.trans (or_iff_right fun hc ↦ hk ?_)
        rw [hv, hc]
      rw [if_neg hk, if_congr hiff rfl rfl]

/-- **The effect of a recalculation**, table by table. -/
def DB.recalculate (db : DB) (q : RecalculateRequest) : DB :=
  { db with
    videos := db.videos.modify q.videoID fun row ↦
      { row with score := db.videoScore q.videoID, lastUpdated := q.now }
    videoCategories :=
      setWeightedScores q.videoID (db.categoryScore q.videoID)
        (if db.weightOn q.videoID = 0 then selectCategories q.scanOrder q.videoID db
         else (selectGroups q.groupOrder q.videoID db).map Prod.fst) db.videoCategories }

theorem run_updateCategories (v : VideoID) (f : Category → ℚ) (db : DB) (cs : List Category) :
    (cs.forM fun c ↦ exec (setWeightedScore v (f c) c) : Tx DB Write Unit).run db =
      ((), { db with videoCategories := setWeightedScores v f cs db.videoCategories }) := by
  induction cs generalizing db with
  | nil => rfl
  | cons c cs ih =>
    change (cs.forM fun c ↦ exec (setWeightedScore v (f c) c)).run
      (db.after (setWeightedScore v (f c) c)) = _
    rw [ih, after_setWeightedScore]
    rfl

/-- **A recalculation run alone.** -/
theorem run_recalculateVideoScore (b : Backend) (q : RecalculateRequest) (db : DB) :
    (recalculateVideoScore b q).run db = ((), db.recalculate q) := by
  rw [recalculateVideoScore_eq, Go.recalculateVideoScore_eq, run_stmt_after, after_query]
  by_cases hW : db.weightOn q.videoID = 0
  · have hscore := db.videoScore_of_weightOn_eq_zero q.videoID hW
    have hzero : db.categoryScore q.videoID = fun _ ↦ 0 :=
      funext fun c ↦ db.categoryScore_of_weightOn_eq_zero q.videoID c hW
    rw [if_pos hW, resetScores, exec_bind, run_stmt_after, query_bind, run_stmt_after, after_query,
      run_updateCategories q.videoID fun _ ↦ 0, after_setScore, DB.recalculate, if_pos hW, hscore,
      hzero]
    rfl
  · have hupdate : updateCategories q.videoID (db.weightOn q.videoID)
        (selectGroups q.groupOrder q.videoID db) =
        ((selectGroups q.groupOrder q.videoID db).map Prod.fst).forM fun c ↦
          exec (setWeightedScore q.videoID (db.categoryScore q.videoID c) c) := by
      rw [selectGroups]
      induction q.groupOrder.categories.filter fun c ↦ 0 < db.votesIn q.videoID c with
      | nil => rfl
      | cons c cs ih => exact congrArg _ (funext fun _ ↦ ih)
    rw [if_neg hW, run_stmt_after, after_query, updateScores, hupdate, run_bind,
      run_updateCategories, topScore_selectGroups]
    change ((), DB.after _ _) = _
    rw [after_setScore, DB.recalculate, if_neg hW]

/-! ### Serial runs -/

/-- A step of a serial run with recalculations. -/
inductive ScoreEvent where
  | vote (e : VoteEvent)
  | recalculate (b : Backend) (q : RecalculateRequest)

/-- The database after an event. -/
def ScoreEvent.step (db : DB) : ScoreEvent → DB
  | vote e => e.step db
  | recalculate b q => ((recalculateVideoScore b q).run db).2

/-- The database after a run. -/
def DB.runScores (db : DB) (es : List ScoreEvent) : DB := es.foldl ScoreEvent.step db

theorem step_recalculate (db : DB) (b : Backend) (q : RecalculateRequest) :
    (ScoreEvent.recalculate b q).step db = db.recalculate q := by
  rw [ScoreEvent.step, run_recalculateVideoScore]

theorem totalVotes_recalculate (db : DB) (q : RecalculateRequest) (v : VideoID) :
    (db.recalculate q).totalVotes v = db.totalVotes v := by
  rw [DB.totalVotes, DB.recalculate, Table.lookup_modify, DB.totalVotes]
  split_ifs with hv
  · rw [hv]
    cases db.videos.lookup q.videoID <;> rfl
  · rfl

theorem voteCount_recalculate (db : DB) (q : RecalculateRequest) (v : VideoID) (c : Category) :
    (db.recalculate q).voteCount v c = db.voteCount v c := by
  rw [DB.voteCount, DB.recalculate, lookup_setWeightedScores, DB.voteCount]
  split_ifs <;> cases db.videoCategories.lookup (v, c) <;> rfl

theorem DB.Consistent.recalculate {db : DB} (h : db.Consistent) (q : RecalculateRequest) :
    (db.recalculate q).Consistent where
  totalVotes_eq v := (totalVotes_recalculate db q v).trans (h.totalVotes_eq v)
  votesIn_le v c := (h.votesIn_le v c).trans_eq (voteCount_recalculate db q v c).symm

/-- The counters stay consistent through runs with recalculations. -/
theorem DB.Consistent.runScores {db : DB} (h : db.Consistent) (es : List ScoreEvent) :
    (db.runScores es).Consistent := by
  induction es generalizing db with
  | nil => exact h
  | cons e es ih =>
    refine ih ?_
    cases e with
    | vote e => exact h.step e
    | recalculate b q => exact step_recalculate db b q ▸ h.recalculate q

/-! ### What a recalculation leaves behind -/

/-- `video_categories.weighted_score`, 0 when there is no row. -/
def DB.weightedScore (db : DB) (v : VideoID) (c : Category) : ℚ :=
  (db.videoCategories.lookup (v, c)).elim 0 VideoCategory.weightedScore

/-- The weighted scores of a video's rows are the shares of the current votes, and add up to 100, or
to 0 without weight. -/
def DB.ScoresRight (db : DB) (v : VideoID) : Prop :=
  (∀ c row, db.videoCategories.lookup (v, c) = some row →
      row.weightedScore = 100 * db.weightIn v c / db.weightOn v) ∧
    ∑ c, db.weightedScore v c = if db.weightOn v = 0 then 0 else 100

/-- **A row after a recalculation**: reset without weight, set where its category has a vote, and
otherwise as it was. -/
theorem lookup_recalculate (db : DB) (q : RecalculateRequest) (c : Category) :
    (db.recalculate q).videoCategories.lookup (q.videoID, c) =
      (db.videoCategories.lookup (q.videoID, c)).map fun row ↦
        { row with weightedScore :=
            if db.weightOn q.videoID = 0 ∨ 0 < db.votesIn q.videoID c then
              db.categoryScore q.videoID c
            else row.weightedScore } := by
  rw [DB.recalculate, lookup_setWeightedScores]
  by_cases hW : db.weightOn q.videoID = 0
  · cases hrow : db.videoCategories.lookup (q.videoID, c) with
    | none => simp
    | some row =>
      have hmem : c ∈ selectCategories q.scanOrder q.videoID db := List.mem_filter.2
        ⟨q.scanOrder.perm.mem_iff.2 (Category.mem_all c), by rw [hrow, Option.isSome_some]⟩
      simp [hW, hmem]
  · have hmem : c ∈ (selectGroups q.groupOrder q.videoID db).map Prod.fst ↔
        0 < db.votesIn q.videoID c := by
      rw [List.mem_map]
      constructor
      · rintro ⟨group, hgroup, rfl⟩
        exact (mem_selectGroups.1 hgroup).1
      · exact fun h ↦ ⟨(c, db.weightIn q.videoID c), mem_selectGroups.2 ⟨h, rfl⟩, rfl⟩
    by_cases hc : 0 < db.votesIn q.videoID c
    · simp [hW, hmem, hc]
    · simp only [hW, if_false, hmem, hc, and_false, or_self, Option.map_id']

/-- **A recalculation is right unless a category without votes has kept a score.** In every state
reached from a database without votes, the weighted scores of a video are right just after its
recalculation exactly when there is no weight on it, or every row whose category has no votes had
the score 0 before. -/
theorem scoresRight_iff (users : Table UserID User) (channels : Table ChannelID Channel)
    (es : List ScoreEvent) (b : Backend) (q : RecalculateRequest) :
    let db := (DB.start users channels).runScores es
    ((ScoreEvent.recalculate b q).step db).ScoresRight q.videoID ↔
      db.weightOn q.videoID = 0 ∨
        ∀ c row, db.videoCategories.lookup (q.videoID, c) = some row →
          db.votesIn q.videoID c = 0 → row.weightedScore = 0 := by
  intro db
  have hcons : db.Consistent := (consistent_start users channels).runScores es
  rw [step_recalculate]
  have hshare : ∀ c, 100 * db.weightIn q.videoID c / db.weightOn q.videoID =
      db.categoryScore q.videoID c := fun c ↦ by
    rw [DB.categoryScore]
    ring
  constructor
  · rintro ⟨hrows, -⟩
    refine or_iff_not_imp_left.2 fun hW c row hrow hc ↦ ?_
    have hafter := lookup_recalculate db q c
    rw [hrow, Option.map_some, if_neg (not_or.2 ⟨hW, hc.not_gt⟩)] at hafter
    have hright := hrows c _ hafter
    rwa [show (db.recalculate q).weightIn q.videoID c = 0 from db.weightIn_eq_zero _ _ hc, mul_zero,
      zero_div] at hright
  · intro hcond
    -- every row is now the share of its category
    have hrow : ∀ c row, db.videoCategories.lookup (q.videoID, c) = some row →
        (if db.weightOn q.videoID = 0 ∨ 0 < db.votesIn q.videoID c then
          db.categoryScore q.videoID c else row.weightedScore) = db.categoryScore q.videoID c := by
      intro c row hrow
      split_ifs with h
      · rfl
      · obtain ⟨hW, hc⟩ := not_or.1 h
        have hzero := Nat.eq_zero_of_not_pos hc
        rw [hcond.resolve_left hW c row hrow hzero, DB.categoryScore, db.weightIn_eq_zero _ _ hzero,
          zero_div, zero_mul]
    refine ⟨fun c row' hrow' ↦ ?_, ?_⟩
    · rw [lookup_recalculate] at hrow'
      obtain ⟨row, hlook, rfl⟩ := Option.map_eq_some_iff.1 hrow'
      exact (hrow c row hlook).trans (hshare c).symm
    · have hsum : ∀ c, (db.recalculate q).weightedScore q.videoID c =
          db.categoryScore q.videoID c := by
        intro c
        rw [DB.weightedScore, lookup_recalculate]
        cases hlook : db.videoCategories.lookup (q.videoID, c) with
        | some row => exact hrow c row hlook
        | none =>
          -- a category without a row has no votes
          have hle := hcons.votesIn_le q.videoID c
          rw [DB.voteCount, hlook, Option.elim_none] at hle
          rw [DB.categoryScore, db.weightIn_eq_zero _ _ (by omega), zero_div, zero_mul]
          rfl
      rw [Finset.sum_congr rfl fun c _ ↦ hsum c]
      change _ = if db.weightOn q.videoID = 0 then 0 else 100
      split_ifs with hW
      · exact Finset.sum_eq_zero fun c _ ↦ db.categoryScore_of_weightOn_eq_zero _ c hW
      · exact db.sum_categoryScore _ hW

/-- A recalculation of one video. -/
def recalculateNow : RecalculateRequest where
  videoID := "v"
  now := 0
  groupOrder := ⟨Category.all, .refl _⟩
  scanOrder := ⟨Category.all, .refl _⟩

/-- The only vote on a video moves to another category between two recalculations. -/
def categoryLeft : List ScoreEvent :=
  let vote (c : Category) : VoteEvent := .request (.submit .go
    { videoID := "v", userID := "u", category := c, ipHash := "", userAgent := none, now := 0 })
  [.vote (vote .fullyAI), .recalculate .go recalculateNow, .vote (vote .aiAssisted)]

/-- **The category left behind keeps its score**: the weighted scores add up to 200. -/
theorem not_scoresRight_categoryLeft :
    ¬ ∀ (es : List ScoreEvent) (b : Backend) (q : RecalculateRequest),
      ((ScoreEvent.recalculate b q).step ((DB.start ∅ ∅).runScores es)).ScoresRight q.videoID := by
  intro h
  have hsum := (h categoryLeft .python recalculateNow).2
  revert hsum
  decide +kernel

end RealTube
