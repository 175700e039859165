import RealTube.Scores.Recalculation
import RealTube.Votes.Commute

/-!
# The order of a batch

A flush recalculates the videos of its batch one after another and removes their keys from the
cache, in an order that the batch, a map or a set of ids, does not determine. `flush` is the loop of
`flush` in `service/score_worker.go` and of `_flush` in `services/score_worker.py`, run without
failures and without others.

A recalculation reads the votes and writes the rows of its own video, and what it writes is a
function of the votes and of the row that is there. `DB.rescored` is that function for a set of
videos. A flush brings the tables to it, times aside (`tally_flush`), so its order does not matter,
and neither does it matter which worker has a video, or that several have it (`flush_congr`).
-/

open Tx

namespace RealTube

/-! ### The loop -/

/-- `videoKey`. -/
def videoKey (videoID : VideoID) : String := "video:" ++ videoID

/-- The database, and the keys that have been removed from the cache. -/
structure FlushState where
  db : DB
  removed : Finset String

/-- One round of the loop: `InvalidateVideo` follows the recalculation, if there is a cache. -/
def FlushState.recalculate (b : Backend) (cache : Bool) (request : VideoID → RecalculateRequest)
    (s : FlushState) (videoID : VideoID) : FlushState where
  db := ((recalculateVideoScore b { request videoID with videoID }).run s.db).2
  removed := if cache then insert (videoKey videoID) s.removed else s.removed

/-- `flush` and `_flush`, given the batch in the order of the loop. -/
def flush (b : Backend) (cache : Bool) (request : VideoID → RecalculateRequest)
    (batch : List VideoID) (db : DB) : FlushState :=
  batch.foldl (FlushState.recalculate b cache request) ⟨db, ∅⟩

/-! ### The tables with some videos recalculated -/

/-- The row of a video, with its score. -/
def DB.rescoredVideo (db : DB) (v : VideoID) (row : Video) : Video :=
  { row with score := db.videoScore v }

/-- The row of a category, with its score if a recalculation writes one. -/
def DB.rescoredCategory (db : DB) (v : VideoID) (c : Category) (row : VideoCategory) :
    VideoCategory :=
  { row with weightedScore :=
      if db.weightOn v = 0 ∨ 0 < db.votesIn v c then db.categoryScore v c else row.weightedScore }

theorem rescoredVideo_rescoredVideo (db : DB) (v : VideoID) (row : Video) :
    db.rescoredVideo v (db.rescoredVideo v row) = db.rescoredVideo v row := by
  simp only [DB.rescoredVideo]

theorem rescoredCategory_rescoredCategory (db : DB) (v : VideoID) (c : Category)
    (row : VideoCategory) :
    db.rescoredCategory v c (db.rescoredCategory v c row) = db.rescoredCategory v c row := by
  simp only [DB.rescoredCategory]
  split_ifs <;> rfl

/-- **The rows of the tables when the listed videos are recalculated**, times aside. -/
def DB.rescored (db : DB) (batch : List VideoID) : Tally where
  user := db.tally.user
  video v :=
    if v ∈ batch then (db.tally.video v).map (db.rescoredVideo v) else db.tally.video v
  category v c :=
    if v ∈ batch then (db.tally.category v c).map (db.rescoredCategory v c)
    else db.tally.category v c
  vote := db.tally.vote

variable {db db' : DB} {batch batch' : List VideoID}

/-- Only the set of the videos matters. -/
theorem rescored_congr (h : ∀ v, v ∈ batch ↔ v ∈ batch') :
    db.rescored batch = db.rescored batch' := by
  simp only [DB.rescored, h]

theorem rescored_nil (db : DB) : db.rescored [] = db.tally := by
  simp [DB.rescored]

/-- **Videos that are recalculated in two turns.** -/
theorem rescored_append (hvotes : db'.votes = db.votes) (htally : db'.tally = db.rescored batch)
    (batch' : List VideoID) : db'.rescored batch' = db.rescored (batch ++ batch') := by
  have hweightOn : db'.weightOn = db.weightOn := funext fun v ↦ by
    rw [DB.weightOn, hvotes, DB.weightOn]
  have hvotesIn : db'.votesIn = db.votesIn := funext fun v ↦ funext fun c ↦ by
    rw [DB.votesIn, hvotes, DB.votesIn]
  have hcategory : db'.categoryScore = db.categoryScore := funext fun v ↦ funext fun c ↦ by
    rw [DB.categoryScore, DB.weightIn, hvotes, hweightOn, DB.categoryScore, DB.weightIn]
  have hvideo : db'.rescoredVideo = db.rescoredVideo := funext fun v ↦ funext fun row ↦ by
    rw [DB.rescoredVideo, DB.videoScore, hcategory, DB.rescoredVideo, DB.videoScore]
  have hrow : db'.rescoredCategory = db.rescoredCategory :=
    funext fun v ↦ funext fun c ↦ funext fun row ↦ by
      simp only [DB.rescoredCategory, hweightOn, hvotesIn, hcategory]
  simp only [DB.rescored, htally, hvideo, hrow]
  refine Tally.ext rfl (funext fun v ↦ ?_) (funext fun v ↦ funext fun c ↦ ?_) rfl
  · by_cases h : v ∈ batch <;> by_cases h' : v ∈ batch' <;>
      simp [h, h', Function.comp_def, rescoredVideo_rescoredVideo]
  · by_cases h : v ∈ batch <;> by_cases h' : v ∈ batch' <;>
      simp [h, h', Function.comp_def, rescoredCategory_rescoredCategory]

theorem tally_recalculate (db : DB) (q : RecalculateRequest) :
    (db.recalculate q).tally = db.rescored [q.videoID] := by
  refine Tally.ext rfl (funext fun v ↦ ?_) (funext fun v ↦ funext fun c ↦ ?_) rfl
  · simp only [DB.rescored, List.mem_singleton, video_tally, DB.recalculate, Table.lookup_modify]
    split_ifs with hv
    · rw [hv]
      cases db.videos.lookup q.videoID <;> rfl
    · rfl
  · simp only [DB.rescored, List.mem_singleton, category_tally]
    split_ifs with hv
    · rw [hv, lookup_recalculate]
      rfl
    · rw [DB.recalculate, lookup_setWeightedScores, if_neg fun h ↦ hv h.1]

/-! ### A flush -/

variable (b : Backend) (cache : Bool) (request : VideoID → RecalculateRequest)

theorem removed_foldl (batch : List VideoID) (s : FlushState) :
    (batch.foldl (FlushState.recalculate b cache request) s).removed =
      s.removed ∪ if cache then (batch.map videoKey).toFinset else ∅ := by
  induction batch generalizing s with
  | nil => simp
  | cons v batch ih =>
    rw [List.foldl_cons, ih, FlushState.recalculate]
    cases cache <;> simp

theorem removed_flush (batch : List VideoID) (db : DB) :
    (flush b cache request batch db).removed =
      if cache then (batch.map videoKey).toFinset else ∅ := by
  rw [flush, removed_foldl, Finset.empty_union]

/-- **A flush recalculates the videos of its batch.** -/
theorem tally_foldl (batch : List VideoID) (s : FlushState) :
    (batch.foldl (FlushState.recalculate b cache request) s).db.tally = s.db.rescored batch := by
  induction batch generalizing s with
  | nil => exact (rescored_nil s.db).symm
  | cons v batch ih =>
    rw [List.foldl_cons, ih, FlushState.recalculate, run_recalculateVideoScore]
    set q : RecalculateRequest := { request v with videoID := v }
    have hvotes : (s.db.recalculate q).votes = s.db.votes := rfl
    exact rescored_append hvotes (tally_recalculate s.db q) batch

theorem tally_flush (batch : List VideoID) (db : DB) :
    (flush b cache request batch db).db.tally = db.rescored batch :=
  tally_foldl b cache request batch ⟨db, ∅⟩

variable {b cache request}

/-- **A recalculation leaves the rows of other videos alone, and the votes.** -/
theorem same_recalculate (db : DB) (q : RecalculateRequest) {r : Row} (hr : r ≠ .video q.videoID)
    (hr' : ∀ c, r ≠ .videoCategory q.videoID c) : db.Same (db.recalculate q) r := by
  cases r with
  | video v => exact (Table.lookup_modify_of_ne _ _ fun h ↦ hr (congrArg Row.video h)).symm
  | videoCategory v c =>
    refine Eq.symm ((lookup_setWeightedScores ..).trans (if_neg fun h ↦ hr' c ?_))
    rw [h.1]
  | user | vote | channel => rfl

/-- **The order of a batch does not matter**: two flushes of the same videos, in any orders and by
either backend, leave the same rows, times aside, and remove the same keys. A recalculation changes
no row but those of its video and its categories, and the next one of the same video none at all. -/
theorem flush_congr (b b' : Backend) (cache : Bool)
    (request request' : VideoID → RecalculateRequest) (db : DB) (batch batch' : List VideoID)
    (h : ∀ v, v ∈ batch ↔ v ∈ batch') :
    ((flush b cache request batch db).db.tally = (flush b' cache request' batch' db).db.tally ∧
      (flush b cache request batch db).removed = (flush b' cache request' batch' db).removed) ∧
    ∀ q q' : RecalculateRequest, q'.videoID = q.videoID →
      let db₁ := ((recalculateVideoScore b q).run db).2
      let db₂ := ((recalculateVideoScore b' q').run db₁).2
      (∀ r, r ≠ .video q.videoID → (∀ c, r ≠ .videoCategory q.videoID c) → db.Same db₁ r) ∧
        db₂.tally = db₁.tally := by
  refine ⟨⟨?_, ?_⟩, ?_⟩
  · rw [tally_flush, tally_flush, rescored_congr h]
  · have hkeys : (batch.map videoKey).toFinset = (batch'.map videoKey).toFinset := by
      ext key
      simp only [List.mem_toFinset, List.mem_map, h]
    rw [removed_flush, removed_flush, hkeys]
  · intro q q' hq
    have hvotes : (db.recalculate q).votes = db.votes := rfl
    simp only [run_recalculateVideoScore]
    refine ⟨fun r hr hr' ↦ same_recalculate db q hr hr', ?_⟩
    rw [tally_recalculate, rescored_append hvotes (tally_recalculate db q), tally_recalculate, hq]
    exact rescored_congr (by simp)

/-- Two videos, in either order and by either backend. -/
theorem flush_congr_twoVideos :
    let request : VideoID → RecalculateRequest := fun _ ↦ recalculateNow
    (flush .go true request ["v", "w"] oneVote).db.tally =
        (flush .python true request ["w", "v"] oneVote).db.tally ∧
      (flush .go true request ["v", "w"] oneVote).removed =
        (flush .python true request ["w", "v"] oneVote).removed :=
  (flush_congr .go .python true _ _ oneVote ["v", "w"] ["w", "v"] fun v ↦ by
    simp [or_comm]).1

end RealTube
