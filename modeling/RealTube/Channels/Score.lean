import RealTube.Model.ChannelWorker
import RealTube.Votes.Serial
import RealTube.Workers.Freshness

/-!
# The recalculation of a channel

The channel score is a quotient times an average. The quotient compares two counts over different
sets of videos: the flagged ones, with a score of at least 50, and the tracked ones, with votes.
What keeps it from exceeding 1 is not the code but the videos: a flagged video without votes counts
only above (`flaggedVideos_le_iff`).

`channelScore_bounded` is the range of the score when the quotient is at most 1, for either
rounding, and `lookup_recalculateChannel` the row that a recalculation leaves. A tick is a sequence
of recalculations (`run_recalculateAll`).
-/

open Tx

namespace RealTube

/-! ### Rounding -/

/-- Rounding keeps to the side of an integer. -/
theorem Backend.round_mem_Icc (b : Backend) {x : ℚ} {n : ℤ} (h₀ : 0 ≤ x) (hn : x ≤ n) :
    0 ≤ b.round x ∧ b.round x ≤ n := by
  have hfloor₀ : 0 ≤ ⌊x⌋ := Int.floor_nonneg.2 h₀
  cases b with
  | go =>
    have hhalf : 0 ≤ x + 1 / 2 := by linarith
    rw [Backend.round, truncate_eq_floor hhalf]
    refine ⟨Int.floor_nonneg.2 hhalf, Int.lt_add_one_iff.1 (Int.floor_lt.2 ?_)⟩
    push_cast
    linarith
  | python =>
    have hfloor : ⌊x⌋ ≤ n := by exact_mod_cast (Int.floor_le x).trans hn
    rw [Backend.round, roundHalfEven]
    by_cases heq : ⌊x⌋ = n
    · -- then `x` is that integer
      have hx : x - (⌊x⌋ : ℚ) < 1 / 2 := by
        rw [heq]
        linarith
      rw [if_pos hx]
      exact ⟨hfloor₀, hfloor⟩
    · split_ifs <;> constructor <;> omega

/-! ### The counts -/

section Counts

variable (db : DB) (ch : ChannelID)

/-- The flagged videos of a channel that are not tracked. -/
def DB.flaggedUntracked : ℕ := db.videos.count fun _ row ↦ row.Flagged ch ∧ ¬ row.Tracked ch

/-- The tracked videos of a channel that are not flagged. -/
def DB.trackedUnflagged : ℕ := db.videos.count fun _ row ↦ row.Tracked ch ∧ ¬ row.Flagged ch

/-- **The two counts compare as their differences do.** -/
theorem flaggedVideos_le_iff :
    db.flaggedVideos ch ≤ db.trackedVideos ch ↔
      db.flaggedUntracked ch ≤ db.trackedUnflagged ch := by
  have hsum : db.flaggedVideos ch + db.trackedUnflagged ch =
      db.trackedVideos ch + db.flaggedUntracked ch := by
    unfold DB.flaggedVideos DB.trackedUnflagged DB.trackedVideos DB.flaggedUntracked Table.count
    rw [← Table.sum_add, ← Table.sum_add]
    refine Table.sum_congr fun _ row _ ↦ ?_
    by_cases hf : row.Flagged ch <;> by_cases ht : row.Tracked ch <;> simp [hf, ht]
  omega

/-- The average score of the flagged videos is at most 100 if their scores are. -/
theorem flaggedScore_le (h : ∀ v row, db.videos.lookup v = some row → row.score ≤ 100) :
    db.flaggedScore ch ≤ db.flaggedVideos ch * 100 := by
  rw [DB.flaggedScore, DB.flaggedVideos]
  rw [← Table.sum_ite_const]
  refine Table.sum_le_sum fun v row hrow ↦ ?_
  split_ifs
  · exact h v row hrow
  · exact le_rfl

theorem flaggedScore_nonneg : 0 ≤ db.flaggedScore ch :=
  Table.sum_nonneg fun _ row _ ↦ by
    split_ifs with hf
    · exact le_trans (by norm_num) hf.2
    · exact le_rfl

end Counts

/-- **The range of the channel score**, when there are no more flagged videos than tracked ones. -/
theorem channelScore_bounded (b : Backend) {db : DB} {ch : ChannelID}
    (h : ∀ v row, db.videos.lookup v = some row → row.score ≤ 100)
    (hle : 3 ≤ db.trackedVideos ch → db.flaggedVideos ch ≤ db.trackedVideos ch) :
    0 ≤ b.channelScore (selectChannelStats ch db) ∧
      b.channelScore (selectChannelStats ch db) ≤ 100 := by
  rw [Backend.channelScore]
  split_ifs with htracked
  · have hle' : (db.flaggedVideos ch : ℚ) ≤ db.trackedVideos ch := by exact_mod_cast hle htracked
    have hpos : (0 : ℚ) < db.trackedVideos ch := by
      have h3 : (3 : ℚ) ≤ db.trackedVideos ch := by exact_mod_cast htracked
      linarith
    have hraw : (selectChannelStats ch db).rawScore =
        db.flaggedVideos ch / db.trackedVideos ch *
          (db.flaggedScore ch / db.flaggedVideos ch) := rfl
    have havg₀ : 0 ≤ db.flaggedScore ch / db.flaggedVideos ch :=
      div_nonneg (flaggedScore_nonneg db ch) (Nat.cast_nonneg _)
    have havg : db.flaggedScore ch / db.flaggedVideos ch ≤ 100 :=
      div_le_of_le_mul₀ (Nat.cast_nonneg _) (by norm_num)
        ((flaggedScore_le db ch h).trans_eq (mul_comm _ _))
    have hquot₀ : (0 : ℚ) ≤ db.flaggedVideos ch / db.trackedVideos ch :=
      div_nonneg (Nat.cast_nonneg _) hpos.le
    have hquot : (db.flaggedVideos ch : ℚ) / db.trackedVideos ch ≤ 1 := (div_le_one hpos).2 hle'
    obtain ⟨hround₀, hround⟩ := b.round_mem_Icc
      (x := (selectChannelStats ch db).rawScore * 100) (n := 10000)
      (by rw [hraw]; positivity) (by rw [hraw]; push_cast; nlinarith)
    have hround₀' : (0 : ℚ) ≤ b.round ((selectChannelStats ch db).rawScore * 100) := by
      exact_mod_cast hround₀
    have hround' : (b.round ((selectChannelStats ch db).rawScore * 100) : ℚ) ≤ 10000 := by
      exact_mod_cast hround
    exact ⟨by positivity, by linarith⟩
  · norm_num

/-! ### A recalculation run alone -/

theorem after_insertChannel (db : DB) (now : Time) (ch : ChannelID) :
    db.after (insertChannel now ch) = { db with
      channels := db.channels.insert ch ((db.channels.lookup ch).getD (Channel.new now)) } := by
  rw [DB.after, insertChannel]
  cases h : db.channels.lookup ch with
  | none => rfl
  | some row => exact congrArg (fun t ↦ { db with channels := t }) (Table.insert_eq_self h).symm

theorem after_updateChannel (db : DB) (now : Time) (ch : ChannelID) (score : ℚ)
    (flagged tracked : ℕ) (autoFlagNew : Bool) :
    db.after (updateChannel now ch score flagged tracked autoFlagNew) = { db with
      channels := db.channels.modify ch fun row ↦ { row with
        score, flaggedVideos := flagged, totalVideos := tracked, autoFlagNew,
        lastUpdated := now } } := by
  rw [DB.after, updateChannel, Table.modify]
  cases db.channels.lookup ch <;> rfl

/-- The bulk update writes videos only. -/
theorem setPreliminaryScore_of_video {α : Type} {f : DB → α}
    (hf : ∀ db v row, f (DB.write db (.video v row)) = f db) (db : DB) (now : Time)
    (ch : ChannelID) (found : List VideoID) :
    f (db.after (setPreliminaryScore now ch found)) = f db := by
  refine applyAll_inv (I := fun db' : DB ↦ f db' = f db)
    (P := fun x ↦ ∃ v row, x = .video v row) ?_ rfl fun x hx ↦ ?_
  · rintro s _ hs ⟨v, row, rfl⟩
    exact (hf s v row).trans hs
  · obtain ⟨v, -, hv⟩ := List.mem_filterMap.1 hx
    obtain ⟨row, -, hset⟩ := Option.bind_eq_some_iff.1 hv
    split_ifs at hset
    exact ⟨v, _, (Option.some.inj hset).symm⟩

theorem channels_setPreliminaryScore (db : DB) (now : Time) (ch : ChannelID)
    (found : List VideoID) :
    (db.after (setPreliminaryScore now ch found)).channels = db.channels :=
  setPreliminaryScore_of_video (fun _ _ _ ↦ rfl) db now ch found

/-- The row of a video that gets the preliminary score. -/
def Video.setPreliminary (now : Time) (ch : ChannelID) (row : Video) : Video :=
  if row.Unscored ch then { row with score := preliminaryScore, lastUpdated := now } else row

/-- Videos that are written one after the other, each with the row that `f` has for it. -/
theorem lookup_writeVideos (f : VideoID → Video) (vs : List VideoID) (db : DB) (v : VideoID) :
    (RowStore.applyAll db (vs.map fun u ↦ Write.video u (f u))).videos.lookup v =
      if v ∈ vs then some (f v) else db.videos.lookup v := by
  induction vs generalizing db with
  | nil => rfl
  | cons u vs ih =>
    have hlook : (DB.write db (.video u (f u))).videos.lookup v =
        if v = u then some (f u) else db.videos.lookup v := Table.lookup_insert ..
    rw [List.map_cons, RowStore.applyAll_cons, ih,
      show (RowStore.apply db _ : DB) = db.write _ from rfl, hlook]
    by_cases hv : v = u
    · simp [hv]
    · simp [hv]

/-- The writes of the bulk update: the rows it has found that are without a score. -/
theorem setPreliminaryScore_eq_map (db : DB) (now : Time) (ch : ChannelID) (found : List VideoID) :
    setPreliminaryScore now ch found db =
      (found.filter fun v ↦ ∃ row ∈ db.videos.lookup v, row.Unscored ch).map fun v ↦
        Write.video v ((db.videoOrNew now v).setPreliminary now ch) := by
  rw [setPreliminaryScore, ← List.filterMap_eq_filter, List.map_filterMap]
  refine congrArg (List.filterMap · found) (funext fun v ↦ ?_)
  cases hrow : db.videos.lookup v with
  | none => simp [Option.guard, hrow]
  | some row =>
    by_cases hunscored : row.Unscored ch
    · simp [Option.guard, hrow, hunscored, DB.videoOrNew, Video.setPreliminary]
    · simp [Option.guard, hrow, hunscored]

/-- **The bulk update** rewrites the rows it has found and that are still without a score. -/
theorem lookup_setPreliminaryScore (db : DB) (now : Time) (ch : ChannelID) (found : List VideoID)
    (v : VideoID) : (db.after (setPreliminaryScore now ch found)).videos.lookup v =
      if v ∈ found then (db.videos.lookup v).map (Video.setPreliminary now ch)
      else db.videos.lookup v := by
  have hlook := lookup_writeVideos (fun v ↦ (db.videoOrNew now v).setPreliminary now ch)
    (found.filter fun v ↦ ∃ row ∈ db.videos.lookup v, row.Unscored ch) db v
  rw [← setPreliminaryScore_eq_map] at hlook
  simp only [List.mem_filter] at hlook
  refine hlook.trans ?_
  cases hrow : db.videos.lookup v with
  | none => simp
  | some row =>
    by_cases hunscored : row.Unscored ch
    · simp [hunscored, DB.videoOrNew, hrow]
    · have hsame : row.setPreliminary now ch = row := if_neg hunscored
      simp [hunscored, hsame]

/-- Whether a recalculation auto-flags the channel. -/
def DB.autoFlags (db : DB) (b : Backend) (ch : ChannelID) : Bool :=
  decide (b.channelScore (selectChannelStats ch db) ≥ autoFlagScoreThreshold) &&
    decide (db.flaggedVideos ch ≥ autoFlagMinFlagged) && !selectLocked ch db

/-- The row a recalculation leaves: what it has computed stands in it, and the lock stays. -/
def DB.channelRow (db : DB) (b : Backend) (q : ChannelRequest) : Channel :=
  { (db.channels.lookup q.channelID).getD (Channel.new q.insertedAt) with
    score := b.channelScore (selectChannelStats q.channelID db)
    flaggedVideos := db.flaggedVideos q.channelID
    totalVideos := db.trackedVideos q.channelID
    autoFlagNew := db.autoFlags b q.channelID
    lastUpdated := q.updatedAt }

/-- **A recalculation of a channel run alone.** -/
theorem run_recalculateChannel (b : Backend) (q : ChannelRequest) (db : DB) :
    ((recalculateChannel b q).run db).2 =
      let db' := { db with channels := db.channels.insert q.channelID (db.channelRow b q) }
      if db.autoFlags b q.channelID then
        db'.after (setPreliminaryScore q.scoredAt q.channelID
          (selectUnscored q.scanOrder q.channelID db))
      else db' := by
  have hlocked : selectLocked q.channelID (db.after (insertChannel q.insertedAt q.channelID)) =
      selectLocked q.channelID db := by
    rw [after_insertChannel, selectLocked, Table.lookup_insert_self, selectLocked]
    cases db.channels.lookup q.channelID <;> rfl
  have hupdated : (db.after (insertChannel q.insertedAt q.channelID)).after
      (updateChannel q.updatedAt q.channelID (b.channelScore (selectChannelStats q.channelID db))
        (db.flaggedVideos q.channelID) (db.trackedVideos q.channelID)
        (db.autoFlags b q.channelID)) =
      { db with channels := db.channels.insert q.channelID (db.channelRow b q) } := by
    rw [after_insertChannel, after_updateChannel]
    exact congrArg (fun t ↦ { db with channels := t }) (Table.modify_insert ..)
  rw [recalculateChannel_eq]
  simp only [recalculateChannelWith, query_bind, exec_bind, run_stmt_after, after_query, hlocked]
  change ((if db.autoFlags b q.channelID then _ else _ : Tx DB Write (Bool × ℕ)).run
    ((db.after _).after (updateChannel _ _ _ (db.flaggedVideos _) (db.trackedVideos _)
      (db.autoFlags b q.channelID)))).2 = _
  rw [hupdated]
  split_ifs <;> rfl

/-- **The row a recalculation leaves.** -/
theorem lookup_recalculateChannel (b : Backend) (q : ChannelRequest) (db : DB) :
    ((recalculateChannel b q).run db).2.channels.lookup q.channelID = some (db.channelRow b q) := by
  rw [run_recalculateChannel]
  dsimp only
  split_ifs
  · rw [channels_setPreliminaryScore]
    exact Table.lookup_insert_self ..
  · exact Table.lookup_insert_self ..

/-- The rows of the other channels stay. -/
theorem lookup_recalculateChannel_of_ne (b : Backend) (q : ChannelRequest) (db : DB)
    {ch : ChannelID} (h : ch ≠ q.channelID) :
    ((recalculateChannel b q).run db).2.channels.lookup ch = db.channels.lookup ch := by
  rw [run_recalculateChannel]
  dsimp only
  split_ifs
  · rw [channels_setPreliminaryScore]
    exact Table.lookup_insert_of_ne _ _ h
  · exact Table.lookup_insert_of_ne _ _ h

/-- **The videos after a recalculation**: when it auto-flags the channel, its videos without votes
and score have the preliminary one. -/
theorem videos_recalculateChannel (b : Backend) (q : ChannelRequest) (db : DB) (v : VideoID) :
    ((recalculateChannel b q).run db).2.videos.lookup v = (db.videos.lookup v).map
      (if db.autoFlags b q.channelID then Video.setPreliminary q.scoredAt q.channelID else id) := by
  rw [run_recalculateChannel]
  dsimp only
  split_ifs
  · rw [lookup_setPreliminaryScore, ite_eq_left_iff]
    intro hfound
    change db.videos.lookup v = _
    cases hrow : db.videos.lookup v with
    | none => rfl
    | some row =>
      -- the query has missed it because it has votes or a score
      rw [Option.map_some, Video.setPreliminary, if_neg]
      intro hunscored
      refine hfound (q.scanOrder.mem_list.2 (Finset.mem_filter.2 ⟨?_, row, hrow, hunscored⟩))
      exact Finmap.mem_keys.2 (Finmap.mem_of_lookup_eq_some hrow)
  · rw [Option.map_id]
    rfl

/-- The category rows stay. -/
theorem videoCategories_recalculateChannel (b : Backend) (q : ChannelRequest) (db : DB) :
    ((recalculateChannel b q).run db).2.videoCategories = db.videoCategories := by
  rw [run_recalculateChannel]
  dsimp only
  split_ifs
  · exact setPreliminaryScore_of_video (f := DB.videoCategories) (fun _ _ _ ↦ rfl) _ _ _ _
  · rfl

/-- Recalculations of channels one after another. -/
theorem run_recalculateChannels (b : Backend) (request : ChannelID → ChannelRequest)
    (channelIDs : List ChannelID) (counts : TickCounts) (db : DB) :
    ((recalculateChannels b request channelIDs counts).run db).2 =
      channelIDs.foldl (fun db ch ↦ ((recalculateChannel b (request ch)).run db).2) db := by
  induction channelIDs generalizing counts db with
  | nil => rfl
  | cons ch channelIDs ih => rw [recalculateChannels, run_bind, ih, List.foldl_cons]

/-- **A tick** recalculates the channels it has found. -/
theorem run_recalculateAll (b : Backend) (order : Arrangement ChannelID)
    (request : ChannelID → ChannelRequest) (db : DB) :
    ((recalculateAll b order request).run db).2 =
      (selectChannels order db).foldl
        (fun db ch ↦ ((recalculateChannel b (request ch)).run db).2) db := by
  rw [recalculateAll, query_bind, run_stmt_after, after_query, run_recalculateChannels]

end RealTube
