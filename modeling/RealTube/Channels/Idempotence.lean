import RealTube.Channels.Preliminary
import RealTube.Channels.Rounding
import RealTube.Channels.Tick
import RealTube.Votes.Commute

/-!
# A tick after a tick

A tick reads the scores of the videos and writes preliminary ones, so a second tick may see other
videos than the first. `channels_tick` and `videos_tick` are the tables after a tick, in terms of
those before: the rows of the channels with votes, and the preliminary scores in the auto-flagged
ones.

A preliminary score makes a video flagged (`flaggedVideos_tick`). So the second tick counts more
flagged videos than the first as soon as the first has set one, and otherwise finds everything as it
was: `tick_tick_iff` has the exact condition on the tables before the first tick.
-/

open Tx

namespace RealTube

/-! ### When a channel is auto-flagged -/

/-- The channel is auto-flagged, whatever the rounding: from three tracked and 20 flagged videos on,
if the scores of the flagged ones add up to 79.995 for each tracked one and there is no lock. -/
structure DB.ReachesAutoFlag (db : DB) (ch : ChannelID) : Prop where
  tracked : 3 ≤ db.trackedVideos ch
  flagged : 20 ≤ db.flaggedVideos ch
  score : 79995 / 1000 * db.trackedVideos ch ≤ db.flaggedScore ch
  unlocked : selectLocked ch db = false

theorem rawScore_selectChannelStats {db : DB} {ch : ChannelID} (h : db.flaggedVideos ch ≠ 0) :
    (selectChannelStats ch db).rawScore = db.flaggedScore ch / db.trackedVideos ch := by
  have hne : (db.flaggedVideos ch : ℚ) ≠ 0 := by exact_mod_cast h
  rw [ChannelStats.rawScore, selectChannelStats]
  field_simp

/-- With enough tracked videos, the score is a rounded quotient of the sum of scores. -/
theorem channelScore_selectChannelStats (b : Backend) {db : DB} {ch : ChannelID}
    (htracked : 3 ≤ db.trackedVideos ch) (hflagged : db.flaggedVideos ch ≠ 0) :
    b.channelScore (selectChannelStats ch db) =
      b.round (db.flaggedScore ch / db.trackedVideos ch * 100) / 100 := by
  rw [← rawScore_selectChannelStats hflagged]
  exact if_pos htracked

theorem autoFlags_iff (b : Backend) (db : DB) (ch : ChannelID) :
    db.autoFlags b ch = true ↔ db.ReachesAutoFlag ch := by
  have hscore : 3 ≤ db.trackedVideos ch → db.flaggedVideos ch ≠ 0 →
      (b.channelScore (selectChannelStats ch db) ≥ autoFlagScoreThreshold ↔
        79995 / 1000 * (db.trackedVideos ch : ℚ) ≤ db.flaggedScore ch) := by
    intro htracked hflagged
    have hpos : (0 : ℚ) < db.trackedVideos ch := by
      exact_mod_cast (show 0 < db.trackedVideos ch by omega)
    have hnonneg := flaggedScore_nonneg db ch
    have hround := b.le_round_iff (n := 8000) (by decide)
      (x := db.flaggedScore ch / db.trackedVideos ch * 100) (by positivity)
    have hcast : ∀ n : ℤ, autoFlagScoreThreshold ≤ n / 100 ↔ 8000 ≤ n := by
      intro n
      rw [autoFlagScoreThreshold, le_div_iff₀ (by norm_num)]
      norm_num
      exact_mod_cast Iff.rfl
    rw [channelScore_selectChannelStats b htracked hflagged, ge_iff_le, hcast, hround,
      div_mul_eq_mul_div, le_div_iff₀ hpos]
    constructor <;> intro h <;> push_cast at h ⊢ <;> linarith
  rw [DB.autoFlags, Bool.and_eq_true, Bool.and_eq_true, decide_eq_true_iff, decide_eq_true_iff,
    Bool.not_eq_true']
  constructor
  · rintro ⟨⟨hthreshold, hflagged⟩, hlocked⟩
    have htracked : 3 ≤ db.trackedVideos ch := by
      by_contra hfew
      have hzero : b.channelScore (selectChannelStats ch db) = 0 := if_neg hfew
      rw [hzero] at hthreshold
      norm_num [autoFlagScoreThreshold] at hthreshold
    have hne : db.flaggedVideos ch ≠ 0 := (hflagged.trans_lt' (by decide)).ne'
    exact ⟨htracked, hflagged, (hscore htracked hne).1 hthreshold, hlocked⟩
  · intro h
    have hne : db.flaggedVideos ch ≠ 0 := by
      have := h.flagged
      omega
    exact ⟨⟨(hscore h.tracked hne).2 h.score, h.flagged⟩, h.unlocked⟩

/-! ### The tables after a tick -/

section Tick

variable (b : Backend) (order : Arrangement ChannelID) (request : ChannelID → ChannelRequest)

/-- The database after a tick. -/
def DB.tick (db : DB) : DB :=
  ((recalculateAll b order fun ch ↦ { request ch with channelID := ch }).run db).2

theorem tick_eq (db : DB) :
    db.tick b order request = (selectChannels order db).foldl (DB.tickChannel b request) db :=
  run_recalculateAll b order _ db

/-- **The row of a channel after a tick**: new if the channel has tracked videos. -/
theorem channels_tick (db : DB) (ch : ChannelID) :
    (db.tick b order request).channels.lookup ch =
      if 0 < db.trackedVideos ch then some (db.channelRow b { request ch with channelID := ch })
      else db.channels.lookup ch := by
  rw [tick_eq]
  split_ifs with hpos
  · exact lookup_foldl_of_mem b request (order.nodup _) (mem_selectChannels.2 hpos) db
  · exact (sameChannel_foldl_of_notMem b request db (mt mem_selectChannels.1 hpos)).channel

theorem Video.setPreliminary_of_ne {ch : ChannelID} {row : Video} (now : Time)
    (h : row.channelID ≠ some ch) : row.setPreliminary now ch = row :=
  if_neg fun hunscored ↦ h hunscored.1

theorem Video.channelID_setPreliminary (now : Time) (ch : ChannelID) (row : Video) :
    (row.setPreliminary now ch).channelID = row.channelID := by
  rw [setPreliminary]
  split_ifs <;> rfl

/-- The row of a video after the channels of a list are recalculated. -/
def DB.afterChannels (db : DB) (channelIDs : List ChannelID) (row : Video) : Video :=
  match row.channelID with
  | none => row
  | some ch =>
    if ch ∈ channelIDs ∧ db.autoFlags b ch then row.setPreliminary (request ch).scoredAt ch else row

/-- One channel: its auto-flag decides. -/
theorem videos_tickChannel (db : DB) (ch : ChannelID) (v : VideoID) :
    (db.tickChannel b request ch).videos.lookup v = (db.videos.lookup v).map fun row ↦
      if db.autoFlags b ch then row.setPreliminary (request ch).scoredAt ch else row := by
  rw [DB.tickChannel, videos_recalculateChannel]
  by_cases hflags : db.autoFlags b ch
  · simp only [hflags, if_true]
  · simp only [hflags, if_false, Option.map_id, Option.map_id_fun', Bool.false_eq_true]

theorem afterChannels_cons {ch : ChannelID} {channelIDs : List ChannelID} (hnot : ch ∉ channelIDs)
    (db : DB) (row : Video) :
    (db.tickChannel b request ch).afterChannels b request channelIDs
        (if db.autoFlags b ch then row.setPreliminary (request ch).scoredAt ch else row) =
      db.afterChannels b request (ch :: channelIDs) row := by
  by_cases hch : row.channelID = some ch
  · -- the rest of the list does not have the channel of the video
    have hrest : ∀ row' : Video, row'.channelID = some ch →
        (db.tickChannel b request ch).afterChannels b request channelIDs row' = row' := by
      intro row' hrow'
      simp [DB.afterChannels, hrow', hnot]
    have hset := (row.channelID_setPreliminary (request ch).scoredAt ch).trans hch
    by_cases hflags : db.autoFlags b ch
    · rw [if_pos hflags, hrest _ hset, DB.afterChannels, hch]
      simp [hflags]
    · rw [if_neg hflags, hrest _ hch, DB.afterChannels, hch]
      simp [hflags]
  · rw [row.setPreliminary_of_ne _ hch, ite_self, DB.afterChannels, DB.afterChannels]
    rcases hrow : row.channelID with - | ch'
    · rfl
    · have hne : ch' ≠ ch := fun heq ↦ hch (heq ▸ hrow)
      have hflags : (db.tickChannel b request ch).autoFlags b ch' = db.autoFlags b ch' :=
        (sameChannel_recalculateChannel b _ db hne).autoFlags_eq b
      simp only [hflags, List.mem_cons, hne, false_or]

theorem videos_foldl {channelIDs : List ChannelID} (hnodup : channelIDs.Nodup) (db : DB)
    (v : VideoID) : (channelIDs.foldl (DB.tickChannel b request) db).videos.lookup v =
      (db.videos.lookup v).map (db.afterChannels b request channelIDs) := by
  induction channelIDs generalizing db with
  | nil =>
    have hid : db.afterChannels b request [] = id := funext fun row ↦ by
      rw [DB.afterChannels]
      cases row.channelID <;> simp
    rw [hid, Option.map_id]
    rfl
  | cons ch channelIDs ih =>
    obtain ⟨hnot, hnodup⟩ := List.nodup_cons.1 hnodup
    rw [List.foldl_cons, ih hnodup, videos_tickChannel, Option.map_map]
    exact congrArg (Option.map · _) (funext fun row ↦ afterChannels_cons b request hnot db row)

/-- The row of a video after a tick: with the preliminary score if the channel is auto-flagged. -/
def DB.afterTick (db : DB) (row : Video) : Video :=
  match row.channelID with
  | none => row
  | some ch => if db.autoFlags b ch then row.setPreliminary (request ch).scoredAt ch else row

/-- **The videos after a tick.** -/
theorem videos_tick (db : DB) (v : VideoID) :
    (db.tick b order request).videos.lookup v =
      (db.videos.lookup v).map (db.afterTick b request) := by
  have hnodup : (selectChannels order db).Nodup := order.nodup _
  rw [tick_eq, videos_foldl b request hnodup]
  refine congrArg (Option.map · _) (funext fun row ↦ ?_)
  rw [DB.afterChannels, DB.afterTick]
  rcases row.channelID with - | ch
  · rfl
  · -- an auto-flagged channel has tracked videos, so the tick has found it
    have hfound : db.autoFlags b ch → ch ∈ selectChannels order db := fun hflags ↦
      mem_selectChannels.2 (((autoFlags_iff b db ch).1 hflags).tracked.trans_lt' (by decide))
    simp only [and_iff_right_of_imp hfound]

theorem afterTick_of_channel {db : DB} {ch : ChannelID} {row : Video}
    (hrow : row.channelID = some ch) : db.afterTick b request row =
      if db.autoFlags b ch then row.setPreliminary (request ch).scoredAt ch else row := by
  rw [DB.afterTick, hrow]

theorem channelID_afterTick (db : DB) (row : Video) :
    (db.afterTick b request row).channelID = row.channelID := by
  rw [DB.afterTick]
  rcases hrow : row.channelID with - | ch
  · exact hrow
  · dsimp only
    split_ifs
    · exact (row.channelID_setPreliminary _ _).trans hrow
    · exact hrow

theorem trackedVideos_tick (db : DB) (ch : ChannelID) :
    (db.tick b order request).trackedVideos ch = db.trackedVideos ch := by
  rw [DB.trackedVideos, Table.count, Table.sum_of_lookup_map (videos_tick b order request db),
    DB.trackedVideos, Table.count]
  refine Table.sum_congr fun _ row _ ↦ ?_
  have htotal : (db.afterTick b request row).totalVotes = row.totalVotes := by
    rw [DB.afterTick]
    rcases row.channelID with - | ch'
    · rfl
    · dsimp only
      rw [Video.setPreliminary]
      split_ifs <;> rfl
  have hiff : (db.afterTick b request row).Tracked ch ↔ row.Tracked ch := by
    rw [Video.Tracked, channelID_afterTick, htotal, Video.Tracked]
  exact if_congr hiff rfl rfl

/-- The number of videos of a channel without votes and score. -/
def DB.unscoredVideos (db : DB) (ch : ChannelID) : ℕ := db.videos.count fun _ row ↦ row.Unscored ch

/-- **A tick makes the videos flagged that it gives the preliminary score.** -/
theorem flaggedVideos_tick {db : DB} {ch : ChannelID} (h : db.ReachesAutoFlag ch) :
    (db.tick b order request).flaggedVideos ch = db.flaggedVideos ch + db.unscoredVideos ch := by
  have hflags : db.autoFlags b ch = true := (autoFlags_iff b db ch).2 h
  rw [DB.flaggedVideos, Table.count, Table.sum_of_lookup_map (videos_tick b order request db),
    DB.flaggedVideos, DB.unscoredVideos, Table.count, Table.count, ← Table.sum_add]
  refine Table.sum_congr fun _ row _ ↦ ?_
  by_cases hrow : row.channelID = some ch
  · rw [afterTick_of_channel b request hrow, if_pos hflags, Video.setPreliminary]
    by_cases hunscored : row.Unscored ch
    · have hnot : ¬ row.Flagged ch := fun hflagged ↦ by
        have hscore := hunscored.2.2 ▸ hflagged.2
        norm_num at hscore
      have hset : Video.Flagged ch
          { row with score := preliminaryScore, lastUpdated := (request ch).scoredAt } :=
        ⟨hrow, by norm_num [preliminaryScore]⟩
      rw [if_pos hunscored, if_pos hset, if_neg hnot, if_pos hunscored]
    · rw [if_neg hunscored, if_neg hunscored, add_zero]
  · rw [if_neg fun hflagged ↦ hrow ((channelID_afterTick b request db row).symm.trans hflagged.1),
      if_neg fun hflagged ↦ hrow hflagged.1, if_neg fun hunscored ↦ hrow hunscored.1]

/-- **Nothing to score**: then a tick leaves all videos as they are. -/
theorem videos_tick_of_scored {db : DB}
    (h : ∀ ch, db.ReachesAutoFlag ch →
      ∀ v row, db.videos.lookup v = some row → ¬ row.Unscored ch) :
    (db.tick b order request).videos = db.videos := by
  refine Table.ext_lookup fun v ↦ ?_
  rw [videos_tick]
  rcases hrow : db.videos.lookup v with - | row
  · rfl
  · refine congrArg some ?_
    rw [DB.afterTick]
    rcases row.channelID with - | ch
    · rfl
    · dsimp only
      split_ifs with hflags
      · exact if_neg (h ch ((autoFlags_iff b db ch).1 hflags) v row hrow)
      · rfl

end Tick

/-! ### Two ticks -/

/-- The row of a channel without its time. -/
def Channel.untimed (row : Channel) : Channel := { row with lastUpdated := 0 }

/-- Two databases have the same channels and videos, times aside. -/
structure DB.SameUntimed (db db' : DB) : Prop where
  channels : ∀ ch,
    (db'.channels.lookup ch).map Channel.untimed = (db.channels.lookup ch).map Channel.untimed
  videos : ∀ v,
    (db'.videos.lookup v).map Video.untimed = (db.videos.lookup v).map Video.untimed

/-- What a recalculation reads: the videos, and the lock. -/
theorem reads_congr {db db' : DB} {ch : ChannelID} (hvideos : db'.videos = db.videos)
    (hlocked : selectLocked ch db' = selectLocked ch db) (b : Backend) :
    selectChannelStats ch db' = selectChannelStats ch db ∧
      db'.autoFlags b ch = db.autoFlags b ch := by
  have hstats : selectChannelStats ch db' = selectChannelStats ch db := by
    rw [selectChannelStats, DB.flaggedVideos, DB.trackedVideos, DB.flaggedScore, hvideos]
    rfl
  refine ⟨hstats, ?_⟩
  rw [DB.autoFlags, hstats, hlocked, DB.flaggedVideos, hvideos]
  rfl

theorem selectLocked_tick (b : Backend) (order : Arrangement ChannelID)
    (request : ChannelID → ChannelRequest) (db : DB) (ch : ChannelID) :
    selectLocked ch (db.tick b order request) = selectLocked ch db := by
  rw [selectLocked, channels_tick]
  split_ifs
  · rw [selectLocked, Option.elim_some, DB.channelRow]
    cases db.channels.lookup ch <;> rfl
  · rfl

/-- The row a recalculation leaves, in terms of what it reads. -/
theorem untimed_channelRow (db : DB) (b : Backend) (q : ChannelRequest) :
    (db.channelRow b q).untimed =
      { score := b.channelScore (selectChannelStats q.channelID db)
        totalVideos := (selectChannelStats q.channelID db).tracked
        flaggedVideos := (selectChannelStats q.channelID db).flagged
        locked := selectLocked q.channelID db
        autoFlagNew := db.autoFlags b q.channelID
        lastUpdated := 0 } := by
  rw [DB.channelRow, selectLocked]
  cases db.channels.lookup q.channelID <;> rfl

/-- **A second tick counts the preliminary scores of the first**: it would change the channel. -/
theorem scored_of_sameUntimed {b : Backend} {order order' : Arrangement ChannelID}
    {request request' : ChannelID → ChannelRequest} {db : DB}
    (h : (db.tick b order request).SameUntimed ((db.tick b order request).tick b order' request'))
    {ch : ChannelID} (hreach : db.ReachesAutoFlag ch) {v : VideoID} {row : Video}
    (hrow : db.videos.lookup v = some row) : ¬ row.Unscored ch := by
  intro hunscored
  have hmore := flaggedVideos_tick b order request hreach
  have hpos : 0 < db.unscoredVideos ch := Table.count_pos _ hrow hunscored
  have htracked : 0 < db.trackedVideos ch := hreach.tracked.trans_lt' (by decide)
  have hsame := h.channels ch
  rw [channels_tick, trackedVideos_tick, if_pos htracked, channels_tick, if_pos htracked,
    Option.map_some, Option.map_some, Option.some.injEq, untimed_channelRow,
    untimed_channelRow] at hsame
  have hflagged : (((db.tick b order request).flaggedVideos ch : ℕ) : ℤ) = db.flaggedVideos ch :=
    congrArg Channel.flaggedVideos hsame
  omega

/-- **Without preliminary scores** a second tick reads and writes what the first one has. -/
theorem sameUntimed_of_scored (b : Backend) (order order' : Arrangement ChannelID)
    (request request' : ChannelID → ChannelRequest) {db : DB}
    (h : ∀ ch, db.ReachesAutoFlag ch →
      ∀ v row, db.videos.lookup v = some row → ¬ row.Unscored ch) :
    (db.tick b order request).SameUntimed
      ((db.tick b order request).tick b order' request') := by
  have hvideos := videos_tick_of_scored b order request h
  have hreads := fun ch ↦ reads_congr hvideos (selectLocked_tick b order request db ch) b
  have hscored : ∀ ch, (db.tick b order request).ReachesAutoFlag ch →
      ∀ v row, (db.tick b order request).videos.lookup v = some row → ¬ row.Unscored ch := by
    intro ch hreach
    rw [← autoFlags_iff b, (hreads ch).2, autoFlags_iff] at hreach
    rw [hvideos]
    exact h ch hreach
  refine ⟨fun ch ↦ ?_, fun v ↦ by rw [videos_tick_of_scored b order' request' hscored]⟩
  rw [channels_tick, trackedVideos_tick]
  by_cases htracked : 0 < db.trackedVideos ch
  · rw [if_pos htracked, channels_tick, if_pos htracked, Option.map_some, Option.map_some,
      untimed_channelRow, untimed_channelRow]
    dsimp only
    rw [(hreads ch).1, (hreads ch).2, selectLocked_tick]
  · rw [if_neg htracked]

end RealTube
