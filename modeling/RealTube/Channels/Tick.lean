import RealTube.Channels.Score
import Mathlib.Data.String.Basic

/-!
# A tick of the channel worker

A tick asks once which channels have a video with votes, and then recalculates these one after
another. Each recalculation reads and writes only the videos and the row of its own channel
(`sameChannel_recalculateChannel`), so every channel the tick visits gets the row that the formula
gives on the tables the tick started from (`channels_foldl_of_mem`). A channel it does not visit
keeps the row it had.

The query is on the votes, and the channels are not: a channel whose videos have lost all their
votes has a row, and is visited no more. `upToDate_iff` says that the tick brings all rows up to
date exactly when the rows of such channels are so already.
-/

open Tx

namespace RealTube

/-! ### What belongs to a channel -/

/-- The row of a video, if it is of the channel. -/
def DB.videoOf (db : DB) (ch : ChannelID) (v : VideoID) : Option Video :=
  (db.videos.lookup v).filter fun row ↦ row.channelID = some ch

/-- Two databases have the same row and the same videos of a channel. -/
structure DB.SameChannel (ch : ChannelID) (db db' : DB) : Prop where
  channel : db'.channels.lookup ch = db.channels.lookup ch
  videos : ∀ v, db'.videoOf ch v = db.videoOf ch v

namespace DB.SameChannel

variable {ch : ChannelID} {db db' db'' : DB}

theorem refl (ch : ChannelID) (db : DB) : db.SameChannel ch db := ⟨rfl, fun _ ↦ rfl⟩

theorem trans (h : db.SameChannel ch db') (h' : db'.SameChannel ch db'') :
    db.SameChannel ch db'' :=
  ⟨h'.channel.trans h.channel, fun v ↦ (h'.videos v).trans (h.videos v)⟩

/-- An aggregate over the videos of the channel. -/
theorem sum_eq {M : Type} [AddCommMonoid M] (h : db.SameChannel ch db') {f : VideoID → Video → M}
    (hf : ∀ v row, row.channelID ≠ some ch → f v row = 0) : db'.videos.sum f = db.videos.sum f := by
  have hfilter : ∀ (row : Option Video) v,
      row.elim 0 (f v) = (row.filter fun row ↦ row.channelID = some ch).elim 0 (f v) := by
    rintro (_ | row) v
    · rfl
    · by_cases hrow : row.channelID = some ch
      · rw [Option.filter_some_pos (by simpa using hrow)]
      · rw [Option.filter_some_neg (by simpa using hrow)]
        exact hf v row hrow
  refine Table.sum_congr_lookup fun v ↦ ?_
  rw [hfilter, hfilter (db.videos.lookup v)]
  exact congrArg (Option.elim · 0 (f v)) (h.videos v)

theorem flaggedVideos_eq (h : db.SameChannel ch db') :
    db'.flaggedVideos ch = db.flaggedVideos ch :=
  h.sum_eq fun _ _ hrow ↦ if_neg fun hf ↦ hrow hf.1

theorem trackedVideos_eq (h : db.SameChannel ch db') :
    db'.trackedVideos ch = db.trackedVideos ch :=
  h.sum_eq fun _ _ hrow ↦ if_neg fun hf ↦ hrow hf.1

theorem stats_eq (h : db.SameChannel ch db') :
    selectChannelStats ch db' = selectChannelStats ch db := by
  have hscore : db'.flaggedScore ch = db.flaggedScore ch :=
    h.sum_eq fun _ _ hrow ↦ if_neg fun hf ↦ hrow hf.1
  rw [selectChannelStats, h.flaggedVideos_eq, h.trackedVideos_eq, hscore, selectChannelStats]

theorem autoFlags_eq (h : db.SameChannel ch db') (b : Backend) :
    db'.autoFlags b ch = db.autoFlags b ch := by
  rw [DB.autoFlags, h.stats_eq, h.flaggedVideos_eq, selectLocked, h.channel]
  rfl

theorem channelRow_eq {q : ChannelRequest} (h : db.SameChannel q.channelID db') (b : Backend) :
    db'.channelRow b q = db.channelRow b q := by
  rw [DB.channelRow, h.channel, h.stats_eq, h.flaggedVideos_eq, h.trackedVideos_eq, h.autoFlags_eq,
    DB.channelRow]

end DB.SameChannel

/-- A recalculation changes no channel of a video. -/
theorem channelID_recalculateChannel (b : Backend) (q : ChannelRequest) (db : DB) (v : VideoID) :
    (((recalculateChannel b q).run db).2.videos.lookup v).map Video.channelID =
      (db.videos.lookup v).map Video.channelID := by
  have hset : ∀ row : Video, (row.setPreliminary q.scoredAt q.channelID).channelID =
      row.channelID := fun row ↦ by
    rw [Video.setPreliminary]
    split_ifs <;> rfl
  rw [videos_recalculateChannel, Option.map_map]
  refine Option.map_congr fun row _ ↦ ?_
  rw [Function.comp_apply]
  split_ifs
  · exact hset row
  · rfl

/-- **A recalculation leaves the other channels alone.** -/
theorem sameChannel_recalculateChannel (b : Backend) (q : ChannelRequest) (db : DB)
    {ch : ChannelID} (h : ch ≠ q.channelID) :
    db.SameChannel ch ((recalculateChannel b q).run db).2 where
  channel := lookup_recalculateChannel_of_ne b q db h
  videos v := by
    rw [DB.videoOf, DB.videoOf, videos_recalculateChannel]
    cases hrow : db.videos.lookup v with
    | none => rfl
    | some row =>
      by_cases hch : row.channelID = some q.channelID
      · -- a video of the other channel stays one
        have hne : row.channelID ≠ some ch := fun hrow' ↦ h (Option.some.inj (hrow'.symm.trans hch))
        have hchannelID := channelID_recalculateChannel b q db v
        rw [videos_recalculateChannel, hrow, Option.map_some, Option.map_some,
          Option.map_some] at hchannelID
        rw [Option.map_some, Option.filter_some_neg, Option.filter_some_neg]
        · simpa using hne
        · simpa [Option.some.inj hchannelID] using hne
      · have hsame : row.setPreliminary q.scoredAt q.channelID = row :=
          if_neg fun hunscored ↦ hch hunscored.1
        rw [Option.map_some]
        split_ifs
        · rw [hsame]
        · rfl

/-! ### The loop -/

section Loop

variable (b : Backend) (request : ChannelID → ChannelRequest)

/-- One round of the loop. -/
def DB.tickChannel (db : DB) (ch : ChannelID) : DB :=
  ((recalculateChannel b { request ch with channelID := ch }).run db).2

variable {ch : ChannelID} {channelIDs : List ChannelID}

/-- A channel that the loop does not visit is left alone. -/
theorem sameChannel_foldl_of_notMem (db : DB) (h : ch ∉ channelIDs) :
    db.SameChannel ch (channelIDs.foldl (DB.tickChannel b request) db) := by
  induction channelIDs generalizing db with
  | nil => exact .refl ch db
  | cons ch' channelIDs ih =>
    obtain ⟨hne, hnot⟩ := not_or.1 (List.mem_cons.not.1 h)
    exact (sameChannel_recalculateChannel b _ db hne).trans (ih _ hnot)

/-- The loop changes no channel of a video. -/
theorem channelID_foldl (db : DB) (v : VideoID) :
    ((channelIDs.foldl (DB.tickChannel b request) db).videos.lookup v).map Video.channelID =
      (db.videos.lookup v).map Video.channelID := by
  induction channelIDs generalizing db with
  | nil => rfl
  | cons ch' channelIDs ih => exact (ih _).trans (channelID_recalculateChannel b _ db v)

end Loop

/-! ### Rows up to date -/

/-- The row has the values that the formula gives on the database. -/
structure DB.UpToDate (db : DB) (b : Backend) (ch : ChannelID) (row : Channel) : Prop where
  score : row.score = b.channelScore (selectChannelStats ch db)
  flaggedVideos : row.flaggedVideos = db.flaggedVideos ch
  totalVideos : row.totalVideos = db.trackedVideos ch
  autoFlagNew : row.autoFlagNew = db.autoFlags b ch

/-- **A channel that the loop visits** gets the row computed from the tables as they were when it
began. -/
theorem lookup_foldl_of_mem (b : Backend) (request : ChannelID → ChannelRequest)
    {ch : ChannelID} {channelIDs : List ChannelID} (hnodup : channelIDs.Nodup)
    (h : ch ∈ channelIDs) (db : DB) :
    (channelIDs.foldl (DB.tickChannel b request) db).channels.lookup ch =
      some (db.channelRow b { request ch with channelID := ch }) := by
  obtain ⟨before, after, rfl⟩ := List.append_of_mem h
  have hdisjoint : ch ∉ before ∧ ch ∉ after :=
    ⟨fun hmem ↦ (List.nodup_append.1 hnodup).2.2 ch hmem ch List.mem_cons_self rfl,
      (List.nodup_cons.1 (List.nodup_append.1 hnodup).2.1).1⟩
  rw [List.foldl_append, List.foldl_cons]
  have hbefore := sameChannel_foldl_of_notMem b request db hdisjoint.1
  generalize before.foldl (DB.tickChannel b request) db = mid at hbefore
  have hafter := sameChannel_foldl_of_notMem b request
    (mid.tickChannel b request ch) hdisjoint.2
  rw [hafter.channel, DB.tickChannel, lookup_recalculateChannel]
  exact congrArg some (hbefore.channelRow_eq b)

/-- It is brought up to date. -/
theorem channels_foldl_of_mem (b : Backend) (request : ChannelID → ChannelRequest)
    {ch : ChannelID} {channelIDs : List ChannelID} (hnodup : channelIDs.Nodup)
    (h : ch ∈ channelIDs) (db : DB) :
    ∃ row, (channelIDs.foldl (DB.tickChannel b request) db).channels.lookup ch = some row ∧
      db.UpToDate b ch row :=
  ⟨_, lookup_foldl_of_mem b request hnodup h db, rfl, rfl, rfl, rfl⟩

/-- The query of a tick finds the channels that have a tracked video. -/
theorem mem_selectChannels {order : Arrangement ChannelID} {db : DB} {ch : ChannelID} :
    ch ∈ selectChannels order db ↔ 0 < db.trackedVideos ch := by
  rw [selectChannels, order.mem_list, Finset.mem_biUnion]
  constructor
  · rintro ⟨v, -, hv⟩
    cases hrow : db.videos.lookup v with
    | none => simp [hrow] at hv
    | some row =>
      rw [hrow] at hv
      dsimp only at hv
      split_ifs at hv with hvotes
      · exact Table.count_pos _ hrow ⟨by simpa using hv, hvotes⟩
      · simp at hv
  · intro hpos
    obtain ⟨v, row, hrow, hch, hvotes⟩ := Table.exists_of_count_pos _ hpos
    refine ⟨v, Finmap.mem_keys.2 (Finmap.mem_of_lookup_eq_some hrow), ?_⟩
    simp [hrow, hch, hvotes]

/-- Without tracked videos the formula gives the score 0, and no auto-flag. -/
theorem channelScore_untracked (b : Backend) {db : DB} {ch : ChannelID}
    (h : db.trackedVideos ch = 0) : b.channelScore (selectChannelStats ch db) = 0 := by
  refine if_neg fun htracked ↦ ?_
  rw [show (selectChannelStats ch db).tracked = 0 from h] at htracked
  omega

theorem autoFlags_untracked (b : Backend) {db : DB} {ch : ChannelID}
    (h : db.trackedVideos ch = 0) : db.autoFlags b ch = false := by
  have hlow : ¬ (0 : ℚ) ≥ autoFlagScoreThreshold := by norm_num [autoFlagScoreThreshold]
  rw [DB.autoFlags, channelScore_untracked b h, decide_eq_false hlow, Bool.false_and,
    Bool.false_and]

/-- **A tick brings the rows of all channels up to date exactly when** every row of a channel that
has videos, and none with votes, has the score 0, no tracked videos, the right number of flagged
ones, and no auto-flag before. -/
theorem upToDate_iff (b : Backend) (order : Arrangement ChannelID)
    (request : ChannelID → ChannelRequest) (db : DB) :
    let db' := ((recalculateAll b order fun ch ↦ { request ch with channelID := ch }).run db).2
    (∀ ch row, db'.channels.lookup ch = some row →
        (∃ v video, db'.videos.lookup v = some video ∧ video.channelID = some ch) →
          db.UpToDate b ch row) ↔
      ∀ ch row, db.channels.lookup ch = some row →
        (∃ v video, db.videos.lookup v = some video ∧ video.channelID = some ch) →
          db.trackedVideos ch = 0 → row.score = 0 ∧ row.flaggedVideos = db.flaggedVideos ch ∧
            row.totalVideos = 0 ∧ row.autoFlagNew = false := by
  intro db'
  have hrun : db' = (selectChannels order db).foldl (DB.tickChannel b request) db :=
    run_recalculateAll b order _ db
  have hoccurs : ∀ ch, (∃ v video, db'.videos.lookup v = some video ∧ video.channelID = some ch) ↔
      ∃ v video, db.videos.lookup v = some video ∧ video.channelID = some ch := by
    intro ch
    refine exists_congr fun v ↦ ?_
    have hmap : (∃ video, db'.videos.lookup v = some video ∧ video.channelID = some ch) ↔
        (db'.videos.lookup v).map Video.channelID = some (some ch) := Option.map_eq_some_iff.symm
    rw [hmap, hrun, channelID_foldl, Option.map_eq_some_iff]
  -- the rows of the channels without votes are those of the start
  have hkept : ∀ ch, db.trackedVideos ch = 0 →
      db'.channels.lookup ch = db.channels.lookup ch := by
    intro ch hzero
    rw [hrun]
    exact (sameChannel_foldl_of_notMem b request db fun hmem ↦
      (mem_selectChannels.1 hmem).ne' hzero).channel
  constructor
  · intro h ch row hrow hvideo hzero
    have hright := h ch row ((hkept ch hzero).trans hrow) ((hoccurs ch).2 hvideo)
    refine ⟨hright.score.trans (channelScore_untracked b hzero), hright.flaggedVideos, ?_,
      hright.autoFlagNew.trans (autoFlags_untracked b hzero)⟩
    rw [hright.totalVideos, hzero]
    rfl
  · intro h ch row hrow hvideo
    by_cases hzero : db.trackedVideos ch = 0
    · obtain ⟨hscore, hflagged, htotal, hauto⟩ :=
        h ch row ((hkept ch hzero).symm.trans hrow) ((hoccurs ch).1 hvideo) hzero
      exact {
        score := hscore.trans (channelScore_untracked b hzero).symm
        flaggedVideos := hflagged
        totalVideos := htotal.trans (by rw [hzero]; rfl)
        autoFlagNew := hauto.trans (autoFlags_untracked b hzero).symm }
    · obtain ⟨row', hrow', hright⟩ := channels_foldl_of_mem b request
        (order.nodup _) (mem_selectChannels.2 (Nat.pos_of_ne_zero hzero)) db
      rw [hrun] at hrow
      exact Option.some.inj (hrow'.symm.trans hrow) ▸ hright

/-- A channel that was auto-flagged, and whose only video has lost its votes. -/
def votesLost : DB where
  users := ∅
  videos := (∅ : Table VideoID Video).insert "v" { Video.new 0 with channelID := some "c" }
  videoCategories := ∅
  votes := ∅
  channels := (∅ : Table ChannelID Channel).insert "c"
    { Channel.new 0 with score := 90, totalVideos := 25, flaggedVideos := 24, autoFlagNew := true }

/-- **A channel that has lost its votes keeps its old row**: no tick visits it. -/
theorem not_upToDate_votesLost :
    ¬ ∀ (b : Backend) (order : Arrangement ChannelID) (request : ChannelID → ChannelRequest)
      (db : DB),
      let db' := ((recalculateAll b order fun ch ↦ { request ch with channelID := ch }).run db).2
      ∀ ch row, db'.channels.lookup ch = some row →
        (∃ v video, db'.videos.lookup v = some video ∧ video.channelID = some ch) →
          db.UpToDate b ch row := by
  intro h
  have hcond := (fun ch row hrow hvideo ↦
    (h .go (.ascending ChannelID) (fun _ ↦ ⟨"c", 0, 0, 0, .ascending VideoID⟩) votesLost ch row hrow
      hvideo).autoFlagNew) "c"
      { Channel.new 0 with
        score := 90, totalVideos := 25, flaggedVideos := 24, autoFlagNew := true }
      (by decide +kernel) ⟨"v", _, rfl, rfl⟩
  revert hcond
  decide +kernel

end RealTube
