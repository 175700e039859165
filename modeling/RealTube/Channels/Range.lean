import RealTube.Channels.Score
import RealTube.Concurrency.Bounds
import Mathlib.Data.String.Basic

/-!
# The range of the channel scores

Votes, recalculations of videos and recalculations of channels, one at a time, from any tables whose
scores lie between 0 and 100. The scores of the videos stay there (`DB.InRange.runChannels`), the
preliminary ones included, so the average of the flagged ones does. What is left of the range of the
channel score is the quotient it is multiplied with: the flagged videos must be among the tracked
ones. They are as long as no event flags a video without votes (`channelRight_of_flagsNoUnvoted`),
and three events can: a recalculation of the channel, which gives videos without votes a preliminary
score; the deletion of the last vote on a flagged video; and, where the counter of the votes is
wrong, a recalculation of the video.

A channel worker breaks this itself: the preliminary scores it gives to the videos without votes of
an auto-flagged channel make them flagged, and the next tick counts them
(`not_channelRight_preliminary`).
-/

open Tx

namespace RealTube

/-! ### Serial runs -/

/-- A step of a serial run with recalculations of channels. -/
inductive ChannelEvent where
  | vote (call : VoteCall)
  | recalculate (b : Backend) (q : RecalculateRequest)
  | channel (b : Backend) (q : ChannelRequest)

/-- The database after an event. -/
def ChannelEvent.step (db : DB) : ChannelEvent → DB
  | vote call => (VoteEvent.request call).step db
  | recalculate b q => (ScoreEvent.recalculate b q).step db
  | channel b q => ((recalculateChannel b q).run db).2

/-- The database after a run. -/
def DB.runChannels (db : DB) (es : List ChannelEvent) : DB := es.foldl ChannelEvent.step db

/-- A tick is a run. -/
theorem run_recalculateAll_eq_runChannels (b : Backend) (order : Arrangement ChannelID)
    (request : ChannelID → ChannelRequest) (db : DB) :
    ((recalculateAll b order request).run db).2 =
      db.runChannels ((selectChannels order db).map fun ch ↦ .channel b (request ch)) := by
  rw [run_recalculateAll, DB.runChannels, List.foldl_map]
  rfl

/-! ### What a vote does to the rows of the videos -/

section Rows

variable {P : Video → Prop} {db : DB}

/-- A submission leaves the rows as they are, but for a new video and the counter of its own. -/
theorem DB.forall_videos_submit (h : ∀ v row, db.videos.lookup v = some row → P row)
    (q : VoteRequest) (hnew : P (Video.new q.now))
    (hcount : ∀ row (n : ℤ), P row → 0 ≤ n →
      P { row with totalVotes := row.totalVotes + n, lastUpdated := q.now }) :
    ∀ v row, (db.submit q).videos.lookup v = some row → P row := by
  intro v row hrow
  rw [DB.submit, Table.lookup_insert] at hrow
  by_cases hv : v = q.videoID
  · rw [if_pos hv] at hrow
    obtain rfl := Option.some.inj hrow
    refine hcount _ _ ?_ (by split_ifs <;> norm_num)
    rw [DB.videoOrNew]
    cases hvideo : db.videos.lookup q.videoID with
    | none => exact hnew
    | some old => exact h q.videoID old hvideo
  · rw [if_neg hv] at hrow
    exact h v row hrow

/-- So does a deletion, but for the counter. -/
theorem DB.forall_videos_unvote (h : ∀ v row, db.videos.lookup v = some row → P row)
    (q : VoteDeleteRequest) (c : Category)
    (hcount : ∀ row ∈ db.videos.lookup q.videoID, P row → 0 < row.totalVotes →
      P { row with totalVotes := row.totalVotes - 1, lastUpdated := q.now }) :
    ∀ v row, (db.unvote q c).videos.lookup v = some row → P row := by
  intro v row hrow
  change (db.videos.modify q.videoID _).lookup v = some row at hrow
  rw [Table.lookup_modify] at hrow
  split_ifs at hrow with hv
  · obtain ⟨old, hold, rfl⟩ := Option.map_eq_some_iff.1 hrow
    split_ifs with hpos
    · exact hcount old hold (h q.videoID old hold) hpos
    · exact h q.videoID old hold
  · exact h v row hrow

end Rows

/-! ### The scores of the videos -/

/-- Every score of a video lies between 0 and 100, and no weight is negative. -/
structure DB.InRange (db : DB) : Prop extends db.Nonneg where
  score : ∀ v row, db.videos.lookup v = some row → 0 ≤ row.score ∧ row.score ≤ 100

namespace DB.InRange

variable {db : DB}

theorem write (h : db.InRange) {x : Write} (hx : x.Nonneg ∧ x.Bounded) : (db.write x).InRange := by
  refine ⟨h.toNonneg.write hx.1, ?_⟩
  cases x with
  | video v row =>
    intro v' row' hrow
    rw [DB.write, Table.lookup_insert] at hrow
    split_ifs at hrow
    · exact Option.some.inj hrow ▸ hx.2
    · exact h.score v' row' hrow
  | _ => exact h.score

/-- A vote leaves the score of its video alone; a new video starts with 0. -/
theorem vote (h : db.InRange) (call : VoteCall) : ((VoteEvent.request call).step db).InRange := by
  refine ⟨nonneg_request h.toNonneg call, ?_⟩
  cases call with
  | submit b q =>
    rw [VoteEvent.step, runTx_submit]
    exact DB.forall_videos_submit h.score q ⟨le_rfl, by norm_num [Video.new]⟩ fun _ _ hrow _ ↦ hrow
  | delete b q =>
    rw [VoteEvent.step, runTx_delete]
    cases db.votedCategory q.videoID q.userID with
    | none => exact h.score
    | some c => exact DB.forall_videos_unvote h.score q c fun _ _ hrow _ ↦ hrow

end DB.InRange

/-- Weights that are not negative give no category more than the whole. -/
theorem DB.Nonneg.videoScore_le {db : DB} (h : db.Nonneg) (v : VideoID) :
    db.videoScore v ≤ 100 := by
  refine Finset.sup'_le _ _ fun c _ ↦ ?_
  have hle : db.weightIn v c ≤ db.weightOn v := by
    rw [← db.sum_weightIn v]
    exact Finset.single_le_sum (fun c _ ↦ h.weightIn_nonneg v c) (Finset.mem_univ c)
  rw [DB.categoryScore]
  linarith [div_le_one_of_le₀ hle (h.weightOn_nonneg v)]

theorem DB.InRange.recalculate {db : DB} (h : db.InRange) (q : RecalculateRequest) :
    (db.recalculate q).InRange := by
  refine ⟨⟨h.users, h.votes⟩, fun v row hrow ↦ ?_⟩
  rw [DB.recalculate, Table.lookup_modify] at hrow
  split_ifs at hrow
  · obtain ⟨old, -, rfl⟩ := Option.map_eq_some_iff.1 hrow
    exact ⟨db.videoScore_nonneg q.videoID, h.toNonneg.videoScore_le q.videoID⟩
  · exact h.score v row hrow

/-- A channel worker writes channels, and the preliminary score. -/
theorem emits_recalculateChannel (b : Backend) (q : ChannelRequest) :
    (recalculateChannel b q).Emits DB.InRange fun x ↦ x.Nonneg ∧ x.Bounded := by
  have hread : ∀ x ∈ ([] : List Write), x.Nonneg ∧ x.Bounded :=
    fun x hx ↦ absurd hx List.not_mem_nil
  rw [recalculateChannel_eq]
  refine fun s _ ↦ ⟨hread, fun s _ ↦ ⟨?_, fun s _ ↦ ⟨hread, fun s _ ↦ ⟨?_, ?_⟩⟩⟩⟩
  · rw [insertChannel]
    cases s.channels.lookup q.channelID <;> simp [Write.Nonneg, Write.Bounded]
  · rw [updateChannel]
    cases s.channels.lookup q.channelID <;> simp [Write.Nonneg, Write.Bounded]
  · split_ifs
    · refine fun s _ ↦ ⟨hread, fun s _ ↦ ⟨fun x hx ↦ ?_, trivial⟩⟩
      obtain ⟨v, -, hv⟩ := List.mem_filterMap.1 hx
      obtain ⟨row, -, hset⟩ := Option.bind_eq_some_iff.1 hv
      split_ifs at hset
      cases hset
      exact ⟨trivial, (by norm_num : (0 : ℚ) ≤ 60), (by norm_num : (60 : ℚ) ≤ 100)⟩
    · trivial

/-- **Every event keeps the scores of the videos in range.** -/
theorem DB.InRange.step {db : DB} (h : db.InRange) (e : ChannelEvent) : (e.step db).InRange := by
  cases e with
  | vote call => exact h.vote call
  | recalculate b q =>
    rw [ChannelEvent.step, step_recalculate]
    exact h.recalculate q
  | channel b q => exact (emits_recalculateChannel b q).run (fun hs hx ↦ hs.write hx) h

/-- **Every run does.** -/
theorem DB.InRange.runChannels {db : DB} (h : db.InRange) (es : List ChannelEvent) :
    (db.runChannels es).InRange := by
  induction es generalizing db with
  | nil => exact h
  | cons e es ih => exact ih (h.step e)

/-! ### The row of a channel -/

/-- The row of a channel is right: no more flagged videos than tracked ones, from three tracked
videos on, and a score between 0 and 100. -/
def DB.ChannelRight (db : DB) (ch : ChannelID) : Prop :=
  ∃ row ∈ db.channels.lookup ch,
    (3 ≤ row.totalVideos → row.flaggedVideos ≤ row.totalVideos) ∧ 0 ≤ row.score ∧ row.score ≤ 100

instance (db : DB) (ch : ChannelID) : Decidable (db.ChannelRight ch) :=
  inferInstanceAs (Decidable (∃ row ∈ db.channels.lookup ch, _))

/-- **A recalculation leaves the row of its channel right exactly when** fewer than three videos of
the channel have votes, or at most as many of its videos without votes are flagged as of those with
votes are not. -/
theorem channelRight_step_iff {db : DB} (hrange : db.InRange) (b : Backend) (q : ChannelRequest) :
    ((ChannelEvent.channel b q).step db).ChannelRight q.channelID ↔
      db.trackedVideos q.channelID < 3 ∨
        db.flaggedUntracked q.channelID ≤ db.trackedUnflagged q.channelID := by
  rw [DB.ChannelRight, ChannelEvent.step, lookup_recalculateChannel, ← flaggedVideos_le_iff]
  constructor
  · rintro ⟨row, hrow, hle, -⟩
    cases Option.some.inj hrow
    exact or_iff_not_imp_left.2 fun htracked ↦
      Int.ofNat_le.1 (hle (Int.ofNat_le.2 (not_lt.1 htracked)))
  · intro hcond
    have hle : 3 ≤ db.trackedVideos q.channelID →
        db.flaggedVideos q.channelID ≤ db.trackedVideos q.channelID :=
      fun htracked ↦ hcond.resolve_left (not_lt.2 htracked)
    exact ⟨_, rfl, fun htracked ↦ Int.ofNat_le.2 (hle (Int.ofNat_le.1 htracked)),
      channelScore_bounded b (fun v row hrow ↦ (hrange.score v row hrow).2) hle⟩

/-! ### Videos without votes -/

/-- **The event flags no video without votes.** It is no deletion of the last vote on a flagged
video, no recalculation of a video that has weight but no counted vote, and no recalculation of a
channel that may be auto-flagged, with twenty flagged videos and no lock, and has a video for the
preliminary score. -/
def ChannelEvent.FlagsNoUnvoted (db : DB) : ChannelEvent → Prop
  | vote (.submit _ _) => True
  | vote (.delete _ q) => db.votedCategory q.videoID q.userID ≠ none →
    ∀ row ∈ db.videos.lookup q.videoID, row.totalVotes = 1 → row.score < 50
  | recalculate _ q =>
    ∀ row ∈ db.videos.lookup q.videoID, row.totalVotes = 0 → db.weightOn q.videoID = 0
  | channel _ q => autoFlagMinFlagged ≤ db.flaggedVideos q.channelID →
    selectLocked q.channelID db = false →
      ∀ v ∈ db.videos.keys, ∀ row ∈ db.videos.lookup v, ¬row.Unscored q.channelID

instance (db : DB) : DecidablePred (ChannelEvent.FlagsNoUnvoted db)
  | .vote (.submit _ _) => .isTrue trivial
  | .vote (.delete _ _) => inferInstanceAs (Decidable (_ → ∀ row ∈ _, _))
  | .recalculate _ _ => inferInstanceAs (Decidable (∀ row ∈ _, _))
  | .channel _ _ => inferInstanceAs (Decidable (_ → _ → ∀ v ∈ _, _))

/-- No event of the run does. -/
def DB.FlagsNoUnvoted (db : DB) : List ChannelEvent → Prop
  | [] => True
  | e :: es => e.FlagsNoUnvoted db ∧ (e.step db).FlagsNoUnvoted es

instance decidableFlagsNoUnvoted : ∀ db : DB, DecidablePred db.FlagsNoUnvoted
  | _, [] => .isTrue trivial
  | db, e :: es =>
    have := decidableFlagsNoUnvoted (e.step db) es
    inferInstanceAs (Decidable (_ ∧ _))

/-- No counter of votes is negative, and a video where it is 0 is not flagged. -/
def DB.UnvotedUnflagged (db : DB) : Prop :=
  ∀ v row, db.videos.lookup v = some row →
    0 ≤ row.totalVotes ∧ (row.totalVotes = 0 → row.score < 50)

namespace DB.UnvotedUnflagged

variable {db : DB}

theorem submit (h : db.UnvotedUnflagged) (q : VoteRequest) : (db.submit q).UnvotedUnflagged := by
  refine DB.forall_videos_submit h q ⟨le_rfl, fun _ ↦ by norm_num [Video.new]⟩ ?_
  intro row n ⟨hnonneg, hscore⟩ hn
  exact ⟨by dsimp only; omega, fun hzero ↦ hscore (by dsimp only at hzero; omega)⟩

theorem unvote (h : db.UnvotedUnflagged) {q : VoteDeleteRequest}
    (hlast : ∀ row ∈ db.videos.lookup q.videoID, row.totalVotes = 1 → row.score < 50)
    (c : Category) : (db.unvote q c).UnvotedUnflagged := by
  refine DB.forall_videos_unvote h q c fun row hrow _ hpos ↦ ?_
  exact ⟨by dsimp only; omega, fun hzero ↦ hlast row hrow (by dsimp only at hzero; omega)⟩

theorem recalculate (h : db.UnvotedUnflagged) {q : RecalculateRequest}
    (hcounted : ∀ row ∈ db.videos.lookup q.videoID, row.totalVotes = 0 →
      db.weightOn q.videoID = 0) : (db.recalculate q).UnvotedUnflagged := by
  intro v row hrow
  rw [DB.recalculate, Table.lookup_modify] at hrow
  split_ifs at hrow
  · obtain ⟨old, hold, rfl⟩ := Option.map_eq_some_iff.1 hrow
    refine ⟨(h q.videoID old hold).1, fun hzero ↦ ?_⟩
    dsimp only
    rw [db.videoScore_of_weightOn_eq_zero q.videoID (hcounted old hold hzero)]
    norm_num
  · exact h v row hrow

theorem recalculateChannel (h : db.UnvotedUnflagged) (b : Backend) {q : ChannelRequest}
    (hscored : autoFlagMinFlagged ≤ db.flaggedVideos q.channelID →
      selectLocked q.channelID db = false →
        ∀ v ∈ db.videos.keys, ∀ row ∈ db.videos.lookup v, ¬row.Unscored q.channelID) :
    ((RealTube.recalculateChannel b q).run db).2.UnvotedUnflagged := by
  intro v row hrow
  rw [videos_recalculateChannel] at hrow
  obtain ⟨old, hold, rfl⟩ := Option.map_eq_some_iff.1 hrow
  split_ifs with hflag
  · -- the channel is auto-flagged, so it has no video for the preliminary score
    simp only [DB.autoFlags, Bool.and_eq_true, decide_eq_true_eq, Bool.not_eq_true'] at hflag
    have hkey : v ∈ db.videos.keys := Finmap.mem_keys.2 (Finmap.mem_of_lookup_eq_some hold)
    rw [Video.setPreliminary, if_neg (hscored hflag.1.2 hflag.2 v hkey old hold)]
    exact h v old hold
  · exact h v old hold

/-- **An event that flags no video without votes** leaves none flagged. -/
theorem step (h : db.UnvotedUnflagged) {e : ChannelEvent} (he : e.FlagsNoUnvoted db) :
    (e.step db).UnvotedUnflagged := by
  match e, he with
  | .vote (.submit b q), _ =>
    rw [ChannelEvent.step, VoteEvent.step, runTx_submit]
    exact h.submit q
  | .vote (.delete b q), he =>
    rw [ChannelEvent.step, VoteEvent.step, runTx_delete]
    cases hvoted : db.votedCategory q.videoID q.userID with
    | none => exact h
    | some c => exact h.unvote (he (by rw [hvoted]; exact Option.some_ne_none c)) c
  | .recalculate b q, he =>
    rw [ChannelEvent.step, step_recalculate]
    exact h.recalculate he
  | .channel b q, he => exact h.recalculateChannel b he

/-- **Every run of such events does.** -/
theorem runChannels (h : db.UnvotedUnflagged) {es : List ChannelEvent}
    (hes : db.FlagsNoUnvoted es) : (db.runChannels es).UnvotedUnflagged := by
  induction es generalizing db with
  | nil => exact h
  | cons e es ih => exact ih (h.step hes.1) hes.2

theorem flaggedUntracked_eq_zero (h : db.UnvotedUnflagged) (ch : ChannelID) :
    db.flaggedUntracked ch = 0 := by
  refine (Table.count_eq_zero_iff _).2 fun v row hrow ⟨hflagged, htracked⟩ ↦ ?_
  obtain ⟨hnonneg, hscore⟩ := h v row hrow
  have hpos : ¬0 < row.totalVotes := fun hpos ↦ htracked ⟨hflagged.1, hpos⟩
  exact absurd hflagged.2 (not_le.2 (hscore (by omega)))

end DB.UnvotedUnflagged

/-- **In every run in which no event flags a video without votes**, every recalculation of a channel
leaves its row right. -/
theorem channelRight_of_flagsNoUnvoted {db₀ : DB} (h : db₀.InRange)
    (hcounts : ∀ v row, db₀.videos.lookup v = some row → 0 ≤ row.totalVotes)
    (hunvoted : ∀ v row, db₀.videos.lookup v = some row → row.totalVotes = 0 → row.score = 0)
    {es : List ChannelEvent} (hes : db₀.FlagsNoUnvoted es) (b : Backend) (q : ChannelRequest) :
    ((ChannelEvent.channel b q).step (db₀.runChannels es)).ChannelRight q.channelID := by
  have hstart : db₀.UnvotedUnflagged := fun v row hrow ↦
    ⟨hcounts v row hrow, fun hzero ↦ by rw [hunvoted v row hrow hzero]; norm_num⟩
  refine (channelRight_step_iff (h.runChannels es) b q).2 (Or.inr ?_)
  rw [(hstart.runChannels hes).flaggedUntracked_eq_zero]
  exact Nat.zero_le _

/-- The ids of twenty videos. -/
def videoIDs : List VideoID :=
  (List.range 20).map fun i ↦ String.ofList (List.replicate (i + 1) 'v')

/-- Twenty-one videos of channel `"c"`, without votes. -/
def newVideos : DB where
  users := ∅
  videos := ("new" :: videoIDs).foldl
    (fun t v ↦ t.insert v { Video.new 0 with channelID := some "c" }) (∅ : Table VideoID Video)
  videoCategories := ∅
  votes := ∅
  channels := ∅

theorem inRange_newVideos : newVideos.InRange := by
  have hvideos : ∀ v ∈ newVideos.videos.keys, ∀ row ∈ newVideos.videos.lookup v,
      0 ≤ row.score ∧ row.score ≤ 100 := by
    decide +kernel
  refine ⟨⟨fun _ _ h ↦ (nomatch h), fun _ _ h ↦ (nomatch h)⟩, fun v row hrow ↦ ?_⟩
  exact hvideos v (Finmap.mem_keys.2 (Finmap.mem_of_lookup_eq_some hrow)) row hrow

/-- A user votes on twenty of them, and their scores become 100. -/
def twentyVotes : List ChannelEvent :=
  videoIDs.flatMap fun v ↦
    [.vote (.submit .go
        { videoID := v, userID := "u", category := .fullyAI, ipHash := "", userAgent := none,
          now := 0 }),
      .recalculate .go { recalculateNow with videoID := v }]

/-- A recalculation of channel `"c"`. -/
def recalculateC : ChannelRequest where
  channelID := "c"
  insertedAt := 0
  updatedAt := 0
  scoredAt := 0
  scanOrder := .ascending VideoID

theorem unvoted_newVideos {v : VideoID} {row : Video}
    (hrow : newVideos.videos.lookup v = some row) :
    row.totalVotes = 0 ∧ row.score = 0 := by
  have hvideos : ∀ v ∈ newVideos.videos.keys, ∀ row ∈ newVideos.videos.lookup v,
      row.totalVotes = 0 ∧ row.score = 0 := by
    decide +kernel
  exact hvideos v (Finmap.mem_keys.2 (Finmap.mem_of_lookup_eq_some hrow)) row hrow

/-- With a vote on the last video, too, the first recalculation auto-flags the channel and finds no
video for the preliminary score, and the second finds twenty flagged videos out of twenty-one. -/
def allVoted : List ChannelEvent :=
  twentyVotes ++ [.vote (.submit .python
    { videoID := "new", userID := "u", category := .fullyAI, ipHash := "", userAgent := none,
      now := 0 }), .channel .go recalculateC]

theorem channelRight_allVoted : ((ChannelEvent.channel .python recalculateC).step
    (newVideos.runChannels allVoted)).ChannelRight "c" :=
  channelRight_of_flagsNoUnvoted inRange_newVideos (fun _ _ hrow ↦ (unvoted_newVideos hrow).1.ge)
    (fun _ _ hrow _ ↦ (unvoted_newVideos hrow).2)
    (show newVideos.FlagsNoUnvoted allVoted by decide +kernel) .python recalculateC

/-- **The preliminary score takes the channel out of range**: it makes the video without votes the
twenty-first flagged one out of twenty, and the score of the channel 103. -/
theorem not_channelRight_preliminary :
    ¬ ∀ db₀ : DB, db₀.InRange →
      (∀ v row, db₀.videos.lookup v = some row → row.totalVotes = 0 → row.score = 0) →
      ∀ (es : List ChannelEvent) (b : Backend) (q : ChannelRequest),
        ((ChannelEvent.channel b q).step (db₀.runChannels es)).ChannelRight q.channelID := by
  intro h
  have hright := h newVideos inRange_newVideos (fun _ _ hrow _ ↦ (unvoted_newVideos hrow).2)
    (twentyVotes ++ [.channel .go recalculateC]) .python recalculateC
  revert hright
  decide +kernel

end RealTube
