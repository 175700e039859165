import RealTube.Channels.Range
import RealTube.Store.Steps

/-!
# Locked videos

A moderator locks a video to fix its score. No statement of the vote, score and channel code reads
`videos.locked`: a recalculation of the video writes whatever its votes give, and the worker that
auto-flags a channel gives the preliminary score to every video without votes and score. These are
the two ways to the score of a video (`ChannelEvent.Rescores`), locked or not; all other events
leave the scores as they are (`scores_step`), so a lock lasts exactly as long as neither happens
(`scores_of_not_rescores`).
-/

open Tx

namespace RealTube

/-- The event writes the score of a video: a recalculation of the video, or of its channel, when
that auto-flags the channel and the video has neither votes nor a score. -/
def ChannelEvent.Rescores (db : DB) (v : VideoID) : ChannelEvent → Prop
  | vote _ => False
  | recalculate _ q => q.videoID = v
  | channel b q => db.autoFlags b q.channelID = true ∧
      ∃ row ∈ db.videos.lookup v, row.Unscored q.channelID

instance (db : DB) (v : VideoID) (e : ChannelEvent) : Decidable (e.Rescores db v) := by
  cases e <;> rw [ChannelEvent.Rescores] <;> infer_instance

/-- The lock and the score of a video; `none` when there is no row. -/
def DB.lockedScore (db : DB) (v : VideoID) : Option (Bool × ℚ) :=
  (db.videos.lookup v).map fun row ↦ (row.locked, row.score)

/-- Two databases have the same lock and the same scores of a video. -/
structure DB.SameScores (v : VideoID) (db db' : DB) : Prop where
  video : db'.lockedScore v = db.lockedScore v
  categories : ∀ c, db'.weightedScore v c = db.weightedScore v c

variable {db db' : DB} {v : VideoID}

/-! ### Vote requests -/

/-- A submission counts a vote; a category it enters for the first time has the score 0. -/
theorem sameScores_submit (q : VoteRequest) (h : db.videos.lookup v ≠ none) :
    db.SameScores v (db.submit q) where
  video := by
    have hlook : ∀ row, (db.videos.insert q.videoID row).lookup v =
        if v = q.videoID then some row else db.videos.lookup v :=
      fun row ↦ Table.lookup_insert ..
    rw [DB.lockedScore, DB.submit, hlook, DB.lockedScore]
    by_cases hv : v = q.videoID
    · obtain ⟨row, hrow⟩ := Option.ne_none_iff_exists'.1 h
      have hold : db.videoOrNew q.now q.videoID = row := by
        rw [DB.videoOrNew, ← hv, hrow, Option.getD_some]
      rw [if_pos hv, hold, hrow]
      rfl
    · rw [if_neg hv]
  categories c := by
    have hlook : ∀ row, ((db.countReplaced q).insert (q.videoID, q.category) row).lookup (v, c) =
        if (v, c) = (q.videoID, q.category) then some row else (db.countReplaced q).lookup (v, c) :=
      fun row ↦ Table.lookup_insert ..
    rw [DB.weightedScore, DB.submit, hlook]
    split_ifs with hkey
    · rw [Option.elim_some, DB.weightedScore, hkey]
    · -- the category the user leaves
      rw [DB.countReplaced]
      cases db.votedCategory q.videoID q.userID with
      | none => rfl
      | some c' =>
        dsimp only
        split_ifs
        · rw [Table.lookup_modify, DB.weightedScore]
          split_ifs with hleft
          · rw [hleft]
            cases db.videoCategories.lookup (q.videoID, c') with
            | none => rfl
            | some row => rw [Option.map_some]; split_ifs <;> rfl
          · rfl
        · rfl

/-- A deletion counts a vote less. -/
theorem sameScores_unvote (q : VoteDeleteRequest) (c : Category) :
    db.SameScores v (db.unvote q c) where
  video := by
    rw [DB.lockedScore, DB.unvote, Table.lookup_modify, DB.lockedScore]
    split_ifs with hv
    · rw [hv]
      cases db.videos.lookup q.videoID with
      | none => rfl
      | some row => rw [Option.map_some]; split_ifs <;> rfl
    · rfl
  categories c' := by
    rw [DB.weightedScore, DB.unvote, Table.lookup_modify, DB.weightedScore]
    split_ifs with hkey
    · rw [hkey]
      cases db.videoCategories.lookup (q.videoID, c) with
      | none => rfl
      | some row => rw [Option.map_some]; split_ifs <;> rfl
    · rfl

/-! ### The writers of scores -/

theorem sameScores_recalculate {q : RecalculateRequest} (h : q.videoID ≠ v) :
    db.SameScores v (db.recalculate q) where
  video := congrArg (Option.map _) (Table.lookup_modify_of_ne _ _ (Ne.symm h))
  categories c := by
    rw [DB.weightedScore, DB.recalculate, lookup_setWeightedScores, if_neg fun hv ↦ h hv.1.symm,
      DB.weightedScore]

theorem sameScores_recalculateChannel (b : Backend) {q : ChannelRequest}
    (h : ¬ (ChannelEvent.channel b q).Rescores db v) :
    db.SameScores v ((recalculateChannel b q).run db).2 where
  video := by
    rw [DB.lockedScore, videos_recalculateChannel, DB.lockedScore]
    cases hrow : db.videos.lookup v with
    | none => rfl
    | some row =>
      split_ifs with hflag
      · have hset : row.setPreliminary q.scoredAt q.channelID = row :=
          if_neg fun hunscored ↦ h ⟨hflag, row, hrow, hunscored⟩
        rw [Option.map_some, hset]
      · rfl
  categories c := by
    rw [DB.weightedScore, videoCategories_recalculateChannel, DB.weightedScore]

/-! ### Runs -/

/-- **All other events leave the scores alone.** -/
theorem scores_step (h : db.videos.lookup v ≠ none) {e : ChannelEvent} (he : ¬ e.Rescores db v) :
    db.SameScores v (e.step db) := by
  cases e with
  | vote call =>
    obtain ⟨b, q, -, hstep⟩ | ⟨b, q, c, -, -, hstep⟩ | ⟨b, q, -, -, hstep⟩ | ⟨rows, hrows, -⟩ :=
      step_cases db (.request call)
    · rw [ChannelEvent.step, hstep]
      exact sameScores_submit q h
    · rw [ChannelEvent.step, hstep]
      exact sameScores_unvote q c
    · rw [ChannelEvent.step, hstep]
      exact ⟨rfl, fun _ ↦ rfl⟩
    · cases hrows
  | recalculate b q =>
    rw [ChannelEvent.step, step_recalculate]
    exact sameScores_recalculate he
  | channel b q => exact sameScores_recalculateChannel b he

/-- **A lock lasts as long as nothing rescores the video**: through every run of vote requests,
recalculations and channel ticks in which no recalculation is of the video, and none that
auto-flags its channel finds it without votes and score. -/
theorem scores_of_not_rescores {es : List ChannelEvent}
    (h : Steps.Run (fun db e ↦ some (ChannelEvent.step db e)) (fun db e ↦ ¬ e.Rescores db v)
      db es db') {row : Video} (hrow : db.videos.lookup v = some row)
      (hlocked : row.locked = true) :
    (∃ row', db'.videos.lookup v = some row' ∧ row'.locked = true ∧ row'.score = row.score) ∧
      ∀ c, db'.weightedScore v c = db.weightedScore v c := by
  have hsame : db.SameScores v db' := by
    refine h.inv ⟨rfl, fun _ ↦ rfl⟩ fun {mid e mid'} hmid he hstep ↦ ?_
    obtain rfl : e.step mid = mid' := Option.some.inj hstep
    have hfound : mid.videos.lookup v ≠ none := by
      intro hnone
      have hvideo := hmid.video
      rw [DB.lockedScore, hnone, DB.lockedScore, hrow] at hvideo
      cases hvideo
    have hnext := scores_step hfound he
    exact ⟨hnext.video.trans hmid.video, fun c ↦ (hnext.categories c).trans (hmid.categories c)⟩
  refine ⟨?_, hsame.categories⟩
  have hvideo := hsame.video
  rw [DB.lockedScore, DB.lockedScore, hrow, Option.map_some] at hvideo
  obtain ⟨row', hrow', heq⟩ := Option.map_eq_some_iff.1 hvideo
  obtain ⟨hlocked', hscore⟩ := Prod.mk.inj heq
  exact ⟨row', hrow', hlocked'.trans hlocked, hscore⟩

/-- A locked video, flagged by a moderator. -/
def lockedVideo : DB where
  users := ∅
  videos := (∅ : Table VideoID Video).insert "v" { Video.new 0 with score := 90, locked := true }
  videoCategories := ∅
  votes := ∅
  channels := ∅

/-- A vote on the locked video. -/
def voteOnLocked : ChannelEvent := .vote (.submit .go
  { videoID := "v", userID := "u", category := .fullyAI, ipHash := "", userAgent := none,
    now := 0 })

/-- Votes alone leave it alone. -/
theorem scores_voteOnLocked :
    (∃ row', (voteOnLocked.step lockedVideo).videos.lookup "v" = some row' ∧
        row'.locked = true ∧ row'.score = 90) ∧
      ∀ c, (voteOnLocked.step lockedVideo).weightedScore "v" c =
        lockedVideo.weightedScore "v" c := by
  have hrun : Steps.Run (fun db e ↦ some (ChannelEvent.step db e))
      (fun db e ↦ ¬ e.Rescores db "v") lockedVideo ([] ++ [voteOnLocked])
      (voteOnLocked.step lockedVideo) := .snoc .nil not_false rfl
  exact scores_of_not_rescores hrun (Table.lookup_insert_self ..) rfl

/-- **The recalculation after the vote undoes the moderator's decision.** -/
theorem not_scores_locked :
    ¬ ∀ (db : DB) (v : VideoID) (row : Video), db.videos.lookup v = some row → row.locked = true →
      ∀ es : List ChannelEvent,
        (∃ row', (db.runChannels es).videos.lookup v = some row' ∧ row'.score = row.score) ∧
          ∀ c, (db.runChannels es).weightedScore v c = db.weightedScore v c := by
  intro h
  have hscore := (h lockedVideo "v" _ (Table.lookup_insert_self ..) rfl
    [voteOnLocked, .recalculate .go recalculateNow]).2 .fullyAI
  revert hscore
  decide +kernel

end RealTube
