import RealTube.Channels.Range

/-!
# Preliminary scores

The worker of an auto-flagged channel gives a score of 60 to the videos of the channel that nobody
has voted on. It does not look at the votes: it takes a video to be one of these if the counter
`total_votes` and the score are both 0. So what it overwrites depends on the counter being right, in
particular where the votes that are there weigh nothing and their score is 0.

The counter is right after every serial run from tables without votes (`DB.TotalsRight`), and a tick
changes neither votes nor counters. `tick_preliminary` is what follows for a whole tick, which
recalculates one channel after another.
-/

open Tx

namespace RealTube

/-! ### Serial runs -/

/-- A step of a serial run with ticks: an event, or a whole tick of a channel worker. -/
inductive TickEvent where
  | event (e : ChannelEvent)
  | tick (b : Backend) (order : Arrangement ChannelID) (request : ChannelID → ChannelRequest)

/-- The database after a step. -/
def TickEvent.step (db : DB) : TickEvent → DB
  | event e => e.step db
  | tick b order request => ((recalculateAll b order request).run db).2

/-- The database after a run. -/
def DB.runTicks (db : DB) (es : List TickEvent) : DB := es.foldl TickEvent.step db

/-! ### What a recalculation of a channel keeps -/

theorem votes_recalculateChannel (b : Backend) (q : ChannelRequest) (db : DB) :
    ((recalculateChannel b q).run db).2.votes = db.votes := by
  rw [run_recalculateChannel]
  dsimp only
  split_ifs
  · exact setPreliminaryScore_of_video (f := DB.votes) (fun _ _ _ ↦ rfl) _ _ _ _
  · rfl

theorem votesOn_recalculateChannel (b : Backend) (q : ChannelRequest) (db : DB) (v : VideoID) :
    ((recalculateChannel b q).run db).2.votesOn v = db.votesOn v := by
  rw [DB.votesOn, votes_recalculateChannel, DB.votesOn]

theorem totalVotes_recalculateChannel (b : Backend) (q : ChannelRequest) (db : DB) (v : VideoID) :
    ((recalculateChannel b q).run db).2.totalVotes v = db.totalVotes v := by
  have hset : ∀ row : Video,
      (row.setPreliminary q.scoredAt q.channelID).totalVotes = row.totalVotes := fun row ↦ by
    rw [Video.setPreliminary]
    split_ifs <;> rfl
  rw [DB.totalVotes, videos_recalculateChannel, DB.totalVotes]
  rcases db.videos.lookup v with - | row
  · rfl
  · rw [Option.map_some, Option.elim_some, Option.elim_some]
    split_ifs
    · exact hset row
    · rfl

theorem DB.TotalsRight.recalculateChannel {db : DB} (h : db.TotalsRight) (b : Backend)
    (q : ChannelRequest) : ((recalculateChannel b q).run db).2.TotalsRight := by
  intro v
  rw [totalVotes_recalculateChannel, votesOn_recalculateChannel]
  exact h v

/-! ### What it changes -/

/-- The score of a video is as it was; or nobody has voted on the video, and it has gone from 0 to
the preliminary score. -/
def DB.KeptOrPreliminary (db db' : DB) (v : VideoID) : Prop :=
  db'.score v = db.score v ∨
    db.votesOn v = 0 ∧ db.score v = some 0 ∧ db'.score v = some preliminaryScore

/-- The preliminary score is given at most once. -/
theorem DB.KeptOrPreliminary.trans {db db' db'' : DB} {v : VideoID}
    (h : db.KeptOrPreliminary db' v) (hvotes : db'.votesOn v = db.votesOn v)
    (h' : db'.KeptOrPreliminary db'' v) : db.KeptOrPreliminary db'' v := by
  obtain hsame | ⟨hnone, hzero, hset⟩ := h
  · rwa [DB.KeptOrPreliminary, hsame, hvotes] at h'
  · obtain hsame' | ⟨-, hzero', -⟩ := h'
    · exact Or.inr ⟨hnone, hzero, hsame'.trans hset⟩
    · have hne : preliminaryScore ≠ 0 := by norm_num [preliminaryScore]
      exact absurd (Option.some.inj (hset.symm.trans hzero')) hne

/-- **One channel**: a video without counted votes has none. -/
theorem keptOrPreliminary_recalculateChannel {db : DB} (h : db.TotalsRight) (b : Backend)
    (q : ChannelRequest) (v : VideoID) :
    db.KeptOrPreliminary ((recalculateChannel b q).run db).2 v := by
  rw [DB.KeptOrPreliminary, DB.score, videos_recalculateChannel, DB.score]
  rcases hrow : db.videos.lookup v with - | row
  · exact Or.inl rfl
  · by_cases hset : db.autoFlags b q.channelID ∧ row.Unscored q.channelID
    · obtain ⟨hflag, -, htotal, hscore⟩ := id hset
      have hvotes : (db.votesOn v : ℤ) = 0 := by
        rw [← h v, DB.totalVotes, hrow]
        exact htotal
      refine Or.inr ⟨by exact_mod_cast hvotes, congrArg some hscore, ?_⟩
      rw [if_pos hflag, Option.map_some, Video.setPreliminary, if_pos hset.2]
      rfl
    · left
      rw [Option.map_some, Option.map_some]
      split_ifs with hflag
      · rw [Video.setPreliminary, if_neg fun hunscored ↦ hset ⟨hflag, hunscored⟩]
        rfl
      · rfl

/-- **The loop of a tick.** -/
theorem keptOrPreliminary_foldl (b : Backend) (request : ChannelID → ChannelRequest)
    (channelIDs : List ChannelID) {db : DB} (h : db.TotalsRight) (v : VideoID) :
    let db' := channelIDs.foldl (fun db ch ↦ ((recalculateChannel b (request ch)).run db).2) db
    db'.TotalsRight ∧ db.KeptOrPreliminary db' v := by
  induction channelIDs generalizing db with
  | nil => exact ⟨h, Or.inl rfl⟩
  | cons ch channelIDs ih =>
    obtain ⟨hright, hrest⟩ := ih (h.recalculateChannel b (request ch))
    exact ⟨hright, (keptOrPreliminary_recalculateChannel h b (request ch) v).trans
      (votesOn_recalculateChannel b (request ch) db v) hrest⟩

/-! ### Runs -/

/-- **Every step keeps the totals right.** -/
theorem DB.TotalsRight.tickStep {db : DB} (h : db.TotalsRight) (e : TickEvent) :
    (e.step db).TotalsRight := by
  match e with
  | .event (.vote call) => exact h.step (.request call)
  | .event (.recalculate b q) =>
    rw [TickEvent.step, ChannelEvent.step, step_recalculate]
    exact fun v ↦ (totalVotes_recalculate db q v).trans (h v)
  | .event (.channel b q) => exact h.recalculateChannel b q
  | .tick b order request =>
    rw [TickEvent.step, run_recalculateAll]
    exact (keptOrPreliminary_foldl b request _ h "").1

theorem DB.TotalsRight.runTicks {db : DB} (h : db.TotalsRight) (es : List TickEvent) :
    (db.runTicks es).TotalsRight := by
  induction es generalizing db with
  | nil => exact h
  | cons e es ih => exact ih (h.tickStep e)

/-- **A tick overwrites no score that votes have given.** After any serial run of vote requests,
recalculations and ticks from a database without votes, whose videos have counted none, a tick
changes the score of a video only if nobody has voted on the video, and then from 0 to the
preliminary score. -/
theorem tick_preliminary {db₀ : DB} (hvotes : db₀.votes = ∅)
    (hvideos : ∀ v row, db₀.videos.lookup v = some row → row.totalVotes = 0) (es : List TickEvent)
    (b : Backend) (order : Arrangement ChannelID) (request : ChannelID → ChannelRequest)
    (v : VideoID) :
    let db := db₀.runTicks es
    let db' := (TickEvent.tick b order request).step db
    db'.score v = db.score v ∨
      db.votesOn v = 0 ∧ db.score v = some 0 ∧ db'.score v = some preliminaryScore := by
  intro db db'
  have hstart : db₀.TotalsRight := by
    intro v
    rw [DB.votesOn, hvotes, DB.totalVotes]
    rcases hrow : db₀.videos.lookup v with - | row
    · rfl
    · exact hvideos v row hrow
  have htick := (keptOrPreliminary_foldl b request (selectChannels order db)
    (hstart.runTicks es) v).2
  rwa [← run_recalculateAll] at htick

/-- The tick after twenty votes gives the video without votes the preliminary score, and leaves one
with votes alone. -/
theorem tick_preliminary_newVideos :
    let db := newVideos.runTicks (twentyVotes.map .event)
    let db' := (TickEvent.tick .go (.ascending ChannelID)
      fun ch ↦ { recalculateC with channelID := ch }).step db
    (∀ v, db'.score v = db.score v ∨
      db.votesOn v = 0 ∧ db.score v = some 0 ∧ db'.score v = some preliminaryScore) ∧
        db'.score "new" = some 60 ∧ db'.score "v" = some 100 := by
  intro db db'
  have hvideos : ∀ v ∈ newVideos.videos.keys, ∀ row ∈ newVideos.videos.lookup v,
      row.totalVotes = 0 := by
    decide +kernel
  refine ⟨fun v ↦ tick_preliminary rfl (fun v row hrow ↦ ?_) (twentyVotes.map .event) .go
    (.ascending ChannelID) (fun ch ↦ { recalculateC with channelID := ch }) v, ?_, ?_⟩
  · exact hvideos v (Finmap.mem_keys.2 (Finmap.mem_of_lookup_eq_some hrow)) row hrow
  · decide +kernel
  · decide +kernel

end RealTube
