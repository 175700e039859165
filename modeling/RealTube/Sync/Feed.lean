import RealTube.Model.SyncService
import RealTube.Channels.Range
import RealTube.Store.Steps

/-!
# The feed and the scores

A delta should tell the clients every change of a score. It reads `sync_cache`, so for each change
someone has to add a row there, and nobody does: whatever the backends commit is a list of writes to
the other tables (`Write`). A run is therefore any sequence of such commits, of vote requests,
recalculations and channel ticks alone (`step_eq_applyAll`) or side by side.

No commit changes the feed (`syncCache_run`). So a delta since the start of the run stays empty, and
`feedFollows_iff` says that the feed follows a run exactly when there is nothing to follow.
-/

open Tx

namespace RealTube

/-! ### Commits -/

/-- A transaction that commits: when, and what it writes. -/
structure Commit where
  time : Time
  writes : List Write

/-- The tables, and the time of the last commit. -/
structure FeedState where
  now : Time
  db : SyncDB

/-- The state after a commit: the clock does not go back. -/
def FeedState.step (s : FeedState) (c : Commit) : Option FeedState :=
  if s.now ≤ c.time then
    some { now := c.time, db := { s.db with toDB := RowStore.applyAll s.db.toDB c.writes } }
  else none

/-- What an event commits: a request that fails commits nothing. -/
def ChannelEvent.writes (db : DB) : ChannelEvent → List Write
  | vote call =>
    match (call.code.run db).1 with
    | .ok _ => call.code.writes db
    | .error _ => []
  | recalculate b q => (recalculateVideoScore b q).writes db
  | channel b q => (recalculateChannel b q).writes db

/-- **Every event of a serial run is a commit.** -/
theorem step_eq_applyAll (e : ChannelEvent) (db : DB) :
    e.step db = RowStore.applyAll db (e.writes db) := by
  cases e with
  | vote call =>
    have hrun := run_snd call.code db
    rw [ChannelEvent.step, VoteEvent.step, runTx, ChannelEvent.writes]
    cases hcode : call.code.run db with
    | mk answer db' =>
      rw [hcode] at hrun
      cases answer with
      | ok a => exact hrun
      | error err => rfl
  | recalculate b q => exact run_snd (recalculateVideoScore b q) db
  | channel b q => exact run_snd (recalculateChannel b q) db

/-! ### What the feed should do -/

/-- The step changes the score of a video that is shown. -/
def FeedState.ChangesScore (s s' : FeedState) (v : VideoID) : Prop :=
  ∃ row row', s.db.videos.lookup v = some row ∧ s'.db.videos.lookup v = some row' ∧
    row.visible = true ∧ row'.score ≠ row.score

/-- The feed follows a change of a score at `t`: every later delta since before `t`, unless it is
cut off, has an entry for the video, and the last one has the score that the video then has. -/
def FeedState.Follows (s : FeedState) (t : Time) (v : VideoID) : Prop :=
  ∀ (cs : List Commit) (s' : FeedState), Steps.Run FeedState.step Steps.Any s cs s' →
    ∀ (rowOrder : Arrangement ℕ) (channelOrder : Arrangement ChannelID) (since now : Time),
      since < t → (s'.db.syncCache.count fun _ row ↦ since < row.changedAt) < deltaLimit →
      ∀ row, s'.db.videos.lookup v = some row →
        ∃ entry, ((deltaSync rowOrder channelOrder since now s'.db).videos.filter
            fun entry ↦ entry.videoID = v).getLast? = some entry ∧ entry.score = row.score

/-- **The feed follows the scores** of a run: it follows every change that a commit makes. -/
def FeedFollows (s₀ : FeedState) (cs : List Commit) : Prop :=
  ∀ cs₁ c cs₂ s s', cs = cs₁ ++ c :: cs₂ → Steps.Run FeedState.step Steps.Any s₀ cs₁ s →
    s.step c = some s' → ∀ v, s.ChangesScore s' v → s'.Follows c.time v

/-! ### What it does -/

variable {s₀ s s' : FeedState} {cs : List Commit}

/-- A commit moves the clock on, and leaves the feed alone. -/
theorem step_feed {c : Commit} (h : s.step c = some s') :
    s.now ≤ c.time ∧ s'.now = c.time ∧ s'.db.syncCache = s.db.syncCache := by
  rw [FeedState.step] at h
  split_ifs at h with htime
  obtain rfl := Option.some.inj h
  exact ⟨htime, rfl, rfl⟩

/-- **No run changes the feed.** -/
theorem syncCache_run (h : Steps.Run FeedState.step Steps.Any s₀ cs s) :
    s₀.now ≤ s.now ∧ s.db.syncCache = s₀.db.syncCache := by
  refine h.inv (I := fun s ↦ s₀.now ≤ s.now ∧ s.db.syncCache = s₀.db.syncCache) ⟨le_rfl, rfl⟩ ?_
  rintro s c s' ⟨hnow, hcache⟩ - hstep
  obtain ⟨htime, hnow', hcache'⟩ := step_feed hstep
  exact ⟨hnow.trans (htime.trans_eq hnow'.symm), hcache'.trans hcache⟩

/-- After a run, no row of the feed is newer than its start. -/
theorem not_changed_since (h : Steps.Run FeedState.step Steps.Any s₀ cs s)
    (hrows : ∀ id row, s₀.db.syncCache.lookup id = some row → row.changedAt < s₀.now) {since : Time}
    (hsince : s₀.now ≤ since + 1) {id : ℕ} {row : SyncCacheRow}
    (hrow : s.db.syncCache.lookup id = some row) : ¬ since < row.changedAt := by
  intro hchanged
  rw [(syncCache_run h).2] at hrow
  linarith [hrows id row hrow, Int.add_one_le_iff.2 hchanged]

/-- **The feed follows no change.** The delta since just before the commit has no videos. -/
theorem not_follows (hrun : Steps.Run FeedState.step Steps.Any s₀ cs s)
    (hrows : ∀ id row, s₀.db.syncCache.lookup id = some row → row.changedAt < s₀.now)
    {c : Commit} (hc : s.step c = some s') {v : VideoID} (hv : s'.db.videos.lookup v ≠ none) :
    ¬ s'.Follows c.time v := by
  intro h
  obtain ⟨row, hrow⟩ := Option.ne_none_iff_exists'.1 hv
  have hrun' := hrun.snoc trivial hc
  have hsince : s₀.now ≤ c.time - 1 + 1 := by
    rw [sub_add_cancel]
    exact (syncCache_run hrun).1.trans (step_feed hc).1
  have hcount : (s'.db.syncCache.count fun _ row ↦ c.time - 1 < row.changedAt) = 0 :=
    (Table.count_eq_zero_iff _).2 fun id row hlook ↦ not_changed_since hrun' hrows hsince hlook
  have hnone : selectChangedRows (.ascending ℕ) (c.time - 1) s'.db.syncCache = [] :=
    Table.query_eq_nil fun id row hlook ↦ not_changed_since hrun' hrows hsince hlook
  obtain ⟨entry, hentry, -⟩ := h [] s' .nil (.ascending ℕ) (.ascending ChannelID) (c.time - 1) 0
    (sub_one_lt _) (by rw [hcount]; decide) row hrow
  rw [deltaSync, hnone] at hentry
  cases hentry

/-- **The feed follows a run exactly when there is nothing to follow**: from tables whose feed is
older than the run, when no commit of the run changes the score of a video that is shown. -/
theorem feedFollows_iff
    (hrows : ∀ id row, s₀.db.syncCache.lookup id = some row → row.changedAt < s₀.now) :
    FeedFollows s₀ cs ↔
      ∀ cs₁ c cs₂ s s', cs = cs₁ ++ c :: cs₂ → Steps.Run FeedState.step Steps.Any s₀ cs₁ s →
        s.step c = some s' → ∀ v, ¬ s.ChangesScore s' v := by
  constructor
  · rintro h cs₁ c cs₂ s s' hcs hrun hc v hchange
    have hfollows := h cs₁ c cs₂ s s' hcs hrun hc v hchange
    obtain ⟨row, row', -, hrow', -⟩ := hchange
    exact not_follows hrun hrows hc (by simp [hrow']) hfollows
  · intro h cs₁ c cs₂ s s' hcs hrun hc v hchange
    exact absurd hchange (h cs₁ c cs₂ s s' hcs hrun hc v)

/-! ### A vote and its recalculation -/

/-- New tables. -/
def newTables : FeedState where
  now := 0
  db := { DB.start ∅ ∅ with syncCache := ∅ }

/-- The first vote. -/
def firstVote : Commit where
  time := 1
  writes := ChannelEvent.writes newTables.db.toDB (.vote (.submit .go
    { videoID := "v", userID := "u", category := .fullyAI, ipHash := "", userAgent := none,
      now := 1 }))

/-- The tables after it. -/
def votedTables : FeedState where
  now := 1
  db := { newTables.db with toDB := RowStore.applyAll newTables.db.toDB firstVote.writes }

/-- The recalculation after it. -/
def firstScore : Commit where
  time := 2
  writes := ChannelEvent.writes votedTables.db.toDB (.recalculate .go recalculateNow)

/-- As long as there is only the vote, there is nothing to follow. -/
theorem feedFollows_firstVote : FeedFollows newTables [firstVote] := by
  refine (feedFollows_iff fun id row hrow ↦ ?_).2 fun cs₁ c cs₂ s s' hcs hrun hc v hchange ↦ ?_
  · cases hrow
  · obtain ⟨row, row', hrow, -⟩ := hchange
    obtain ⟨rfl, -⟩ | ⟨-, hnil⟩ := List.append_eq_singleton_iff.1 hcs.symm
    · rw [hrun.eq_of_nil] at hrow
      cases hrow
    · cases hnil

/-- **The recalculation that gives the video its score is in no delta.** -/
theorem not_feedFollows_firstScore :
    ¬ ∀ (s₀ : FeedState) (cs : List Commit),
      (∀ id row, s₀.db.syncCache.lookup id = some row → row.changedAt < s₀.now) →
        FeedFollows s₀ cs := by
  intro h
  have hrun : Steps.Run FeedState.step Steps.Any newTables ([] ++ [firstVote]) votedTables :=
    .snoc .nil trivial rfl
  have hchange : ∀ s', votedTables.step firstScore = some s' → votedTables.ChangesScore s' "v" := by
    intro s' hs'
    obtain rfl := Option.some.inj hs'
    refine ⟨{ Video.new 1 with totalVotes := 1 },
      { Video.new 0 with totalVotes := 1, score := 100 }, ?_, ?_, rfl, ?_⟩ <;> decide +kernel
  have hfollows := h newTables [firstVote, firstScore] (fun id row hrow ↦ by cases hrow)
    [firstVote] firstScore [] votedTables _ rfl hrun rfl "v" (hchange _ rfl)
  obtain ⟨entry, hentry, -⟩ := hfollows [] _ .nil (.ascending ℕ) (.ascending ChannelID) 0 3
    (by decide) (by decide +kernel) { Video.new 0 with totalVotes := 1, score := 100 }
    (by decide +kernel)
  cases hentry

end RealTube
