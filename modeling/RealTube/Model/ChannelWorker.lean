import RealTube.Model.Schema
import Mathlib.Algebra.Order.Floor.Defs
import Mathlib.Data.Rat.Floor

/-!
# The channel worker

`recalculateChannel` and `recalculateAll` of `service/channel_worker.go` and `recalculate_channel`
and `tick` of `services/channel_worker.py`. They send their statements to the pool outside any
transaction, so each statement is a transaction of its own; run alone, that makes no difference.

The bulk update that gives preliminary scores finds its rows on the snapshot it starts with, and
tests its condition again on the version of each row it locks. It is the query that finds them
followed by one statement that writes the rows for which the condition still holds.

The backends differ in how they round the channel score to two decimals: Go truncates after adding a
half, Python rounds halves to even.
-/

open Tx

namespace RealTube

/-- `PRELIMINARY_SCORE`. -/
def preliminaryScore : ℚ := 60

/-- `AUTO_FLAG_SCORE_THRESHOLD`. -/
def autoFlagScoreThreshold : ℚ := 80

/-- `AUTO_FLAG_MIN_FLAGGED`. -/
def autoFlagMinFlagged : ℕ := 20

/-- The arguments of a channel's recalculation: the channel, the `NOW()` of each of its writing
statements, and the order in which the bulk update comes to its rows. -/
structure ChannelRequest where
  channelID : ChannelID
  insertedAt : Time
  updatedAt : Time
  scoredAt : Time
  scanOrder : Arrangement VideoID

/-- What the first query of a recalculation answers. -/
structure ChannelStats where
  flagged : ℕ
  tracked : ℕ
  avgFlaggedScore : ℚ

/-! ### Statements -/

/-- The video counts as flagged. -/
def Video.Flagged (ch : ChannelID) (row : Video) : Prop := row.channelID = some ch ∧ 50 ≤ row.score

/-- The video counts as tracked. -/
def Video.Tracked (ch : ChannelID) (row : Video) : Prop :=
  row.channelID = some ch ∧ 0 < row.totalVotes

/-- The condition of the bulk update. -/
def Video.Unscored (ch : ChannelID) (row : Video) : Prop :=
  row.channelID = some ch ∧ row.totalVotes = 0 ∧ row.score = 0

instance (ch : ChannelID) (row : Video) : Decidable (row.Flagged ch) :=
  inferInstanceAs (Decidable (_ ∧ _))

instance (ch : ChannelID) (row : Video) : Decidable (row.Tracked ch) :=
  inferInstanceAs (Decidable (_ ∧ _))

instance (ch : ChannelID) (row : Video) : Decidable (row.Unscored ch) :=
  inferInstanceAs (Decidable (_ ∧ _ ∧ _))

/-- The number of flagged videos of a channel. -/
def DB.flaggedVideos (db : DB) (ch : ChannelID) : ℕ := db.videos.count fun _ row ↦ row.Flagged ch

/-- The number of tracked videos of a channel. -/
def DB.trackedVideos (db : DB) (ch : ChannelID) : ℕ := db.videos.count fun _ row ↦ row.Tracked ch

/-- The sum of the scores of the flagged videos. -/
def DB.flaggedScore (db : DB) (ch : ChannelID) : ℚ :=
  db.videos.sum fun _ row ↦ if row.Flagged ch then row.score else 0

/-- `SELECT COUNT(*) FILTER (WHERE score >= 50), COUNT(*) FILTER (WHERE total_votes > 0),
COALESCE(AVG(score) FILTER (WHERE score >= 50), 0)`. -/
def selectChannelStats (ch : ChannelID) (db : DB) : ChannelStats where
  flagged := db.flaggedVideos ch
  tracked := db.trackedVideos ch
  avgFlaggedScore := db.flaggedScore ch / db.flaggedVideos ch

/-- `INSERT INTO channels … ON CONFLICT (channel_id) DO NOTHING`. -/
def insertChannel (now : Time) (ch : ChannelID) (db : DB) : List Write :=
  match db.channels.lookup ch with
  | none => [.channel ch (Channel.new now)]
  | some _ => []

/-- `SELECT locked FROM channels`. The statement before has made sure there is a row. -/
def selectLocked (ch : ChannelID) (db : DB) : Bool :=
  (db.channels.lookup ch).elim false Channel.locked

/-- `UPDATE channels SET score, flagged_videos, total_videos, auto_flag_new, last_updated =
NOW()`. -/
def updateChannel (now : Time) (ch : ChannelID) (score : ℚ) (flagged tracked : ℕ)
    (autoFlagNew : Bool) (db : DB) : List Write :=
  match db.channels.lookup ch with
  | none => []
  | some row => [.channel ch { row with
      score, flaggedVideos := flagged, totalVideos := tracked, autoFlagNew, lastUpdated := now }]

/-- The rows `UPDATE videos … WHERE channel_id = $1 AND total_votes = 0 AND score = 0` finds. -/
def selectUnscored (order : Arrangement VideoID) (ch : ChannelID) (db : DB) : List VideoID :=
  order.list (db.videos.keys.filter fun v ↦ ∃ row ∈ db.videos.lookup v, row.Unscored ch)

/-- `UPDATE videos SET score = 60, last_updated = NOW()`, on the rows it has found. -/
def setPreliminaryScore (now : Time) (ch : ChannelID) (found : List VideoID) (db : DB) :
    List Write :=
  found.filterMap fun v ↦ (db.videos.lookup v).bind fun row ↦
    if row.Unscored ch then
      some (.video v { row with score := preliminaryScore, lastUpdated := now })
    else none

/-- `SELECT DISTINCT channel_id FROM videos WHERE channel_id IS NOT NULL AND total_votes > 0`. -/
def selectChannels (order : Arrangement ChannelID) (db : DB) : List ChannelID :=
  order.list (db.videos.keys.biUnion fun v ↦
    match db.videos.lookup v with
    | some row => if row.totalVotes > 0 then row.channelID.toFinset else ∅
    | none => ∅)

/-! ### The channel score -/

/-- The channel score before rounding. -/
def ChannelStats.rawScore (stats : ChannelStats) : ℚ :=
  stats.flagged / stats.tracked * stats.avgFlaggedScore

/-- Python's `round`, halves to even. -/
def roundHalfEven (x : ℚ) : ℤ :=
  if x - ⌊x⌋ < 1 / 2 then ⌊x⌋
  else if 1 / 2 < x - ⌊x⌋ then ⌊x⌋ + 1
  else if ⌊x⌋ % 2 = 0 then ⌊x⌋ else ⌊x⌋ + 1

/-- The rounding of a backend. -/
def Backend.round : Backend → ℚ → ℤ
  | go, x => truncate (x + 1 / 2)
  | python, x => roundHalfEven x

/-- The channel score, from 3 tracked videos on, rounded to two decimals. -/
def Backend.channelScore (b : Backend) (stats : ChannelStats) : ℚ :=
  if stats.tracked ≥ 3 then b.round (stats.rawScore * 100) / 100 else 0

/-- Go's `math.Round`, halves away from zero. -/
def Go.mathRound (x : ℚ) : ℤ := if 0 ≤ x then ⌊x + 1 / 2⌋ else ⌈x - 1 / 2⌉

/-- `ComputeChannelScorePure` of `repository/channel_repo.go`. -/
def Go.computeChannelScorePure (flagged tracked : ℕ) (avgFlaggedScore : ℚ) : ℚ :=
  if tracked < 3 then 0
  else
    let score : ℚ := flagged / tracked * avgFlaggedScore
    mathRound (score * 100) / 100

/-- `compute_channel_score_pure` of `services/channel_service.py`. -/
def Python.computeChannelScorePure (flagged tracked : ℕ) (avgFlaggedScore : ℚ) : ℚ :=
  if tracked < 3 then 0
  else
    let score : ℚ := flagged / tracked * avgFlaggedScore
    roundHalfEven (score * 100) / 100

/-! ### A channel -/

/-- The statements of a channel's recalculation, with the channel score as a function of the
stats. Answers whether the channel is auto-flagged, and the number of preliminary scores set. -/
def recalculateChannelWith (channelScore : ChannelStats → ℚ) (q : ChannelRequest) :
    Tx DB Write (Bool × ℕ) := do
  let stats ← query (selectChannelStats q.channelID)
  exec (insertChannel q.insertedAt q.channelID)
  let locked ← query (selectLocked q.channelID)
  let shouldAutoFlag := decide (channelScore stats ≥ autoFlagScoreThreshold) &&
    decide (stats.flagged ≥ autoFlagMinFlagged) && !locked
  exec (updateChannel q.updatedAt q.channelID (channelScore stats) stats.flagged stats.tracked
    shouldAutoFlag)
  if shouldAutoFlag then
    let found ← query (selectUnscored q.scanOrder q.channelID)
    let preliminaryCount ← execCount (setPreliminaryScore q.scoredAt q.channelID found)
    return (true, preliminaryCount)
  else
    return (false, 0)

namespace Go

/-- `ChannelWorker.recalculateChannel`. -/
def recalculateChannel (q : ChannelRequest) : Tx DB Write (Bool × ℕ) :=
  recalculateChannelWith Backend.go.channelScore q

end Go

namespace Python

/-- `recalculate_channel`. -/
def recalculateChannel (q : ChannelRequest) : Tx DB Write (Bool × ℕ) :=
  recalculateChannelWith Backend.python.channelScore q

end Python

/-- A channel's recalculation by either backend. -/
def recalculateChannel : Backend → ChannelRequest → Tx DB Write (Bool × ℕ)
  | .go => Go.recalculateChannel
  | .python => Python.recalculateChannel

theorem recalculateChannel_eq (b : Backend) (q : ChannelRequest) :
    recalculateChannel b q = recalculateChannelWith b.channelScore q := by
  cases b <;> rfl

/-! ### A tick -/

/-- What a tick has counted: channels updated, channels auto-flagged, preliminary scores set. -/
structure TickCounts where
  updated : ℕ
  autoFlagged : ℕ
  preliminary : ℕ

/-- The counts after one more channel. -/
def TickCounts.add (counts : TickCounts) : Bool × ℕ → TickCounts
  | (wasAutoFlagged, prelimCount) =>
    { updated := counts.updated + 1
      autoFlagged := if wasAutoFlagged then counts.autoFlagged + 1 else counts.autoFlagged
      preliminary := counts.preliminary + prelimCount }

/-- The loop of a tick over the channels, given the request it makes for each. -/
def recalculateChannels (b : Backend) (request : ChannelID → ChannelRequest) :
    List ChannelID → TickCounts → Tx DB Write TickCounts
  | [], counts => pure counts
  | chID :: channelIDs, counts => do
    let answer ← recalculateChannel b (request chID)
    recalculateChannels b request channelIDs (counts.add answer)

/-- `recalculateAll` and `tick`: every channel that has a video with votes. -/
def recalculateAll (b : Backend) (order : Arrangement ChannelID)
    (request : ChannelID → ChannelRequest) : Tx DB Write TickCounts := do
  let channelIDs ← query (selectChannels order)
  recalculateChannels b request channelIDs ⟨0, 0, 0⟩

end RealTube
