import RealTube.Model.Schema

/-!
# Vote submission and deletion

`SubmitVote` and `DeleteVote` of `repository/vote_repo.go` and `submit_vote` and `delete_vote` of
`services/vote_service.py`, statement by statement. A statement that writes is a function from the
store it sees to the writes it proposes; an `UPDATE` whose condition fails proposes none.

The two backends send the same statements in the same order. They differ in the error for a missing
vote (`pgx.ErrNoRows` against `LookupError`, both answered with 404 `NOT_FOUND`) and in the user
agent of a request that has none, so both are the shared transactions at their own values.
-/

open Tx

namespace RealTube

/-- The arguments of a vote submission, with the transaction's `NOW()`. Only Python submits a
missing user agent. -/
structure VoteRequest where
  videoID : VideoID
  userID : UserID
  category : Category
  ipHash : String
  userAgent : Option String
  now : Time

/-- The arguments of a vote deletion, with the transaction's `NOW()`. -/
structure VoteDeleteRequest where
  videoID : VideoID
  userID : UserID
  now : Time

/-- The errors of the vote transactions. -/
inductive VoteError where
  /-- `pgx.ErrNoRows`. -/
  | errNoRows
  /-- `LookupError("Vote not found")`. -/
  | lookupError
  deriving DecidableEq

/-- The error a backend answers a deletion without a vote with. -/
def Backend.notFound : Backend → VoteError
  | go => .errNoRows
  | python => .lookupError

/-! ### Statements -/

/-- `INSERT INTO users … ON CONFLICT (user_id) DO UPDATE SET last_active = NOW()`. -/
def insertUser (now : Time) (u : UserID) (db : DB) : List Write :=
  match db.users.lookup u with
  | none => [.user u (User.new now)]
  | some row => [.user u { row with lastActive := now }]

/-- `SELECT trust_score FROM users`. The statement before has written the row, so there is one. -/
def selectTrustScore (u : UserID) (db : DB) : ℚ := (db.users.lookup u).elim 0 User.trustScore

/-- `INSERT INTO videos … ON CONFLICT (video_id) DO NOTHING`. -/
def insertVideo (now : Time) (v : VideoID) (db : DB) : List Write :=
  match db.videos.lookup v with
  | none => [.video v (Video.new now)]
  | some _ => []

/-- `SELECT category FROM votes`; `none` when there is no row. -/
def selectCategory (v : VideoID) (u : UserID) (db : DB) : Option Category := db.votedCategory v u

/-- `INSERT INTO votes … ON CONFLICT (video_id, user_id) DO UPDATE SET category, trust_weight,
created_at`. -/
def upsertVote (q : VoteRequest) (trustWeight : ℚ) (db : DB) : List Write :=
  match db.votes.lookup (q.videoID, q.userID) with
  | none => [.vote q.videoID q.userID
      { category := q.category, trustWeight, createdAt := q.now, ipHash := q.ipHash,
        userAgent := q.userAgent }]
  | some row => [.vote q.videoID q.userID
      { row with category := q.category, trustWeight, createdAt := q.now }]

/-- `UPDATE videos SET total_votes = total_votes + 1, last_updated = NOW()`. -/
def incrementTotalVotes (now : Time) (v : VideoID) (db : DB) : List Write :=
  match db.videos.lookup v with
  | none => []
  | some row => [.video v { row with totalVotes := row.totalVotes + 1, lastUpdated := now }]

/-- `UPDATE videos SET total_votes = total_votes - 1, last_updated = NOW() … AND total_votes > 0`.
-/
def decrementTotalVotes (now : Time) (v : VideoID) (db : DB) : List Write :=
  match db.videos.lookup v with
  | none => []
  | some row =>
    if row.totalVotes > 0 then
      [.video v { row with totalVotes := row.totalVotes - 1, lastUpdated := now }]
    else []

/-- `UPDATE video_categories SET vote_count = vote_count - 1 … AND vote_count > 0`. -/
def decrementVoteCount (v : VideoID) (c : Category) (db : DB) : List Write :=
  match db.videoCategories.lookup (v, c) with
  | none => []
  | some row =>
    if row.voteCount > 0 then [.videoCategory v c { row with voteCount := row.voteCount - 1 }]
    else []

/-- `INSERT INTO video_categories … VALUES ($1, $2, 1) ON CONFLICT (video_id, category) DO UPDATE
SET vote_count = video_categories.vote_count + 1`. -/
def incrementVoteCount (v : VideoID) (c : Category) (db : DB) : List Write :=
  match db.videoCategories.lookup (v, c) with
  | none => [.videoCategory v c { voteCount := 1, weightedScore := 0 }]
  | some row => [.videoCategory v c { row with voteCount := row.voteCount + 1 }]

/-- `UPDATE videos SET last_updated = NOW()`. -/
def touchVideo (now : Time) (v : VideoID) (db : DB) : List Write :=
  match db.videos.lookup v with
  | none => []
  | some row => [.video v { row with lastUpdated := now }]

/-- `DELETE FROM votes`. -/
def dropVote (v : VideoID) (u : UserID) (db : DB) : List Write :=
  match db.votes.lookup (v, u) with
  | none => []
  | some _ => [.dropVote v u]

/-- `SELECT pg_notify('vote_changes', $1)`. -/
def notifyVoteChanges (v : VideoID) (_ : DB) : List Write := [.notify v]

/-! ### What each statement leaves

Executed on a store, a statement changes one table at one key. -/

/-- The store after a statement executed on it. -/
def DB.after (db : DB) (w : DB → List Write) : DB := RowStore.applyAll db (w db)

/-- The row of `users` after a request of the user. -/
def User.seenAt (now : Time) : Option User → User
  | none => User.new now
  | some row => { row with lastActive := now }

/-- The row of `votes` after a submission. -/
def VoteRequest.row (q : VoteRequest) (trustWeight : ℚ) : Option Vote → Vote
  | none => { category := q.category, trustWeight, createdAt := q.now, ipHash := q.ipHash,
              userAgent := q.userAgent }
  | some row => { row with category := q.category, trustWeight, createdAt := q.now }

section After

variable (db : DB) (now : Time) (v : VideoID) (u : UserID) (c : Category)

theorem after_insertUser : db.after (insertUser now u) =
    { db with users := db.users.insert u (User.seenAt now (db.users.lookup u)) } := by
  rw [DB.after, insertUser]
  cases db.users.lookup u <;> rfl

theorem after_insertVideo : db.after (insertVideo now v) =
    { db with videos := db.videos.insert v ((db.videos.lookup v).getD (Video.new now)) } := by
  rw [DB.after, insertVideo]
  cases h : db.videos.lookup v with
  | none => rfl
  | some row =>
    rw [Option.getD_some, Table.insert_eq_self h]
    rfl

theorem after_upsertVote (q : VoteRequest) (w : ℚ) : db.after (upsertVote q w) =
    { db with votes := db.votes.insert (q.videoID, q.userID)
                (q.row w (db.votes.lookup (q.videoID, q.userID))) } := by
  rw [DB.after, upsertVote]
  cases db.votes.lookup (q.videoID, q.userID) <;> rfl

theorem after_incrementTotalVotes : db.after (incrementTotalVotes now v) =
    { db with videos := db.videos.modify v fun row ↦
                { row with totalVotes := row.totalVotes + 1, lastUpdated := now } } := by
  rw [DB.after, incrementTotalVotes, Table.modify]
  cases db.videos.lookup v <;> rfl

theorem after_decrementTotalVotes : db.after (decrementTotalVotes now v) =
    { db with videos := db.videos.modify v fun row ↦
                if row.totalVotes > 0 then
                  { row with totalVotes := row.totalVotes - 1, lastUpdated := now }
                else row } := by
  rw [DB.after, decrementTotalVotes, Table.modify]
  cases h : db.videos.lookup v with
  | none => rfl
  | some row =>
    dsimp only
    split_ifs
    · rfl
    · rw [Table.insert_eq_self h]
      rfl

theorem after_decrementVoteCount : db.after (decrementVoteCount v c) =
    { db with videoCategories := db.videoCategories.modify (v, c) fun row ↦
                if row.voteCount > 0 then { row with voteCount := row.voteCount - 1 }
                  else row } := by
  rw [DB.after, decrementVoteCount, Table.modify]
  cases h : db.videoCategories.lookup (v, c) with
  | none => rfl
  | some row =>
    dsimp only
    split_ifs
    · rfl
    · rw [Table.insert_eq_self h]
      rfl

theorem after_incrementVoteCount : db.after (incrementVoteCount v c) =
    { db with videoCategories := db.videoCategories.insert (v, c)
                { voteCount := db.voteCount v c + 1,
                  weightedScore :=
                    (db.videoCategories.lookup (v, c)).elim 0 VideoCategory.weightedScore } } := by
  rw [DB.after, incrementVoteCount, DB.voteCount]
  cases db.videoCategories.lookup (v, c) <;> rfl

theorem after_touchVideo : db.after (touchVideo now v) =
    { db with videos := db.videos.modify v fun row ↦ { row with lastUpdated := now } } := by
  rw [DB.after, touchVideo, Table.modify]
  cases db.videos.lookup v <;> rfl

theorem after_dropVote : db.after (dropVote v u) = { db with votes := db.votes.erase (v, u) } := by
  rw [DB.after, dropVote]
  cases h : db.votes.lookup (v, u) with
  | none =>
    rw [Table.erase_eq_self h]
    rfl
  | some row => rfl

theorem after_notifyVoteChanges : db.after (notifyVoteChanges v) = db := rfl

end After

/-! ### Transactions -/

/-- The counters of the vote a submission replaces: a new vote counts for the video, a changed one
leaves its old category, and a vote for the same category again does neither. -/
def countReplaced (q : VoteRequest) : Option Category → Tx DB Write Unit
  | none => exec (incrementTotalVotes q.now q.videoID)
  | some existingCategory =>
    if existingCategory ≠ q.category then
      exec (decrementVoteCount q.videoID existingCategory)
    else pure ()

/-- The transaction of a vote submission. Answers the user's trust score at vote time. -/
def submitVoteTx (q : VoteRequest) : Tx DB Write (Except VoteError ℚ) := do
  exec (insertUser q.now q.userID)
  let trustWeight ← query (selectTrustScore q.userID)
  exec (insertVideo q.now q.videoID)
  let existingCategory ← query (selectCategory q.videoID q.userID)
  exec (upsertVote q trustWeight)
  countReplaced q existingCategory
  exec (incrementVoteCount q.videoID q.category)
  exec (touchVideo q.now q.videoID)
  return .ok trustWeight

/-- The transaction of a vote deletion, failing with `notFound` when there is no vote. -/
def deleteVoteTx (notFound : VoteError) (q : VoteDeleteRequest) :
    Tx DB Write (Except VoteError Unit) := do
  match ← query (selectCategory q.videoID q.userID) with
  | none => return .error notFound
  | some category =>
    exec (dropVote q.videoID q.userID)
    exec (decrementTotalVotes q.now q.videoID)
    exec (decrementVoteCount q.videoID category)
    exec (notifyVoteChanges q.videoID)
    return .ok ()

namespace Go

/-- `VoteRepo.SubmitVote`. -/
def submitVote (q : VoteRequest) : Tx DB Write (Except VoteError ℚ) := submitVoteTx q

/-- `VoteRepo.DeleteVote`. -/
def deleteVote (q : VoteDeleteRequest) : Tx DB Write (Except VoteError Unit) :=
  deleteVoteTx .errNoRows q

end Go

namespace Python

/-- `submit_vote`, up to the end of its transaction. -/
def submitVote (q : VoteRequest) : Tx DB Write (Except VoteError ℚ) := submitVoteTx q

/-- `delete_vote`. -/
def deleteVote (q : VoteDeleteRequest) : Tx DB Write (Except VoteError Unit) :=
  deleteVoteTx .lookupError q

end Python

/-! ### Requests -/

/-- A vote request and the backend it is sent to. -/
inductive VoteCall where
  | submit (b : Backend) (q : VoteRequest)
  | delete (b : Backend) (q : VoteDeleteRequest)

namespace VoteCall

/-- The video a request is about. -/
def videoID : VoteCall → VideoID
  | submit _ q => q.videoID
  | delete _ q => q.videoID

/-- The user a request comes from. -/
def userID : VoteCall → UserID
  | submit _ q => q.userID
  | delete _ q => q.userID

/-- The transaction that serves a request; a submission answers the user's trust. -/
def code : VoteCall → Tx DB Write (Except VoteError (Option ℚ))
  | submit .go q => do return (← Go.submitVote q).map some
  | submit .python q => do return (← Python.submitVote q).map some
  | delete .go q => do return (← Go.deleteVote q).map fun _ ↦ none
  | delete .python q => do return (← Python.deleteVote q).map fun _ ↦ none

end VoteCall

end RealTube
