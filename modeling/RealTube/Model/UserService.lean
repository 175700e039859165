import RealTube.Model.VoteRepo
import RealTube.Model.SyncService

/-!
# User lookups and trust

`LookupOrCreate` of `service/user_svc.go`, over `FindByUserID` and `CreateIfNotExists` of
`repository/user_repo.go`, and `get_by_user_id` of `routers/users.py`, which sends the same
statements. A user who is not found is created with the column defaults, and looked up again. The
statements are sent to the pool outside any transaction; run alone, that makes no difference.

The second half is `TrustService` of `service/trust_svc.go`, the functions of
`services/trust_service.py`: what a trust score is made of, on a row of `users`.
-/

open Tx

namespace RealTube

/-- The arguments of a user lookup: the user, the `NOW()` of the insertion, and the time of the
answer. -/
structure LookupRequest where
  userID : UserID
  createdAt : Time
  answeredAt : Time

/-- `UserResponse`. -/
structure UserResponse where
  userID : UserID
  trustScore : ℚ
  totalVotes : ℤ
  accuracyRate : ℚ
  accountAge : ℤ
  isVIP : Bool
  deriving DecidableEq

/-- The ticks of the database clock in a day. -/
def ticksPerDay : ℤ := 86400 * ticksPerSecond

/-- `FindByUserID`. -/
def findByUserID (u : UserID) (db : DB) : Option User := db.users.lookup u

/-- `CreateIfNotExists`: `INSERT INTO users … ON CONFLICT (user_id) DO NOTHING`. -/
def createIfNotExists (now : Time) (u : UserID) (db : DB) : List Write :=
  match db.users.lookup u with
  | none => [.user u (User.new now)]
  | some _ => []

/-- The response for a row: the age is in whole days. -/
def User.response (row : User) (u : UserID) (now : Time) : UserResponse where
  userID := u
  trustScore := row.trustScore
  totalVotes := row.totalVotes
  accuracyRate := row.accuracyRate
  accountAge := (now - row.firstSeen) / ticksPerDay
  isVIP := row.isVIP

/-- `LookupOrCreate` and `get_by_user_id`; `none` is the error of a user that is not found even
then. -/
def lookupOrCreate (q : LookupRequest) : Tx DB Write (Option UserResponse) := do
  match ← query (findByUserID q.userID) with
  | some row => return some (row.response q.userID q.answeredAt)
  | none =>
    exec (createIfNotExists q.createdAt q.userID)
    let row ← query (findByUserID q.userID)
    return row.map (·.response q.userID q.answeredAt)

/-- The row of `users` after a lookup. -/
def User.orNew (now : Time) (row : Option User) : User := row.getD (User.new now)

/-- **A lookup run alone**: it answers the row of the user, created if there was none. -/
theorem run_lookupOrCreate (q : LookupRequest) (db : DB) :
    (lookupOrCreate q).run db =
      (some ((User.orNew q.createdAt (db.users.lookup q.userID)).response q.userID q.answeredAt),
        { db with
          users := db.users.insert q.userID
            (User.orNew q.createdAt (db.users.lookup q.userID)) }) := by
  rw [lookupOrCreate, query_bind]
  change (Tx.run (match db.users.lookup q.userID with | some row => _ | none => _) db) = _
  cases hrow : db.users.lookup q.userID with
  | some row =>
    rw [User.orNew, Option.getD_some, Table.insert_eq_self hrow]
    rfl
  | none =>
    have hlook : (db.users.insert q.userID (User.new q.createdAt)).lookup q.userID =
        some (User.new q.createdAt) := Table.lookup_insert_self ..
    have hcreate : createIfNotExists q.createdAt q.userID db =
        [.user q.userID (User.new q.createdAt)] := by
      rw [createIfNotExists, hrow]
    simp only [exec_bind, run, hcreate]
    change ((db.users.insert q.userID (User.new q.createdAt)).lookup q.userID |>.map _, _) = _
    rw [hlook]
    rfl

/-! ### Trust -/

/-- The weights of the three factors. -/
def ageWeight : ℚ := 3 / 10

/-- `accuracyWeight`. -/
def accuracyWeight : ℚ := 1 / 2

/-- `volumeWeight`. -/
def volumeWeight : ℚ := 1 / 5

/-- `defaultAccuracy`. -/
def defaultAccuracy : ℚ := 1 / 2

/-- `minVotesForAccuracy`. -/
def minVotesForAccuracy : ℤ := 10

/-- `AgeFactor`: full weight after 60 days. -/
def ageFactor (firstSeen now : Time) : ℚ := min ((now - firstSeen : ℚ) / ticksPerDay / 60) 1

/-- `AccuracyFactor`: the accuracy rate of users with 10 votes or more, and the default of others.
-/
def accuracyFactor (accuracyRate : ℚ) (totalVotes : ℤ) : ℚ :=
  if totalVotes < minVotesForAccuracy then defaultAccuracy else accuracyRate

/-- `VolumeFactor`: full weight at 100 votes. -/
def volumeFactor (totalVotes : ℤ) : ℚ := min (totalVotes / 100) 1

/-- `ComputeTrustScore`. -/
def User.computeTrustScore (row : User) (now : Time) : ℚ :=
  min (ageFactor row.firstSeen now * ageWeight +
    accuracyFactor row.accuracyRate row.totalVotes * accuracyWeight +
    volumeFactor row.totalVotes * volumeWeight) 1

end RealTube
