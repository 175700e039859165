import RealTube.Store.Table
import RealTube.Store.Transaction
import Mathlib.Data.Rat.Defs
import Mathlib.Data.Rat.Floor
import Mathlib.Algebra.Order.Field.Rat

/-!
# The database

The tables of `migrations/` that the vote, score and channel code reads or writes, with the columns
it uses. Every table has a primary key, so it is a `Table`; the `votes` table is keyed by its
unique constraint `(video_id, user_id)`, its serial id being of no consequence. `FLOAT` columns are
rationals and arithmetic on them is exact; `INTEGER` columns are integers.

A write is a whole new version of one row (`Write`), which is what a row lock protects. `notify` is
`pg_notify`: it touches no row, and is delivered when the transaction commits.

The second half of the module is what the invariants are about: the counters stored in `videos` and
`video_categories`, and the counts and sums over `votes` they are compared with.
-/

namespace RealTube

/-- The two backends, over one database. -/
inductive Backend where
  | go
  | python
  deriving DecidableEq

abbrev VideoID : Type := String
abbrev UserID : Type := String
abbrev ChannelID : Type := String

/-- Timestamps, in ticks of the database clock. -/
abbrev Time : Type := ℤ

/-- The conversion of a float to an integer, towards zero: `int` in either language. -/
def truncate (x : ℚ) : ℤ := x.num.tdiv x.den

theorem truncate_eq_floor {x : ℚ} (h : 0 ≤ x) : truncate x = ⌊x⌋ := by
  rw [truncate, Rat.floor_def', Int.tdiv_eq_ediv_of_nonneg (Rat.num_nonneg.2 h)]

/-- The category values `ValidCategories` allows. -/
inductive Category where
  | fullyAI
  | aiVoiceover
  | aiVisuals
  | aiThumbnails
  | aiAssisted
  deriving DecidableEq, Repr

/-- All valid categories. -/
def Category.all : List Category := [fullyAI, aiVoiceover, aiVisuals, aiThumbnails, aiAssisted]

theorem Category.mem_all (c : Category) : c ∈ all := by
  cases c <;> decide

theorem Category.nodup_all : all.Nodup := by decide

instance : Nonempty Category := ⟨.fullyAI⟩

instance : Fintype Category := ⟨⟨Category.all, Category.nodup_all⟩, Category.mem_all⟩

/-! ### Rows -/

/-- A row of `users`. -/
structure User where
  trustScore : ℚ
  accuracyRate : ℚ
  totalVotes : ℤ
  accurateVotes : ℤ
  firstSeen : Time
  lastActive : Time
  isVIP : Bool
  isShadowbanned : Bool
  deriving DecidableEq

/-- The row `INSERT INTO users (user_id)` creates: the column defaults. -/
def User.new (now : Time) : User where
  trustScore := 3 / 10
  accuracyRate := 1 / 2
  totalVotes := 0
  accurateVotes := 0
  firstSeen := now
  lastActive := now
  isVIP := false
  isShadowbanned := false

/-- A row of `videos`. -/
structure Video where
  channelID : Option ChannelID
  score : ℚ
  totalVotes : ℤ
  locked : Bool
  hidden : Bool
  shadowHidden : Bool
  lastUpdated : Time
  deriving DecidableEq

/-- The row `INSERT INTO videos (video_id)` creates: the column defaults. -/
def Video.new (now : Time) : Video where
  channelID := none
  score := 0
  totalVotes := 0
  locked := false
  hidden := false
  shadowHidden := false
  lastUpdated := now

/-- A row of `video_categories`. -/
structure VideoCategory where
  voteCount : ℤ
  weightedScore : ℚ
  deriving DecidableEq

/-- A row of `votes`. -/
structure Vote where
  category : Category
  trustWeight : ℚ
  createdAt : Time
  ipHash : String
  userAgent : Option String
  deriving DecidableEq

/-- A row of `channels`. -/
structure Channel where
  score : ℚ
  totalVideos : ℤ
  flaggedVideos : ℤ
  locked : Bool
  autoFlagNew : Bool
  lastUpdated : Time
  deriving DecidableEq

/-- The row `INSERT INTO channels (channel_id)` creates: the column defaults. -/
def Channel.new (now : Time) : Channel where
  score := 0
  totalVideos := 0
  flaggedVideos := 0
  locked := false
  autoFlagNew := false
  lastUpdated := now

/-- The tables. -/
structure DB where
  users : Table UserID User
  videos : Table VideoID Video
  videoCategories : Table (VideoID × Category) VideoCategory
  votes : Table (VideoID × UserID) Vote
  channels : Table ChannelID Channel

/-! ### Writes -/

/-- The rows of the database, as row locks see them. -/
inductive Row where
  | user (u : UserID)
  | video (v : VideoID)
  | videoCategory (v : VideoID) (c : Category)
  | vote (v : VideoID) (u : UserID)
  | channel (ch : ChannelID)
  deriving DecidableEq

/-- A new version of one row, or a notification. -/
inductive Write where
  | user (u : UserID) (row : User)
  | video (v : VideoID) (row : Video)
  | videoCategory (v : VideoID) (c : Category) (row : VideoCategory)
  | vote (v : VideoID) (u : UserID) (row : Vote)
  | dropVote (v : VideoID) (u : UserID)
  | channel (ch : ChannelID) (row : Channel)
  | notify (v : VideoID)
  deriving DecidableEq

/-- The row a write touches. -/
def Write.row : Write → Option Row
  | user u _ => some (.user u)
  | video v _ => some (.video v)
  | videoCategory v c _ => some (.videoCategory v c)
  | vote v u _ => some (.vote v u)
  | dropVote v u => some (.vote v u)
  | channel ch _ => some (.channel ch)
  | notify _ => none

/-- The database after a write. -/
def DB.write (db : DB) : Write → DB
  | .user u row => { db with users := db.users.insert u row }
  | .video v row => { db with videos := db.videos.insert v row }
  | .videoCategory v c row =>
    { db with videoCategories := db.videoCategories.insert (v, c) row }
  | .vote v u row => { db with votes := db.votes.insert (v, u) row }
  | .dropVote v u => { db with votes := db.votes.erase (v, u) }
  | .channel ch row => { db with channels := db.channels.insert ch row }
  | .notify _ => db

/-- Two databases have the same version of a row. -/
def DB.Same (db db' : DB) : Row → Prop
  | .user u => db.users.lookup u = db'.users.lookup u
  | .video v => db.videos.lookup v = db'.videos.lookup v
  | .videoCategory v c => db.videoCategories.lookup (v, c) = db'.videoCategories.lookup (v, c)
  | .vote v u => db.votes.lookup (v, u) = db'.votes.lookup (v, u)
  | .channel ch => db.channels.lookup ch = db'.channels.lookup ch

theorem DB.same_write {db db' : DB} {r : Row} (w : Write) (h : db.Same db' r) :
    (db.write w).Same (db'.write w) r := by
  cases w <;> cases r <;>
    simp only [DB.Same, DB.write, Table.lookup_insert, Table.lookup_erase] at h ⊢ <;> rw [h]

theorem DB.same_write_of_ne (db : DB) {r : Row} {w : Write} (h : w.row ≠ some r) :
    db.Same (db.write w) r := by
  cases w <;> cases r <;> simp_all [DB.Same, DB.write, Write.row, Table.lookup_insert,
    Table.lookup_erase, eq_comm]

instance : RowStore Write DB Row where
  apply := DB.write
  row := Write.row
  Same r db db' := db.Same db' r
  same_refl r db := by cases r <;> rfl
  same_trans {r} _ _ _ h h' := by cases r <;> exact Eq.trans h h'
  same_apply := DB.same_write
  same_apply_of_ne db _ h := db.same_write_of_ne h

/-- What a committed write tells the listeners of `vote_changes`: the trigger `vote_inserted` fires
on an inserted or updated row of `votes`, and `pg_notify` sends its payload. -/
def Write.notifies : Write → Option VideoID
  | vote v _ _ => some v
  | notify v => some v
  | _ => none

/-! ### Counters and what they count -/

namespace DB

variable (db : DB) (v : VideoID) (c : Category) (u : UserID)

/-- `videos.total_votes`, 0 when there is no row. -/
def totalVotes : ℤ := (db.videos.lookup v).elim 0 Video.totalVotes

/-- `videos.score`; `none` when there is no row. -/
def score : Option ℚ := (db.videos.lookup v).map Video.score

/-- `video_categories.vote_count`, 0 when there is no row. -/
def voteCount : ℤ := (db.videoCategories.lookup (v, c)).elim 0 VideoCategory.voteCount

/-- The category of a user's vote on a video. -/
def votedCategory : Option Category := (db.votes.lookup (v, u)).map Vote.category

/-- The number of votes on a video. -/
def votesOn : ℕ := db.votes.count fun k _ ↦ k.1 = v

/-- The number of votes on a video in one category. -/
def votesIn : ℕ := db.votes.count fun k row ↦ k.1 = v ∧ row.category = c

/-- The sum of the trust weights of the votes on a video. -/
def weightOn : ℚ := db.votes.sum fun k row ↦ if k.1 = v then row.trustWeight else 0

/-- The sum of the trust weights of the votes on a video in one category. -/
def weightIn : ℚ := db.votes.sum fun k row ↦
  if k.1 = v ∧ row.category = c then row.trustWeight else 0

end DB

end RealTube
