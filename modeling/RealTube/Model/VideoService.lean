import RealTube.Model.Schema
import RealTube.Store.Query
import Mathlib.Data.Fintype.Pi

/-!
# Video lookups

`FindByHashPrefix`, `FindByVideoID` and `GetCategories` of `repository/video_repo.go`, and the
responses that `service/video_svc.go` builds from them. The queries are statements of their own,
outside any transaction. A response is stored in Redis as JSON and read back unchanged.
-/

namespace RealTube

/-- `CategoryDetail`. -/
structure CategoryDetail where
  votes : ℤ
  weightedScore : ℚ
  deriving DecidableEq

/-- `VideoResponse`. -/
structure VideoResponse where
  videoID : VideoID
  score : ℚ
  categories : Category → Option CategoryDetail
  totalVotes : ℤ
  locked : Bool
  channelID : Option ChannelID
  lastUpdated : Time
  deriving DecidableEq

/-- The video is shown. -/
def Video.visible (row : Video) : Bool := !row.hidden && !row.shadowHidden

/-- `FindByVideoID`: `SELECT … FROM videos WHERE video_id = $1 AND hidden = false AND shadow_hidden
= false`. -/
def findByVideoID (v : VideoID) (db : DB) : Option Video :=
  (db.videos.lookup v).filter Video.visible

/-- `GetCategories`: `SELECT … FROM video_categories WHERE video_id = $1`. -/
def getCategories (v : VideoID) (db : DB) (c : Category) : Option VideoCategory :=
  db.videoCategories.lookup (v, c)

/-- The response of `buildResponse` for a video and its categories. -/
def buildResponse (v : VideoID) (row : Video) (cats : Category → Option VideoCategory) :
    VideoResponse where
  videoID := v
  score := row.score
  categories c := (cats c).map fun cat ↦ ⟨cat.voteCount, cat.weightedScore⟩
  totalVotes := row.totalVotes
  locked := row.locked
  channelID := row.channelID
  lastUpdated := row.lastUpdated

/-- The response for a video on one database; `none` when the video is not found. -/
def DB.response (db : DB) (v : VideoID) : Option VideoResponse :=
  (findByVideoID v db).map fun row ↦ buildResponse v row (getCategories v db)

/-- `LookupByVideoID`, where the video is read from `db` and its categories from `db'`. A cached
response is answered as it is. -/
def lookupByVideoID (cached : Option VideoResponse) (v : VideoID) (db db' : DB) :
    Option VideoResponse :=
  cached.or <| (findByVideoID v db).map fun row ↦ buildResponse v row (getCategories v db')

/-! ### Lookups by hash prefix -/

/-- What `ValidateHashPrefix` lets through: four to eight lowercase hexadecimal digits, none of them
special to `LIKE`. -/
def IsHashPrefix (s : String) : Prop :=
  4 ≤ s.length ∧ s.length ≤ 8 ∧ ∀ c ∈ s.toList, c ∈ "0123456789abcdef".toList

/-- A validated prefix of a hash. -/
abbrev HashPrefix : Type := { s : String // IsHashPrefix s }

/-- `LIMIT 1000`. -/
def hashPrefixLimit : ℕ := 1000

/-- `FindByHashPrefix`: `SELECT … FROM videos WHERE encode(sha256(video_id::bytea), 'hex') LIKE $1
|| '%' AND hidden = false AND shadow_hidden = false LIMIT 1000`. -/
def findByHashPrefix (sha256Hex : VideoID → String) (order : Arrangement VideoID)
    (hashPrefix : HashPrefix) (db : DB) : List (VideoID × Video) :=
  ((db.videos.rows order (·.visible)).filter fun x ↦
    hashPrefix.1.toList <+: (sha256Hex x.1).toList).take hashPrefixLimit

/-- `LookupByHashPrefix`. -/
def lookupByHashPrefix (sha256Hex : VideoID → String) (order : Arrangement VideoID)
    (hashPrefix : HashPrefix) (db : DB) : List VideoResponse :=
  (findByHashPrefix sha256Hex order hashPrefix db).map fun x ↦
    buildResponse x.1 x.2 (getCategories x.1 db)

/-! ### What a response depends on -/

/-- A response depends on the row of the video and of its categories only. -/
theorem response_congr {db db' : DB} {v : VideoID} (hvideo : db.Same db' (.video v))
    (hcategory : ∀ c, db.Same db' (.videoCategory v c)) : db.response v = db'.response v := by
  have hcats : getCategories v db = getCategories v db' := funext hcategory
  rw [DB.response, DB.response, hcats, findByVideoID, findByVideoID,
    show db.videos.lookup v = db'.videos.lookup v from hvideo]

end RealTube
