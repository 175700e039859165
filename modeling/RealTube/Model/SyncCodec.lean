import RealTube.Model.SyncService
import RealTube.Text.Json
import Mathlib.Data.String.Basic

/-!
# The JSON of a delta

How `DeltaSync` of `service/sync_svc.go` and `delta_sync` of `routers/sync.py` write the rows they
have read. The entries of both have the same fields. Go leaves out fields marked `omitempty` when
they are zero (`SyncVideoEntry` and `SyncChannelEntry` of `model/user.go`): a number that is 0, a
map without entries. Python leaves out the fields that are `None`.

The categories of a row are a JSON document; `none` is one that is not a map of category details.
Numbers are written so that they are read back as they were.
-/

namespace RealTube

/-- A row of `sync_cache`, as it is read for a delta. -/
structure DeltaRow where
  videoID : VideoID
  score : ℚ
  categories : Option (Table String CategoryDetail)
  action : String

/-- A row of `channels`, as it is read for a delta. -/
structure DeltaChannelRow where
  channelID : ChannelID
  score : ℚ

/-- The values of `SyncVideoEntry`: the categories are sent with an update only. -/
def DeltaRow.entry (row : DeltaRow) : DeltaRow :=
  { row with categories := if row.action = "update" then row.categories else none }

/-- `CategoryDetail`. -/
def CategoryDetail.json (d : CategoryDetail) : Json :=
  .obj [("votes", .num d.votes), ("weightedScore", .num d.weightedScore)]

namespace Go

/-- The JSON of a `SyncVideoEntry`. A map is written in the order of its keys. -/
def videoEntryJson (entry : DeltaRow) : Json :=
  .obj (("videoId", .str entry.videoID) ::
    Json.fieldUnless (entry.score = 0) "score" (.num entry.score) ++
    Json.fieldOf "categories" ((entry.categories.filter fun cats ↦ cats.keys ≠ ∅).map
      (Json.ofTable (.ascending String) CategoryDetail.json)) ++
    [("action", .str entry.action)])

/-- The JSON of a `SyncChannelEntry`. -/
def channelEntryJson (row : DeltaChannelRow) : Json :=
  .obj (("channelId", .str row.channelID) ::
    Json.fieldUnless (row.score = 0) "score" (.num row.score) ++ [("action", .str "update")])

end Go

namespace Python

/-- The JSON of a `SyncVideoEntry`. A dictionary is written in its own order. -/
def videoEntryJson (order : Arrangement String) (entry : DeltaRow) : Json :=
  .obj (("videoId", .str entry.videoID) :: ("score", .num entry.score) ::
    Json.fieldOf "categories" (entry.categories.map (Json.ofTable order CategoryDetail.json)) ++
    [("action", .str entry.action)])

/-- The JSON of a `SyncChannelEntry`. -/
def channelEntryJson (row : DeltaChannelRow) : Json :=
  .obj [("channelId", .str row.channelID), ("score", .num row.score), ("action", .str "update")]

end Python

namespace Backend

/-- The JSON of an entry for a video. -/
def videoEntryJson (order : Arrangement String) : Backend → DeltaRow → Json
  | go => Go.videoEntryJson
  | python => Python.videoEntryJson order

/-- The JSON of an entry for a channel. -/
def channelEntryJson : Backend → DeltaChannelRow → Json
  | go => Go.channelEntryJson
  | python => Python.channelEntryJson

/-- `SyncDeltaResponse`, for the rows of the two queries. -/
def deltaJson (b : Backend) (order : Arrangement String) (rows : List DeltaRow)
    (channels : List DeltaChannelRow) (syncTimestamp : String) : Json :=
  .obj [("videos", .arr (rows.map fun row ↦ b.videoEntryJson order row.entry)),
    ("channels", .arr (channels.map b.channelEntryJson)),
    ("syncTimestamp", .str syncTimestamp)]

end Backend

end RealTube
