import RealTube.Model.VideoService
import RealTube.Store.Query

/-!
# The sync endpoints

`DeltaSync` and `FullSync` of `service/sync_svc.go`, and `delta_sync` and `full_sync` of
`routers/sync.py`, which send the same queries in the same order. A delta is made of two queries and
a clock reading, each at its own moment: the changed rows of `sync_cache`, the changed channels, and
the timestamp that the client sends back as the next `since`.

`sync_cache` is a table of its own (`SyncDB`), keyed by its serial id; no statement of the
repository writes it.
-/

namespace RealTube

/-! ### The feed table -/

/-- The values of `sync_cache.action`. -/
inductive SyncAction where
  | update
  | remove
  deriving DecidableEq, Repr

/-- A row of `sync_cache`. The categories are a JSON document; `none` is one that is not a map of
category details. -/
structure SyncCacheRow where
  videoID : VideoID
  score : ℚ
  categories : Option (Category → Option CategoryDetail)
  channelID : Option ChannelID
  action : SyncAction
  changedAt : Time
  deriving DecidableEq

/-- The tables with the feed. -/
structure SyncDB extends DB where
  syncCache : Table ℕ SyncCacheRow

/-! ### Responses -/

/-- `SyncVideoEntry`. -/
structure SyncVideoEntry where
  videoID : VideoID
  score : ℚ
  categories : Option (Category → Option CategoryDetail)
  action : SyncAction
  deriving DecidableEq

/-- `SyncChannelEntry`. -/
structure SyncChannelEntry where
  channelID : ChannelID
  score : ℚ
  action : SyncAction
  deriving DecidableEq

/-- `SyncDeltaResponse`. -/
structure SyncDeltaResponse where
  videos : List SyncVideoEntry
  channels : List SyncChannelEntry
  syncTimestamp : Time

/-- `ChannelResponse`. -/
structure ChannelResponse where
  channelID : ChannelID
  score : ℚ
  totalVideos : ℤ
  flaggedVideos : ℤ
  locked : Bool
  lastUpdated : Time

/-- `SyncFullResponse`. -/
structure SyncFullResponse where
  videos : List VideoResponse
  channels : List ChannelResponse
  generatedAt : Time

/-! ### Delta sync -/

/-- The ticks of the database clock in a second. -/
def ticksPerSecond : ℤ := 1000000

/-- The time that `Format(time.RFC3339)` and `strftime("%Y-%m-%dT%H:%M:%SZ")` print: they drop the
fraction of the second. -/
def formatRFC3339 (now : Time) : Time := now / ticksPerSecond * ticksPerSecond

/-- `LIMIT 10000`, of both queries of a delta. -/
def deltaLimit : ℕ := 10000

/-- `SELECT … FROM sync_cache WHERE changed_at > $1 ORDER BY changed_at ASC LIMIT 10000`. -/
def selectChangedRows (order : Arrangement ℕ) (since : Time) (syncCache : Table ℕ SyncCacheRow) :
    List (ℕ × SyncCacheRow) :=
  syncCache.query order (since < ·.changedAt) (·.changedAt ≤ ·.changedAt) deltaLimit

/-- `SELECT channel_id, score FROM channels WHERE last_updated > $1 ORDER BY last_updated ASC LIMIT
10000`. -/
def selectChangedChannels (order : Arrangement ChannelID) (since : Time)
    (channels : Table ChannelID Channel) : List (ChannelID × Channel) :=
  channels.query order (since < ·.lastUpdated) (·.lastUpdated ≤ ·.lastUpdated) deltaLimit

/-- The entry for a row of the feed: the categories are sent with an update only. -/
def SyncCacheRow.entry (row : SyncCacheRow) : SyncVideoEntry where
  videoID := row.videoID
  score := row.score
  categories := if row.action = .update then row.categories else none
  action := row.action

/-- The entry for a channel. -/
def syncChannelEntry (x : ChannelID × Channel) : SyncChannelEntry where
  channelID := x.1
  score := x.2.score
  action := .update

/-- `DeltaSync`, on one state of the tables. -/
def deltaSync (rowOrder : Arrangement ℕ) (channelOrder : Arrangement ChannelID) (since now : Time)
    (db : SyncDB) : SyncDeltaResponse where
  videos := (selectChangedRows rowOrder since db.syncCache).map fun x ↦ x.2.entry
  channels := (selectChangedChannels channelOrder since db.channels).map syncChannelEntry
  syncTimestamp := formatRFC3339 now

/-! ### Full sync -/

/-- `LIMIT 50000`, of both queries of a full sync. -/
def fullLimit : ℕ := 50000

/-- `SELECT … FROM videos WHERE hidden = false AND shadow_hidden = false AND score > 0 ORDER BY
last_updated DESC LIMIT 50000`. -/
def selectFlaggedVideos (order : Arrangement VideoID) (videos : Table VideoID Video) :
    List (VideoID × Video) :=
  videos.query order (fun row ↦ row.visible ∧ 0 < row.score)
    (fun row row' ↦ row'.lastUpdated ≤ row.lastUpdated) fullLimit

/-- `SELECT … FROM channels WHERE score > 0 ORDER BY last_updated DESC LIMIT 50000`. -/
def selectFlaggedChannels (order : Arrangement ChannelID) (channels : Table ChannelID Channel) :
    List (ChannelID × Channel) :=
  channels.query order (0 < ·.score) (fun row row' ↦ row'.lastUpdated ≤ row.lastUpdated) fullLimit

/-- The response for a channel. -/
def channelResponse (x : ChannelID × Channel) : ChannelResponse where
  channelID := x.1
  score := x.2.score
  totalVideos := x.2.totalVideos
  flaggedVideos := x.2.flaggedVideos
  locked := x.2.locked
  lastUpdated := formatRFC3339 x.2.lastUpdated

/-- `FullSync`, on one state of the tables: the videos come without their categories. -/
def fullSync (videoOrder : Arrangement VideoID) (channelOrder : Arrangement ChannelID) (now : Time)
    (db : SyncDB) : SyncFullResponse where
  videos := (selectFlaggedVideos videoOrder db.videos).map fun x ↦
    buildResponse x.1 x.2 fun _ ↦ none
  channels := (selectFlaggedChannels channelOrder db.channels).map channelResponse
  generatedAt := formatRFC3339 now

end RealTube
