import RealTube.Extension.Sync
import RealTube.Model.Handlers
import RealTube.Model.SyncCodec

/-!
# The sync of the extension on JSON

`performDeltaSync` of `background/sync.ts` once more, on the response as it comes from `JSON.parse`,
where a field may be missing and any value may stand in it. An update is passed over if its score is
`undefined`, or if its categories are `undefined` or count as false. The cached entries hold the
values of the response as they are.

On entries that are well typed this is the program of `Extension.Sync` (`videoChange_json`,
`channelChange_json`).
-/

namespace RealTube.Extension.Wire

/-- `CachedVideo`. -/
structure CachedVideo where
  score : Json
  categories : Json
  channelID : String
  lastUpdated : Json

/-- `CachedChannel`. -/
structure CachedChannel where
  score : Json
  autoFlag : Bool
  lastUpdated : Json

/-- The stores, and `lastDeltaSync`. -/
structure Cache where
  videos : Table VideoID CachedVideo
  channels : Table ChannelID CachedChannel
  lastDeltaSync : Json

/-- What the loop does with an entry for a video. -/
def videoChange (syncTimestamp video : Json) : Replica.Change VideoID CachedVideo :=
  let videoID := (video.getStr "videoId").getD ""
  if video.getStr "action" = some "remove" then .remove videoID
  else if video.getStr "action" = some "update" then
    match video.get "score", (video.get "categories").filter Json.truthy with
    | some score, some categories =>
      .put videoID { score, categories, channelID := "", lastUpdated := syncTimestamp }
    | _, _ => .skip
  else .skip

/-- What it does with an entry for a channel. -/
def channelChange (syncTimestamp channel : Json) : Replica.Change ChannelID CachedChannel :=
  let channelID := (channel.getStr "channelId").getD ""
  if channel.getStr "action" = some "remove" then .remove channelID
  else if channel.getStr "action" = some "update" then
    match channel.get "score" with
    | some score => .put channelID { score, autoFlag := false, lastUpdated := syncTimestamp }
    | none => .skip
  else .skip

/-- `performDeltaSync` on a response. -/
def performDeltaSync (data : Json) (cache : Cache) : Cache :=
  let syncTimestamp := (data.get "syncTimestamp").getD .null
  { videos := Replica.applyAll cache.videos
      (Replica.applyChanges ((data.getItems "videos").map (videoChange syncTimestamp)) [])
    channels := Replica.applyAll cache.channels
      (Replica.applyChanges ((data.getItems "channels").map (channelChange syncTimestamp)) [])
    lastDeltaSync := syncTimestamp }

/-! ### Well-typed entries -/

/-- A change of other values at the same key. -/
def mapChange {K V V' : Type} (f : V → V') : Replica.Change K V → Replica.Change K V'
  | .remove k => .remove k
  | .put k v => .put k (f v)
  | .skip => .skip

/-- An action as it is sent. -/
def actionName : SyncAction → String
  | .update => "update"
  | .remove => "remove"

/-- Categories as they are sent. -/
def categoriesJson (categories : Categories) : Json :=
  .obj (Category.all.filterMap fun c ↦ (categories c).map fun d ↦ (c.name, d.json))

/-- An entry for a video as it is sent. -/
def videoJson (video : DeltaVideo) : Json :=
  .obj (("videoId", .str video.videoID) :: Json.fieldOf "score" (video.score.map .num) ++
    Json.fieldOf "categories" (video.categories.map categoriesJson) ++
    [("action", .str (actionName video.action))])

/-- An entry for a channel as it is sent. -/
def channelJson (channel : DeltaChannel) : Json :=
  .obj (("channelId", .str channel.channelID) :: Json.fieldOf "score" (channel.score.map .num) ++
    [("action", .str (actionName channel.action))])

/-- **The program on well-typed entries**, for videos. -/
theorem videoChange_json (time : Time → Json) (t : Time) (video : DeltaVideo) :
    videoChange (time t) (videoJson video) = mapChange (fun entry : Extension.CachedVideo ↦
      { score := .num entry.score, categories := categoriesJson entry.categories,
        channelID := entry.channelID.getD "", lastUpdated := time entry.lastUpdated })
      (video.change t) := by
  obtain ⟨videoID, score, categories, action⟩ := video
  cases action <;> cases score <;> cases categories <;> rfl

/-- **The program on well-typed entries**, for channels. -/
theorem channelChange_json (time : Time → Json) (t : Time) (channel : DeltaChannel) :
    channelChange (time t) (channelJson channel) = mapChange (fun entry : Extension.CachedChannel ↦
      { score := .num entry.score, autoFlag := entry.autoFlag,
        lastUpdated := time entry.lastUpdated })
      (channel.change t) := by
  obtain ⟨channelID, score, action⟩ := channel
  cases action <;> cases score <;> rfl

end RealTube.Extension.Wire
