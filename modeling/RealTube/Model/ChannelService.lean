import RealTube.Model.SyncService
import RealTube.Store.CacheAside

/-!
# Channel lookups

`Lookup` of `service/channel_svc.go`, over `FindByChannelID` and `GetTopCategories` of
`repository/channel_repo.go`, and `get_by_channel_id` of `routers/channels.py`, over `lookup` of
`services/channel_service.py`, which sends the same queries in the same order. Both backends use one
Redis, under the same keys and with the same lifetimes: an answer that one of them has cached is
answered by the other. A response is stored as JSON and read back unchanged.

The services are instances of `CacheAside.twoQueries`: a lookup of a channel reads its row and then
its top categories, a lookup of a video its row and then its categories, each query on what is
committed then. A write is a commit, that is a list of new versions of rows.
-/

open CacheAside

namespace RealTube

/-! ### The channel of a video -/

/-- `videos.channel_id` of a video; `none` also when there is no row. -/
def DB.channelOf (db : DB) (v : VideoID) : Option ChannelID :=
  (db.videos.lookup v).bind Video.channelID

/-- The number of rows of `video_categories` that a category has among the videos of a channel. -/
def DB.categoryRows (db : DB) (ch : ChannelID) (c : Category) : ℕ :=
  db.videoCategories.count fun k _ ↦ db.channelOf k.1 = some ch ∧ k.2 = c

/-- `SUM(vc.weighted_score)` of a category among the videos of a channel. -/
def DB.categoryWeight (db : DB) (ch : ChannelID) (c : Category) : ℚ :=
  db.videoCategories.sum fun k row ↦
    if db.channelOf k.1 = some ch ∧ k.2 = c then row.weightedScore else 0

/-! ### The queries -/

/-- `FindByChannelID`: `SELECT … FROM channels WHERE channel_id = $1`. -/
def findByChannelID (ch : ChannelID) (db : DB) : Option Channel := db.channels.lookup ch

/-- `GetTopCategories`: `SELECT vc.category FROM video_categories vc JOIN videos v ON v.video_id =
vc.video_id WHERE v.channel_id = $1 GROUP BY vc.category ORDER BY SUM(vc.weighted_score) DESC`. -/
def getTopCategories (ch : ChannelID) (order : Arrangement Category) (db : DB) : List Category :=
  (order.list (Finset.univ.filter fun c ↦ 0 < db.categoryRows ch c)).insertionSort
    fun c c' ↦ db.categoryWeight ch c' ≤ db.categoryWeight ch c

/-- **The groups of the query** are the categories some video of the channel has a row for. -/
theorem mem_getTopCategories {ch : ChannelID} {order : Arrangement Category} {db : DB}
    {c : Category} : c ∈ getTopCategories ch order db ↔ 0 < db.categoryRows ch c := by
  rw [getTopCategories, List.mem_insertionSort, order.mem_list, Finset.mem_filter]
  exact and_iff_right (Finset.mem_univ c)

theorem nodup_getTopCategories (ch : ChannelID) (order : Arrangement Category) (db : DB) :
    (getTopCategories ch order db).Nodup :=
  (List.perm_insertionSort _ _).nodup_iff.2 (order.nodup _)

/-- **Their order** is that of the sums, the greatest first. -/
theorem pairwise_getTopCategories (ch : ChannelID) (order : Arrangement Category) (db : DB) :
    (getTopCategories ch order db).Pairwise fun c c' ↦
      db.categoryWeight ch c' ≤ db.categoryWeight ch c := by
  have htrans : IsTrans Category fun c c' ↦ db.categoryWeight ch c' ≤ db.categoryWeight ch c :=
    ⟨fun _ _ _ h h' ↦ h'.trans h⟩
  have htotal : Std.Total fun c c' ↦ db.categoryWeight ch c' ≤ db.categoryWeight ch c :=
    ⟨fun c c' ↦ le_total _ _⟩
  exact List.pairwise_insertionSort _ _

/-- Categories in the order of their declaration. -/
def Category.arrangement : Arrangement Category where
  list s := all.filter (· ∈ s)
  nodup _ := nodup_all.filter _
  mem_list := by
    intro s c
    rw [List.mem_filter, decide_eq_true_eq]
    exact and_iff_right (mem_all c)

/-! ### Responses -/

deriving instance DecidableEq for ChannelResponse

/-- `ChannelResponse` of a lookup, with the top categories. -/
structure ChannelLookup extends ChannelResponse where
  topCategories : List Category
  deriving DecidableEq

/-- The response of `Lookup` for a row and the top categories. -/
def buildChannelLookup (ch : ChannelID) (row : Channel) (topCategories : List Category) :
    ChannelLookup where
  toChannelResponse := channelResponse (ch, row)
  topCategories := topCategories

/-! ### The cache -/

/-- `VideoCacheTTL`, in milliseconds. -/
def videoCacheTTL : ℕ := 5 * 60 * 1000

/-- `ChannelCacheTTL`, in milliseconds. -/
def channelCacheTTL : ℕ := 15 * 60 * 1000

/-- `Lookup` of a channel, beside commits. -/
def channelService : Service ChannelID (Arrangement Category) DB (List Write) (Option Channel)
    ChannelLookup :=
  twoQueries findByChannelID
    (fun ch row order db ↦ buildChannelLookup ch row (getTopCategories ch order db))
    RowStore.applyAll channelCacheTTL

/-- `LookupByVideoID`, beside commits. -/
def videoService : Service VideoID Unit DB (List Write) (Option Video) VideoResponse :=
  twoQueries findByVideoID (fun v row _ db ↦ buildResponse v row (getCategories v db))
    RowStore.applyAll videoCacheTTL

end RealTube
