import RealTube.Extension.Sync

/-!
# What a delta leaves as it was

A delta carries the score and the categories of a video, and the score of a channel. It does not
carry the channel of a video (`DeltaSync` reads `channel_id` from the table and drops it), nor
`autoFlag`. Still `performDeltaSync` writes whole records, with `channelId: ""` and
`autoFlag: false` in them, where the full sync and the lookup of a video keep the channel.

So an update leaves these two fields as they were exactly where they had these values already
(`deltaKeeps_iff`). What is not in the response is left alone.
-/

namespace RealTube.Extension

/-- The response removes nothing. -/
def SyncDeltaResponse.NoRemovals (data : SyncDeltaResponse) : Prop :=
  (∀ video ∈ data.videos, video.action ≠ .remove) ∧
    ∀ channel ∈ data.channels, channel.action ≠ .remove

instance (data : SyncDeltaResponse) : Decidable data.NoRemovals :=
  inferInstanceAs (Decidable (_ ∧ _))

/-- **A delta changes only what it carries**: the channels of cached videos and the flags of cached
channels are kept, and what the response does not mention is as it was. -/
structure DeltaKeeps (cache : Cache) (data : SyncDeltaResponse) : Prop where
  channelID : ∀ v row, cache.videos.lookup v = some row →
    ∃ row', (cache.applyAll (performDeltaSync data)).videos.lookup v = some row' ∧
      row'.channelID = row.channelID
  autoFlag : ∀ ch row, cache.channels.lookup ch = some row →
    ∃ row', (cache.applyAll (performDeltaSync data)).channels.lookup ch = some row' ∧
      row'.autoFlag = row.autoFlag
  otherVideos : ∀ v, (∀ video ∈ data.videos, video.videoID ≠ v) →
    (cache.applyAll (performDeltaSync data)).videos.lookup v = cache.videos.lookup v
  otherChannels : ∀ ch, (∀ channel ∈ data.channels, channel.channelID ≠ ch) →
    (cache.applyAll (performDeltaSync data)).channels.lookup ch = cache.channels.lookup ch

variable {cache : Cache} {data : SyncDeltaResponse}

/-! ### The updates of a response -/

theorem mem_updated_videoChanges (h : data.NoRemovals) {v : VideoID} {row : CachedVideo} :
    (v, row) ∈ Replica.updated data.videoChanges ↔
      ∃ video ∈ data.videos, video.videoID = v ∧ ∃ score categories, video.score = some score ∧
        video.categories = some categories ∧
          row = { score, categories, channelID := some "", lastUpdated := data.syncTimestamp } := by
  rw [Replica.updated, SyncDeltaResponse.videoChanges, List.filterMap_map, List.mem_filterMap]
  refine exists_congr fun video ↦ and_congr_right fun hmem ↦ ?_
  have haction := h.1 video hmem
  obtain ⟨videoID, score, categories, action⟩ := video
  cases action with
  | remove => exact absurd rfl haction
  | update =>
    rcases score with - | score <;> rcases categories with - | categories <;>
      simp [DeltaVideo.change, Replica.Change.updatedRow, eq_comm]

theorem mem_updated_channelChanges (h : data.NoRemovals) {ch : ChannelID} {row : CachedChannel} :
    (ch, row) ∈ Replica.updated data.channelChanges ↔
      ∃ channel ∈ data.channels, channel.channelID = ch ∧ ∃ score, channel.score = some score ∧
        row = { score, autoFlag := false, lastUpdated := data.syncTimestamp } := by
  rw [Replica.updated, SyncDeltaResponse.channelChanges, List.filterMap_map, List.mem_filterMap]
  refine exists_congr fun channel ↦ and_congr_right fun hmem ↦ ?_
  have haction := h.2 channel hmem
  obtain ⟨channelID, score, action⟩ := channel
  cases action with
  | remove => exact absurd rfl haction
  | update =>
    rcases score with - | score <;>
      simp [DeltaChannel.change, Replica.Change.updatedRow, eq_comm]

theorem removed_videoChanges (h : data.NoRemovals) : Replica.removed data.videoChanges = [] := by
  rw [Replica.removed, SyncDeltaResponse.videoChanges, List.filterMap_map,
    List.filterMap_eq_nil_iff]
  intro video hmem
  have haction := h.1 video hmem
  obtain ⟨videoID, score, categories, action⟩ := video
  cases action with
  | remove => exact absurd rfl haction
  | update => cases score <;> cases categories <;> rfl

theorem removed_channelChanges (h : data.NoRemovals) :
    Replica.removed data.channelChanges = [] := by
  rw [Replica.removed, SyncDeltaResponse.channelChanges, List.filterMap_map,
    List.filterMap_eq_nil_iff]
  intro channel hmem
  have haction := h.2 channel hmem
  obtain ⟨channelID, score, action⟩ := channel
  cases action with
  | remove => exact absurd rfl haction
  | update => cases score <;> rfl

/-! ### What is kept -/

/-- **The condition**: a cached video that the response updates has no channel, and a cached channel
that it updates has no flag. -/
def NothingToLose (cache : Cache) (data : SyncDeltaResponse) : Prop :=
  (∀ video ∈ data.videos, video.score ≠ none → video.categories ≠ none →
    ∀ row, cache.videos.lookup video.videoID = some row → row.channelID = some "") ∧
  ∀ channel ∈ data.channels, channel.score ≠ none →
    ∀ row, cache.channels.lookup channel.channelID = some row → row.autoFlag = false

/-- **Exactly when a delta changes only what it carries.** -/
theorem deltaKeeps_iff (cache : Cache) (data : SyncDeltaResponse) (h : data.NoRemovals) :
    DeltaKeeps cache data ↔ NothingToLose cache data := by
  have hvideos := Replica.field_kept_iff CachedVideo.channelID (some "")
    cache.videos (removed_videoChanges h) fun v row hrow ↦ by
      obtain ⟨video, -, -, score, categories, -, -, rfl⟩ := (mem_updated_videoChanges h).1 hrow
      rfl
  have hchannels := Replica.field_kept_iff CachedChannel.autoFlag false
    cache.channels (removed_channelChanges h) fun ch row hrow ↦ by
      obtain ⟨channel, -, -, score, -, rfl⟩ := (mem_updated_channelChanges h).1 hrow
      rfl
  constructor
  · rintro ⟨hchannel, hflag, -, -⟩
    rw [Cache.applyAll_performDeltaSync] at hchannel hflag
    refine ⟨fun video hmem hscore hcategories row hrow ↦ ?_, fun channel hmem hscore row hrow ↦ ?_⟩
    · obtain ⟨score, hscore⟩ := Option.ne_none_iff_exists'.1 hscore
      obtain ⟨categories, hcategories⟩ := Option.ne_none_iff_exists'.1 hcategories
      exact hvideos.1 hchannel _ _ ((mem_updated_videoChanges h).2
        ⟨video, hmem, rfl, score, categories, hscore, hcategories, rfl⟩) row hrow
    · obtain ⟨score, hscore⟩ := Option.ne_none_iff_exists'.1 hscore
      exact hchannels.1 hflag _ _ ((mem_updated_channelChanges h).2
        ⟨channel, hmem, rfl, score, hscore, rfl⟩) row hrow
  · rintro ⟨hchannel, hflag⟩
    constructor
    · rw [Cache.applyAll_performDeltaSync]
      refine hvideos.2 fun v row' hput row hrow ↦ ?_
      obtain ⟨video, hmem, rfl, score, categories, hscore, hcategories, -⟩ :=
        (mem_updated_videoChanges h).1 hput
      exact hchannel video hmem (hscore ▸ Option.some_ne_none score)
        (hcategories ▸ Option.some_ne_none categories) row hrow
    · rw [Cache.applyAll_performDeltaSync]
      refine hchannels.2 fun ch row' hput row hrow ↦ ?_
      obtain ⟨channel, hmem, rfl, score, hscore, -⟩ := (mem_updated_channelChanges h).1 hput
      exact hflag channel hmem (hscore ▸ Option.some_ne_none score) row hrow
    · intro v hv
      rw [Cache.applyAll_performDeltaSync]
      refine Replica.lookup_applyChanges_of_not_updated _ (removed_videoChanges h) fun row hrow ↦ ?_
      obtain ⟨video, hmem, heq, -⟩ := (mem_updated_videoChanges h).1 hrow
      exact hv video hmem heq
    · intro ch hch
      rw [Cache.applyAll_performDeltaSync]
      refine Replica.lookup_applyChanges_of_not_updated _ (removed_channelChanges h)
        fun row hrow ↦ ?_
      obtain ⟨channel, hmem, heq, -⟩ := (mem_updated_channelChanges h).1 hrow
      exact hch channel hmem heq

/-! ### One update -/

/-- A cache with one video of a channel, as a full sync leaves it. -/
def cacheOfChannel (channelID : String) : Cache where
  videos := (∅ : Table VideoID CachedVideo).insert "v" ⟨50, fun _ ↦ none, some channelID, 5⟩
  channels := ∅
  lastDeltaSync := some 5
  lastFullSync := some 5

/-- A video without a channel has none to lose. -/
theorem deltaKeeps_withoutChannel : DeltaKeeps (cacheOfChannel "") (deltaAt 10 60) := by
  refine (deltaKeeps_iff _ _ (by decide)).2 ⟨fun video hmem _ _ row hrow ↦ ?_, by decide⟩
  obtain rfl := List.mem_singleton.1 hmem
  change (cacheOfChannel "").videos.lookup "v" = some row at hrow
  rw [cacheOfChannel, Table.lookup_insert, if_pos rfl] at hrow
  obtain rfl := Option.some.inj hrow
  rfl

/-- **A video loses its channel** with the first update of its score. -/
theorem not_deltaKeeps : ¬∀ (cache : Cache) (data : SyncDeltaResponse), data.NoRemovals →
    DeltaKeeps cache data := by
  intro h
  have hrow : (cacheOfChannel "UC1").videos.lookup "v" =
      some ⟨50, fun _ ↦ none, some "UC1", 5⟩ := by
    rw [cacheOfChannel, Table.lookup_insert, if_pos rfl]
  obtain ⟨row, hlookup, hchannel⟩ :=
    (h (cacheOfChannel "UC1") (deltaAt 10 60) (by decide)).channelID "v" _ hrow
  have hempty : (((cacheOfChannel "UC1").applyAll (performDeltaSync (deltaAt 10 60))).videos.lookup
      "v").map CachedVideo.channelID = some (some "") := by decide +kernel
  rw [hlookup, Option.map_some, hchannel] at hempty
  exact absurd hempty (by decide)

end RealTube.Extension
