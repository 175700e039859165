import RealTube.Extension.Wire

/-!
# What is left of a delta on the way

A delta is encoded by one of the backends, decoded by the extension and applied to its cache. The
three differ on what a missing field means. Go leaves out a score of 0 and a map without entries;
the extension passes over an update without a score or without categories. So an update to 0, which
is how a video or a channel is cleared, is lost between Go and the extension, and the cached entry
stays as it was (`delta_applied_iff`). Python leaves out nothing that is there, and all of its
updates arrive.
-/

namespace RealTube

open Extension

/-! ### One entry -/

/-- The name of the entry is that of the row. -/
theorem getStr_videoEntryJson (b : Backend) (order : Arrangement String) (row : DeltaRow) :
    (b.videoEntryJson order row).getStr "videoId" = some row.videoID := by
  obtain ⟨videoID, score, categories, action⟩ := row
  cases b with
  | go =>
    simp only [Backend.videoEntryJson, Go.videoEntryJson, Json.fieldUnless]
    cases categories.filter fun cats : Table String CategoryDetail ↦ cats.keys ≠ ∅ <;>
      split <;> rfl
  | python => cases categories <;> rfl

theorem getStr_channelEntryJson (b : Backend) (row : DeltaChannelRow) :
    (b.channelEntryJson row).getStr "channelId" = some row.channelID := by
  cases b with
  | go =>
    simp only [Backend.channelEntryJson, Go.channelEntryJson, Json.fieldUnless]
    split <;> rfl
  | python => rfl

/-- An entry is about no other video. -/
theorem about_videoChange_of_ne {t j : Json} {id v : VideoID} (hid : j.getStr "videoId" = some id)
    (hv : id ≠ v) : (Wire.videoChange t j).about v = none := by
  rw [Wire.videoChange, hid]
  dsimp only [Option.getD_some]
  split_ifs
  · exact if_neg hv.symm
  · split
    · exact if_neg hv.symm
    · rfl
  · rfl

theorem about_channelChange_of_ne {t j : Json} {id ch : ChannelID}
    (hid : j.getStr "channelId" = some id) (hch : id ≠ ch) :
    (Wire.channelChange t j).about ch = none := by
  rw [Wire.channelChange, hid]
  dsimp only [Option.getD_some]
  split_ifs
  · exact if_neg hch.symm
  · split
    · exact if_neg hch.symm
    · rfl
  · rfl

/-- **What the extension makes of an update by Go**: nothing, if the score or the categories are
left out. -/
theorem videoChange_go {t : Json} {row : DeltaRow} {cats : Table String CategoryDetail}
    (haction : row.action = "update") (hcats : row.categories = some cats)
    (order : Arrangement String) :
    Wire.videoChange t (Backend.go.videoEntryJson order row.entry) =
      if row.score = 0 ∨ cats.keys = ∅ then .skip
      else .put row.videoID {
        score := .num row.score
        categories := Json.ofTable (.ascending String) CategoryDetail.json cats
        channelID := ""
        lastUpdated := t } := by
  obtain ⟨videoID, score, categories, action⟩ := row
  obtain rfl : action = "update" := haction
  obtain rfl : categories = some cats := hcats
  simp only [Backend.videoEntryJson, Go.videoEntryJson, DeltaRow.entry, if_true, Json.fieldUnless,
    Option.filter_some]
  by_cases hscore : score = 0 <;> by_cases hempty : cats.keys = ∅ <;>
    simp only [hscore, hempty, decide_true, decide_false, ne_eq, not_true_eq_false,
      not_false_eq_true, if_true, if_false, true_or, or_true, or_self] <;> rfl

/-- **What it makes of an update by Python.** -/
theorem videoChange_python {t : Json} {row : DeltaRow} {cats : Table String CategoryDetail}
    (haction : row.action = "update") (hcats : row.categories = some cats)
    (order : Arrangement String) :
    Wire.videoChange t (Backend.python.videoEntryJson order row.entry) = .put row.videoID {
        score := .num row.score
        categories := Json.ofTable order CategoryDetail.json cats
        channelID := ""
        lastUpdated := t } := by
  obtain ⟨videoID, score, categories, action⟩ := row
  obtain rfl : action = "update" := haction
  obtain rfl : categories = some cats := hcats
  rfl

theorem channelChange_go (t : Json) (row : DeltaChannelRow) :
    Wire.channelChange t (Backend.go.channelEntryJson row) =
      if row.score = 0 then .skip
      else .put row.channelID { score := .num row.score, autoFlag := false, lastUpdated := t } := by
  simp only [Backend.channelEntryJson, Go.channelEntryJson, Json.fieldUnless]
  by_cases hscore : row.score = 0 <;> simp only [hscore, decide_true, decide_false, if_true] <;> rfl

theorem channelChange_python (t : Json) (row : DeltaChannelRow) :
    Wire.channelChange t (Backend.python.channelEntryJson row) =
      .put row.channelID { score := .num row.score, autoFlag := false, lastUpdated := t } := rfl

/-! ### A response -/

/-- The cache has this score and exactly these categories for a video. -/
def Extension.Wire.Cache.HasVideo (cache : Wire.Cache) (v : VideoID) (score : ℚ)
    (cats : Table String CategoryDetail) : Prop :=
  ∃ entry, cache.videos.lookup v = some entry ∧ entry.score = .num score ∧
    entry.categories.Represents CategoryDetail.json cats

/-- The cache has this score for a channel. -/
def Extension.Wire.Cache.HasChannel (cache : Wire.Cache) (ch : ChannelID) (score : ℚ) : Prop :=
  ∃ entry, cache.channels.lookup ch = some entry ∧ entry.score = .num score

section Response

variable (b : Backend) (order : Arrangement String) {rows : List DeltaRow}
  {channels : List DeltaChannelRow} (syncTimestamp : String) (cache : Wire.Cache)

/-- The cached entry of a video after a response with one row for it. -/
theorem lookup_videos_performDeltaSync {row : DeltaRow} (hrow : row ∈ rows)
    (hone : ∀ row' ∈ rows, row'.videoID = row.videoID → row' = row) :
    (Wire.performDeltaSync (b.deltaJson order rows channels syncTimestamp) cache).videos.lookup
        row.videoID =
      ((Wire.videoChange (.str syncTimestamp) (b.videoEntryJson order row.entry)).about
        row.videoID).getD (cache.videos.lookup row.videoID) := by
  change (Replica.applyAll cache.videos (Replica.applyChanges ((rows.map fun row ↦
    b.videoEntryJson order row.entry).map (Wire.videoChange (.str syncTimestamp))) [])).lookup _ = _
  rw [List.map_map]
  refine Replica.lookup_applyChanges_of_one _ (List.mem_map_of_mem hrow) fun c hc ↦ ?_
  obtain ⟨row', hrow', rfl⟩ := List.mem_map.1 hc
  by_cases hid : row'.videoID = row.videoID
  · exact Or.inr (by rw [hone row' hrow' hid]; rfl)
  · exact Or.inl (about_videoChange_of_ne (getStr_videoEntryJson b order row'.entry) hid)

/-- The cached entry of a channel after a response with one row for it. -/
theorem lookup_channels_performDeltaSync {row : DeltaChannelRow} (hrow : row ∈ channels)
    (hone : ∀ row' ∈ channels, row'.channelID = row.channelID → row' = row) :
    (Wire.performDeltaSync (b.deltaJson order rows channels syncTimestamp) cache).channels.lookup
        row.channelID =
      ((Wire.channelChange (.str syncTimestamp) (b.channelEntryJson row)).about
        row.channelID).getD (cache.channels.lookup row.channelID) := by
  change (Replica.applyAll cache.channels (Replica.applyChanges ((channels.map
    b.channelEntryJson).map (Wire.channelChange (.str syncTimestamp))) [])).lookup _ = _
  rw [List.map_map]
  refine Replica.lookup_applyChanges_of_one _ (List.mem_map_of_mem hrow) fun c hc ↦ ?_
  obtain ⟨row', hrow', rfl⟩ := List.mem_map.1 hc
  by_cases hid : row'.channelID = row.channelID
  · exact Or.inr (by rw [hone row' hrow' hid]; rfl)
  · exact Or.inl (about_channelChange_of_ne (getStr_channelEntryJson b row') hid)

end Response

/-- **What arrives**: whatever else a response holds, an update of a video by Go leaves its score
and categories in the cache exactly when the score is not 0 and there is a category, or when they
were there before; and an update of a channel exactly when the score is not 0, or was there before.
Updates by Python always do. -/
theorem delta_applied_iff (order : Arrangement String) (rows : List DeltaRow)
    (channels : List DeltaChannelRow) (syncTimestamp : String) (cache : Wire.Cache) :
    (∀ row cats, row ∈ rows → row.action = "update" → row.categories = some cats →
      (∀ row' ∈ rows, row'.videoID = row.videoID → row' = row) →
      ((Wire.performDeltaSync (Backend.go.deltaJson order rows channels syncTimestamp)
          cache).HasVideo row.videoID row.score cats ↔
        (row.score ≠ 0 ∧ cats.keys ≠ ∅) ∨ cache.HasVideo row.videoID row.score cats) ∧
      (Wire.performDeltaSync (Backend.python.deltaJson order rows channels syncTimestamp)
        cache).HasVideo row.videoID row.score cats) ∧
    ∀ row ∈ channels, (∀ row' ∈ channels, row'.channelID = row.channelID → row' = row) →
      ((Wire.performDeltaSync (Backend.go.deltaJson order rows channels syncTimestamp)
          cache).HasChannel row.channelID row.score ↔
        row.score ≠ 0 ∨ cache.HasChannel row.channelID row.score) ∧
      (Wire.performDeltaSync (Backend.python.deltaJson order rows channels syncTimestamp)
        cache).HasChannel row.channelID row.score := by
  refine ⟨fun row cats hrow haction hcats hone ↦ ⟨?_, ?_⟩, fun row hrow hone ↦ ⟨?_, ?_⟩⟩
  · rw [Wire.Cache.HasVideo, lookup_videos_performDeltaSync .go order syncTimestamp cache hrow hone,
      videoChange_go haction hcats]
    split_ifs with hleft
    · rw [or_iff_right (by tauto)]
      rfl
    · rw [Replica.Change.about, if_pos rfl]
      exact iff_of_true ⟨_, rfl, rfl, Json.represents_ofTable _ _ _⟩ (Or.inl (by tauto))
  · rw [Wire.Cache.HasVideo,
      lookup_videos_performDeltaSync .python order syncTimestamp cache hrow hone,
      videoChange_python haction hcats, Replica.Change.about, if_pos rfl]
    exact ⟨_, rfl, rfl, Json.represents_ofTable _ _ _⟩
  · rw [Wire.Cache.HasChannel,
      lookup_channels_performDeltaSync .go order syncTimestamp cache hrow hone, channelChange_go]
    split_ifs with hzero
    · rw [or_iff_right (not_not.2 hzero)]
      rfl
    · rw [Replica.Change.about, if_pos rfl]
      exact iff_of_true ⟨_, rfl, rfl⟩ (Or.inl hzero)
  · rw [Wire.Cache.HasChannel,
      lookup_channels_performDeltaSync .python order syncTimestamp cache hrow hone,
      channelChange_python, Replica.Change.about, if_pos rfl]
    exact ⟨_, rfl, rfl⟩

/-- A cache with a video of score 80. -/
def flaggedCache : Wire.Cache where
  videos := Table.insert ∅ "v" ⟨.num 80, .obj [], "", .str ""⟩
  channels := ∅
  lastDeltaSync := .null

/-- **A video that is cleared** keeps its score of 80. -/
theorem not_delta_applied : ¬ ∀ (rows : List DeltaRow) (channels : List DeltaChannelRow)
    (syncTimestamp : String) (cache : Wire.Cache) (row : DeltaRow)
    (cats : Table String CategoryDetail),
    row ∈ rows → row.action = "update" → row.categories = some cats →
      (∀ row' ∈ rows, row'.videoID = row.videoID → row' = row) →
      (Wire.performDeltaSync
        (Backend.go.deltaJson (.ascending String) rows channels syncTimestamp) cache).HasVideo
        row.videoID row.score cats := by
  intro h
  obtain ⟨entry, hentry, hscore, -⟩ := h [⟨"v", 0, some ∅, "update"⟩] [] "" flaggedCache
    ⟨"v", 0, some ∅, "update"⟩ ∅ List.mem_cons_self rfl rfl fun row' hrow' _ ↦
      List.mem_singleton.1 hrow'
  rw [lookup_videos_performDeltaSync .go (.ascending String) "" flaggedCache List.mem_cons_self
    fun row' hrow' _ ↦ List.mem_singleton.1 hrow', videoChange_go rfl rfl,
    if_pos (Or.inl rfl)] at hentry
  change (Table.insert ∅ "v" _).lookup "v" = some entry at hentry
  rw [Table.lookup_insert_self, Option.some_inj] at hentry
  rw [← hentry, Json.num.injEq] at hscore
  exact absurd hscore (by decide +kernel)

end RealTube
