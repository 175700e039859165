import RealTube.Model.SyncService
import RealTube.Store.Steps
import Mathlib.Data.String.Basic

/-!
# Hidden videos in responses

The four reads of the API are answered from three stores. A lookup by hash prefix and a full sync
query `videos`, with the filter on the flags `hidden` and `shadow_hidden`. A lookup by video id asks
Redis first, which may hold a response from before the video was hidden. A delta sync queries
`sync_cache`, which has no flags.

`hidesHidden_iff` says which reads contain no hidden video, in any order the database may answer in:
the first and the last always; a lookup by id if Redis has no response or the video is not hidden; a
delta if none of the rows that can be among its first 10000 is of a hidden video. Redis holds what
earlier lookups have left there: the events of `Redis.step` are their writes, each from two states
of the database as they may have been then, and the keys that go.
-/

namespace RealTube

/-! ### Redis -/

/-- The keys `video:…` of Redis. -/
abbrev Redis : Type := Table VideoID VideoResponse

/-- A write to Redis. -/
inductive RedisEvent where
  /-- A lookup that has missed, and read the video from `db` and its categories from `db'`, stores
  its response. -/
  | set (videoID : VideoID) (db db' : DB)
  /-- A key is deleted after a vote or a recalculation, or it expires. -/
  | drop (videoID : VideoID)

/-- Redis after a write. A lookup that does not find its video stores nothing. -/
def Redis.step (redis : Redis) : RedisEvent → Option Redis
  | .set v db db' => (lookupByVideoID none v db db').map (redis.insert v)
  | .drop v => some (redis.erase v)

/-- Every key holds a response about its own video. -/
def Redis.Own (redis : Redis) : Prop :=
  ∀ v resp, redis.lookup v = some resp → resp.videoID = v

theorem videoID_lookupByVideoID {v : VideoID} {db db' : DB} {resp : VideoResponse}
    (h : lookupByVideoID none v db db' = some resp) : resp.videoID = v := by
  rw [lookupByVideoID, Option.none_or] at h
  obtain ⟨row, -, rfl⟩ := Option.map_eq_some_iff.1 h
  rfl

/-- **A write keeps the keys with their own videos.** -/
theorem Redis.Own.step {redis redis' : Redis} (h : redis.Own) {e : RedisEvent}
    (hstep : redis.step e = some redis') : redis'.Own := by
  cases e with
  | set v db db' =>
    obtain ⟨resp, hresp, rfl⟩ := Option.map_eq_some_iff.1 hstep
    intro v' resp' hlook
    rw [Table.lookup_insert] at hlook
    split_ifs at hlook with hv
    · rw [← Option.some.inj hlook, hv]
      exact videoID_lookupByVideoID hresp
    · exact h v' resp' hlook
  | drop v =>
    obtain rfl := Option.some.inj hstep
    intro v' resp' hlook
    rw [Table.lookup_erase] at hlook
    split_ifs at hlook
    exact h v' resp' hlook

/-- It is so whatever earlier lookups have left. -/
theorem Redis.own_of_run {es : List RedisEvent} {redis : Redis}
    (h : Steps.Run Redis.step Steps.Any ∅ es redis) : redis.Own :=
  h.inv (fun _ _ hlook ↦ by cases hlook) fun hown _ hstep ↦ hown.step hstep

/-! ### Requests and responses -/

/-- A read of the API. -/
inductive ReadRequest where
  | hashPrefix (hashPrefix : HashPrefix)
  | videoID (videoID : VideoID)
  | delta (since : Time)
  | full

/-- The response to a read; `none` is the answer that a video was not found. -/
inductive ReadResponse where
  | videos (responses : List VideoResponse)
  | video (response : Option VideoResponse)
  | delta (response : SyncDeltaResponse)
  | full (response : SyncFullResponse)

/-- The orders in which the database reads its tables. -/
structure ReadOrders where
  videos : Arrangement VideoID
  rows : Arrangement ℕ
  channels : Arrangement ChannelID

/-- The response to a request. -/
def respond (sha256Hex : VideoID → String) (orders : ReadOrders) (now : Time) (redis : Redis)
    (db : SyncDB) : ReadRequest → ReadResponse
  | .hashPrefix hashPrefix =>
    .videos (lookupByHashPrefix sha256Hex orders.videos hashPrefix db.toDB)
  | .videoID v => .video (lookupByVideoID (redis.lookup v) v db.toDB db.toDB)
  | .delta since => .delta (deltaSync orders.rows orders.channels since now db)
  | .full => .full (fullSync orders.videos orders.channels now db)

/-- The videos in a response. -/
def ReadResponse.videoIDs : ReadResponse → List VideoID
  | .videos responses => responses.map (·.videoID)
  | .video response => response.toList.map (·.videoID)
  | .delta response => response.videos.map (·.videoID)
  | .full response => response.videos.map (·.videoID)

/-- The video has one of the flags. -/
def DB.Hidden (db : DB) (v : VideoID) : Prop :=
  ∃ row, db.videos.lookup v = some row ∧ (row.hidden = true ∨ row.shadowHidden = true)

/-- **No response contains a hidden video**, in whatever order the database reads. -/
def HidesHidden (sha256Hex : VideoID → String) (now : Time) (redis : Redis) (db : SyncDB)
    (request : ReadRequest) : Prop :=
  ∀ orders, ∀ v ∈ (respond sha256Hex orders now redis db request).videoIDs, ¬ db.Hidden v

/-- **A request reads visible videos**: the one it looks up is not in Redis, or it is visible; or
its delta is over rows of `sync_cache` of which all are of visible videos, those apart that have
10000 older ones before them. -/
def ReadsVisible (redis : Redis) (db : SyncDB) : ReadRequest → Prop
  | .hashPrefix _ => True
  | .videoID v => redis.lookup v = none ∨ ¬ db.Hidden v
  | .delta since => ∀ id row, db.syncCache.lookup id = some row → since < row.changedAt →
    (db.syncCache.count fun _ older ↦ since < older.changedAt ∧ older.changedAt < row.changedAt) <
      deltaLimit → ¬ db.Hidden row.videoID
  | .full => True

/-! ### Each of the reads -/

variable {sha256Hex : VideoID → String} {now : Time} {redis : Redis} {db : SyncDB} {v : VideoID}

theorem not_hidden_of_visible {row : Video} (hrow : db.videos.lookup v = some row)
    (hvisible : row.visible = true) : ¬ db.Hidden v := by
  rintro ⟨row', hrow', hflag⟩
  obtain rfl := Option.some.inj (hrow.symm.trans hrow')
  rw [Video.visible, Bool.and_eq_true, Bool.not_eq_true', Bool.not_eq_true'] at hvisible
  rcases hflag with hflag | hflag
  · rw [hvisible.1] at hflag
    cases hflag
  · rw [hvisible.2] at hflag
    cases hflag

theorem hidesHidden_hashPrefix {hashPrefix : HashPrefix} :
    HidesHidden sha256Hex now redis db (.hashPrefix hashPrefix) := by
  intro orders v hv
  obtain ⟨resp, hresp, rfl⟩ := List.mem_map.1 hv
  obtain ⟨⟨v, row⟩, hx, rfl⟩ := List.mem_map.1 hresp
  obtain ⟨hrow, hvisible⟩ := Table.mem_rows.1 (List.mem_filter.1 (List.mem_of_mem_take hx)).1
  exact not_hidden_of_visible hrow hvisible

theorem hidesHidden_full : HidesHidden sha256Hex now redis db .full := by
  intro orders v hv
  obtain ⟨resp, hresp, rfl⟩ := List.mem_map.1 hv
  obtain ⟨⟨v, row⟩, hx, rfl⟩ := List.mem_map.1 hresp
  obtain ⟨hrow, hvisible, -⟩ := Table.of_mem_query hx
  exact not_hidden_of_visible hrow hvisible

/-- A lookup by id that misses applies the filter. -/
theorem hidesHidden_videoID_of_none (h : redis.lookup v = none) :
    HidesHidden sha256Hex now redis db (.videoID v) := by
  intro orders v' hv'
  obtain ⟨resp, hresp, rfl⟩ := List.mem_map.1 hv'
  rw [Option.mem_toList] at hresp
  rw [h, lookupByVideoID, Option.none_or] at hresp
  obtain ⟨row, hfind, rfl⟩ := Option.map_eq_some_iff.1 hresp
  obtain ⟨hrow, hvisible⟩ := Option.filter_eq_some_iff.1 hfind
  exact not_hidden_of_visible hrow hvisible

/-- One that hits contains its video. -/
theorem hidesHidden_videoID_of_some {resp : VideoResponse} (hown : redis.Own)
    (h : redis.lookup v = some resp) :
    HidesHidden sha256Hex now redis db (.videoID v) ↔ ¬ db.Hidden v := by
  have hids : ∀ orders, (respond sha256Hex orders now redis db (.videoID v)).videoIDs = [v] := by
    intro orders
    rw [respond, ReadResponse.videoIDs, lookupByVideoID, h, Option.some_or]
    exact congrArg ([·]) (hown v resp h)
  constructor
  · intro hhides
    refine hhides ⟨.ascending _, .ascending _, .ascending _⟩ v ?_
    rw [hids]
    exact List.mem_singleton_self v
  · intro hvisible orders v' hv'
    rw [hids] at hv'
    rwa [List.mem_singleton.1 hv']

theorem hidesHidden_videoID (hown : redis.Own) :
    HidesHidden sha256Hex now redis db (.videoID v) ↔ redis.lookup v = none ∨ ¬ db.Hidden v := by
  cases h : redis.lookup v with
  | none => exact iff_of_true (hidesHidden_videoID_of_none h) (Or.inl rfl)
  | some resp =>
    rw [hidesHidden_videoID_of_some hown h]
    exact (or_iff_right (Option.some_ne_none resp)).symm

theorem mem_videoIDs_delta {orders : ReadOrders} {since : Time} :
    v ∈ (respond sha256Hex orders now redis db (.delta since)).videoIDs ↔
      ∃ x ∈ selectChangedRows orders.rows since db.syncCache, x.2.videoID = v := by
  rw [respond, ReadResponse.videoIDs, deltaSync, List.map_map, List.mem_map]
  rfl

/-- A delta contains the videos of its rows. -/
theorem hidesHidden_delta {since : Time} :
    HidesHidden sha256Hex now redis db (.delta since) ↔ ReadsVisible redis db (.delta since) := by
  constructor
  · intro h id row hrow hlt hcount
    obtain ⟨order, hmem⟩ : ∃ order, (id, row) ∈ selectChangedRows order since db.syncCache :=
      Table.exists_mem_query (.ascending ℕ) hrow hlt (by simpa only [not_le] using hcount)
    exact h ⟨.ascending _, order, .ascending _⟩ _ (mem_videoIDs_delta.2 ⟨_, hmem, rfl⟩)
  · intro h orders v hv
    obtain ⟨⟨id, row⟩, hmem, rfl⟩ := mem_videoIDs_delta.1 hv
    have : Std.Total fun row row' : SyncCacheRow ↦ row.changedAt ≤ row'.changedAt :=
      ⟨fun row row' ↦ le_total row.changedAt row'.changedAt⟩
    have : IsTrans SyncCacheRow fun row row' ↦ row.changedAt ≤ row'.changedAt :=
      ⟨fun _ _ _ ↦ le_trans⟩
    obtain ⟨hrow, hlt⟩ := Table.of_mem_query hmem
    exact h id row hrow hlt (by simpa only [not_le] using Table.count_lt_of_mem_query hmem)

/-- **The reads that contain no hidden video** are those that read visible videos, whatever earlier
lookups have left in Redis. -/
theorem hidesHidden_iff {es : List RedisEvent}
    (hrun : Steps.Run Redis.step Steps.Any ∅ es redis) (request : ReadRequest) :
    HidesHidden sha256Hex now redis db request ↔ ReadsVisible redis db request := by
  cases request with
  | hashPrefix hashPrefix => exact iff_of_true hidesHidden_hashPrefix trivial
  | videoID v => exact hidesHidden_videoID (Redis.own_of_run hrun)
  | delta since => exact hidesHidden_delta
  | full => exact iff_of_true hidesHidden_full trivial

/-! ### A video that is hidden -/

/-- One video, that is shown. -/
def shownVideo : SyncDB where
  users := ∅
  videos := Table.insert ∅ "v" (Video.new 0)
  videoCategories := ∅
  votes := ∅
  channels := ∅
  syncCache := ∅

/-- The video is hidden, and an update of it is in the feed. -/
def hiddenVideo : SyncDB :=
  { shownVideo with
    videos := Table.insert ∅ "v" { Video.new 0 with hidden := true }
    syncCache := Table.insert ∅ 0 ⟨"v", 100, none, none, .update, 1⟩ }

/-- A lookup leaves the response of the video. -/
theorem run_lookup : ∃ redis : Redis, Steps.Run Redis.step Steps.Any ∅
    [.set "v" shownVideo.toDB shownVideo.toDB] redis ∧ redis.lookup "v" ≠ none :=
  ⟨_, .cons trivial rfl .nil, by decide +kernel⟩

/-- A lookup of a cached video that is still shown. -/
theorem hidesHidden_shown : ∃ redis : Redis, redis.lookup "v" ≠ none ∧
    HidesHidden id 0 redis shownVideo (.videoID "v") := by
  obtain ⟨redis, hrun, hcached⟩ := run_lookup
  exact ⟨redis, hcached, (hidesHidden_iff hrun _).2 <|
    Or.inr (not_hidden_of_visible (Table.lookup_insert_self _ _ _) rfl)⟩

theorem hidden_hiddenVideo : hiddenVideo.Hidden "v" :=
  ⟨_, Table.lookup_insert_self _ _ _, Or.inl rfl⟩

/-- **Two reads answer hidden videos**: a lookup whose response is from before, and a delta. -/
theorem not_hidesHidden_hidden :
    (¬ ∀ (sha256Hex : VideoID → String) (now : Time) (es : List RedisEvent) (redis : Redis)
      (db : SyncDB) (v : VideoID), Steps.Run Redis.step Steps.Any ∅ es redis →
        HidesHidden sha256Hex now redis db (.videoID v)) ∧
    ¬ ∀ (sha256Hex : VideoID → String) (now : Time) (es : List RedisEvent) (redis : Redis)
      (db : SyncDB) (since : Time), Steps.Run Redis.step Steps.Any ∅ es redis →
        HidesHidden sha256Hex now redis db (.delta since) := by
  constructor
  · intro h
    obtain ⟨redis, hrun, hcached⟩ := run_lookup
    have hhides := h id 0 _ redis hiddenVideo "v" hrun
    rw [hidesHidden_videoID (Redis.own_of_run hrun)] at hhides
    exact hhides.elim hcached fun hnot ↦ hnot hidden_hiddenVideo
  · intro h
    refine h id 0 [] ∅ hiddenVideo 0 .nil ⟨.ascending _, .ascending _, .ascending _⟩ "v" ?_
      hidden_hiddenVideo
    decide +kernel

end RealTube
