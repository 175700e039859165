import RealTube.Model.SyncService
import RealTube.Store.Replica
import RealTube.Store.Steps

/-!
# The sync of the extension

`performDeltaSync` and `performFullSync` of `background/sync.ts`, over the IndexedDB stores of
`background/cache.ts`. Both fetch a response and then write it in several transactions, one `await`
after the other; the popup and the timer may start a run at any time, and nothing keeps two runs
apart. `offline-queue.ts` has a flag for that (`isFlushing`), `sync.ts` has none. A response is on
its way from when the server has given it to when it arrives, so an older one may arrive last.

The cache is a copy of the server's tables (`Store.Replica`), and `lastDeltaSync` the time from
which it is fresh. `upToDate_of_alone` says that it is, whenever no run is in progress, if no
run is answered while another one is between its answer and its end, the clock of the server does
not go back, and no delta removes a video or channel that it updates too (the loop deletes first).
Two runs side by side leave old rows under a new cursor (`not_upToDate_twoDeltas`).
-/

namespace RealTube.Extension

/-! ### The stores -/

/-- The category details of a video. -/
abbrev Categories : Type := Category → Option CategoryDetail

/-- `CachedVideo`. -/
structure CachedVideo where
  score : ℚ
  categories : Categories
  channelID : Option ChannelID
  lastUpdated : Time

/-- `CachedChannel`. -/
structure CachedChannel where
  score : ℚ
  autoFlag : Bool
  lastUpdated : Time

/-- The stores `videos` and `channels`, and the two entries of `meta`. -/
structure Cache where
  videos : Table VideoID CachedVideo
  channels : Table ChannelID CachedChannel
  lastDeltaSync : Option Time
  lastFullSync : Option Time

/-- A transaction on one store. -/
inductive CacheTx where
  | videos (op : Replica.Op VideoID CachedVideo)
  | channels (op : Replica.Op ChannelID CachedChannel)
  | setLastDeltaSync (t : Time)
  | setLastFullSync (t : Time)

namespace Cache

/-- The cache of a new installation. -/
def empty : Cache := ⟨∅, ∅, none, none⟩

/-- `lastSync || new Date(0).toISOString()`. -/
def since (cache : Cache) : Time := cache.lastDeltaSync.getD 0

/-- The cache after a transaction. -/
def apply (cache : Cache) : CacheTx → Cache
  | .videos op => { cache with videos := op.apply cache.videos }
  | .channels op => { cache with channels := op.apply cache.channels }
  | .setLastDeltaSync t => { cache with lastDeltaSync := some t }
  | .setLastFullSync t => { cache with lastFullSync := some t }

/-- The cache after transactions. -/
def applyAll (cache : Cache) (txs : List CacheTx) : Cache := txs.foldl apply cache

end Cache

/-! ### Responses -/

/-- An entry for a video in a delta. -/
structure DeltaVideo where
  videoID : VideoID
  score : Option ℚ
  categories : Option Categories
  action : SyncAction

/-- An entry for a channel in a delta. -/
structure DeltaChannel where
  channelID : ChannelID
  score : Option ℚ
  action : SyncAction

/-- `SyncDeltaResponse`. -/
structure SyncDeltaResponse where
  videos : List DeltaVideo
  channels : List DeltaChannel
  syncTimestamp : Time

/-- What the loop of a delta does with an entry for a video: an update without a score or without
categories is passed over. -/
def DeltaVideo.change (syncTimestamp : Time) (video : DeltaVideo) :
    Replica.Change VideoID CachedVideo :=
  match video.action, video.score, video.categories with
  | .remove, _, _ => .remove video.videoID
  | .update, some score, some categories =>
    .put video.videoID { score, categories, channelID := some "", lastUpdated := syncTimestamp }
  | .update, _, _ => .skip

/-- What it does with an entry for a channel. -/
def DeltaChannel.change (syncTimestamp : Time) (channel : DeltaChannel) :
    Replica.Change ChannelID CachedChannel :=
  match channel.action, channel.score with
  | .remove, _ => .remove channel.channelID
  | .update, some score =>
    .put channel.channelID { score, autoFlag := false, lastUpdated := syncTimestamp }
  | .update, none => .skip

namespace SyncDeltaResponse

/-- The changes of the videos. -/
def videoChanges (data : SyncDeltaResponse) : List (Replica.Change VideoID CachedVideo) :=
  data.videos.map (DeltaVideo.change data.syncTimestamp)

/-- The changes of the channels. -/
def channelChanges (data : SyncDeltaResponse) : List (Replica.Change ChannelID CachedChannel) :=
  data.channels.map (DeltaChannel.change data.syncTimestamp)

end SyncDeltaResponse

/-- The cached videos of a full response. -/
def fullVideos (data : SyncFullResponse) : List (VideoID × CachedVideo) :=
  data.videos.map fun v ↦ (v.videoID,
    { score := v.score, categories := v.categories, channelID := v.channelID,
      lastUpdated := v.lastUpdated })

/-- The cached channels of a full response. -/
def fullChannels (data : SyncFullResponse) : List (ChannelID × CachedChannel) :=
  data.channels.map fun c ↦ (c.channelID,
    { score := c.score, autoFlag := false, lastUpdated := c.lastUpdated })

/-! ### The two programs -/

/-- `performDeltaSync`, from its fetch on: the transactions it makes, in order. -/
def performDeltaSync (data : SyncDeltaResponse) : List CacheTx :=
  (Replica.applyChanges data.videoChanges []).map .videos ++
    (Replica.applyChanges data.channelChanges []).map .channels ++
    [.setLastDeltaSync data.syncTimestamp]

/-- `performFullSync`, from its fetch on. -/
def performFullSync (data : SyncFullResponse) : List CacheTx :=
  [.videos .clear, .channels .clear, .videos (.put (fullVideos data)),
    .channels (.put (fullChannels data)), .setLastFullSync data.generatedAt,
    .setLastDeltaSync data.generatedAt]

namespace Cache

theorem applyAll_append (cache : Cache) (txs txs' : List CacheTx) :
    cache.applyAll (txs ++ txs') = (cache.applyAll txs).applyAll txs' := List.foldl_append

theorem applyAll_videos (cache : Cache) (ops : List (Replica.Op VideoID CachedVideo)) :
    cache.applyAll (ops.map .videos) =
      { cache with videos := Replica.applyAll cache.videos ops } := by
  induction ops generalizing cache with
  | nil => rfl
  | cons op ops ih => exact ih _

theorem applyAll_channels (cache : Cache) (ops : List (Replica.Op ChannelID CachedChannel)) :
    cache.applyAll (ops.map .channels) =
      { cache with channels := Replica.applyAll cache.channels ops } := by
  induction ops generalizing cache with
  | nil => rfl
  | cons op ops ih => exact ih _

/-- **The effect of a delta** that runs alone. -/
theorem applyAll_performDeltaSync (cache : Cache) (data : SyncDeltaResponse) :
    cache.applyAll (performDeltaSync data) = {
      videos := Replica.applyAll cache.videos (Replica.applyChanges data.videoChanges [])
      channels := Replica.applyAll cache.channels (Replica.applyChanges data.channelChanges [])
      lastDeltaSync := some data.syncTimestamp
      lastFullSync := cache.lastFullSync } := by
  rw [performDeltaSync, applyAll_append, applyAll_append, applyAll_videos, applyAll_channels]
  rfl

/-- **The effect of a full sync** that runs alone. -/
theorem applyAll_performFullSync (cache : Cache) (data : SyncFullResponse) :
    cache.applyAll (performFullSync data) = {
      videos := Replica.putAll ∅ (fullVideos data)
      channels := Replica.putAll ∅ (fullChannels data)
      lastDeltaSync := some data.generatedAt
      lastFullSync := some data.generatedAt } := rfl

end Cache

/-! ### The server -/

/-- What the cache keeps of a video. -/
abbrev VideoState : Type := ℚ × Categories

/-- The state of a cached video. -/
def CachedVideo.state (video : CachedVideo) : VideoState := (video.score, video.categories)

/-- The history of the server: the state of every video and channel at every time. Nothing is there
at the epoch. -/
structure Server where
  video : Time → VideoID → Option VideoState
  channel : Time → ChannelID → Option ℚ
  video_epoch : ∀ v, video 0 v = none
  channel_epoch : ∀ ch, channel 0 ch = none

/-- Everything cached is the server's state of it at the time or later. -/
structure Cache.FreshFrom (server : Server) (t : Time) (cache : Cache) : Prop where
  videos : Replica.Fresh server.video CachedVideo.state t cache.videos
  channels : Replica.Fresh server.channel CachedChannel.score t cache.channels

/-- A delta carries every change after `since`, up to its timestamp. -/
structure Server.Delta (server : Server) (since : Time) (data : SyncDeltaResponse) : Prop where
  videos : Replica.Covers server.video CachedVideo.state since data.syncTimestamp data.videoChanges
  channels :
    Replica.Covers server.channel CachedChannel.score since data.syncTimestamp data.channelChanges

/-- A full response carries the whole state at its time. -/
structure Server.Full (server : Server) (data : SyncFullResponse) : Prop where
  videos : Replica.Whole server.video CachedVideo.state data.generatedAt (fullVideos data)
  channels : Replica.Whole server.channel CachedChannel.score data.generatedAt (fullChannels data)

/-! ### Runs side by side -/

/-- What a run still has to do. -/
inductive Phase where
  /-- It has not begun. -/
  | idle
  /-- It waits for the server: a delta with the cursor it has read, or a full sync. -/
  | fetching (since : Option Time)
  /-- The server has answered, and the response is on its way: the transactions it will lead to. -/
  | answered (txs : List CacheTx)
  /-- The response is there: the transactions left, none when the run has ended. -/
  | applying (txs : List CacheTx)

/-- The run has begun and not ended. -/
def Phase.inProgress : Phase → Bool
  | idle => false
  | fetching _ => true
  | answered _ => true
  | applying [] => false
  | applying (_ :: _) => true

/-- The transactions that a run has left, between the answer of the server and its end. -/
def Phase.left : Phase → List CacheTx
  | idle => []
  | fetching _ => []
  | answered txs => txs
  | applying txs => txs

/-- The cache, the timestamp of the last answer, and the runs. -/
structure SyncState (ι : Type) where
  cache : Cache
  served : Time
  phase : ι → Phase

/-- What can happen next; the scheduler chooses, and the server its responses. A response may take
any time to arrive, so they may arrive in another order than they were given in. -/
inductive SyncEvent (ι : Type) where
  /-- A delta begins by reading `lastDeltaSync`. -/
  | startDelta (i : ι)
  /-- A full sync begins. -/
  | startFull (i : ι)
  /-- The server answers a delta. -/
  | serveDelta (i : ι) (data : SyncDeltaResponse)
  /-- The server answers a full sync. -/
  | serveFull (i : ι) (data : SyncFullResponse)
  /-- The response arrives. -/
  | receive (i : ι)
  /-- The next transaction of a run. -/
  | apply (i : ι)

namespace SyncState

variable {ι : Type} [DecidableEq ι]

/-- A new installation, and no run. -/
def init : SyncState ι := ⟨.empty, 0, fun _ ↦ .idle⟩

/-- Put a run in a phase. -/
def setPhase (s : SyncState ι) (i : ι) (phase : Phase) : SyncState ι :=
  { s with phase := fun j ↦ if j = i then phase else s.phase j }

/-- The state after an event. -/
def step (s : SyncState ι) : SyncEvent ι → Option (SyncState ι)
  | .startDelta i =>
    match s.phase i with
    | .idle => some (s.setPhase i (.fetching (some s.cache.since)))
    | _ => none
  | .startFull i =>
    match s.phase i with
    | .idle => some (s.setPhase i (.fetching none))
    | _ => none
  | .serveDelta i data =>
    match s.phase i with
    | .fetching (some _) => some { s.setPhase i (.answered (performDeltaSync data)) with
        served := data.syncTimestamp }
    | _ => none
  | .serveFull i data =>
    match s.phase i with
    | .fetching none => some { s.setPhase i (.answered (performFullSync data)) with
        served := data.generatedAt }
    | _ => none
  | .receive i =>
    match s.phase i with
    | .answered txs => some (s.setPhase i (.applying txs))
    | _ => none
  | .apply i =>
    match s.phase i with
    | .applying (tx :: txs) => some { s.setPhase i (.applying txs) with cache := s.cache.apply tx }
    | _ => none

/-- **The responses are complete.** -/
def Served (server : Server) (s : SyncState ι) : SyncEvent ι → Prop
  | .serveDelta i data => ∀ t, s.phase i = .fetching (some t) → server.Delta t data
  | .serveFull _ data => server.Full data
  | _ => True

/-- **A run is answered alone**: no other is between the answer of the server and its end. The clock
of the server has not gone back since its last answer, and what a delta removes in the end, it does
not update before. -/
def Alone (s : SyncState ι) : SyncEvent ι → Prop
  | .serveDelta _ data => (∀ j, (s.phase j).left = []) ∧ s.served ≤ data.syncTimestamp ∧
      Replica.InOrder data.videoChanges ∧ Replica.InOrder data.channelChanges
  | .serveFull _ data => (∀ j, (s.phase j).left = []) ∧ s.served ≤ data.generatedAt
  | _ => True

/-- No run is in progress. -/
def Quiet (s : SyncState ι) : Prop := ∀ i, (s.phase i).inProgress = false

/-- **Nothing up to the cursor is missing.** -/
def UpToDate (server : Server) (s : SyncState ι) : Prop :=
  ∀ t, s.cache.lastDeltaSync = some t → s.cache.FreshFrom server t

/-! ### The invariant -/

variable {server : Server} {s s' : SyncState ι}

theorem setPhase_phase (s : SyncState ι) (i j : ι) (phase : Phase) :
    (s.setPhase i phase).phase j = if j = i then phase else s.phase j := rfl

/-- A run that is not in progress has nothing left to do. -/
theorem left_of_not_inProgress {phase : Phase} (h : phase.inProgress = false) :
    phase.left = [] := by
  rcases phase with _ | _ | _ | (_ | ⟨tx, txs⟩)
  · rfl
  · rfl
  · cases h
  · rfl
  · cases h

/-- **The transactions left make the cache fresh** from the cursor that they leave on. The runs that
have read their cursor, and the cache itself, are not ahead of it. -/
structure Inv (server : Server) (txs : List CacheTx) (s : SyncState ι) : Prop where
  fresh : (s.cache.applyAll txs).FreshFrom server (s.cache.applyAll txs).since
  since_le : s.cache.since ≤ (s.cache.applyAll txs).since
  sets : ∀ t, .setLastDeltaSync t ∈ txs → t ≤ (s.cache.applyAll txs).since
  served : (s.cache.applyAll txs).since ≤ s.served
  waiting : ∀ i t, s.phase i = .fetching (some t) → t ≤ (s.cache.applyAll txs).since
  /-- They are those of the one run that has been answered. -/
  left : (txs = [] ∧ ∀ i, (s.phase i).left = []) ∨
    ∃ i, (s.phase i).left = txs ∧ ∀ j ≠ i, (s.phase j).left = []

omit [DecidableEq ι] in
theorem inv_init (server : Server) : Inv server [] (init : SyncState ι) where
  fresh := ⟨fun v ↦ ⟨0, le_rfl, (server.video_epoch v).symm⟩,
    fun ch ↦ ⟨0, le_rfl, (server.channel_epoch ch).symm⟩⟩
  since_le := le_rfl
  sets t ht := by cases ht
  served := le_rfl
  waiting _ _ h := by cases h
  left := Or.inl ⟨rfl, fun _ ↦ rfl⟩

omit [DecidableEq ι] in
/-- When no run has anything left to do, there is nothing left. -/
theorem Inv.of_left_eq_nil {txs : List CacheTx} (h : Inv server txs s)
    (hnone : ∀ i, (s.phase i).left = []) : Inv server [] s := by
  obtain ⟨rfl, -⟩ | ⟨i, hi, -⟩ := h.left
  · exact h
  · obtain rfl : txs = [] := hi.symm.trans (hnone i)
    exact h

/-- A run moves on, and has the same left to do as before. -/
theorem Inv.setPhase {txs : List CacheTx} (h : Inv server txs s) {i : ι} {phase : Phase}
    (hleft : phase.left = (s.phase i).left)
    (hsince : ∀ t, phase = .fetching (some t) → t ≤ (s.cache.applyAll txs).since) :
    Inv server txs (s.setPhase i phase) where
  fresh := h.fresh
  since_le := h.since_le
  sets := h.sets
  served := h.served
  waiting j t hj := by
    rw [setPhase_phase] at hj
    split_ifs at hj
    · exact hsince t hj
    · exact h.waiting j t hj
  left := by
    have hsame : ∀ j, ((s.setPhase i phase).phase j).left = (s.phase j).left := by
      intro j
      rw [setPhase_phase]
      split_ifs with hj
      · exact hj ▸ hleft
      · rfl
    refine h.left.imp (fun ⟨htxs, hnone⟩ ↦ ⟨htxs, fun j ↦ (hsame j).trans (hnone j)⟩) ?_
    rintro ⟨k, hk, hothers⟩
    exact ⟨k, (hsame k).trans hk, fun j hj ↦ (hsame j).trans (hothers j hj)⟩

/-- **A run is answered alone**: the response becomes what is left to do. -/
theorem Inv.serve (h : Inv server [] s) {i : ι} {txs : List CacheTx} {t : Time}
    (hnone : ∀ j, (s.phase j).left = []) (hserved : s.served ≤ t)
    (hsince : (s.cache.applyAll txs).since = t) (hsets : ∀ t', .setLastDeltaSync t' ∈ txs → t' ≤ t)
    (hfresh : (s.cache.applyAll txs).FreshFrom server t) :
    Inv server txs { s.setPhase i (.answered txs) with served := t } where
  fresh := by
    change (s.cache.applyAll txs).FreshFrom server (s.cache.applyAll txs).since
    rwa [hsince]
  since_le := (h.served.trans hserved).trans_eq hsince.symm
  sets t' ht' := (hsets t' ht').trans_eq hsince.symm
  served := hsince.le
  waiting j t' hj := by
    change (s.setPhase i (.answered txs)).phase j = _ at hj
    rw [setPhase_phase] at hj
    split_ifs at hj
    exact (((h.waiting j t' hj).trans h.served).trans hserved).trans_eq hsince.symm
  left := by
    have hi : (s.setPhase i (.answered txs)).phase i = .answered txs := if_pos rfl
    refine Or.inr ⟨i, congrArg Phase.left hi, fun j hj ↦ ?_⟩
    change ((s.setPhase i (.answered txs)).phase j).left = []
    rw [setPhase_phase, if_neg hj]
    exact hnone j

/-- The next transaction. -/
theorem Inv.apply {txs txs' : List CacheTx} (h : Inv server txs s) {i : ι} {tx : CacheTx}
    (hi : s.phase i = .applying (tx :: txs')) :
    Inv server txs' { s.setPhase i (.applying txs') with cache := s.cache.apply tx } := by
  -- the run that writes is the one that has been answered
  have htxs : txs = tx :: txs' ∧ ∀ j ≠ i, (s.phase j).left = [] := by
    have hleft : (s.phase i).left = tx :: txs' := congrArg Phase.left hi
    obtain ⟨-, hnone⟩ | ⟨k, hk, hothers⟩ := h.left
    · cases hleft.symm.trans (hnone i)
    · by_cases hne : i = k
      · subst hne
        exact ⟨hk.symm.trans hleft, hothers⟩
      · cases hleft.symm.trans (hothers i hne)
  obtain ⟨rfl, hothers⟩ := htxs
  exact {
    fresh := h.fresh
    since_le := by
      change (s.cache.apply tx).since ≤ (s.cache.applyAll (tx :: txs')).since
      cases tx with
      | videos op => exact h.since_le
      | channels op => exact h.since_le
      | setLastDeltaSync t => exact h.sets t List.mem_cons_self
      | setLastFullSync t => exact h.since_le
    sets := fun t ht ↦ h.sets t (List.mem_cons_of_mem _ ht)
    served := h.served
    waiting := fun j t hj ↦ by
      change (s.setPhase i (.applying txs')).phase j = _ at hj
      rw [setPhase_phase] at hj
      split_ifs at hj
      exact h.waiting j t hj
    left := by
      have hi' : (s.setPhase i (.applying txs')).phase i = .applying txs' := if_pos rfl
      refine Or.inr ⟨i, congrArg Phase.left hi', fun j hj ↦ ?_⟩
      change ((s.setPhase i (.applying txs')).phase j).left = []
      rw [setPhase_phase, if_neg hj]
      exact hothers j hj }

/-- The transactions of a delta set one cursor. -/
theorem setLastDeltaSync_mem_performDeltaSync {data : SyncDeltaResponse} {t : Time}
    (h : .setLastDeltaSync t ∈ performDeltaSync data) : t = data.syncTimestamp := by
  simpa [performDeltaSync] using h

/-- So do those of a full sync. -/
theorem setLastDeltaSync_mem_performFullSync {data : SyncFullResponse} {t : Time}
    (h : .setLastDeltaSync t ∈ performFullSync data) : t = data.generatedAt := by
  simpa [performFullSync] using h

/-- **A delta is answered.** -/
theorem Inv.serveDelta {txs : List CacheTx} {i : ι} {data : SyncDeltaResponse} {since : Time}
    (h : Inv server txs s) (hi : s.phase i = .fetching (some since))
    (hserved : s.Served server (.serveDelta i data)) (halone : s.Alone (.serveDelta i data)) :
    Inv server (performDeltaSync data)
      { s.setPhase i (.answered (performDeltaSync data)) with served := data.syncTimestamp } := by
  obtain ⟨hnone, hle, hvideos, hchannels⟩ := halone
  have hnow := h.of_left_eq_nil hnone
  have hcovers := hserved since hi
  have hsince := hnow.waiting i since hi
  refine hnow.serve hnone hle ?_ ?_ ?_
  · rw [Cache.applyAll_performDeltaSync]
    rfl
  · exact fun t' ht' ↦ (setLastDeltaSync_mem_performDeltaSync ht').le
  · rw [Cache.applyAll_performDeltaSync]
    exact ⟨hnow.fresh.videos.delta hsince hcovers.videos hvideos,
      hnow.fresh.channels.delta hsince hcovers.channels hchannels⟩

/-- **A full sync is answered.** -/
theorem Inv.serveFull {txs : List CacheTx} {i : ι} {data : SyncFullResponse}
    (h : Inv server txs s) (hserved : s.Served server (.serveFull i data))
    (halone : s.Alone (.serveFull i data)) : Inv server (performFullSync data)
      { s.setPhase i (.answered (performFullSync data)) with served := data.generatedAt } := by
  obtain ⟨hnone, hle⟩ := halone
  refine (h.of_left_eq_nil hnone).serve hnone hle ?_ ?_ ?_
  · rw [Cache.applyAll_performFullSync]
    rfl
  · exact fun t' ht' ↦ (setLastDeltaSync_mem_performFullSync ht').le
  · rw [Cache.applyAll_performFullSync]
    exact ⟨Replica.fresh_whole hserved.videos, Replica.fresh_whole hserved.channels⟩

/-- **Every allowed event keeps the invariant.** -/
theorem Inv.step {txs : List CacheTx} {e : SyncEvent ι} (h : Inv server txs s)
    (hserved : s.Served server e) (halone : s.Alone e) (hstep : s.step e = some s') :
    ∃ txs', Inv server txs' s' := by
  cases e with
  | startDelta i =>
    rw [SyncState.step] at hstep
    split at hstep
    · next hi =>
      obtain rfl := Option.some.inj hstep
      refine ⟨txs, h.setPhase (congrArg Phase.left hi).symm fun t ht ↦ ?_⟩
      obtain rfl := Option.some.inj (Phase.fetching.inj ht)
      exact h.since_le
    · cases hstep
  | startFull i =>
    rw [SyncState.step] at hstep
    split at hstep
    · next hi =>
      obtain rfl := Option.some.inj hstep
      exact ⟨txs, h.setPhase (congrArg Phase.left hi).symm fun t ht ↦ by cases ht⟩
    · cases hstep
  | serveDelta i data =>
    rw [SyncState.step] at hstep
    split at hstep
    · next hi =>
      obtain rfl := Option.some.inj hstep
      exact ⟨_, h.serveDelta hi hserved halone⟩
    · cases hstep
  | serveFull i data =>
    rw [SyncState.step] at hstep
    split at hstep
    · obtain rfl := Option.some.inj hstep
      exact ⟨_, h.serveFull hserved halone⟩
    · cases hstep
  | receive i =>
    rw [SyncState.step] at hstep
    split at hstep
    · next hi =>
      obtain rfl := Option.some.inj hstep
      exact ⟨txs, h.setPhase (congrArg Phase.left hi).symm fun t ht ↦ by cases ht⟩
    · cases hstep
  | apply i =>
    rw [SyncState.step] at hstep
    split at hstep
    · next hi =>
      obtain rfl := Option.some.inj hstep
      exact ⟨_, h.apply hi⟩
    · cases hstep

/-- **Runs that are answered alone keep the cache up to date**, whatever the order of their steps,
and in whatever order the responses arrive. -/
theorem upToDate_of_alone {es : List (SyncEvent ι)}
    (h : Steps.Run SyncState.step (fun s e ↦ s.Served server e ∧ s.Alone e) init es s)
    (hquiet : s.Quiet) : s.UpToDate server := by
  have hinv : ∃ txs, Inv server txs s := by
    refine h.inv (I := fun s ↦ ∃ txs, Inv server txs s) ⟨[], inv_init server⟩ ?_
    rintro s e s' ⟨txs, hs⟩ he hstep
    exact hs.step he.1 he.2 hstep
  obtain ⟨txs, hinv⟩ := hinv
  intro t ht
  have hfresh := (hinv.of_left_eq_nil fun i ↦ left_of_not_inProgress (hquiet i)).fresh
  rw [show (s.cache.applyAll []).since = t from congrArg (Option.getD · 0) ht] at hfresh
  exact hfresh

end SyncState

/-! ### One delta, and two -/

/-- The score of a video changes at 5 and at 15. -/
def changingVideo : Server where
  video t v :=
    if v = "v" then
      if t < 5 then none else if t < 15 then some (50, fun _ ↦ none) else some (80, fun _ ↦ none)
    else none
  channel _ _ := none
  video_epoch v := by
    rw [if_pos (by decide : (0 : Time) < 5), ite_self]
  channel_epoch _ := rfl

/-- A delta with one update. -/
def deltaAt (t : Time) (score : ℚ) : SyncDeltaResponse where
  videos := [⟨"v", some score, some fun _ ↦ none, .update⟩]
  channels := []
  syncTimestamp := t

theorem delta_deltaAt (since : Time) {t : Time} {score : ℚ}
    (h : changingVideo.video t "v" = some (score, fun _ ↦ none)) :
    changingVideo.Delta since (deltaAt t score) where
  videos v x hx := by
    subst hx
    by_cases hv : v = "v"
    · subst hv
      exact h.symm
    · have hnone : Replica.last (deltaAt t score).videoChanges v = none := if_neg hv
      rw [hnone]
      intro τ _ _
      exact (if_neg hv).trans (if_neg hv).symm
  channels ch x hx := by
    subst hx
    intro τ _ _
    rfl

theorem inOrder_deltaAt (t : Time) (score : ℚ) :
    Replica.InOrder (deltaAt t score).videoChanges ∧
      Replica.InOrder (deltaAt t score).channelChanges := by
  refine ⟨fun v row _ hlast ↦ ?_, fun ch row hput ↦ by cases hput⟩
  change (if v = "v" then some (some _) else none) = some none at hlast
  split_ifs at hlast
  cases hlast

/-- The steps of one delta. -/
def oneDelta : List (SyncEvent Unit) :=
  [.startDelta (), .serveDelta () (deltaAt 10 50), .receive (), .apply (), .apply (), .apply ()]

/-- A delta alone leaves a fresh cache. -/
theorem upToDate_oneDelta : ∃ s : SyncState Unit, s.Quiet ∧ s.cache.lastDeltaSync = some 10 ∧
    s.UpToDate changingVideo := by
  have hrun : ∃ s, Steps.Run SyncState.step
      (fun s e ↦ s.Served changingVideo e ∧ s.Alone e) SyncState.init oneDelta s ∧
        s.phase () = .applying [] ∧ s.cache.lastDeltaSync = some 10 :=
    ⟨_, .cons ⟨trivial, trivial⟩ rfl <|
      .cons ⟨fun _ _ ↦ delta_deltaAt _ rfl, fun _ ↦ rfl, by decide, inOrder_deltaAt 10 50⟩ rfl <|
      .cons ⟨trivial, trivial⟩ rfl <| .cons ⟨trivial, trivial⟩ rfl <|
      .cons ⟨trivial, trivial⟩ rfl <| .cons ⟨trivial, trivial⟩ rfl .nil, rfl, rfl⟩
  obtain ⟨s, hrun, hphase, hcursor⟩ := hrun
  have hquiet : s.Quiet := by
    intro i
    rw [show s.phase i = .applying [] from hphase]
    rfl
  exact ⟨s, hquiet, hcursor, SyncState.upToDate_of_alone hrun hquiet⟩

/-- Two deltas from the start, the older response written last and the newer cursor set last. -/
def twoDeltas : List (SyncEvent Bool) :=
  [.startDelta true, .startDelta false, .serveDelta true (deltaAt 10 50),
    .serveDelta false (deltaAt 20 80), .receive false, .receive true, .apply false, .apply true,
    .apply false, .apply true, .apply true, .apply false]

/-- **The change at 15 is missing under the cursor 20**: no later delta will bring it. -/
theorem not_upToDate_twoDeltas :
    ¬ ∀ (ι : Type) [DecidableEq ι] (server : Server) (es : List (SyncEvent ι)) (s : SyncState ι),
      Steps.Run SyncState.step (fun s e ↦ s.Served server e) SyncState.init es s → s.Quiet →
        s.UpToDate server := by
  intro h
  have hrun : ∃ s, Steps.Run SyncState.step (fun s e ↦ s.Served changingVideo e) SyncState.init
      twoDeltas s ∧ s.phase true = .applying [] ∧ s.phase false = .applying [] ∧
        s.cache.lastDeltaSync = some 20 ∧
        (s.cache.videos.lookup "v").map CachedVideo.score = some 50 :=
    ⟨_, .cons trivial rfl <| .cons trivial rfl <|
      .cons (fun _ _ ↦ delta_deltaAt _ rfl) rfl <| .cons (fun _ _ ↦ delta_deltaAt _ rfl) rfl <|
      .cons trivial rfl <| .cons trivial rfl <| .cons trivial rfl <| .cons trivial rfl <|
      .cons trivial rfl <| .cons trivial rfl <| .cons trivial rfl <| .cons trivial rfl .nil,
      rfl, rfl, rfl, by decide +kernel⟩
  obtain ⟨s, hrun, htrue, hfalse, hcursor, hscore⟩ := hrun
  have hquiet : s.Quiet := by
    rintro (_ | _)
    · rw [hfalse]
      rfl
    · rw [htrue]
      rfl
  obtain ⟨τ, hτ, heq⟩ := (h Bool changingVideo twoDeltas s hrun hquiet 20 hcursor).videos "v"
  have hlate : changingVideo.video τ "v" = some (80, fun _ ↦ none) := by
    have h5 : ¬ τ < 5 := by omega
    have h15 : ¬ τ < 15 := by omega
    simp [changingVideo, h5, h15]
  rw [hlate] at heq
  obtain ⟨row, hrow, hstate⟩ := Option.map_eq_some_iff.1 heq
  rw [hrow, Option.map_some] at hscore
  have h80 := congrArg Prod.fst hstate
  rw [show (CachedVideo.state row).1 = row.score from rfl, Option.some.inj hscore] at h80
  exact absurd h80 (by decide +kernel)

end RealTube.Extension
