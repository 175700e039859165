import RealTube.Store.EventLoop
import RealTube.Extension.Identity
import RealTube.Extension.Lookup
import RealTube.Extension.OfflineQueue
import RealTube.Extension.Schedule
import RealTube.Extension.SyncRun
import RealTube.Model.UserService
import RealTube.Votes.Failures

/-!
# The message hub

`background/background.ts`, with all that it calls of `identity.ts`, `api-client.ts`, `cache.ts`,
`sync.ts` and `offline-queue.ts`, as programs on the event loop of the worker. Messages come from
the extension's pages, from content scripts, and perhaps from elsewhere; flushes and `autoSync`
begin when timers fire. At any time any number of them is in progress. A transaction of IndexedDB
may fail, a request may be answered in any way, and the browser may end the worker.

The variables of the worker and the browser's storage make up one store, in which the ids of the
installation are kept apart from all else.
-/

open EventLoop

namespace RealTube.Extension

/-! ### The store -/

/-- The ids of an installation: that in `chrome.storage`, and `cachedPublicUserId`. -/
structure InstallationIDs where
  localID : Option LocalID
  cachedPublicUserID : Option UserID

/-- All else that the worker has or asks for. -/
structure Browser where
  cache : Cache
  pending : Table VideoID PendingVote
  isFlushing : Bool
  /-- `Date.now()`. -/
  now : ℤ
  /-- The error of IndexedDB, as long as transactions fail. -/
  dbError : Option String

/-- The store of the worker. -/
structure HubStore where
  ids : InstallationIDs
  browser : Browser

/-- What a transaction writes, if it does not fail. -/
def Browser.transact (f : Browser → Browser) (b : Browser) : Browser :=
  if b.dbError = none then f b else b

/-! ### Requests and replies -/

/-- The body of a response, as the calls read it: what `json()` makes of it under the type that a
call declares, or the error that is thrown. -/
structure Body where
  videos : Except String (List (VideoID × VideoResult))
  vote : Except String VoteResponse
  delta : Except String SyncDeltaResponse
  full : Except String SyncFullResponse
  user : Except String UserResponse
  /-- `body?.error?.message`, unless it is empty. -/
  errorMessage : Option String

/-- How `fetchWithRetry` ends. -/
inductive Reply where
  | thrown (message : String)
  | response (status : ℕ) (body : Body)

namespace Reply

/-- `response.ok`. -/
def isOk (status : ℕ) : Bool := 200 ≤ status && status < 300

/-- What a call makes of a response, and its error if `response.ok` does not hold. -/
def read {α : Type} (error : ℕ → Body → String) (f : Body → Except String α) :
    Reply → Except String α
  | .thrown message => .error message
  | .response status body => if isOk status then f body else .error (error status body)

/-- `lookupVideosByPrefix`. -/
def videos : Reply → Except String (List (VideoID × VideoResult))
  | .response 404 _ => .ok []
  | r => r.read (fun status _ ↦ "API error: " ++ toString status) Body.videos

/-- `submitVote`. -/
def vote (r : Reply) : Except String VoteResponse :=
  r.read (fun status body ↦ body.errorMessage.getD ("Vote failed: " ++ toString status)) Body.vote

/-- `deleteVote`. -/
def deletion (r : Reply) : Except String Unit :=
  r.read (fun status body ↦ body.errorMessage.getD ("Delete vote failed: " ++ toString status))
    fun _ ↦ .ok ()

/-- `syncDelta`. -/
def delta (r : Reply) : Except String SyncDeltaResponse :=
  r.read (fun status _ ↦ "Sync delta failed: " ++ toString status) Body.delta

/-- `syncFull`. -/
def full (r : Reply) : Except String SyncFullResponse :=
  r.read (fun status _ ↦ "Sync full failed: " ++ toString status) Body.full

/-- `getUserInfo`. -/
def user (r : Reply) : Except String UserResponse :=
  r.read (fun status _ ↦ "User info failed: " ++ toString status) Body.user

end Reply

/-- What the programs of the worker work with. -/
def hub : Signature where
  Store := HubStore
  Request := ApiCall
  Answer := Reply
  Item := VideoID × VideoResult
  Error := String

/-! ### Messages -/

/-- `MessageType`, with payloads. -/
inductive Message where
  | getUserID
  | getUserInfo
  | checkVideos (videoIDs : List VideoID)
  | lookupVideos (videoIDs : List VideoID)
  | submitVote (v : VideoID) (category : String)
  | deleteVote (v : VideoID)
  | syncDelta
  | syncFull
  | getSyncStatus
  | flushPendingVotes
  | openPopup
  | getStatus
  /-- Any other type. -/
  | other (type : String)
  /-- The payload cannot be taken apart, and the handler throws. -/
  | malformed (error : String)

/-- `message.type === "GET_USER_ID"`. -/
def Message.isGetUserID : Message → Bool
  | getUserID => true
  | _ => false

/-- `message.type === "GET_USER_INFO"`. -/
def Message.isGetUserInfo : Message → Bool
  | getUserInfo => true
  | _ => false

/-- `chrome.runtime.MessageSender`. -/
structure Sender where
  /-- `sender.id` is the id of the extension. -/
  own : Bool
  /-- There is a `sender.tab`. -/
  tab : Bool

/-- The sender is a page of the extension. -/
def Sender.isPage (sender : Sender) : Bool := sender.own && !sender.tab

/-- What `performDeltaSync` returns. -/
structure DeltaCounts where
  videosUpdated : ℕ
  videosRemoved : ℕ
  channelsUpdated : ℕ
  channelsRemoved : ℕ

/-- What `performFullSync` returns. -/
structure FullCounts where
  videoCount : ℕ
  channelCount : ℕ

/-- What `getSyncStatus` returns. -/
structure SyncStatus where
  lastDeltaSync : Option Time
  lastFullSync : Option Time
  videoCount : ℕ
  channelCount : ℕ

/-- What `flushPendingVotes` returns. -/
structure FlushCounts where
  sent : ℕ
  failed : ℕ

/-- The data of a response. -/
inductive MessageData where
  | none
  | userID (u : UserID)
  | userInfo (info : UserResponse)
  | checked (videos : List (VideoID × CachedVideo))
  | found (videos : List (VideoID × VideoResult))
  | vote (result : VoteResponse)
  | queued (message : String)
  | delta (counts : DeltaCounts)
  | full (counts : FullCounts)
  | syncStatus (status : SyncStatus)
  | flushed (counts : FlushCounts)
  | status (version : String) (hasLocalID : Bool) (pendingVoteCount : ℕ) (status : SyncStatus)

/-- `MessageResponse`. -/
inductive MessageResponse where
  | success (data : MessageData)
  | failure (error : String)

namespace Hub

section Programs

variable {α : Type} (sha256 : List UInt8 → Digest) (order : Arrangement VideoID) (uuid : LocalID)

/-! ### Accesses -/

/-- An access to variables, to `chrome.storage` or to the clock. -/
def direct (f : HubStore → HubStore) (g : HubStore → α) : Action hub α :=
  .access f fun s ↦ .ok (g s)

/-- A transaction on IndexedDB. -/
def transaction (f : Browser → Browser) (g : Browser → α) : Action hub α :=
  .access (fun s ↦ { s with browser := s.browser.transact f })
    fun s ↦ s.browser.dbError.elim (.ok (g s.browser)) .error

/-! ### `identity.ts` -/

/-- `getLocalId`. -/
def getLocalID : Action hub LocalID := do
  match ← direct id fun s ↦ s.ids.localID with
  | some id => pure id
  | none =>
    direct (fun s ↦ { s with ids := { s.ids with localID := some uuid } }) fun _ ↦ uuid

/-- `getPublicUserId`. -/
def getPublicUserID : Action hub UserID := do
  let id ← getLocalID uuid
  pure (publicUserID (sha256Hex sha256) id)

/-- `ensurePublicUserId`. -/
def ensurePublicUserID : Action hub UserID := do
  match ← direct id fun s ↦ s.ids.cachedPublicUserID with
  | some u => pure u
  | none => do
    let u ← getPublicUserID sha256 uuid
    direct (fun s ↦ { s with ids := { s.ids with cachedPublicUserID := some u } }) fun _ ↦ u

/-! ### `sync.ts` -/

/-- `getMeta`, of one of the two entries. -/
def getMeta (key : Cache → Option Time) : Action hub (Option Time) :=
  transaction id fun b ↦ key b.cache

/-- `message.includes("429")`. -/
def isRateLimited (message : String) : Bool := "429".toList <:+: message.toList

/-- The transactions of a sync, one after the other. -/
def applyAll : List CacheTx → Action hub Unit
  | [] => pure ()
  | tx :: txs =>
    if tx.opens then do
      transaction (fun b ↦ { b with cache := b.cache.apply tx }) fun _ ↦ ()
      applyAll txs
    else applyAll txs

/-- The rows that a list of changes updates. -/
def updates {K V : Type} (cs : List (Replica.Change K V)) : ℕ := (Replica.updated cs).length

/-- The rows that it removes. -/
def removals {K V : Type} (cs : List (Replica.Change K V)) : ℕ := (Replica.removed cs).length

/-- `performDeltaSync`. -/
def performDeltaSync : Action hub DeltaCounts := do
  let lastSync ← getMeta Cache.lastDeltaSync
  match ← fetch (lastSync.getD 0) with
  | none => pure ⟨0, 0, 0, 0⟩
  | some data => do
    applyAll (Extension.performDeltaSync data)
    pure ⟨updates data.videoChanges, removals data.videoChanges, updates data.channelChanges,
      removals data.channelChanges⟩
where
  /-- The response, unless the call is rate limited. -/
  fetch (since : Time) : Action hub (Option SyncDeltaResponse) :=
    tryCatch (.ask (.syncDelta since) fun r ↦ r.delta.map some)
      fun e ↦ if isRateLimited e then pure none else throw e

/-- `performFullSync`. -/
def performFullSync : Action hub FullCounts := do
  match ← fetch with
  | none => pure ⟨0, 0⟩
  | some data => do
    applyAll (Extension.performFullSync data)
    pure ⟨data.videos.length, data.channels.length⟩
where
  /-- The response, unless the call is rate limited. -/
  fetch : Action hub (Option SyncFullResponse) :=
    tryCatch (.ask .syncFull fun r ↦ r.full.map some)
      fun e ↦ if isRateLimited e then pure none else throw e

/-- `new Date(t).getTime()`. -/
def getTime (t : Time) : ℤ := t * 1000 / ticksPerSecond

/-- `autoSync`. -/
def autoSync : Action hub Unit :=
  tryCatch (do
    let lastFull ← getMeta Cache.lastFullSync
    let now ← direct id fun s ↦ s.browser.now
    if lastFull.elim true fun t ↦ fullSyncInterval < now - getTime t then do
      let _ ← performFullSync
      pure ()
    else do
      let _ ← performDeltaSync
      pure ())
    fun _ ↦ pure ()

/-- `getSyncStatus`. -/
def getSyncStatus : Action hub SyncStatus := do
  let lastDeltaSync ← getMeta Cache.lastDeltaSync
  let lastFullSync ← getMeta Cache.lastFullSync
  let videoCount ← transaction id fun b ↦ b.cache.videos.keys.card
  let channelCount ← transaction id fun b ↦ b.cache.channels.keys.card
  pure { lastDeltaSync, lastFullSync, videoCount, channelCount }

/-! ### `offline-queue.ts` -/

/-- `enqueueVote`. -/
def enqueueVote (v : VideoID) (category : String) : Action hub Unit := do
  let timestamp ← direct id fun s ↦ s.browser.now
  transaction (fun b ↦ { b with pending := b.pending.insert v { category, timestamp } }) fun _ ↦ ()

/-- `getPendingVotes`. -/
def getPendingVotes : Action hub (List (VideoID × PendingVote)) :=
  transaction id fun b ↦ b.pending.rows order fun _ ↦ True

/-- `removePendingVote`. -/
def removePendingVote (v : VideoID) : Action hub Unit :=
  transaction (fun b ↦ { b with pending := b.pending.erase v }) fun _ ↦ ()

/-- The loop of `flushPendingVotes`, and what it returns. -/
def flushLoop (u : UserID) (now : ℤ) : List (VideoID × PendingVote) → ℕ → Action hub FlushCounts
  | [], sent => pure ⟨sent, 0⟩
  | (v, vote) :: pending, sent =>
    if Votes.Expired now vote then do
      removePendingVote v
      flushLoop u now pending sent
    else do
      let accepted ← tryCatch (do
        let _ ← Action.ask (.submitVote v vote.category u) Reply.vote
        removePendingVote v
        pure true) fun _ ↦ pure false
      if accepted then flushLoop u now pending (sent + 1) else pure ⟨sent, 1⟩

/-- What `flushPendingVotes` tries. -/
def flushPending : Action hub FlushCounts := do
  let pending ← getPendingVotes order
  if pending.isEmpty then pure ⟨0, 0⟩
  else do
    let u ← getPublicUserID sha256 uuid
    let now ← direct id fun s ↦ s.browser.now
    flushLoop u now pending 0

/-- `flushPendingVotes`. -/
def flushPendingVotes : Action hub FlushCounts := do
  let flushing ← direct (fun s ↦ { s with browser := { s.browser with isFlushing := true } })
    fun s ↦ s.browser.isFlushing
  if flushing then pure ⟨0, 0⟩
  else Action.andFinally (flushPending sha256 order uuid) fun s ↦
    { s with browser := { s.browser with isFlushing := false } }

/-! ### `background.ts` -/

/-- The loop of `CHECK_VIDEOS` over the videos of an answer. If a video cannot be stored, the lookup
ends. -/
def checkLoop (requested : List VideoID) : List (VideoID × VideoResult) → Job hub
  | [] => .done
  | x :: videos =>
    if x.1 ∈ requested then
      .push x (.access (fun s ↦ { s with browser := s.browser.transact fun b ↦
          { b with cache := b.cache.apply (.videos (.put [(x.1, x.2.cached)])) } })
        fun s ↦ if s.browser.dbError = none then checkLoop requested videos else .done)
    else checkLoop requested videos

/-- The lookup of a prefix for `CHECK_VIDEOS`. -/
def checkPrefix (requested : List VideoID) (p : String) : Job hub :=
  .ask (.lookupVideosByPrefix p) fun r ↦
    match r.videos with
    | .ok videos => checkLoop requested videos
    | .error _ => .done

/-- The loop of `LOOKUP_VIDEOS` over the videos of an answer. -/
def lookupLoop (requested : List VideoID) : List (VideoID × VideoResult) → Job hub
  | [] => .done
  | x :: videos =>
    if x.1 ∈ requested then .push x (lookupLoop requested videos) else lookupLoop requested videos

/-- The lookup of a prefix for `LOOKUP_VIDEOS`. -/
def lookupPrefix (requested : List VideoID) (p : String) : Job hub :=
  .ask (.lookupVideosByPrefix p) fun r ↦
    match r.videos with
    | .ok videos => lookupLoop requested videos
    | .error e => .throw e

/-- The lookups of videos, by prefixes, all at once. -/
def lookups (job : List VideoID → String → Job hub) (ids : List VideoID) :
    Action hub (List (VideoID × VideoResult)) :=
  let groups := OrderedMap.groupBy (hashVideoID sha256 · 4) ids
  .all (groups.keys.map fun p ↦ job ((groups.get p).getD []) p)

/-- `CHECK_VIDEOS`. -/
def checkVideos (ids : List VideoID) : Action hub MessageData := do
  let cached ← transaction id fun b ↦ getVideos b.cache.videos ids
  let apiResults ← lookups sha256 checkPrefix (ids.filter fun v ↦ v ∉ cached.map Prod.fst)
  pure (.checked (cached ++ apiResults.map fun x ↦ (x.1, x.2.cached)))

/-- `SUBMIT_VOTE`. -/
def submitVote (v : VideoID) (category : String) : Action hub MessageData :=
  tryCatch (do
    let u ← ensurePublicUserID sha256 uuid
    let result ← Action.ask (.submitVote v category u) Reply.vote
    pure (.vote result))
    fun _ ↦ do
      enqueueVote v category
      pure (.queued "Vote saved offline, will submit when connection is restored")

/-- `handleMessage`. -/
def handleMessage : Message → Action hub MessageResponse
  | .getUserID => do
    let u ← ensurePublicUserID sha256 uuid
    pure (.success (.userID u))
  | .getUserInfo => do
    let u ← ensurePublicUserID sha256 uuid
    let info ← Action.ask (.getUserInfo u) Reply.user
    pure (.success (.userInfo info))
  | .checkVideos ids => do
    let data ← checkVideos sha256 ids
    pure (.success data)
  | .lookupVideos ids => do
    let videos ← lookups sha256 lookupPrefix ids
    pure (.success (.found videos))
  | .submitVote v category => do
    let data ← submitVote sha256 uuid v category
    pure (.success data)
  | .deleteVote v => do
    let u ← ensurePublicUserID sha256 uuid
    Action.ask (.deleteVote v u) Reply.deletion
    pure (.success .none)
  | .syncDelta => do
    let counts ← performDeltaSync
    pure (.success (.delta counts))
  | .syncFull => do
    let counts ← performFullSync
    pure (.success (.full counts))
  | .getSyncStatus => do
    let status ← getSyncStatus
    pure (.success (.syncStatus status))
  | .flushPendingVotes => do
    let counts ← flushPendingVotes sha256 order uuid
    pure (.success (.flushed counts))
  | .openPopup => pure (.success .none)
  | .getStatus => do
    let localID ← getLocalID uuid
    let status ← getSyncStatus
    let pending ← getPendingVotes order
    pure (.success (.status "0.1.0" (localID.1 ≠ "") pending.length status))
  | .other type => pure (.failure ("Unknown message type: " ++ type))
  | .malformed error => throw error

/-- The listener of `chrome.runtime.onMessage`. -/
def onMessage (sender : Sender) (m : Message) : Program hub MessageResponse :=
  if !sender.own then pure (.failure "Unauthorized sender")
  else if (m.isGetUserID || m.isGetUserInfo) && sender.tab then
    pure (.failure "Not available from content scripts")
  else do
    match ← (handleMessage sha256 order uuid m).run with
    | .ok r => pure r
    | .error e => pure (.failure e)

/-- What begins in the worker. -/
inductive Task where
  | message (m : Message)
  /-- The initialization. -/
  | startup
  /-- A timer fires, or the browser is online again. -/
  | flush
  /-- A timer fires. -/
  | autoSync

/-- The program of a task; only a message is answered. -/
def Task.program (sender : Sender) : Task → Program hub (Option MessageResponse)
  | .message m => do
    let r ← onMessage sha256 order uuid sender m
    pure (some r)
  | .startup => do
    let _ ← (ensurePublicUserID sha256 uuid).run
    pure none
  | .flush => do
    let _ ← (flushPendingVotes sha256 order uuid).run
    pure none
  | .autoSync => do
    let _ ← Hub.autoSync.run
    pure none

end Programs

/-! ### Events -/

/-- What can happen in the worker. -/
inductive HubEvent (ι : Type) where
  | start (i : ι) (task : Task)
  | access (i : ι)
  | answer (i : ι) (r : Reply)
  | jobAccess (i : ι) (n : ℕ)
  | jobAnswer (i : ι) (n : ℕ) (r : Reply)
  /-- Time passes, or the clock is set. -/
  | setDate (now : ℤ)
  /-- IndexedDB begins to fail, or is available again. -/
  | setDBError (dbError : Option String)
  /-- The worker is ended, and starts again with its variables empty. -/
  | restart

/-- The store of a worker that starts. -/
def HubStore.restart (s : HubStore) : HubStore where
  ids := { s.ids with cachedPublicUserID := none }
  browser := { s.browser with isFlushing := false }

/-- The event on the loop. Each program has a sender, if a message begins it, and the random id that
it would store. -/
def HubEvent.event {ι : Type} (sha256 : List UInt8 → Digest) (order : Arrangement VideoID)
    (sender : ι → Sender) (uuid : ι → LocalID) :
    HubEvent ι → Event hub ι (Option MessageResponse)
  | .start i task => .start i (task.program sha256 order (uuid i) (sender i))
  | .access i => .access i
  | .answer i r => .answer i r
  | .jobAccess i n => .jobAccess i n
  | .jobAnswer i n r => .jobAnswer i n r
  | .setDate now => .outside fun s ↦ { s with browser := { s.browser with now } }
  | .setDBError dbError => .outside fun s ↦ { s with browser := { s.browser with dbError } }
  | .restart => .restart HubStore.restart

end Hub

end RealTube.Extension
