import RealTube.Model.Schema
import RealTube.Store.FixedWindow
import Mathlib.Data.List.DropRight

/-!
# Rate limits

`middleware/ratelimit.go` with the wiring of `router/router.go`, and `middleware/ratelimit.py`. Both
keep fixed windows (`Store.FixedWindow`); times are in seconds. In Go a window is over after its end
(`now.After(e.windowEnd)`), and a background task removes what is over; in Python it is over at its
end (`now >= entry.window_end`), and a check removes what is over if there are more than 10000
entries.

Go attaches limiters to routes. Python finds the limiter of a request in a table of methods and path
patterns, before any routing takes place.
-/

namespace RealTube

/-! ### Keys and limits -/

/-- What a limiter knows of a client: the header `X-User-ID`, empty if there is none, and the
address. -/
structure Client where
  userIDHeader : String
  ip : String
  deriving DecidableEq

/-- `KeyByIP` and `key_by_ip`. -/
def keyByIP (c : Client) : String := "ip:" ++ c.ip

/-- `KeyByUserID` and `key_by_user_id`. -/
def keyByUserID (c : Client) : String :=
  if c.userIDHeader ≠ "" then "user:" ++ c.userIDHeader else "ip:" ++ c.ip

/-- `RateLimitConfig`. -/
structure RateLimitConfig where
  max : ℕ
  window : ℚ
  keyFn : Client → String

namespace Go

/-- `NewVideoRateLimiter`. -/
def newVideoRateLimiter : RateLimitConfig := ⟨100, 60, keyByIP⟩

/-- `NewVoteSubmitRateLimiter`. -/
def newVoteSubmitRateLimiter : RateLimitConfig := ⟨10, 60, keyByUserID⟩

/-- `NewVoteDeleteRateLimiter`. -/
def newVoteDeleteRateLimiter : RateLimitConfig := ⟨5, 60, keyByUserID⟩

/-- `NewSyncRateLimiter`. -/
def newSyncRateLimiter : RateLimitConfig := ⟨2, 60, keyByUserID⟩

/-- `NewStatsRateLimiter`. -/
def newStatsRateLimiter : RateLimitConfig := ⟨10, 60, keyByIP⟩

/-- `NewExportRateLimiter`. -/
def newExportRateLimiter : RateLimitConfig := ⟨1, 3600, keyByIP⟩

end Go

namespace Python

/-- `new_video_limiter`. -/
def newVideoLimiter : RateLimitConfig := ⟨100, 60, keyByIP⟩

/-- `new_vote_submit_limiter`. -/
def newVoteSubmitLimiter : RateLimitConfig := ⟨10, 60, keyByUserID⟩

/-- `new_vote_delete_limiter`. -/
def newVoteDeleteLimiter : RateLimitConfig := ⟨5, 60, keyByUserID⟩

/-- `new_sync_limiter`. -/
def newSyncLimiter : RateLimitConfig := ⟨2, 60, keyByUserID⟩

/-- `new_stats_limiter`. -/
def newStatsLimiter : RateLimitConfig := ⟨10, 60, keyByIP⟩

end Python

/-- `_MAX_ENTRIES`. -/
def maxEntries : ℕ := 10000

/-- The limiter of a backend for a configuration. -/
def Backend.limiter (config : RateLimitConfig) : Backend → FixedWindow.Limiter ℚ
  | go => {
      max := config.max
      window := config.window
      ended := fun now windowEnd ↦ windowEnd < now
      decidableEnded := fun _ _ ↦ inferInstance
      ended_of_lt := id
      le_of_ended := le_of_lt
      maxEntries := none }
  | python => {
      max := config.max
      window := config.window
      ended := fun now windowEnd ↦ windowEnd ≤ now
      decidableEnded := fun _ _ ↦ inferInstance
      ended_of_lt := le_of_lt
      le_of_ended := id
      maxEntries := some maxEntries }

@[simp] theorem limiter_max (config : RateLimitConfig) (b : Backend) :
    (b.limiter config).max = config.max := by
  cases b <;> rfl

@[simp] theorem limiter_window (config : RateLimitConfig) (b : Backend) :
    (b.limiter config).window = config.window := by
  cases b <;> rfl

/-! ### Routes -/

/-- The routes of the API. -/
inductive Route where
  | videosByHashPrefix
  | videosByID
  | submitVote
  | deleteVote
  | channel
  | user
  | stats
  | syncDelta
  | syncFull
  | databaseExport
  deriving DecidableEq

/-- The method of a route. -/
def Route.method : Route → String
  | submitVote => "POST"
  | deleteVote => "DELETE"
  | _ => "GET"

/-- The path of a route; one with a parameter goes on with the value of it. -/
def Route.path : Route → String
  | videosByHashPrefix => "/api/videos/"
  | videosByID => "/api/videos"
  | submitVote => "/api/votes"
  | deleteVote => "/api/votes"
  | channel => "/api/channels/"
  | user => "/api/users/"
  | stats => "/api/stats"
  | syncDelta => "/api/sync/delta"
  | syncFull => "/api/sync/full"
  | databaseExport => "/api/database/export"

/-- The route has a parameter. -/
def Route.hasParam : Route → Bool
  | videosByHashPrefix => true
  | channel => true
  | user => true
  | _ => false

/-- The path goes on with one more segment. -/
def IsSegmentOf (root path : String) : Prop :=
  root.toList <+: path.toList ∧ path.toList.drop root.toList.length ≠ [] ∧
    '/' ∉ path.toList.drop root.toList.length

instance (root path : String) : Decidable (IsSegmentOf root path) :=
  inferInstanceAs (Decidable (_ ∧ _ ∧ _))

/-- The path is one of the route. -/
def Route.HasPath (r : Route) (path : String) : Prop :=
  if r.hasParam then IsSegmentOf r.path path else path = r.path

instance (r : Route) (path : String) : Decidable (r.HasPath path) :=
  inferInstanceAs (Decidable (if r.hasParam then IsSegmentOf r.path path else path = r.path))

/-- The segment. -/
theorem IsSegmentOf.exists_value {root path : String} (h : IsSegmentOf root path) :
    ∃ value : List Char, value ≠ [] ∧ '/' ∉ value ∧ path.toList = root.toList ++ value := by
  obtain ⟨⟨value, hpath⟩, hne, hvalue⟩ := h
  rw [← hpath, List.drop_left] at hne hvalue
  exact ⟨value, hne, hvalue, hpath.symm⟩

/-! ### The limiters of a backend -/

/-- What the limiters see of a request. -/
structure ApiCall where
  method : String
  path : String
  client : Client
  time : ℚ

/-- A table for every limiter. -/
abbrev LimiterTables (L : Type) : Type := L → Table String (FixedWindow.Entry ℚ)

/-- Pass a request through its limiter, if it has one. -/
def Backend.rateLimit {L : Type} [DecidableEq L] (b : Backend) (config : L → RateLimitConfig)
    (limiter : Option L) (q : ApiCall) (tables : LimiterTables L) : LimiterTables L × Bool :=
  match limiter with
  | none => (tables, true)
  | some l =>
    let (t, allowed) :=
      FixedWindow.check (b.limiter (config l)) ((config l).keyFn q.client) q.time (tables l)
    (Function.update tables l t, allowed)

/-! ### The wiring in Go -/

namespace Go

/-- The limiters that `Setup` makes. -/
inductive RouteLimiter where
  | videoRL
  | voteSubmitRL
  | voteDeleteRL
  | syncRL
  | statsRL
  | exportRL
  deriving DecidableEq

/-- How it makes them. -/
def RouteLimiter.config : RouteLimiter → RateLimitConfig
  | videoRL => newVideoRateLimiter
  | voteSubmitRL => newVoteSubmitRateLimiter
  | voteDeleteRL => newVoteDeleteRateLimiter
  | syncRL => newSyncRateLimiter
  | statsRL => newStatsRateLimiter
  | exportRL => newExportRateLimiter

/-- The limiter it attaches to a route. -/
def limiterOf : Route → RouteLimiter
  | .videosByHashPrefix => .videoRL
  | .videosByID => .videoRL
  | .submitVote => .voteSubmitRL
  | .deleteVote => .voteDeleteRL
  | .channel => .videoRL
  | .user => .videoRL
  | .stats => .statsRL
  | .syncDelta => .syncRL
  | .syncFull => .syncRL
  | .databaseExport => .exportRL

/-- `Handler`, in the chain of the route the router chooses for a method and a path. -/
def handler (router : String → String → Option Route) (q : ApiCall)
    (tables : LimiterTables RouteLimiter) : LimiterTables RouteLimiter × Bool :=
  Backend.go.rateLimit RouteLimiter.config ((router q.method q.path).map limiterOf) q tables

/-- `cleanup` of a limiter, once. -/
def cleanup (l : RouteLimiter) (now : ℚ) (tables : LimiterTables RouteLimiter) :
    LimiterTables RouteLimiter :=
  Function.update tables l (FixedWindow.sweep (Backend.go.limiter l.config) now (tables l))

end Go

/-! ### The table in Python -/

namespace Python

/-- The limiters that `configure_rate_limiters` makes. -/
inductive RouteLimiter where
  | video
  | voteSubmit
  | voteDelete
  | stats
  | syncDelta
  | syncFull
  deriving DecidableEq

/-- How it makes them. -/
def RouteLimiter.config : RouteLimiter → RateLimitConfig
  | video => newVideoLimiter
  | voteSubmit => newVoteSubmitLimiter
  | voteDelete => newVoteDeleteLimiter
  | stats => newStatsLimiter
  | syncDelta => newSyncLimiter
  | syncFull => newSyncLimiter

/-- `configure_rate_limiters`. -/
def configureRateLimiters : List ((String × String) × RouteLimiter) := [
  (("GET", "/api/videos/\x7bhash_prefix\x7d"), .video),
  (("GET", "/api/videos"), .video),
  (("POST", "/api/votes"), .voteSubmit),
  (("DELETE", "/api/votes"), .voteDelete),
  (("GET", "/api/channels/\x7bchannel_id\x7d"), .video),
  (("GET", "/api/users/\x7buser_id\x7d"), .video),
  (("GET", "/api/stats"), .stats),
  (("GET", "/api/sync/delta"), .syncDelta),
  (("GET", "/api/sync/full"), .syncFull)]

/-- `path.rstrip("/").split("/")`. -/
def pathParts (path : String) : List (List Char) :=
  (path.toList.rdropWhile (· = '/')).splitOn '/'

/-- A part of a pattern matches a part of a path. -/
def partMatches (pp rp : List Char) : Bool :=
  (pp.head? = some '\x7b' && pp.getLast? = some '\x7d') || pp = rp

/-- `_path_matches`. -/
def pathMatches (pattern path : String) : Bool :=
  (pathParts pattern).length = (pathParts path).length &&
    ((pathParts pattern).zip (pathParts path)).all fun x ↦ partMatches x.1 x.2

/-- `_find_limiter`. -/
def findLimiter (method path : String) : Option RouteLimiter :=
  (configureRateLimiters.find? fun x ↦ x.1.1 = method && pathMatches x.1.2 path).map (·.2)

/-- `dispatch`. -/
def dispatch (q : ApiCall) (tables : LimiterTables RouteLimiter) :
    LimiterTables RouteLimiter × Bool :=
  Backend.python.rateLimit RouteLimiter.config (findLimiter q.method q.path) q tables

/-- The limiter of a route, if it has one. -/
def limiterOf : Route → Option RouteLimiter
  | .videosByHashPrefix => some .video
  | .videosByID => some .video
  | .submitVote => some .voteSubmit
  | .deleteVote => some .voteDelete
  | .channel => some .video
  | .user => some .video
  | .stats => some .stats
  | .syncDelta => some .syncDelta
  | .syncFull => some .syncFull
  | .databaseExport => none

/-- The parts of the path of a route with a parameter. -/
theorem pathParts_append (root : String) {path : String} {value : List Char} (hne : value ≠ [])
    (hvalue : '/' ∉ value) (hpath : path.toList = (root ++ "/").toList ++ value) :
    pathParts path = root.toList.splitOn '/' ++ [value] := by
  have hlast : path.toList.rdropWhile (· = '/') = path.toList := by
    refine List.rdropWhile_eq_self_iff.2 fun hpath' ↦ ?_
    have hmem : path.toList.getLast hpath' ∈ value := by
      have heq : path.toList.getLast hpath' = value.getLast hne := by
        simp only [hpath, List.getLast_append_of_ne_nil _ hne]
      rw [heq]
      exact List.getLast_mem hne
    have hslash : path.toList.getLast hpath' ≠ '/' := fun h ↦ hvalue (h ▸ hmem)
    simpa using hslash
  have hsplit : value.splitOn '/' = [value] :=
    List.splitOnP_eq_singleton fun c hc ↦ by
      have hc' : c ≠ '/' := fun h ↦ hvalue (h ▸ hc)
      simpa using hc'
  rw [pathParts, hlast, hpath, String.toList_append, List.append_assoc]
  change (root.toList ++ '/' :: value).splitOn '/' = _
  rw [List.splitOn_eq_splitOnP, List.splitOnP_append_cons _ _ (by simp), ← List.splitOn_eq_splitOnP,
    ← List.splitOn_eq_splitOnP, hsplit]

/-- A request for a path with a parameter looks for the parts of it. -/
theorem findLimiter_eq {method path : String} {parts : List (List Char)}
    (hparts : pathParts path = parts) : findLimiter method path =
      (configureRateLimiters.find? fun x ↦ x.1.1 = method &&
        ((pathParts x.1.2).length = parts.length &&
          ((pathParts x.1.2).zip parts).all fun x ↦ partMatches x.1 x.2)).map (·.2) := by
  rw [← hparts]
  rfl

/-- **Every path of a route finds the limiter of the route.** -/
theorem findLimiter_of_hasPath {r : Route} {path : String} (h : r.HasPath path) :
    findLimiter r.method path = limiterOf r := by
  cases r with
  | videosByHashPrefix =>
    obtain ⟨value, hne, hvalue, hpath⟩ := IsSegmentOf.exists_value h
    rw [findLimiter_eq (pathParts_append "/api/videos" hne hvalue hpath)]
    rfl
  | videosByID => exact (show path = "/api/videos" from h) ▸ rfl
  | submitVote => exact (show path = "/api/votes" from h) ▸ rfl
  | deleteVote => exact (show path = "/api/votes" from h) ▸ rfl
  | channel =>
    obtain ⟨value, hne, hvalue, hpath⟩ := IsSegmentOf.exists_value h
    rw [findLimiter_eq (pathParts_append "/api/channels" hne hvalue hpath)]
    rfl
  | user =>
    obtain ⟨value, hne, hvalue, hpath⟩ := IsSegmentOf.exists_value h
    rw [findLimiter_eq (pathParts_append "/api/users" hne hvalue hpath)]
    rfl
  | stats => exact (show path = "/api/stats" from h) ▸ rfl
  | syncDelta => exact (show path = "/api/sync/delta" from h) ▸ rfl
  | syncFull => exact (show path = "/api/sync/full" from h) ▸ rfl
  | databaseExport => exact (show path = "/api/database/export" from h) ▸ rfl

end Python

end RealTube
