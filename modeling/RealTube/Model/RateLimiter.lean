import RealTube.Model.RateLimit
import RealTube.Store.Windows
import Mathlib.Data.Rat.Floor

/-!
# A rate limiter

The methods of `RateLimiter` in `middleware/ratelimit.go` and `middleware/ratelimit.py`, with what
they answer: the decision, the headers, and the body of an answer 429. Both have a method for
requests, `Handler` or `check`, and one for tests, `Allow` or `allow`. The code of each opens a
window or counts by itself; all of them are the limiters of `Store.Windows` (`serves_limiter`).

The clock is read once for the decision, and once more for the body.
-/

namespace RealTube

open FixedWindow

/-- The headers `X-RateLimit-Limit`, `X-RateLimit-Remaining` and `X-RateLimit-Reset`. -/
structure RateLimitHeaders where
  limit : ℤ
  remaining : ℤ
  reset : ℤ
  deriving DecidableEq

/-- The error in the body of an answer 429. -/
structure RateLimited where
  code : String
  message : String
  retryAfter : ℤ
  deriving DecidableEq

/-- The message says when to try again. -/
def RateLimited.after (retryAfter : ℤ) : RateLimited where
  code := "RATE_LIMITED"
  message := "Too many requests. Try again in " ++ toString retryAfter ++ " seconds."
  retryAfter := retryAfter

/-- What a method answers. The ones for tests set no headers, and write no body. -/
structure LimiterAnswer where
  allowed : Bool
  headers : Option RateLimitHeaders
  error : Option RateLimited
  deriving DecidableEq

/-- The two methods. -/
inductive LimiterMethod where
  /-- `Handler`, or `check` in `dispatch`. -/
  | handler
  /-- `Allow`, or `allow`. -/
  | allow
  deriving DecidableEq

/-- A call of a method. -/
structure LimiterCall where
  method : LimiterMethod
  key : String
  time : ℚ
  /-- The clock when the body is written. -/
  later : ℚ
  deriving DecidableEq

/-- The entries of a limiter. -/
abbrev LimiterEntries : Type := Table String (Entry ℚ)

/-! ### Go -/

namespace Go

/-- `setRateLimitHeaders`. -/
def setRateLimitHeaders (limit remaining : ℤ) (resetAt : ℚ) : RateLimitHeaders :=
  ⟨limit, max remaining 0, ⌊resetAt⌋⟩

namespace RateLimiter

variable (config : RateLimitConfig) (key : String) (now later : ℚ) (entries : LimiterEntries)

/-- `Handler`, where it opens a window. -/
def handlerNew : LimiterEntries × LimiterAnswer :=
  let e : Entry ℚ := ⟨1, now + config.window⟩
  (entries.insert key e,
    ⟨true, some (setRateLimitHeaders config.max (config.max - 1) e.windowEnd), none⟩)

/-- `Handler`. -/
def handler : LimiterEntries × LimiterAnswer :=
  match entries.lookup key with
  | none => handlerNew config key now entries
  | some e =>
    if e.windowEnd < now then handlerNew config key now entries
    else
      let e : Entry ℚ := { e with count := e.count + 1 }
      let remaining : ℤ := config.max - e.count
      (entries.insert key e, {
        allowed := ¬remaining < 0
        headers := some (setRateLimitHeaders config.max (max remaining 0) e.windowEnd)
        error :=
          if remaining < 0 then some (RateLimited.after (truncate (e.windowEnd - later) + 1))
          else none })

/-- `Allow`. -/
def allow : LimiterEntries × LimiterAnswer :=
  match entries.lookup key with
  | none => (entries.insert key ⟨1, now + config.window⟩, ⟨true, none, none⟩)
  | some e =>
    if e.windowEnd < now then
      (entries.insert key ⟨1, now + config.window⟩, ⟨true, none, none⟩)
    else
      (entries.insert key { e with count := e.count + 1 }, ⟨e.count + 1 ≤ config.max, none, none⟩)

end RateLimiter

end Go

/-! ### Python -/

namespace Python.RateLimiter

variable (config : RateLimitConfig) (key : String) (now later : ℚ) (entries : LimiterEntries)

/-- `_evict_expired`. -/
def evictExpired : LimiterEntries := entries.filter fun _ e ↦ ¬e.windowEnd ≤ now

/-- The result of `check`. -/
structure CheckResult where
  allowed : Bool
  limit : ℤ
  remaining : ℤ
  reset : ℤ

/-- `check`, where it opens a window. -/
def checkNew : LimiterEntries × CheckResult :=
  let e : Entry ℚ := ⟨1, now + config.window⟩
  (entries.insert key e, ⟨true, config.max, config.max - 1, truncate e.windowEnd⟩)

/-- `check`, after the eviction. -/
def checkEntries : LimiterEntries × CheckResult :=
  match entries.lookup key with
  | none => checkNew config key now entries
  | some e =>
    if e.windowEnd ≤ now then checkNew config key now entries
    else
      let e : Entry ℚ := { e with count := e.count + 1 }
      let remaining : ℤ := config.max - e.count
      (entries.insert key e,
        if remaining < 0 then ⟨false, config.max, 0, truncate e.windowEnd⟩
        else ⟨true, config.max, remaining, truncate e.windowEnd⟩)

/-- `check`. -/
def check : LimiterEntries × CheckResult :=
  checkEntries config key now
    (if maxEntries < entries.keys.card then evictExpired now entries else entries)

/-- The answer that `dispatch` makes of a result. -/
def CheckResult.answer (r : CheckResult) : LimiterAnswer where
  allowed := r.allowed
  headers := some ⟨r.limit, max r.remaining 0, r.reset⟩
  error := if r.allowed then none else some (RateLimited.after (max 1 (r.reset - truncate later)))

/-- `allow`. -/
def allow : LimiterEntries × LimiterAnswer :=
  match entries.lookup key with
  | none => (entries.insert key ⟨1, now + config.window⟩, ⟨true, none, none⟩)
  | some e =>
    if e.windowEnd ≤ now then
      (entries.insert key ⟨1, now + config.window⟩, ⟨true, none, none⟩)
    else
      (entries.insert key { e with count := e.count + 1 }, ⟨e.count + 1 ≤ config.max, none, none⟩)

end Python.RateLimiter

/-! ### Both -/

/-- A call. -/
def Backend.serve (config : RateLimitConfig) (a : LimiterCall) (entries : LimiterEntries) :
    Backend → LimiterEntries × LimiterAnswer
  | go =>
    match a.method with
    | .handler => Go.RateLimiter.handler config a.key a.time a.later entries
    | .allow => Go.RateLimiter.allow config a.key a.time entries
  | python =>
    match a.method with
    | .handler =>
      let (entries, r) := Python.RateLimiter.check config a.key a.time entries
      (entries, r.answer a.later)
    | .allow => Python.RateLimiter.allow config a.key a.time entries

/-- The headers of an answer, from the entry that it leaves. -/
def Backend.headers (config : RateLimitConfig) (e : Entry ℚ) : Backend → RateLimitHeaders
  | go => ⟨config.max, max (config.max - e.count) 0, ⌊e.windowEnd⌋⟩
  | python => ⟨config.max, max (config.max - e.count) 0, truncate e.windowEnd⟩

/-- The error of an answer 429. -/
def Backend.rateLimited (e : Entry ℚ) (later : ℚ) : Backend → RateLimited
  | go => RateLimited.after (truncate (e.windowEnd - later) + 1)
  | python => RateLimited.after (max 1 (truncate e.windowEnd - truncate later))

/-- The answer to a call, from the entry that it leaves and the decision. -/
def Backend.limiterAnswer (b : Backend) (config : RateLimitConfig) (a : LimiterCall)
    (h : Entry ℚ × Bool) : LimiterAnswer :=
  match a.method with
  | .handler => {
      allowed := h.2
      headers := some (b.headers config h.1)
      error := if h.2 then none else some (b.rateLimited h.1 a.later) }
  | .allow => ⟨h.2, none, none⟩

/-- What a call removes before it looks at the entries. -/
def Backend.prune (config : RateLimitConfig) (a : LimiterCall) (entries : LimiterEntries) :
    Backend → LimiterEntries
  | go => entries
  | python =>
    match a.method with
    | .handler => evict (python.limiter config) a.time entries
    | .allow => entries

section Serves

variable (config : RateLimitConfig) (key : String) (now later : ℚ) (entries : LimiterEntries)

/-- The request is not allowed if nothing remains. -/
theorem remaining_lt_zero_iff {n m : ℕ} : (m : ℤ) - ((n : ℕ) : ℤ) < 0 ↔ ¬n ≤ m := by
  omega

theorem Go.RateLimiter.handler_eq : handler config key now later entries =
    let h := hit (Backend.go.limiter config) now (entries.lookup key)
    (entries.insert key h.1, Backend.go.limiterAnswer config ⟨.handler, key, now, later⟩ h) := by
  rw [handler]
  rcases entries.lookup key with - | e
  · simp [hit_none, handlerNew, Backend.limiterAnswer, Backend.headers, setRateLimitHeaders]
  · dsimp only
    by_cases hended : e.windowEnd < now
    · rw [if_pos hended, hit_of_ended (x := Backend.go.limiter config) hended]
      simp [handlerNew, Backend.limiterAnswer, Backend.headers, setRateLimitHeaders]
    · rw [if_neg hended, hit_of_not_ended (x := Backend.go.limiter config) hended]
      simp only [remaining_lt_zero_iff, Backend.limiterAnswer, Backend.headers, setRateLimitHeaders,
        limiter_max]
      by_cases hle : e.count + 1 ≤ config.max
      · simp [hle]
      · simp [hle, Backend.rateLimited]

theorem Go.RateLimiter.allow_eq : allow config key now entries =
    let h := hit (Backend.go.limiter config) now (entries.lookup key)
    (entries.insert key h.1, Backend.go.limiterAnswer config ⟨.allow, key, now, later⟩ h) := by
  rw [allow]
  rcases entries.lookup key with - | e
  · rfl
  · dsimp only
    by_cases hended : e.windowEnd < now
    · rw [if_pos hended, hit_of_ended (x := Backend.go.limiter config) hended]
      rfl
    · rw [if_neg hended, hit_of_not_ended (x := Backend.go.limiter config) hended]
      rfl

theorem Python.RateLimiter.checkEntries_eq :
    ((checkEntries config key now entries).1,
      (checkEntries config key now entries).2.answer later) =
      let h := hit (Backend.python.limiter config) now (entries.lookup key)
      (entries.insert key h.1,
        Backend.python.limiterAnswer config ⟨.handler, key, now, later⟩ h) := by
  rw [checkEntries]
  rcases entries.lookup key with - | e
  · rfl
  · dsimp only
    by_cases hended : e.windowEnd ≤ now
    · rw [if_pos hended, hit_of_ended (x := Backend.python.limiter config) hended]
      rfl
    · rw [if_neg hended, hit_of_not_ended (x := Backend.python.limiter config) hended]
      simp only [remaining_lt_zero_iff, Backend.limiterAnswer, Backend.headers, limiter_max]
      by_cases hle : e.count + 1 ≤ config.max
      · simp [hle, CheckResult.answer]
      · have hzero : max ((config.max : ℤ) - ((e.count + 1 : ℕ) : ℤ)) 0 = 0 := by omega
        rw [hzero]
        simp [hle, CheckResult.answer, Backend.rateLimited]

theorem Python.RateLimiter.allow_eq : allow config key now entries =
    let h := hit (Backend.python.limiter config) now (entries.lookup key)
    (entries.insert key h.1, Backend.python.limiterAnswer config ⟨.allow, key, now, later⟩ h) := by
  rw [allow]
  rcases entries.lookup key with - | e
  · rfl
  · dsimp only
    by_cases hended : e.windowEnd ≤ now
    · rw [if_pos hended, hit_of_ended (x := Backend.python.limiter config) hended]
      rfl
    · rw [if_neg hended, hit_of_not_ended (x := Backend.python.limiter config) hended]
      rfl

/-- A check removes what it does if there are many entries. -/
theorem evict_python : evict (Backend.python.limiter config) now entries =
    if maxEntries < entries.keys.card then Python.RateLimiter.evictExpired now entries
    else entries := by
  rw [evict]
  simp only [Backend.limiter, Option.any_some, decide_eq_true_eq]
  rfl

/-- **Every method does what `hit` says**, after it has removed something. -/
theorem serve_eq (b : Backend) (a : LimiterCall) : b.serve config a entries =
    let h := hit (b.limiter config) a.time ((b.prune config a entries).lookup a.key)
    ((b.prune config a entries).insert a.key h.1, b.limiterAnswer config a h) := by
  obtain ⟨method, key, now, later⟩ := a
  rcases b with - | - <;> rcases method with - | -
  · exact Go.RateLimiter.handler_eq config key now later entries
  · exact Go.RateLimiter.allow_eq config key now later entries
  · refine Eq.trans ?_ (Python.RateLimiter.checkEntries_eq config key now later
      (evict (Backend.python.limiter config) now entries))
    rw [evict_python]
    rfl
  · exact Python.RateLimiter.allow_eq config key now later entries

/-- A call for a request removes what a limiter does. -/
theorem prune_handler (b : Backend) : b.prune config ⟨.handler, key, now, later⟩ entries =
    evict (b.limiter config) now entries := by
  rcases b with - | - <;> rfl

end Serves

/-- **The methods of both backends are limiters.** -/
theorem serves_limiter (b : Backend) (config : RateLimitConfig) :
    Serves (b.limiter config) LimiterCall.key LimiterCall.time (b.limiterAnswer config)
      fun a entries ↦ b.serve config a entries := by
  refine serves_of_eq (fun a entries ↦ serve_eq config entries b a) ?_
  rintro ⟨method, key, now, later⟩ entries k now' hnow
  rcases b with - | - <;> rcases method with - | -
  · rfl
  · rfl
  · exact live_lookup_evict hnow entries k
  · rfl

/-- The limiter of a route is called once for a request. -/
theorem rateLimit_eq_serve {L : Type} [DecidableEq L] (b : Backend) (config : L → RateLimitConfig)
    (l : L) (q : ApiCall) (later : ℚ) (tables : LimiterTables L) :
    b.rateLimit config (some l) q tables =
      let a : LimiterCall := ⟨.handler, (config l).keyFn q.client, q.time, later⟩
      (Function.update tables l (b.serve (config l) a (tables l)).1,
        (b.serve (config l) a (tables l)).2.allowed) := by
  simp only [serve_eq, prune_handler]
  rfl

end RealTube
