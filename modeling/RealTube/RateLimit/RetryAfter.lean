import RealTube.Extension.ApiClient
import RealTube.Model.RateLimiter

/-!
# Retries against a rate limiter

`fetchWithRetry` of the extension against the limiters of both backends, on one clock and without
latency. An answer 429 says in its body, as `retryAfter`, how long to wait. The client looks for
a header `Retry-After`, which neither backend sends (`getHeader_tooManyRequests`), and waits for its
own backoff instead: a second before the first retry, two before the second, four before the third.

So a retry waits as long as it was told to, and comes after the window, exactly if what is left of
the window is that short (`awaitsReset_iff`).
-/

namespace RealTube

open FixedWindow Extension

/-! ### Answers 429 -/

/-- The headers as they are sent. -/
def RateLimitHeaders.sent (h : RateLimitHeaders) : List (String × String) :=
  [("X-RateLimit-Limit", toString h.limit), ("X-RateLimit-Remaining", toString h.remaining),
    ("X-RateLimit-Reset", toString h.reset)]

/-- The body of an answer 429. -/
def RateLimited.json (e : RateLimited) : Json :=
  .obj [("error", .obj [("code", .str e.code), ("message", .str e.message),
    ("retryAfter", .num e.retryAfter)])]

/-- The response of `Handler` and of `dispatch`, if it is a 429. -/
def LimiterAnswer.tooManyRequests (a : LimiterAnswer) : Option Response :=
  match a.headers, a.error with
  | some headers, some error =>
    some ⟨429, ("Content-Type", "application/json") :: headers.sent, error.json⟩
  | _, _ => none

/-- The names of the headers of an answer 429. -/
theorem toLower_ne_retryAfter : ∀ name ∈ ["Content-Type", "X-RateLimit-Limit",
    "X-RateLimit-Remaining", "X-RateLimit-Reset"], name.toLower ≠ "Retry-After".toLower := by
  decide +kernel

/-- **There is no `Retry-After`** in an answer 429. -/
theorem getHeader_tooManyRequests {a : LimiterAnswer} {r : Response}
    (h : a.tooManyRequests = some r) : r.getHeader "Retry-After" = none := by
  rw [LimiterAnswer.tooManyRequests] at h
  split at h
  case h_1 headers error _ _ =>
    obtain rfl := Option.some.inj h
    have hnone : (("Content-Type", "application/json") :: headers.sent).filter
        (fun x ↦ x.1.toLower = "Retry-After".toLower) = [] := by
      refine List.filter_eq_nil_iff.2 fun x hx ↦ ?_
      rw [decide_eq_true_eq]
      exact toLower_ne_retryAfter x.1 (List.mem_map_of_mem hx)
    rw [Response.getHeader, hnone]
  · cases h

theorem status_tooManyRequests {a : LimiterAnswer} {r : Response}
    (h : a.tooManyRequests = some r) : r.status = 429 := by
  rw [LimiterAnswer.tooManyRequests] at h
  split at h
  · obtain rfl := Option.some.inj h
    rfl
  · cases h

section Answer

variable (b : Backend) (config : RateLimitConfig) (key : String) (now : ℚ)
  (entries : LimiterEntries)

/-- The answer to a request. -/
def Backend.answerAt : LimiterAnswer := (b.serve config ⟨.handler, key, now, now⟩ entries).2

/-- It depends on the entry of the key alone. -/
theorem answerAt_eq : b.answerAt config key now entries =
    b.limiterAnswer config ⟨.handler, key, now, now⟩
      (hit (b.limiter config) now (entries.lookup key)) := by
  rw [Backend.answerAt, serve_eq, prune_handler]
  exact congrArg (b.limiterAnswer config ⟨.handler, key, now, now⟩)
    (hit_congr (live_lookup_evict le_rfl entries key))

/-- **When a request is answered 429**: in the window of an entry that has counted to the limit. -/
theorem error_answerAt_iff {e : RateLimited} :
    (b.answerAt config key now entries).error = some e ↔
      ∃ entry, entries.lookup key = some entry ∧ ¬(b.limiter config).ended now entry.windowEnd ∧
        config.max ≤ entry.count ∧ e = b.rateLimited ⟨entry.count + 1, entry.windowEnd⟩ now := by
  rw [answerAt_eq, Backend.limiterAnswer]
  cases entries.lookup key with
  | none => simp [hit_none]
  | some entry =>
    by_cases hended : (b.limiter config).ended now entry.windowEnd
    · simp [hit_of_ended hended, hended]
    · by_cases hle : entry.count + 1 ≤ config.max
      · have hlt : ¬config.max ≤ entry.count := by omega
        simp [hit_of_not_ended hended, hle, hlt]
      · simp [hit_of_not_ended hended, hle, hended, Nat.le_of_lt_succ (not_le.1 hle), eq_comm]

/-- An answer with an error is sent as a 429. -/
theorem tooManyRequests_answerAt {e : RateLimited}
    (h : (b.answerAt config key now entries).error = some e) :
    ∃ r, (b.answerAt config key now entries).tooManyRequests = some r := by
  rw [answerAt_eq] at h ⊢
  rw [LimiterAnswer.tooManyRequests, h]
  exact ⟨_, rfl⟩

end Answer

/-! ### A backoff and a window -/

/-- The backoff is long enough for what is left of the window. -/
def Backend.BackoffCovers (delay now windowEnd : ℚ) : Backend → Prop
  | go => windowEnd - now < ⌊delay⌋
  | python => 1 ≤ delay ∧ (truncate windowEnd - truncate now : ℤ) ≤ delay ∧ windowEnd - now ≤ delay

/-- **What a long enough backoff is**: one that takes the seconds of the answer, and ends after the
window. -/
theorem backoffCovers_iff (b : Backend) (config : RateLimitConfig) {delay now : ℚ} {e : Entry ℚ}
    (hended : ¬(b.limiter config).ended now e.windowEnd) :
    (now + (b.rateLimited e now).retryAfter ≤ now + delay ∧
      (b.limiter config).ended (now + delay) e.windowEnd) ↔
      b.BackoffCovers delay now e.windowEnd := by
  rw [add_le_add_iff_left]
  cases b with
  | go =>
    have hleft : 0 ≤ e.windowEnd - now := sub_nonneg.2 (not_lt.1 hended)
    have hfloor : (((truncate (e.windowEnd - now) + 1 : ℤ)) : ℚ) ≤ delay ↔
        e.windowEnd - now < ⌊delay⌋ := by
      rw [← Int.le_floor, Int.add_one_le_iff, truncate_eq_floor hleft, Int.floor_lt]
    refine (and_iff_left_of_imp fun h ↦ ?_).trans hfloor
    -- the seconds of the answer are more than what is left of the window
    have hlt := hfloor.1 h
    have hle := Int.floor_le delay
    change e.windowEnd < now + delay
    linarith
  | python =>
    change ((max 1 (truncate e.windowEnd - truncate now) : ℤ) : ℚ) ≤ delay ∧
      e.windowEnd ≤ now + delay ↔ _
    rw [Int.cast_max, max_le_iff, Int.cast_one, and_assoc, ← sub_le_iff_le_add']
    exact Iff.rfl

/-! ### A run of retries -/

/-- A server behind a limiter, with whatever else happens on it: a request that the limiter answers
429 gets that answer. -/
structure LimitedServer (W : Type) where
  backend : Backend
  config : RateLimitConfig
  key : String
  /-- The entries that a request finds. -/
  entries : ℚ → W → LimiterEntries
  fetch : ℚ → W → FetchOutcome × W
  limited : ∀ now world r,
    (backend.answerAt config key now (entries now world)).tooManyRequests = some r →
      (fetch now world).1 = .response r

namespace LimitedServer

variable {W : Type} (x : LimitedServer W)

/-- What the limiter says to a fetch. -/
def answer (call : FetchCall W) : LimiterAnswer :=
  x.backend.answerAt x.config x.key call.time (x.entries call.time call.world)

/-- **Every retry after an answer 429** comes no earlier than the answer says, and after the window
that was exhausted. -/
def AwaitsReset (run : FetchRun W) : Prop :=
  ∀ i call next e, run.calls[i]? = some call → run.calls[i + 1]? = some next →
    (x.answer call).error = some e → call.time + e.retryAfter ≤ next.time ∧
      ∀ entry, (x.entries call.time call.world).lookup x.key = some entry →
        (x.backend.limiter x.config).ended next.time entry.windowEnd

/-- **The condition**: whenever an attempt that is not the last one finds the window exhausted, its
backoff is long enough for what is left of the window. -/
def BackoffsCover (retries : ℕ) (run : FetchRun W) : Prop :=
  ∀ i call entry, run.calls[i]? = some call → i < retries →
    (x.entries call.time call.world).lookup x.key = some entry →
      ¬(x.backend.limiter x.config).ended call.time entry.windowEnd →
        x.config.max ≤ entry.count →
          x.backend.BackoffCovers (sleep (backoffMs i)) call.time entry.windowEnd

variable {x}

/-- An attempt that is answered 429 does not settle. -/
theorem not_settles_of_error {retries : ℕ} {now : ℚ} {world : W} {i : ℕ} {call : FetchCall W}
    {e : RateLimited} (hcall : (fetchWithRetry x.fetch retries now world).calls[i]? = some call)
    (he : (x.answer call).error = some e) :
    ∃ r, (x.answer call).tooManyRequests = some r ∧ call.outcome = .response r ∧
      ¬call.outcome.Settles := by
  obtain ⟨r, hr⟩ := tooManyRequests_answerAt _ _ _ _ _ he
  have houtcome : call.outcome = .response r :=
    (outcome_eq_of_getElem? (Nat.zero_le _) hcall).1.trans (x.limited _ _ r hr)
  refine ⟨r, hr, houtcome, ?_⟩
  rw [houtcome]
  exact not_not.2 (status_tooManyRequests hr)

/-- **A retry after an answer 429** is sent after the backoff. -/
theorem time_next {retries : ℕ} {now : ℚ} {world : W} {i : ℕ} {call next : FetchCall W}
    {e : RateLimited} (hcall : (fetchWithRetry x.fetch retries now world).calls[i]? = some call)
    (hnext : (fetchWithRetry x.fetch retries now world).calls[i + 1]? = some next)
    (he : (x.answer call).error = some e) : next.time = call.time + sleep (backoffMs i) := by
  obtain ⟨r, hr, houtcome, hsettles⟩ := not_settles_of_error hcall he
  have hlast := (outcome_eq_of_getElem? (Nat.zero_le _) hnext).2
  obtain ⟨next', hnext', htime⟩ := exists_next_call hcall hsettles (by omega)
  obtain rfl := Option.some.inj (hnext.symm.trans hnext')
  rw [htime, houtcome, FetchOutcome.delayMs, retryAfterMs, getHeader_tooManyRequests hr,
    Nat.zero_add]
  rfl

/-- **Exactly when the retries wait long enough**, for every limiter in every state, every number of
retries and every call. -/
theorem awaitsReset_iff (x : LimitedServer W) (retries : ℕ) (now : ℚ) (world : W) :
    x.AwaitsReset (fetchWithRetry x.fetch retries now world) ↔
      x.BackoffsCover retries (fetchWithRetry x.fetch retries now world) := by
  constructor
  · intro h i call entry hcall hi hentry hended hcount
    have he := (error_answerAt_iff x.backend x.config x.key call.time
      (x.entries call.time call.world)).2 ⟨entry, hentry, hended, hcount, rfl⟩
    obtain ⟨-, -, -, hsettles⟩ := not_settles_of_error hcall he
    obtain ⟨next, hnext, -⟩ := exists_next_call hcall hsettles (by omega)
    have hawaits := h i call next _ hcall hnext he
    rw [time_next hcall hnext he] at hawaits
    exact (backoffCovers_iff x.backend x.config (e := ⟨entry.count + 1, entry.windowEnd⟩)
      hended).1 ⟨hawaits.1, hawaits.2 entry hentry⟩
  · intro h i call next e hcall hnext he
    obtain ⟨entry, hentry, hended, hcount, rfl⟩ := (error_answerAt_iff _ _ _ _ _).1 he
    have hlast := (outcome_eq_of_getElem? (Nat.zero_le _) hnext).2
    have hcovers := h i call entry hcall (by omega) hentry hended hcount
    rw [time_next hcall hnext he]
    obtain ⟨hle, hend⟩ := (backoffCovers_iff x.backend x.config
      (e := ⟨entry.count + 1, entry.windowEnd⟩) hended).2 hcovers
    refine ⟨hle, fun entry' hentry' ↦ ?_⟩
    obtain rfl := Option.some.inj (hentry.symm.trans hentry')
    exact hend

/-- The route of the synchronisation in Go, with nothing else on it. -/
def syncServer : LimitedServer LimiterEntries where
  backend := .go
  config := Go.newSyncRateLimiter
  key := "user:a"
  entries _ entries := entries
  fetch now entries :=
    let (entries, answer) :=
      Backend.go.serve Go.newSyncRateLimiter ⟨.handler, "user:a", now, now⟩ entries
    (.response (answer.tooManyRequests.getD ⟨200, [], .null⟩), entries)
  limited _ _ _ h := by
    dsimp only
    rw [Backend.answerAt] at h
    rw [h]
    rfl

/-- A window that is exhausted, with a minute to go. -/
def exhaustedEntries : LimiterEntries := Table.insert ∅ "user:a" ⟨2, 60⟩

/-- **The client comes back after a second.** The answer says that it takes 61. -/
theorem not_awaitsReset :
    ¬syncServer.AwaitsReset (fetchWithRetry syncServer.fetch maxRetries 0 exhaustedEntries) := by
  intro h
  have hcall : (fetchWithRetry syncServer.fetch maxRetries 0 exhaustedEntries).calls[0]? =
      some ⟨0, exhaustedEntries, (syncServer.fetch 0 exhaustedEntries).1⟩ :=
    getElem?_zero_calls (Nat.zero_le maxRetries) 0 exhaustedEntries
  have herror : (syncServer.answer ⟨0, exhaustedEntries,
      (syncServer.fetch 0 exhaustedEntries).1⟩).error = some (RateLimited.after 61) := by
    decide +kernel
  obtain ⟨-, -, -, hsettles⟩ := not_settles_of_error hcall herror
  obtain ⟨next, hnext, -⟩ := exists_next_call hcall hsettles (by decide)
  have htime := time_next hcall hnext herror
  have hwait := (h 0 _ next _ hcall hnext herror).1
  rw [htime] at hwait
  exact absurd hwait (by decide +kernel)

end LimitedServer

end RealTube
