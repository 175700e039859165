import RealTube.Model.RateLimiter
import Mathlib.Data.Real.Basic

/-!
# Rate limits as functions of the windows of a key

What the limiters of both backends answer, over whole runs: calls of both methods for any keys, with
removals of entries anywhere between them, at times that do not go back. The calls of a key are cut
into windows, and each answer follows from the number of the call in its window
(`answers_eq_windowsOf`). In Go the end belongs to the window, in Python it does not.

`RateLimiter` in Go is described as a sliding-window limiter. It is a fixed-window one: what it lets
through in a time as long as a window is bounded by the limit only if the calls of each two windows
that follow each other keep their distance (`boundsRate_iff`), and two votes before the end of a
window with two after it do not.
-/

namespace RealTube

open FixedWindow

section Windows

variable (b : Backend) (config : RateLimitConfig)

/-- The calls of a run, with the answers to them. -/
def Backend.answers (es : List (Event LimiterCall ℚ)) : List (LimiterCall × LimiterAnswer) :=
  FixedWindow.answers (b.limiter config) (fun a entries ↦ b.serve config a entries) ∅ es

/-- The windows of a key. -/
def Backend.windowsOf (k : String) (es : List (Event LimiterCall ℚ)) :
    List (Window LimiterCall ℚ) :=
  windows (b.limiter config) LimiterCall.time (requestsOf LimiterCall.key k es)

/-- The calls for a key that are allowed. -/
def Backend.allowedOf (k : String) (es : List (Event LimiterCall ℚ)) : List LimiterCall :=
  ((b.answers config es).filter fun r ↦ r.1.key = k && r.2.allowed).map Prod.fst

/-- **The limit is one for every time**: however the time is chosen, as long as a window, no more
calls for the key are allowed in it. -/
def Backend.BoundsRate (k : String) (es : List (Event LimiterCall ℚ)) : Prop :=
  ∀ s : ℝ, ((b.allowedOf config k es).countP fun a ↦
    s ≤ (a.time : ℝ) ∧ (a.time : ℝ) ≤ s + (config.window : ℝ)) ≤ config.max

/-- `X-RateLimit-Remaining`. -/
def LimiterAnswer.remaining (r : LimiterAnswer) : Option ℤ :=
  r.headers.map RateLimitHeaders.remaining

/-- Time does not go back. -/
def InOrder (es : List (Event LimiterCall ℚ)) : Prop :=
  es.Pairwise fun e e' ↦ e.moment LimiterCall.time ≤ e'.moment LimiterCall.time

instance (es : List (Event LimiterCall ℚ)) : Decidable (InOrder es) :=
  inferInstanceAs (Decidable (List.Pairwise _ _))

variable {b} {config} {es : List (Event LimiterCall ℚ)}

/-! ### Answers -/

/-- What remains after a call. -/
theorem remaining_limiterAnswer (a : LimiterCall) (e : Entry ℚ) (allowed : Bool) :
    (b.limiterAnswer config a (e, allowed)).remaining =
      if a.method = .handler then some (max ((config.max : ℤ) - e.count) 0) else none := by
  obtain ⟨method, key, now, later⟩ := a
  rcases b with - | - <;> rcases method with - | - <;> rfl

theorem allowed_limiterAnswer (a : LimiterCall) (e : Entry ℚ) (allowed : Bool) :
    (b.limiterAnswer config a (e, allowed)).allowed = allowed := by
  obtain ⟨method, key, now, later⟩ := a
  rcases method with - | - <;> rfl

/-- **The answers to the calls for a key are a function of its windows.** The call with the number
`i`, from 0 on, is allowed if `i` is less than the limit, by either method, and what remains then is
the limit less the `i + 1` calls so far. -/
theorem answers_eq_windowsOf (b : Backend) {config : RateLimitConfig} (hmax : 1 ≤ config.max)
    {es : List (Event LimiterCall ℚ)} (horder : InOrder es) (k : String) :
    ((b.answers config es).filter (·.1.key = k)).map
        (fun r ↦ (r.1, r.2.allowed, r.2.remaining)) =
      (b.windowsOf config k es).flatMap fun v ↦ v.2.mapIdx fun i a ↦
        (a, decide (i < config.max),
          if a.method = .handler then some (max ((config.max : ℤ) - (i + 1)) 0) else none) := by
  have hanswers := answers_eq_windows (serves_limiter b config) (by rwa [limiter_max]) horder k
  rw [Backend.answers, hanswers, List.map_flatMap]
  refine congrArg (List.flatMap · _) (funext fun v ↦ ?_)
  refine List.ext_getElem? fun i ↦ ?_
  simp only [answerWindow, List.getElem?_map, List.getElem?_mapIdx, Option.map_map,
    Function.comp_def, remaining_limiterAnswer, allowed_limiterAnswer, limiter_max, Nat.cast_add,
    Nat.cast_one]

/-- Three calls of `Handler` for a key, and one of `Allow`; the others make no difference. -/
def syncCalls : List (Event LimiterCall ℚ) := [
  .request ⟨.handler, "user:a", 0, 0⟩,
  .request ⟨.allow, "user:b", 1, 1⟩,
  .request ⟨.allow, "user:a", 2, 2⟩,
  .sweep 3,
  .request ⟨.handler, "user:a", 60, 60⟩,
  .request ⟨.handler, "user:a", 61, 61⟩]

/-- In Go, the call at the end of the window is the third of it. -/
theorem answers_syncCalls :
    ((Backend.go.answers Go.newSyncRateLimiter syncCalls).filter (·.1.key = "user:a")).map
        (fun r ↦ (r.1.time, r.2.allowed, r.2.remaining)) =
      [(0, true, some 1), (2, true, none), (60, false, some 0), (61, true, some 1)] := by
  have hanswers := congrArg (List.map fun r ↦ (r.1.time, r.2))
    (answers_eq_windowsOf .go (show 1 ≤ Go.newSyncRateLimiter.max by decide)
      (show InOrder syncCalls by decide +kernel) "user:a")
  rw [List.map_map] at hanswers
  exact hanswers.trans (by decide +kernel)

/-! ### The rate -/

/-- The requests of a key are in order. -/
theorem InOrder.requestsOf (horder : InOrder es) (k : String) :
    (requestsOf LimiterCall.key k es).Pairwise (·.time ≤ ·.time) := by
  refine List.Pairwise.filterMap _ (fun e e' hle a ha a' ha' ↦ ?_) horder
  rcases e with a₀ | now
  · rcases e' with a₁ | now'
    · simp only [Option.ite_none_right_eq_some, Option.some.injEq] at ha ha'
      obtain ⟨-, rfl⟩ := ha
      obtain ⟨-, rfl⟩ := ha'
      exact hle
    · cases ha'
  · cases ha

/-- **The first calls of each window are allowed.** -/
theorem allowedOf_eq (hmax : 1 ≤ config.max) (horder : InOrder es) (k : String) :
    b.allowedOf config k es =
      ((b.windowsOf config k es).map Prod.snd).flatMap (List.take config.max) := by
  have hanswers := answers_eq_windows (serves_limiter b config) (by rwa [limiter_max]) horder k
  have hfilter : (b.answers config es).filter (fun r ↦ r.1.key = k && r.2.allowed) =
      ((b.answers config es).filter (·.1.key = k)).filter (·.2.allowed) := by
    rw [List.filter_filter]
    exact List.filter_congr fun r _ ↦ Bool.and_comm _ _
  rw [Backend.allowedOf, hfilter, Backend.answers, hanswers, List.filter_flatMap, List.map_flatMap,
    List.flatMap_map]
  refine congrArg (List.flatMap · _) (funext fun v ↦ ?_)
  rw [← limiter_max config b]
  exact filter_answerWindow allowed_limiterAnswer v

/-- The limits that the backend sets. -/
theorem one_le_max_config (l : Go.RouteLimiter) : 1 ≤ l.config.max := by
  rcases l with - | - | - | - | - | - <;> decide

/-- A time in seconds is a real number. -/
def realTime (a : LimiterCall) : ℝ := (a.time : ℝ)

theorem spread_realTime_iff {u v : List LimiterCall} :
    Spread realTime (config.window : ℝ) config.max u v ↔
      Spread LimiterCall.time config.window config.max u v := by
  unfold Spread realTime
  norm_cast

/-- In Go, a window ends before the calls in the windows after it. -/
theorem apart_windowsOf (horder : InOrder es) (k : String) :
    ((Backend.go.windowsOf config k es).map Prod.snd).Pairwise
      (Apart realTime (config.window : ℝ)) := by
  have hcalls := horder.requestsOf k
  have hends := pairwise_windows (x := Backend.go.limiter config) hcalls
  rw [← flatMap_windows (Backend.go.limiter config) LimiterCall.time
    (requestsOf LimiterCall.key k es)] at hcalls
  have hle := (List.pairwise_flatMap.1 hcalls).2
  refine List.pairwise_map.2 ((hle.and hends).imp_of_mem fun hu _ ⟨hle, hended⟩ ↦ ⟨?_, ?_⟩)
  · exact fun a ha b hb ↦ Rat.cast_le.2 (hle a ha b hb)
  · intro a ha b hb
    obtain ⟨c, cs, rfl⟩ := exists_cons_of_mem_windows hu
    obtain rfl := Option.some.inj ha
    have hlt : c.time + config.window < b.time := hended b hb
    show (c.time : ℝ) + config.window < b.time
    exact_mod_cast hlt

/-- **When the Go limiter bounds the rate**: in every two windows that follow each other, each of
the calls up to the limit comes longer than a window after its counterpart. -/
theorem boundsRate_iff (hmax : 1 ≤ config.max) (horder : InOrder es) (k : String) :
    Backend.go.BoundsRate config k es ↔
      ((Backend.go.windowsOf config k es).map Prod.snd).IsChain
        (Spread LimiterCall.time config.window config.max) := by
  have hne : ∀ w ∈ (Backend.go.windowsOf config k es).map Prod.snd, w ≠ [] := by
    intro w hw
    obtain ⟨v, hv, rfl⟩ := List.mem_map.1 hw
    obtain ⟨a, as, rfl⟩ := exists_cons_of_mem_windows hv
    exact List.cons_ne_nil a as
  have hsorted : ∀ w ∈ (Backend.go.windowsOf config k es).map Prod.snd,
      w.Pairwise (realTime · ≤ realTime ·) := by
    have hcalls := horder.requestsOf k
    rw [← flatMap_windows (Backend.go.limiter config) LimiterCall.time
      (requestsOf LimiterCall.key k es)] at hcalls
    intro w hw
    obtain ⟨v, hv, rfl⟩ := List.mem_map.1 hw
    exact ((List.pairwise_flatMap.1 hcalls).1 v hv).imp fun hle ↦ Rat.cast_le.2 hle
  have hlimit := countP_flatMap_take_le_iff (n := config.max) hne hsorted (apart_windowsOf horder k)
  rw [← allowedOf_eq hmax horder] at hlimit
  refine hlimit.trans ⟨fun h ↦ h.imp fun _ _ ↦ spread_realTime_iff.1,
    fun h ↦ h.imp fun _ _ ↦ spread_realTime_iff.2⟩

/-- Calls of `Handler` for a key. -/
def callsAt (times : List ℚ) : List (Event LimiterCall ℚ) :=
  times.map fun t ↦ .request ⟨.handler, "user:a", t, t⟩

/-- Two calls at the beginning of each of two windows. -/
theorem boundsRate_callsAt :
    Backend.go.BoundsRate Go.newSyncRateLimiter "user:a" (callsAt [0, 1, 61, 62]) := by
  have hmax : 1 ≤ Go.newSyncRateLimiter.max := by decide
  refine (boundsRate_iff hmax (by decide +kernel) "user:a").2 ?_
  have hwindows : (Backend.go.windowsOf Go.newSyncRateLimiter "user:a"
      (callsAt [0, 1, 61, 62])).map Prod.snd =
        [[⟨.handler, "user:a", 0, 0⟩, ⟨.handler, "user:a", 1, 1⟩],
          [⟨.handler, "user:a", 61, 61⟩, ⟨.handler, "user:a", 62, 62⟩]] := by
    decide +kernel
  rw [hwindows]
  decide +kernel

/-- **Three calls in a minute, where two are allowed**: one at the end of a window, and two at the
beginning of the next. -/
theorem not_boundsRate : ¬∀ (config : RateLimitConfig) (es : List (Event LimiterCall ℚ))
    (k : String), 1 ≤ config.max → InOrder es → Backend.go.BoundsRate config k es := by
  intro h
  have hbound := h Go.newSyncRateLimiter (callsAt [0, 50, 61, 62]) "user:a" (by decide)
    (by decide +kernel) 50
  have hallowed : Backend.go.allowedOf Go.newSyncRateLimiter "user:a" (callsAt [0, 50, 61, 62]) =
      [⟨.handler, "user:a", 0, 0⟩, ⟨.handler, "user:a", 50, 50⟩, ⟨.handler, "user:a", 61, 61⟩,
        ⟨.handler, "user:a", 62, 62⟩] := by
    decide +kernel
  rw [hallowed] at hbound
  norm_num [List.countP_cons, Go.newSyncRateLimiter] at hbound

end Windows

end RealTube
