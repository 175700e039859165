import RealTube.Model.RateLimit
import RealTube.Store.Steps

/-!
# The rate limits of the two backends

Both backends take the same requests, at the same times. They are meant to have the same limits, and
for each route the limiters do agree in the limit and the length of windows, with two exceptions:
Python has no limiter for the export of the database (`new_export_limiter` is never used), and it
counts the two routes for synchronization separately, where the contract has one limit for
`/api/sync/*`.

The answers are the same in every run without an export that has a window already, without requests
for one route of synchronization in a window of the other, and without a request at the very end of
a window (`answers_agree`). The router of Go is a parameter: it is a library, and it may read a path
in another way than the table of patterns does.
-/

namespace RealTube

open FixedWindow

/-! ### The two layers -/

/-- The limiters of both backends, the time, and the answers so far, with Go's first. -/
structure RateLimits where
  go : LimiterTables Go.RouteLimiter
  python : LimiterTables Python.RouteLimiter
  clock : ℚ
  answers : List (Bool × Bool)

/-- What happens to them. -/
inductive RateLimitEvent where
  /-- A request to both. -/
  | request (q : ApiCall)
  /-- The background task of a limiter in Go. -/
  | cleanup (l : Go.RouteLimiter) (now : ℚ)

/-- The Python limiters that count for a limiter in Go. -/
def Go.RouteLimiter.twins : Go.RouteLimiter → List Python.RouteLimiter
  | videoRL => [.video]
  | voteSubmitRL => [.voteSubmit]
  | voteDeleteRL => [.voteDelete]
  | syncRL => [.syncDelta, .syncFull]
  | statsRL => [.stats]
  | exportRL => []

/-- The key of a request for a route. -/
def Route.key (r : Route) (q : ApiCall) : String := (Go.limiterOf r).config.keyFn q.client

namespace RateLimits

/-- All limiters are empty. -/
def start (t₀ : ℚ) : RateLimits := ⟨fun _ ↦ ∅, fun _ ↦ ∅, t₀, []⟩

variable (router : String → String → Option Route)

/-- What happens. Time does not go back. -/
def step (s : RateLimits) : RateLimitEvent → Option RateLimits
  | .request q =>
    if s.clock ≤ q.time then
      some {
        go := (Go.handler router q s.go).1
        python := (Python.dispatch q s.python).1
        clock := q.time
        answers := ((Go.handler router q s.go).2, (Python.dispatch q s.python).2) :: s.answers }
    else none
  | .cleanup l now =>
    if s.clock ≤ now then some { s with go := Go.cleanup l now s.go, clock := now } else none

/-- A request for a route is no place where the backends differ. -/
def MatchesAt (s : RateLimits) (q : ApiCall) (r : Route) : Prop :=
  -- it is not made at the end of a window
  (∀ e ∈ (s.go (Go.limiterOf r)).lookup (r.key q), e.windowEnd ≠ q.time) ∧
    -- it is no second export in a window
    (r = .databaseExport → ∀ e ∈ (s.go (Go.limiterOf r)).lookup (r.key q), e.windowEnd < q.time) ∧
    -- Go does not count it with a window that Python counts elsewhere
    ∀ l ∈ (Go.limiterOf r).twins, Python.limiterOf r ≠ some l →
      ∀ e ∈ (s.python l).lookup (r.key q), e.windowEnd ≤ q.time

/-- An event is no place where the backends differ. For a request the two also find the same route.
-/
def Matches (s : RateLimits) : RateLimitEvent → Prop
  | .request q =>
    Python.findLimiter q.method q.path = (router q.method q.path).bind Python.limiterOf ∧
      ∀ r ∈ router q.method q.path, s.MatchesAt q r
  | .cleanup _ _ => True

instance (s : RateLimits) (q : ApiCall) (r : Route) : Decidable (s.MatchesAt q r) :=
  inferInstanceAs (Decidable (_ ∧ _ ∧ _))

instance (s : RateLimits) : (e : RateLimitEvent) → Decidable (s.Matches router e)
  | .request _ => inferInstanceAs (Decidable (_ ∧ _))
  | .cleanup _ _ => inferInstanceAs (Decidable True)

end RateLimits

/-! ### One limiter -/

section RateLimit

variable {L : Type} [DecidableEq L] {b : Backend} {config : L → RateLimitConfig} {l l' : L}
  {q : ApiCall} {tables : LimiterTables L} {k : String}

theorem rateLimit_answer : (b.rateLimit config (some l) q tables).2 =
    (hit (b.limiter (config l)) q.time ((tables l).lookup ((config l).keyFn q.client))).2 :=
  (check_eq _ _ _).1

theorem lookup_rateLimit_self (b : Backend) (config : L → RateLimitConfig) (l : L) (q : ApiCall)
    (tables : LimiterTables L) :
    ((b.rateLimit config (some l) q tables).1 l).lookup ((config l).keyFn q.client) =
      some (hit (b.limiter (config l)) q.time
        ((tables l).lookup ((config l).keyFn q.client))).1 := by
  rw [Backend.rateLimit]
  show (Function.update tables l _ l).lookup _ = _
  rw [Function.update_self]
  exact (check_eq _ _ _).2

/-- The other windows go on as they did. -/
theorem opened_lookup_rateLimit (h : l' = l → k ≠ (config l).keyFn q.client) :
    opened q.time (((b.rateLimit config (some l) q tables).1 l').lookup k) =
      opened q.time ((tables l').lookup k) := by
  show opened q.time ((Function.update tables l _ l').lookup k) = _
  by_cases hl : l' = l
  · subst hl
    rw [Function.update_self]
    exact opened_lookup_check_of_ne (h rfl) _
  · rw [Function.update_of_ne hl]

end RateLimit

/-! ### The simulation -/

/-- One of the twins has the window of a limiter in Go, and no other has any. -/
structure Carries (now : ℚ) (go : LimiterTables Go.RouteLimiter)
    (python : LimiterTables Python.RouteLimiter) (l : Go.RouteLimiter) (k : String)
    (l' : Python.RouteLimiter) : Prop where
  mem : l' ∈ l.twins
  eq : opened now ((go l).lookup k) = opened now ((python l').lookup k)
  others : ∀ l'' ∈ l.twins, l'' ≠ l' → opened now ((python l'').lookup k) = none

/-- All windows besides those for exports have their counterpart. -/
def Related (now : ℚ) (go : LimiterTables Go.RouteLimiter)
    (python : LimiterTables Python.RouteLimiter) : Prop :=
  ∀ l ≠ .exportRL, ∀ k, ∃ l', Carries now go python l k l'

section Simulation

variable {router : String → String → Option Route} {now now' : ℚ}
  {go : LimiterTables Go.RouteLimiter} {python : LimiterTables Python.RouteLimiter}
  {s s' : RateLimits} {q : ApiCall} {r : Route} {l₀ : Python.RouteLimiter}

/-- Time passes. -/
theorem Carries.later {l : Go.RouteLimiter} {k : String} {l' : Python.RouteLimiter}
    (h : Carries now go python l k l') (hnow : now ≤ now') : Carries now' go python l k l' where
  mem := h.mem
  eq := opened_congr hnow h.eq
  others l'' hl'' hne := by rw [← opened_opened hnow, h.others l'' hl'' hne]; rfl

theorem Related.later (h : Related now go python) (hnow : now ≤ now') : Related now' go python :=
  fun l hl k ↦ (h l hl k).imp fun _ hl' ↦ hl'.later hnow

/-- Limiters that differ in Go have different twins. -/
theorem eq_of_mem_twins {l l' : Go.RouteLimiter} (h : l₀ ∈ l.twins) (h' : l₀ ∈ l'.twins) :
    l = l' := by
  revert h h'
  cases l <;> cases l' <;> cases l₀ <;> decide

/-- Where Python has a limiter for a route, it is a twin with the same configuration. -/
theorem limiterOf_eq_some (h : Python.limiterOf r = some l₀) :
    l₀ ∈ (Go.limiterOf r).twins ∧ l₀.config = (Go.limiterOf r).config ∧
      Go.limiterOf r ≠ .exportRL := by
  cases r <;> cases h <;> exact ⟨by decide, rfl, by decide⟩

theorem limiterOf_eq_none_iff : Python.limiterOf r = none ↔ r = .databaseExport := by
  cases r <;> decide

/-- **A request that both limit** gets the same answer, and the windows correspond afterwards. -/
theorem rateLimit_of_limiterOf (hm : s.MatchesAt q r) (h : Related q.time s.go s.python)
    (hl₀ : Python.limiterOf r = some l₀) :
    (Backend.go.rateLimit Go.RouteLimiter.config (some (Go.limiterOf r)) q s.go).2 =
        (Backend.python.rateLimit Python.RouteLimiter.config (some l₀) q s.python).2 ∧
      Related q.time (Backend.go.rateLimit Go.RouteLimiter.config (some (Go.limiterOf r)) q s.go).1
        (Backend.python.rateLimit Python.RouteLimiter.config (some l₀) q s.python).1 := by
  obtain ⟨htie, -, hother⟩ := hm
  obtain ⟨hmem, hconfig, hne⟩ := limiterOf_eq_some hl₀
  have hkey : l₀.config.keyFn q.client = r.key q := by rw [hconfig, Route.key]
  have hclosed : ∀ l ∈ (Go.limiterOf r).twins, l ≠ l₀ →
      opened q.time ((s.python l).lookup (r.key q)) = none := fun l hl hlne ↦
    opened_eq_none_iff.2 (hother l hl fun heq ↦ hlne (Option.some.inj (heq.symm.trans hl₀)))
  have hopened : opened q.time ((s.go (Go.limiterOf r)).lookup (r.key q)) =
      opened q.time ((s.python l₀).lookup (r.key q)) := by
    obtain ⟨l₁, hl₁⟩ := h _ hne (r.key q)
    by_cases heq : l₁ = l₀
    · exact heq ▸ hl₁.eq
    · rw [hl₁.eq, hclosed l₁ hl₁.mem heq, hl₁.others l₀ hmem (Ne.symm heq)]
  have hhit : hit (Backend.go.limiter (Go.limiterOf r).config) q.time
      ((s.go (Go.limiterOf r)).lookup (r.key q)) =
        hit (Backend.python.limiter l₀.config) q.time ((s.python l₀).lookup (r.key q)) := by
    rw [hconfig]
    exact hit_eq_hit rfl rfl (fun _ hle ↦ hle) htie hopened
  refine ⟨?_, fun l hl k ↦ ?_⟩
  · rw [rateLimit_answer, rateLimit_answer, hkey]
    exact congrArg Prod.snd hhit
  · by_cases hat : l = Go.limiterOf r ∧ k = r.key q
    · obtain ⟨rfl, rfl⟩ := hat
      refine ⟨l₀, hmem, ?_, fun l hl hlne ↦ ?_⟩
      · have hself := lookup_rateLimit_self .python Python.RouteLimiter.config l₀ q s.python
        rw [hkey, ← hhit] at hself
        rw [hself, Route.key, lookup_rateLimit_self]
      · rw [opened_lookup_rateLimit fun heq ↦ absurd heq hlne, hclosed l hl hlne]
    · obtain ⟨l', hl'⟩ := h l hl k
      have hpython : ∀ l'' ∈ l.twins, opened q.time
          (((Backend.python.rateLimit Python.RouteLimiter.config (some l₀) q
            s.python).1 l'').lookup k) = opened q.time ((s.python l'').lookup k) := fun l'' hl'' ↦
        opened_lookup_rateLimit fun heq hk ↦
          hat ⟨eq_of_mem_twins hl'' (heq ▸ hmem), hk.trans hkey⟩
      refine ⟨l', hl'.mem, ?_, fun l'' hl'' hne'' ↦ ?_⟩
      · rw [opened_lookup_rateLimit fun heq hk ↦ hat ⟨heq, hk⟩, hpython l' hl'.mem, hl'.eq]
      · rw [hpython l'' hl'', hl'.others l'' hl'' hne'']

/-- **A first export** is answered, and the other windows are as they were. -/
theorem rateLimit_databaseExport (hm : s.MatchesAt q .databaseExport)
    (h : Related q.time s.go s.python) :
    (Backend.go.rateLimit Go.RouteLimiter.config (some .exportRL) q s.go).2 = true ∧
      Related q.time (Backend.go.rateLimit Go.RouteLimiter.config (some .exportRL) q s.go).1
        s.python := by
  refine ⟨?_, fun l hl k ↦ ?_⟩
  · rw [rateLimit_answer]
    rcases hentry : (s.go .exportRL).lookup
      (Go.RouteLimiter.exportRL.config.keyFn q.client) with - | e
    · rfl
    · have hended : e.windowEnd < q.time := hm.2.1 rfl e hentry
      show (if e.windowEnd < q.time then (_, true) else _ : Entry ℚ × Bool).2 = true
      rw [if_pos hended]
  · obtain ⟨l', hl'⟩ := h l hl k
    exact ⟨l', hl'.mem, by rw [opened_lookup_rateLimit fun heq ↦ absurd heq hl, hl'.eq], hl'.others⟩

/-- **A request keeps the correspondence**, and both answer the same. -/
theorem handler_eq_dispatch (hm : s.Matches router (.request q))
    (h : Related q.time s.go s.python) :
    (Go.handler router q s.go).2 = (Python.dispatch q s.python).2 ∧
      Related q.time (Go.handler router q s.go).1 (Python.dispatch q s.python).1 := by
  obtain ⟨hfind, hat⟩ := hm
  rw [Go.handler, Python.dispatch, hfind]
  rcases hroute : router q.method q.path with - | r
  · exact ⟨rfl, h⟩
  · have hm := hat r hroute
    rw [Option.map_some, Option.bind_some]
    rcases hl₀ : Python.limiterOf r with - | l₀
    · obtain rfl := limiterOf_eq_none_iff.1 hl₀
      exact rateLimit_databaseExport hm h
    · exact rateLimit_of_limiterOf hm h hl₀

/-- The background task of a limiter removes no window that goes on. -/
theorem Related.cleanup (h : Related now go python) (l₁ : Go.RouteLimiter) :
    Related now (Go.cleanup l₁ now go) python := by
  have hopened : ∀ l k, opened now ((Go.cleanup l₁ now go l).lookup k) =
      opened now ((go l).lookup k) := fun l k ↦ by
    rw [Go.cleanup]
    by_cases hl : l = l₁
    · subst hl
      rw [Function.update_self, opened_lookup_sweep]
    · rw [Function.update_of_ne hl]
  intro l hl k
  obtain ⟨l', hl'⟩ := h l hl k
  exact ⟨l', hl'.mem, by rw [hopened, hl'.eq], hl'.others⟩

/-- What holds in every state of a run without the places where the backends differ. -/
structure RateLimits.Inv (s : RateLimits) : Prop where
  related : Related s.clock s.go s.python
  answers : ∀ a ∈ s.answers, a.1 = a.2

theorem RateLimits.Inv.start (t₀ : ℚ) : (RateLimits.start t₀).Inv where
  related l hl k := by
    cases l with
    | exportRL => exact absurd rfl hl
    | videoRL => exact ⟨.video, by decide, rfl, fun _ _ _ ↦ rfl⟩
    | voteSubmitRL => exact ⟨.voteSubmit, by decide, rfl, fun _ _ _ ↦ rfl⟩
    | voteDeleteRL => exact ⟨.voteDelete, by decide, rfl, fun _ _ _ ↦ rfl⟩
    | syncRL => exact ⟨.syncDelta, by decide, rfl, fun _ _ _ ↦ rfl⟩
    | statsRL => exact ⟨.stats, by decide, rfl, fun _ _ _ ↦ rfl⟩
  answers a ha := absurd ha List.not_mem_nil

/-- **One step.** -/
theorem RateLimits.Inv.step {e : RateLimitEvent} (h : s.Inv) (hm : s.Matches router e)
    (hstep : s.step router e = some s') : s'.Inv := by
  cases e with
  | request q =>
    rw [RateLimits.step] at hstep
    split_ifs at hstep with hclock
    obtain rfl := Option.some.inj hstep
    obtain ⟨hanswer, hrelated⟩ := handler_eq_dispatch hm (h.related.later hclock)
    exact ⟨hrelated, List.forall_mem_cons.2 ⟨hanswer, h.answers⟩⟩
  | cleanup l now =>
    rw [RateLimits.step] at hstep
    split_ifs at hstep with hclock
    obtain rfl := Option.some.inj hstep
    exact ⟨(h.related.later hclock).cleanup l, h.answers⟩

/-- **The backends limit the same requests, where nothing is left out.** A route has the same
configuration in both unless it is the export; besides that, two routes share a counter in both or
in neither unless they are the two for synchronization; and in every run whose events are no places
where the backends differ, both give the same answers. -/
theorem answers_agree (router : String → String → Option Route) (t₀ : ℚ) {es : List RateLimitEvent}
    {s : RateLimits}
    (h : Steps.Run (RateLimits.step router) (RateLimits.Matches router) (.start t₀) es s) :
    (∀ (r : Route) (path : String), r.HasPath path →
        ((Python.findLimiter r.method path).map (·.config) = some (Go.limiterOf r).config ↔
          r ≠ .databaseExport)) ∧
      (∀ (r r' : Route) (path path' : String), r.HasPath path → r'.HasPath path' →
        r ≠ .databaseExport → r' ≠ .databaseExport →
          ((Go.limiterOf r = Go.limiterOf r' ↔
              Python.findLimiter r.method path = Python.findLimiter r'.method path') ↔
            ¬ (r = .syncDelta ∧ r' = .syncFull ∨ r = .syncFull ∧ r' = .syncDelta))) ∧
      ∀ a ∈ s.answers, a.1 = a.2 := by
  refine ⟨fun r path hpath ↦ ?_, fun r r' path path' hpath hpath' hr hr' ↦ ?_, ?_⟩
  · rw [Python.findLimiter_of_hasPath hpath]
    rcases hl : Python.limiterOf r with - | l
    · refine iff_of_false (by rintro ⟨⟩) (not_not.2 (limiterOf_eq_none_iff.1 hl))
    · refine iff_of_true (congrArg some (limiterOf_eq_some hl).2.1) fun hr ↦ ?_
      rw [limiterOf_eq_none_iff.2 hr] at hl
      cases hl
  · rw [Python.findLimiter_of_hasPath hpath, Python.findLimiter_of_hasPath hpath']
    revert hr hr'
    cases r <;> cases r' <;> decide
  · exact (h.inv (RateLimits.Inv.start t₀) RateLimits.Inv.step).answers

end Simulation

/-! ### Runs -/

/-- The routes, those with a parameter first. -/
def Go.routes : List Route := [.videosByHashPrefix, .channel, .user, .videosByID, .submitVote,
  .deleteVote, .stats, .syncDelta, .syncFull, .databaseExport]

/-- A route is the one of a request. -/
def Route.takes (method path : String) (r : Route) : Bool := r.method = method && r.HasPath path

/-- A router that takes the paths as they are documented, and no others. -/
def Go.documentedRouter (method path : String) : Option Route := routes.find? (·.takes method path)

/-- No path has two roots unless one goes on with the other. -/
theorem not_isSegmentOf (root root' : String) {path : String} (h : IsSegmentOf root' path)
    (hroots : ¬ (root.toList <+: root'.toList ∨ root'.toList <+: root.toList)) :
    ¬ IsSegmentOf root path :=
  fun h' ↦ hroots (List.prefix_or_prefix_of_prefix h'.1 h.1)

theorem documentedRouter_of_hasPath {r : Route} {path : String} (h : r.HasPath path) :
    Go.documentedRouter r.method path = some r := by
  have hpos : ∀ r' : Route, r'.HasPath path → r'.takes r'.method path := fun r' hr' ↦ by
    rw [Route.takes, decide_eq_true rfl, decide_eq_true hr', Bool.true_and]
  have hneg : ∀ (method : String) (r' : Route), ¬ r'.HasPath path → ¬ r'.takes method path :=
    fun method r' hr' ↦ by
      rw [Route.takes, decide_eq_false hr', Bool.and_false]
      exact Bool.false_ne_true
  cases r with
  | videosByHashPrefix => exact List.find?_cons_of_pos (hpos .videosByHashPrefix h)
  | channel =>
    have hvideos := hneg "GET" .videosByHashPrefix
      (not_isSegmentOf "/api/videos/" "/api/channels/" h (by decide))
    exact (List.find?_cons_of_neg hvideos).trans (List.find?_cons_of_pos (hpos .channel h))
  | user =>
    have hvideos := hneg "GET" .videosByHashPrefix
      (not_isSegmentOf "/api/videos/" "/api/users/" h (by decide))
    have hchannels := hneg "GET" .channel
      (not_isSegmentOf "/api/channels/" "/api/users/" h (by decide))
    exact (List.find?_cons_of_neg hvideos).trans
      ((List.find?_cons_of_neg hchannels).trans (List.find?_cons_of_pos (hpos .user h)))
  | videosByID => exact (show path = "/api/videos" from h) ▸ by decide +kernel
  | submitVote => exact (show path = "/api/votes" from h) ▸ by decide +kernel
  | deleteVote => exact (show path = "/api/votes" from h) ▸ by decide +kernel
  | stats => exact (show path = "/api/stats" from h) ▸ by decide +kernel
  | syncDelta => exact (show path = "/api/sync/delta" from h) ▸ by decide +kernel
  | syncFull => exact (show path = "/api/sync/full" from h) ▸ by decide +kernel
  | databaseExport => exact (show path = "/api/database/export" from h) ▸ by decide +kernel

/-- A request for a route without a parameter. -/
def ApiCall.of (r : Route) (time : ℚ) : ApiCall := ⟨r.method, r.path, ⟨"", "127.0.0.1"⟩, time⟩

/-- Three requests for synchronization in one window, and two for the statistics. -/
def mixedCalls : List RateLimitEvent := [.request (.of .syncDelta 0), .request (.of .stats 0),
  .request (.of .syncDelta 1), .cleanup .statsRL 2, .request (.of .syncDelta 2),
  .request (.of .stats 61)]

/-- **In that run** both backends refuse the third request. -/
theorem answers_agree_mixedCalls : ∃ s : RateLimits,
    s.answers = [(true, true), (false, false), (true, true), (true, true), (true, true)] ∧
      ∀ a ∈ s.answers, a.1 = a.2 := by
  have hrun : (Steps.exec (RateLimits.step Go.documentedRouter)
      (RateLimits.Matches Go.documentedRouter) (.start 0) mixedCalls).map (·.answers) =
        some [(true, true), (false, false), (true, true), (true, true), (true, true)] := by
    decide +kernel
  obtain ⟨s, hs, hanswers⟩ := Option.map_eq_some_iff.1 hrun
  exact ⟨s, hanswers, (answers_agree Go.documentedRouter 0 (Steps.run_of_exec hs)).2.2⟩

/-- **The backends do not limit the same requests**: Go refuses a second export in an hour. -/
theorem not_answers_agree : ¬ ∀ (router : String → String → Option Route),
    (∀ (r : Route) (path : String), r.HasPath path → router r.method path = some r) →
      ∀ (t₀ : ℚ) (es : List RateLimitEvent) (s : RateLimits),
        Steps.Run (RateLimits.step router) Steps.Any (.start t₀) es s →
          ∀ a ∈ s.answers, a.1 = a.2 := by
  intro h
  have hrun : (Steps.exec (RateLimits.step Go.documentedRouter) Steps.Any (.start 0)
      [.request (.of .databaseExport 0), .request (.of .databaseExport 1)]).map (·.answers) =
        some [(false, true), (true, true)] := by
    decide +kernel
  obtain ⟨s, hs, hanswers⟩ := Option.map_eq_some_iff.1 hrun
  have hsame := h _ (fun _ _ ↦ documentedRouter_of_hasPath) 0 _ s (Steps.run_of_exec hs)
    (false, true) (by rw [hanswers]; exact List.mem_cons_self)
  exact absurd hsame (by decide)

/-- Python also has two limits for synchronization, where Go has one. -/
example : (Steps.exec (RateLimits.step Go.documentedRouter) Steps.Any (.start 0)
    [.request (.of .syncDelta 0), .request (.of .syncDelta 1), .request (.of .syncFull 2)]).map
      (·.answers) = some [(false, true), (true, true), (true, true)] := by
  decide +kernel

end RealTube
