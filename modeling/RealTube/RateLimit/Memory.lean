import RealTube.Model.RateLimiter
import RealTube.Store.Steps

/-!
# What a rate limiter remembers

A limiter keeps an entry for every key it has seen, until it is removed. Clients choose their keys,
so what is kept must not grow with all that were ever seen. `RateLimiter` of
`middleware/ratelimit.go` removes what is over every five minutes (`cleanup`), that of
`middleware/ratelimit.py` at a request that finds too many entries (`_evict_expired`).

An entry ends a window after the call that opened it (`Inv.opened`). So in Go it is gone when the
ticker has ticked after that, and every key in the map has made a call in the time of a window and
two ticks (`keys_subset_keysSince`). In Python there is no such time, but a number: after a request
there are no more entries than `_MAX_ENTRIES` and one, or than keys with a call in the time of a
window (`card_keys_le`).
-/

namespace RealTube

open FixedWindow Steps

/-- The period of the ticker in `cleanup`, in seconds. -/
def cleanupInterval : ℚ := 5 * 60

/-- A limiter of either backend, with the clock and the next tick of the ticker. The calls so far
are for the statements. -/
structure LimiterSys where
  now : ℚ
  entries : LimiterEntries
  nextCleanup : ℚ
  calls : List LimiterCall

/-- What happens to it. -/
inductive LimiterEvent where
  | pass (t : ℚ)
  /-- A call of a method; its body is written `later`. -/
  | call (method : LimiterMethod) (key : String) (later : ℚ)
  /-- The loop of `cleanup` gets its tick. -/
  | cleanup
  deriving DecidableEq

namespace LimiterSys

section Step

variable (b : Backend) (config : RateLimitConfig)

/-- A new limiter. -/
def init (now : ℚ) : LimiterSys := ⟨now, ∅, now + cleanupInterval, []⟩

/-- The state after an event. There is no ticker in Python. -/
def step (s : LimiterSys) : LimiterEvent → Option LimiterSys
  | .pass t => if 0 ≤ t then some { s with now := s.now + t } else none
  | .call method key later =>
    let a : LimiterCall := ⟨method, key, s.now, later⟩
    some { s with entries := (b.serve config a s.entries).1, calls := a :: s.calls }
  | .cleanup =>
    if b = .go ∧ s.nextCleanup ≤ s.now then some { s with
      entries := sweep (b.limiter config) s.now s.entries
      nextCleanup := s.nextCleanup + cleanupInterval }
    else none

end Step

/-- A tick is served at most `late` after it is due. -/
def Ticking (late : ℚ) (s : LimiterSys) : LimiterEvent → Prop
  | .pass t => s.now + t ≤ s.nextCleanup + late
  | _ => True

/-- All calls are made for requests. -/
def Requests (_ : LimiterSys) : LimiterEvent → Prop
  | .call method _ _ => method = .handler
  | _ => True

instance (late : ℚ) (s : LimiterSys) (e : LimiterEvent) : Decidable (Ticking late s e) :=
  match e with
  | .pass _ => inferInstanceAs (Decidable (_ ≤ _))
  | .call .. | .cleanup => inferInstanceAs (Decidable True)

instance (s : LimiterSys) (e : LimiterEvent) : Decidable (Requests s e) :=
  match e with
  | .call .. => inferInstanceAs (Decidable (_ = _))
  | .pass _ | .cleanup => inferInstanceAs (Decidable True)

/-- The keys with a call that is not `t` ago. -/
def keysSince (s : LimiterSys) (t : ℚ) : Finset String :=
  ((s.calls.filter (s.now ≤ ·.time + t)).map LimiterCall.key).toFinset

/-- The keys in the map. -/
def keys (s : LimiterSys) : Finset String := Finmap.keys s.entries

variable {b : Backend} {config : RateLimitConfig} {s s' : LimiterSys} {late : ℚ}

theorem mem_keysSince {t : ℚ} {k : String} :
    k ∈ s.keysSince t ↔ ∃ a ∈ s.calls, s.now ≤ a.time + t ∧ a.key = k := by
  simp only [keysSince, List.mem_toFinset, List.mem_map, List.mem_filter, decide_eq_true_eq,
    and_assoc]

theorem mem_keys {k : String} : k ∈ s.keys ↔ ∃ e, s.entries.lookup k = some e :=
  Finmap.mem_keys.trans Finmap.mem_iff

/-! ### Where entries come from -/

/-- Every entry ends a window after a call for its key. -/
def Opened (config : RateLimitConfig) (s : LimiterSys) : Prop :=
  ∀ k e, s.entries.lookup k = some e →
    ∃ a ∈ s.calls, a.key = k ∧ e.windowEnd = a.time + config.window

/-- What is left of the entries before a call. -/
theorem lookup_of_lookup_prune {a : LimiterCall} {entries : LimiterEntries} {k : String}
    {e : Entry ℚ} (h : (b.prune config a entries).lookup k = some e) :
    entries.lookup k = some e := by
  have hevict (now : ℚ) (h : (evict (b.limiter config) now entries).lookup k = some e) :
      entries.lookup k = some e := by
    rw [evict] at h
    split_ifs at h
    · rw [lookup_sweep] at h
      exact (Option.filter_eq_some_iff.1 h).1
    · exact h
  obtain ⟨method, key, now, later⟩ := a
  rcases b with - | - <;> rcases method with - | -
  · exact h
  · exact h
  · exact hevict now h
  · exact h

/-- **An entry after a call** is that of another key, which has been kept, or ends a window after
this call, or when the entry before it did. -/
theorem lookup_serve {a : LimiterCall} {entries : LimiterEntries} {k : String} {e : Entry ℚ}
    (h : (b.serve config a entries).1.lookup k = some e) :
    (a.key = k ∧ e.windowEnd = a.time + config.window) ∨
      ∃ e', (b.prune config a entries).lookup k = some e' ∧ e'.windowEnd = e.windowEnd := by
  rw [serve_eq] at h
  dsimp only at h
  by_cases hk : k = a.key
  · subst hk
    rw [Table.lookup_insert_self, Option.some_inj] at h
    cases hbefore : (b.prune config a entries).lookup a.key with
    | none =>
      rw [hbefore, hit_none] at h
      exact Or.inl ⟨rfl, by rw [← h, limiter_window]⟩
    | some e' =>
      rw [hbefore] at h
      by_cases hended : (b.limiter config).ended a.time e'.windowEnd
      · rw [hit_of_ended hended] at h
        exact Or.inl ⟨rfl, by rw [← h, limiter_window]⟩
      · rw [hit_of_not_ended hended] at h
        exact Or.inr ⟨e', rfl, by rw [← h]⟩
  · rw [Table.lookup_insert_of_ne _ _ hk] at h
    exact Or.inr ⟨e, h, rfl⟩

theorem Opened.step (h : s.Opened config) {e : LimiterEvent}
    (hs : LimiterSys.step b config s e = some s') : s'.Opened config := by
  cases e with
  | pass t =>
    rw [LimiterSys.step] at hs
    split_ifs at hs
    exact Option.some.inj hs ▸ h
  | call method key later =>
    obtain rfl := Option.some.inj hs
    intro k e he
    obtain ⟨hkey, hend⟩ | ⟨e', he', hend⟩ := lookup_serve he
    · exact ⟨_, List.mem_cons_self, hkey, hend⟩
    · obtain ⟨a, ha, hkey, htime⟩ := h k e' (lookup_of_lookup_prune he')
      exact ⟨a, List.mem_cons_of_mem _ ha, hkey, hend ▸ htime⟩
  | cleanup =>
    rw [LimiterSys.step] at hs
    split_ifs at hs
    obtain rfl := Option.some.inj hs
    intro k e he
    dsimp only at he
    rw [lookup_sweep] at he
    exact h k e (Option.filter_eq_some_iff.1 he).1

theorem opened_of_run {P : LimiterSys → LimiterEvent → Prop} {now : ℚ} {es : List LimiterEvent}
    (h : Run (step b config) P (init now) es s) : s.Opened config :=
  h.inv (fun _ _ he ↦ absurd he (Option.some_ne_none _).symm) fun h _ hs ↦ h.step hs

/-! ### Go -/

/-- What is over has been over since the last tick at most. -/
structure Cleaned (config : RateLimitConfig) (late : ℚ) (s : LimiterSys) : Prop where
  /-- The last tick has been. -/
  ticked : s.nextCleanup ≤ s.now + cleanupInterval
  /-- The next one is not later than it may be. -/
  on_time : s.now ≤ s.nextCleanup + late
  lookup : ∀ k e, s.entries.lookup k = some e → s.nextCleanup ≤ e.windowEnd + cleanupInterval

theorem Cleaned.step (h : s.Cleaned config late) (hwindow : 0 ≤ config.window)
    {e : LimiterEvent} (he : s.Ticking late e)
    (hs : LimiterSys.step .go config s e = some s') : s'.Cleaned config late := by
  have hticked := h.ticked
  cases e with
  | pass t =>
    rw [LimiterSys.step] at hs
    split_ifs at hs with ht
    obtain rfl := Option.some.inj hs
    exact ⟨by dsimp only; linarith, he, h.lookup⟩
  | call method key later =>
    obtain rfl := Option.some.inj hs
    refine ⟨h.ticked, h.on_time, fun k e he ↦ ?_⟩
    obtain ⟨-, hend⟩ | ⟨e', he', hend⟩ := lookup_serve he
    · dsimp only at hend ⊢
      linarith
    · exact hend ▸ h.lookup k e' (lookup_of_lookup_prune he')
  | cleanup =>
    rw [LimiterSys.step] at hs
    split_ifs at hs with hdue
    obtain rfl := Option.some.inj hs
    have hon_time := h.on_time
    refine ⟨?_, ?_, fun k e he ↦ ?_⟩
    · exact add_le_add_left hdue.2 cleanupInterval
    · have hpos : 0 ≤ cleanupInterval := by unfold cleanupInterval; norm_num
      dsimp only
      linarith
    · -- what is kept is not over now
      dsimp only at he ⊢
      rw [lookup_sweep] at he
      have hlive : ¬e.windowEnd < s.now := of_decide_eq_true (Option.filter_eq_some_iff.1 he).2
      linarith [hdue.2]

theorem cleaned_init (now : ℚ) (hlate : 0 ≤ late) : (init now).Cleaned config late where
  ticked := le_rfl
  on_time := by
    have hpos : 0 ≤ cleanupInterval := by unfold cleanupInterval; norm_num
    dsimp only [init]
    linarith
  lookup _ _ he := absurd he (Option.some_ne_none _).symm

/-- **In Go old keys are forgotten.** In every run in which ticks are served at most `late` after
they are due, every key in the map has a call that is not longer ago than a window, the period of
the ticker, and `late`. So the map is not larger than the number of such keys. -/
theorem keys_subset_keysSince (hwindow : 0 ≤ config.window) (hlate : 0 ≤ late) {now : ℚ}
    {es : List LimiterEvent} (h : Run (step .go config) (Ticking late) (init now) es s) :
    s.keys ⊆ s.keysSince (config.window + cleanupInterval + late) := by
  have hcleaned : s.Cleaned config late :=
    h.inv (cleaned_init now hlate) fun h he hs ↦ h.step hwindow he hs
  intro k hk
  obtain ⟨e, he⟩ := mem_keys.1 hk
  obtain ⟨a, ha, hkey, hend⟩ := opened_of_run h k e he
  refine mem_keysSince.2 ⟨a, ha, ?_, hkey⟩
  linarith [hcleaned.on_time, hcleaned.lookup k e he]

/-- A key that comes once, and one that comes again. -/
def oneKeyStays : List LimiterEvent :=
  [.call .handler "ip:a" 0, .call .handler "ip:b" 0, .pass 250, .call .handler "ip:b" 250,
    .pass 51, .cleanup, .pass 100]

theorem keysSince_oneKeyStays : ∃ s : LimiterSys, s.keys = {"ip:b"} ∧
    s.keys ⊆ s.keysSince (Go.newStatsRateLimiter.window + cleanupInterval + 1) := by
  obtain ⟨s, hrun, hkeys⟩ := exists_run_of_exec (Q := fun s ↦ s.keys = {"ip:b"})
    (show (exec (step .go Go.newStatsRateLimiter) (Ticking 1) (init 0) oneKeyStays).any _ = true by
      decide +kernel)
  exact ⟨s, of_decide_eq_true hkeys,
    keys_subset_keysSince (by decide +kernel) (by decide +kernel) hrun⟩

/-! ### Python -/

theorem keys_insert (entries : LimiterEntries) (k : String) (e : Entry ℚ) :
    Finmap.keys (entries.insert k e) = insert k (Finmap.keys entries) := by
  ext k'
  rw [Finmap.mem_keys, Finset.mem_insert, Finmap.mem_keys]
  exact Finmap.mem_insert

/-- **In Python there is a largest number of keys.** In every run of requests, after each of them
there are no more entries than `_MAX_ENTRIES` and the new one, or than there are keys with a call in
the time of a window before it. -/
theorem card_keys_le (hwindow : 0 ≤ config.window) {now : ℚ} {es : List LimiterEvent}
    {key : String} {later : ℚ} (h : Run (step .python config) Requests (init now)
      (es ++ [.call .handler key later]) s) :
    s.keys.card ≤ max (maxEntries + 1) (s.keysSince config.window).card := by
  obtain ⟨s₀, hrun, -, hs⟩ := h.snoc_inv
  obtain rfl := Option.some.inj hs
  have hopened := opened_of_run hrun
  by_cases hmany : maxEntries < (Finmap.keys s₀.entries).card
  · refine le_max_of_le_right (Finset.card_le_card fun k hk ↦ mem_keysSince.2 ?_)
    obtain ⟨e, he⟩ := mem_keys.1 hk
    obtain ⟨hkey, -⟩ | ⟨e', he', -⟩ := lookup_serve he
    · exact ⟨_, List.mem_cons_self, le_add_of_nonneg_right hwindow, hkey⟩
    · -- the entries that are over have been evicted
      rw [prune_handler, evict_python, if_pos hmany] at he'
      obtain ⟨hbefore, hlive⟩ := Option.filter_eq_some_iff.1
        ((Table.lookup_filter s₀.entries _ k).symm.trans he')
      obtain ⟨a, ha, hkey, hend⟩ := hopened k e' hbefore
      refine ⟨a, List.mem_cons_of_mem _ ha, ?_, hkey⟩
      have hlt : ¬e'.windowEnd ≤ s₀.now := of_decide_eq_true hlive
      rw [← hend]
      exact (not_le.1 hlt).le
  · refine le_max_of_le_left ?_
    rw [keys]
    dsimp only
    rw [serve_eq, prune_handler, evict_python, if_neg hmany]
    rw [keys_insert]
    exact (Finset.card_insert_le _ _).trans (Nat.succ_le_succ (not_lt.1 hmany))

/-- The key of a client. -/
def clientKey (i : ℕ) : String := String.ofList (List.replicate i 'a')

theorem clientKey_injective : Function.Injective clientKey := fun i j h ↦ by
  have hlength := congrArg (fun s : String ↦ s.toList.length) h
  simpa [clientKey] using hlength

/-- Each of the clients makes a request, all at one moment. -/
def clientRequests (n : ℕ) : List LimiterEvent :=
  (List.range n).map fun i ↦ .call .handler (clientKey i) 0

/-- As long as there are not too many entries, none is removed. -/
theorem exists_run_clientRequests (config : RateLimitConfig) {n : ℕ} (hn : n ≤ maxEntries + 1) :
    ∃ s, Run (step .python config) Requests (init 0) (clientRequests n) s ∧ s.now = 0 ∧
      (∀ a ∈ s.calls, a.time = 0) ∧ s.keys = (Finset.range n).image clientKey := by
  induction n with
  | zero => exact ⟨_, .nil, rfl, fun _ ha ↦ absurd ha List.not_mem_nil, rfl⟩
  | succ n ih =>
    obtain ⟨s, hrun, hnow, hcalls, hkeys⟩ := ih (Nat.le_of_succ_le hn)
    have hfew : ¬maxEntries < (Finmap.keys s.entries).card := by
      rw [show Finmap.keys s.entries = _ from hkeys,
        Finset.card_image_of_injective _ clientKey_injective, Finset.card_range]
      omega
    rw [clientRequests, List.range_succ, List.map_append]
    refine ⟨_, hrun.snoc rfl rfl, hnow, ?_, ?_⟩
    · exact List.forall_mem_cons.2 ⟨hnow, hcalls⟩
    · rw [Finset.range_add_one, Finset.image_insert, ← hkeys, keys]
      dsimp only
      rw [serve_eq, prune_handler, evict_python, if_neg hfew]
      exact keys_insert _ _ _

/-- Entries that are all over are all removed. -/
theorem keys_evictExpired {now : ℚ} {entries : LimiterEntries}
    (h : ∀ k e, entries.lookup k = some e → e.windowEnd ≤ now) :
    Finmap.keys (Python.RateLimiter.evictExpired now entries) = ∅ := by
  refine Finset.eq_empty_of_forall_notMem fun k hk ↦ ?_
  obtain ⟨e, he⟩ := Finmap.mem_iff.1 (Finmap.mem_keys.1 hk)
  obtain ⟨hbefore, hlive⟩ := Option.filter_eq_some_iff.1
    ((Table.lookup_filter entries _ k).symm.trans he)
  exact of_decide_eq_true hlive (h k e hbefore)

/-- **One request more than that removes them all**, when they are over. -/
theorem card_keys_evicted : ∃ s₀ s : LimiterSys, s₀.keys.card = maxEntries + 1 ∧
    s₀.step .python Python.newSyncLimiter (.call .handler "b" 61) = some s ∧ s.keys = {"b"} ∧
      s.keys.card ≤ max (maxEntries + 1) (s.keysSince Python.newSyncLimiter.window).card := by
  obtain ⟨s₀, hrun, hnow, hcalls, hkeys⟩ :=
    exists_run_clientRequests Python.newSyncLimiter le_rfl
  have hcard : s₀.keys.card = maxEntries + 1 := by
    rw [hkeys, Finset.card_image_of_injective _ clientKey_injective, Finset.card_range]
  have hpassed : Run (step .python Python.newSyncLimiter) Requests (init 0)
      (clientRequests (maxEntries + 1) ++ [.pass 61]) { s₀ with now := s₀.now + 61 } :=
    hrun.snoc trivial (by rw [LimiterSys.step, if_pos (by norm_num)])
  refine ⟨{ s₀ with now := s₀.now + 61 }, _, hcard, rfl, ?_,
    card_keys_le (by decide +kernel) (hpassed.snoc rfl rfl)⟩
  rw [keys]
  dsimp only
  rw [serve_eq, prune_handler, evict_python,
    if_pos (show maxEntries < (Finmap.keys s₀.entries).card from hcard.symm ▸ Nat.lt_succ_self _)]
  dsimp only
  rw [keys_insert]
  refine congrArg (insert "b") (keys_evictExpired fun k e he ↦ ?_)
  obtain ⟨a, ha, -, hend⟩ := opened_of_run hrun k e he
  rw [hend, hcalls a ha, hnow]
  decide +kernel

end LimiterSys

end RealTube
