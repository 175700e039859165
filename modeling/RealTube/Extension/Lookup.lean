import RealTube.Extension.Sync
import RealTube.Model.HashPrefix
import RealTube.Store.OrderedMap
import Mathlib.Algebra.Order.BigOperators.Group.List
import Mathlib.Data.String.Basic

/-!
# Lookups of videos

`CHECK_VIDEOS` and `LOOKUP_VIDEOS` of `background/background.ts`, step by step between their
`await`s. Both group the videos they look up by hash prefix, ask the server for every prefix at
once, and keep of each answer the videos of the group. `CHECK_VIDEOS` looks up only what the cache
does not have, stores what it finds, and passes over a prefix whose lookup fails.

The lookups of the groups go on side by side, and share the list of results and the cache. As a
video is in one group only, their order does not matter: every order comes to its end with what the
cache and the server have of the requested videos (`checkVideos_spec`). The server learns the
prefixes, in the order of their first occurrence, and nothing else (`calls_eq`).
-/

namespace RealTube.Extension

/-- `VideoResult`, under its video id. -/
structure VideoResult where
  score : ℚ
  categories : Categories
  totalVotes : ℤ
  locked : Bool
  channelID : Option ChannelID
  channelScore : ℚ
  lastUpdated : Time

/-- What is cached of a result, and answered. -/
def VideoResult.cached (video : VideoResult) : CachedVideo where
  score := video.score
  categories := video.categories
  channelID := video.channelID
  lastUpdated := video.lastUpdated

/-- The calls of `api-client.ts` that send something to the server. -/
inductive ApiCall where
  | lookupVideosByPrefix (hashPrefix : String)
  | submitVote (v : VideoID) (category : String) (userID : UserID)
  | deleteVote (v : VideoID) (userID : UserID)
  | syncDelta (since : Time)
  | syncFull
  | getUserInfo (userID : UserID)

/-- The messages that ask for videos. -/
inductive LookupMessage where
  | checkVideos
  | lookupVideos
  deriving DecidableEq

/-- Where the lookup of a prefix stands. -/
inductive LookupTask where
  /-- It waits for the answer. -/
  | waiting
  /-- It goes through the videos of the answer. -/
  | looping (videos : List (VideoID × VideoResult))
  /-- It waits for `putVideo`. -/
  | putting (x : VideoID × VideoResult) (videos : List (VideoID × VideoResult))
  /-- The call has failed. -/
  | failed

/-- The lookup has ended. -/
def LookupTask.ended : LookupTask → Bool
  | waiting => false
  | looping videos => videos.isEmpty
  | putting _ _ => false
  | failed => true

/-- The steps it has still to take, with this answer. -/
def LookupTask.work (answer : Option (List (VideoID × VideoResult))) : LookupTask → ℕ
  | waiting => 2 * (answer.getD []).length + 1
  | looping videos => 2 * videos.length
  | putting _ videos => 2 * videos.length + 1
  | failed => 0

/-- The handler of a message, with the store `videos`. -/
structure LookupRun where
  message : LookupMessage
  cache : Table VideoID CachedVideo
  cached : List (VideoID × CachedVideo)
  /-- `prefixMap`. -/
  groups : OrderedMap String (List VideoID)
  calls : List ApiCall
  results : List (VideoID × VideoResult)
  task : String → LookupTask

/-- The answer to a message. -/
inductive LookupResponse where
  | checked (videos : List (VideoID × CachedVideo))
  | found (videos : List (VideoID × VideoResult))
  | error

/-- What happens to a lookup. -/
inductive LookupEvent where
  /-- The server answers, or the call fails. -/
  | answer (hashPrefix : String)
  /-- It comes to the next video of the answer. -/
  | next (hashPrefix : String)
  /-- The video is stored. -/
  | put (hashPrefix : String)

/-- `getVideos`. -/
def getVideos (cache : Table VideoID CachedVideo) (ids : List VideoID) :
    List (VideoID × CachedVideo) :=
  ids.filterMap fun v ↦ (cache.lookup v).map fun video ↦ (v, video)

/-- The videos that are looked up: all that are requested, or those that are not cached. -/
def lookedUp (message : LookupMessage) (cache : Table VideoID CachedVideo) (ids : List VideoID) :
    List VideoID :=
  match message with
  | .checkVideos => ids.filter fun v ↦ v ∉ (getVideos cache ids).map Prod.fst
  | .lookupVideos => ids

namespace LookupRun

section Step

variable (sha256 : List UInt8 → Digest) (answers : String → Option (List (VideoID × VideoResult)))

/-- The handler has made its calls: `map` makes them all before any answer comes. -/
def start (message : LookupMessage) (cache : Table VideoID CachedVideo) (ids : List VideoID) :
    LookupRun :=
  let groups := .groupBy (hashVideoID sha256 · 4) (lookedUp message cache ids)
  { message, cache, groups
    cached := match message with
      | .checkVideos => getVideos cache ids
      | .lookupVideos => []
    calls := groups.keys.map .lookupVideosByPrefix
    results := []
    task := fun _ ↦ .waiting }

/-- Put the lookup of a prefix somewhere. -/
def setTask (s : LookupRun) (p : String) (task : LookupTask) : LookupRun :=
  { s with task := fun q ↦ if q = p then task else s.task q }

/-- The videos that are requested under a prefix. -/
def requestedIDs (s : LookupRun) (p : String) : List VideoID := (s.groups.get p).getD []

/-- The state after an event. -/
def step (s : LookupRun) : LookupEvent → Option LookupRun
  | .answer p =>
    if p ∈ s.groups.keys then
      match s.task p with
      | .waiting => some (s.setTask p ((answers p).elim .failed .looping))
      | _ => none
    else none
  | .next p =>
    match s.task p with
    | .looping (x :: videos) =>
      if x.1 ∈ s.requestedIDs p then
        some { s.setTask p (match s.message with
            | .checkVideos => .putting x videos
            | .lookupVideos => .looping videos) with
          results := s.results ++ [x] }
      else some (s.setTask p (.looping videos))
    | _ => none
  | .put p =>
    match s.task p with
    | .putting x videos =>
      some { s.setTask p (.looping videos) with cache := s.cache.insert x.1 x.2.cached }
    | _ => none

end Step

/-- Every lookup has ended. -/
def Finished (s : LookupRun) : Prop := ∀ p ∈ s.groups.keys, (s.task p).ended

instance (s : LookupRun) : Decidable s.Finished :=
  inferInstanceAs (Decidable (∀ p ∈ s.groups.keys, (s.task p).ended = true))

/-- What is answered. -/
def response (s : LookupRun) : LookupResponse :=
  match s.message with
  | .checkVideos => .checked (s.cached ++ s.results.map fun x ↦ (x.1, x.2.cached))
  | .lookupVideos =>
    if ∃ p ∈ s.groups.keys, (s.task p matches .failed) then .error else .found s.results

variable {sha256 : List UInt8 → Digest} {answers : String → Option (List (VideoID × VideoResult))}
  {s s' : LookupRun}

/-- **What a step does.** -/
theorem step_cases {e : LookupEvent} (hstep : s.step answers e = some s') :
    (∃ p, p ∈ s.groups.keys ∧ s.task p = .waiting ∧
      s' = s.setTask p ((answers p).elim .failed .looping)) ∨
    (∃ p x videos, s.task p = .looping (x :: videos) ∧ x.1 ∈ s.requestedIDs p ∧
      s' = { s.setTask p (match s.message with
          | .checkVideos => .putting x videos
          | .lookupVideos => .looping videos) with results := s.results ++ [x] }) ∨
    (∃ p x videos, s.task p = .looping (x :: videos) ∧ x.1 ∉ s.requestedIDs p ∧
      s' = s.setTask p (.looping videos)) ∨
    ∃ p x videos, s.task p = .putting x videos ∧
      s' = { s.setTask p (.looping videos) with cache := s.cache.insert x.1 x.2.cached } := by
  cases e with
  | answer p =>
    rw [step] at hstep
    split_ifs at hstep with hp
    split at hstep
    · rename_i htask
      exact Or.inl ⟨p, hp, htask, (Option.some.inj hstep).symm⟩
    · cases hstep
  | next p =>
    rw [step] at hstep
    split at hstep
    · rename_i x videos htask
      split_ifs at hstep with hx
      · exact Or.inr (Or.inl ⟨p, x, videos, htask, hx, (Option.some.inj hstep).symm⟩)
      · exact Or.inr (Or.inr (Or.inl ⟨p, x, videos, htask, hx, (Option.some.inj hstep).symm⟩))
    · cases hstep
  | put p =>
    rw [step] at hstep
    split at hstep
    · rename_i x videos htask
      exact Or.inr (Or.inr (Or.inr ⟨p, x, videos, htask, (Option.some.inj hstep).symm⟩))
    · cases hstep

/-! ### The calls -/

/-- What a lookup has begun with and keeps. -/
def SameRequest (s s' : LookupRun) : Prop :=
  s'.calls = s.calls ∧ s'.groups = s.groups ∧ s'.cached = s.cached ∧ s'.message = s.message

/-- The calls, the groups and what was cached stay as they are. -/
theorem step_fixed {e : LookupEvent} (hstep : s.step answers e = some s') : s.SameRequest s' := by
  obtain ⟨p, -, -, rfl⟩ | ⟨p, x, videos, -, -, rfl⟩ | ⟨p, x, videos, -, -, rfl⟩ |
    ⟨p, x, videos, -, rfl⟩ := step_cases hstep <;> exact ⟨rfl, rfl, rfl, rfl⟩

theorem run_fixed {s₀ : LookupRun} {es : List LookupEvent}
    (h : Steps.Run (step answers) Steps.Any s₀ es s) : s₀.SameRequest s :=
  h.inv (I := s₀.SameRequest) ⟨rfl, rfl, rfl, rfl⟩ fun hI _ hstep ↦ by
    obtain ⟨hcalls, hgroups, hcached, hmessage⟩ := step_fixed hstep
    rwa [SameRequest, hcalls, hgroups, hcached, hmessage]

variable {message : LookupMessage} {cache : Table VideoID CachedVideo} {ids : List VideoID}
  {es : List LookupEvent}

/-- The prefixes of the videos that are looked up, in the order of their first occurrence. -/
def lookedUpPrefixes (sha256 : List UInt8 → Digest) (message : LookupMessage)
    (cache : Table VideoID CachedVideo) (ids : List VideoID) : List String :=
  ((lookedUp message cache ids).map (hashVideoID sha256 · 4)).eraseDups

/-- **What the server learns**: one call for each prefix, and so nothing that tells apart two
lookups with the same prefixes. -/
theorem calls_eq (h : Steps.Run (step answers) Steps.Any (start sha256 message cache ids) es s) :
    s.calls = (lookedUpPrefixes sha256 message cache ids).map .lookupVideosByPrefix ∧
      ∀ {answers' message' cache' ids' es' s'},
        Steps.Run (step answers') Steps.Any (start sha256 message' cache' ids') es' s' →
        lookedUpPrefixes sha256 message' cache' ids' = lookedUpPrefixes sha256 message cache ids →
        s'.calls = s.calls := by
  have hcalls : ∀ {answers message cache ids es s},
      Steps.Run (step answers) Steps.Any (start sha256 message cache ids) es s →
      s.calls = (lookedUpPrefixes sha256 message cache ids).map .lookupVideosByPrefix := by
    intro answers message cache ids es s hrun
    exact (run_fixed hrun).1.trans (congrArg _ (OrderedMap.keys_groupBy _ _))
  refine ⟨hcalls h, fun hrun heq ↦ ?_⟩
  rw [hcalls hrun, hcalls h, heq]

/-- A digest that shows the first byte. -/
def firstByteDigest (bs : List UInt8) : Digest :=
  ⟨List.replicate 32 (bs.headD 0), List.length_replicate⟩

/-- Two lookups that look the same to the server. -/
theorem calls_twoLookups :
    (start firstByteDigest .checkVideos ∅ ["a1", "b", "a1"]).calls =
        [.lookupVideosByPrefix "6161", .lookupVideosByPrefix "6262"] ∧
      (start firstByteDigest .lookupVideos ∅ ["a2", "b"]).calls =
        (start firstByteDigest .checkVideos ∅ ["a1", "b", "a1"]).calls := by
  have hchecked : Steps.Run (step fun _ ↦ none) Steps.Any
    (start firstByteDigest .checkVideos ∅ ["a1", "b", "a1"]) [] _ := .nil
  have hlookedUp : Steps.Run (step fun _ ↦ none) Steps.Any
    (start firstByteDigest .lookupVideos ∅ ["a2", "b"]) [] _ := .nil
  have hprefixes : lookedUpPrefixes firstByteDigest .checkVideos ∅ ["a1", "b", "a1"] =
      ["6161", "6262"] := by decide +kernel
  obtain ⟨hcalls, hsame⟩ := calls_eq hchecked
  exact ⟨hcalls.trans (congrArg (List.map _) hprefixes), hsame hlookedUp (by decide +kernel)⟩

/-! ### The results of `CHECK_VIDEOS` -/

/-- The answers of a server with a table of videos: for each prefix all videos whose hashes begin
with it, in some order, unless the call fails. -/
def serverAnswers (sha256 : List UInt8 → Digest) (server : Table VideoID VideoResult)
    (order : String → Arrangement VideoID) (fails : String → Bool) (p : String) :
    Option (List (VideoID × VideoResult)) :=
  if fails p then none
  else some ((server.rows (order p) fun _ ↦ True).filter fun x ↦ hashVideoID sha256 x.1 4 = p)

/-- The results with a prefix. -/
def found (sha256 : List UInt8 → Digest) (s : LookupRun) (p : String) :
    List (VideoID × VideoResult) :=
  s.results.filter fun x ↦ hashVideoID sha256 x.1 4 = p

/-- The videos of an answer that are requested. -/
def wanted (s : LookupRun) (p : String) (videos : List (VideoID × VideoResult)) :
    List (VideoID × VideoResult) :=
  videos.filter fun x ↦ x.1 ∈ s.requestedIDs p

/-- How far the lookup of a prefix has come: the results are the videos that are requested among
those it has gone through. -/
def Progress (sha256 : List UInt8 → Digest) (answer : Option (List (VideoID × VideoResult)))
    (s : LookupRun) (p : String) : LookupTask → Prop
  | .waiting => s.found sha256 p = []
  | .looping videos => ∃ handled, answer = some (handled ++ videos) ∧
      s.found sha256 p = s.wanted p handled
  | .putting x videos => ∃ handled, answer = some (handled ++ x :: videos) ∧
      x.1 ∈ s.requestedIDs p ∧ s.found sha256 p = s.wanted p (handled ++ [x])
  | .failed => answer = none ∧ s.found sha256 p = []

/-- **The invariant of `CHECK_VIDEOS`**, by prefixes. -/
structure CheckInv (sha256 : List UInt8 → Digest)
    (answers : String → Option (List (VideoID × VideoResult))) (s₀ s : LookupRun) : Prop where
  same : s₀.SameRequest s
  progress : ∀ p, Progress sha256 (answers p) s p (s.task p)
  untouched : ∀ p, p ∉ s.groups.keys → s.task p = .waiting
  /-- A result is in the cache, or about to be stored. -/
  stored : ∀ x ∈ s.results, s.cache.lookup x.1 = some x.2.cached ∨
    ∃ videos, s.task (hashVideoID sha256 x.1 4) = .putting x videos
  /-- Nothing else is written. -/
  kept : ∀ v, v ∉ s.results.map Prod.fst → s.cache.lookup v = s₀.cache.lookup v

section CheckVideos

variable {server : Table VideoID VideoResult} {order : String → Arrangement VideoID}
  {fails : String → Bool} {p : String} {x : VideoID × VideoResult}
  {videos : List (VideoID × VideoResult)} {s₀ : LookupRun}

theorem mem_serverAnswers (h : serverAnswers sha256 server order fails p = some videos) :
    x ∈ videos ↔ server.lookup x.1 = some x.2 ∧ hashVideoID sha256 x.1 4 = p := by
  rw [serverAnswers] at h
  split_ifs at h
  obtain rfl := Option.some.inj h
  rw [List.mem_filter, Table.mem_rows, and_true, decide_eq_true_iff]

theorem nodup_serverAnswers (h : serverAnswers sha256 server order fails p = some videos) :
    (videos.map Prod.fst).Nodup := by
  rw [serverAnswers] at h
  split_ifs at h
  obtain rfl := Option.some.inj h
  exact Table.nodup_keys_rows.sublist (List.filter_sublist.map Prod.fst)

theorem task_setTask (s : LookupRun) (p q : String) (task : LookupTask) :
    (s.setTask p task).task q = if q = p then task else s.task q := rfl

/-- The progress of a lookup is seen in the groups and in the results with its prefix. -/
theorem Progress.congr {answer : Option (List (VideoID × VideoResult))} {task : LookupTask}
    (h : Progress sha256 answer s p task) (hgroups : s'.groups = s.groups)
    (hfound : s'.found sha256 p = s.found sha256 p) : Progress sha256 answer s' p task := by
  have hrequested : s'.requestedIDs p = s.requestedIDs p := by
    rw [requestedIDs, hgroups, requestedIDs]
  have hwanted : s'.wanted p = s.wanted p := by
    unfold wanted
    rw [hrequested]
  cases task <;> simpa only [Progress, hrequested, hwanted, hfound] using h

theorem wanted_append_singleton (s : LookupRun) (p : String)
    (handled : List (VideoID × VideoResult)) (x : VideoID × VideoResult) :
    s.wanted p (handled ++ [x]) =
      if x.1 ∈ s.requestedIDs p then s.wanted p handled ++ [x] else s.wanted p handled := by
  rw [wanted, List.filter_append]
  split_ifs with hx
  · rw [List.filter_cons_of_pos (by simpa using hx), List.filter_nil, wanted]
  · rw [List.filter_cons_of_neg (by simpa using hx), List.filter_nil, List.append_nil, wanted]

/-- What has been found with a prefix is in the answer. -/
theorem CheckInv.of_putting (h : CheckInv sha256 (serverAnswers sha256 server order fails) s₀ s)
    (htask : s.task p = .putting x videos) :
    hashVideoID sha256 x.1 4 = p ∧ x ∈ s.results ∧ ∀ y ∈ s.results, y.1 = x.1 → y = x := by
  have hprogress := h.progress p
  rw [htask] at hprogress
  obtain ⟨handled, hanswer, hx, hfound⟩ := hprogress
  have hxmem : x ∈ handled ++ x :: videos := List.mem_append_right _ List.mem_cons_self
  have hdigits := ((mem_serverAnswers hanswer).1 hxmem).2
  have hmem : ∀ y ∈ s.found sha256 p, y ∈ handled ++ x :: videos := fun y hy ↦ by
    rw [hfound] at hy
    rw [← List.singleton_append, ← List.append_assoc]
    exact List.mem_append_left _ (List.mem_of_mem_filter hy)
  refine ⟨hdigits, ?_, fun y hy heq ↦ ?_⟩
  · have hwanted : x ∈ s.found sha256 p := by
      rw [hfound, wanted_append_singleton, if_pos hx]
      exact List.mem_append_right _ List.mem_cons_self
    exact List.mem_of_mem_filter hwanted
  · -- no video is in an answer twice
    have hyfound : y ∈ s.found sha256 p :=
      List.mem_filter.2 ⟨hy, by rw [decide_eq_true_iff, heq, hdigits]⟩
    exact List.inj_on_of_nodup_map (nodup_serverAnswers hanswer) (hmem y hyfound) hxmem heq

theorem found_append (hresults : s'.results = s.results ++ [x]) (q : String) :
    s'.found sha256 q =
      if hashVideoID sha256 x.1 4 = q then s.found sha256 q ++ [x] else s.found sha256 q := by
  rw [found, hresults, List.filter_append]
  split_ifs with hx
  · rw [List.filter_cons_of_pos (by simpa using hx), List.filter_nil, found]
  · rw [List.filter_cons_of_neg (by simpa using hx), List.filter_nil, List.append_nil, found]

theorem CheckInv.mem_keys (h : CheckInv sha256 answers s₀ s) (htask : s.task p ≠ .waiting) :
    p ∈ s.groups.keys :=
  by_contra fun hp ↦ htask (h.untouched p hp)

/-- The server answers, or the call fails. -/
theorem CheckInv.answer (h : CheckInv sha256 (serverAnswers sha256 server order fails) s₀ s)
    (hp : p ∈ s.groups.keys) (htask : s.task p = .waiting) :
    CheckInv sha256 (serverAnswers sha256 server order fails) s₀
      (s.setTask p ((serverAnswers sha256 server order fails p).elim .failed .looping)) where
  same := h.same
  progress q := by
    rw [task_setTask]
    split_ifs with hq
    · subst hq
      have hfound := h.progress q
      rw [htask] at hfound
      cases hanswer : serverAnswers sha256 server order fails q with
      | none => exact ⟨rfl, hfound⟩
      | some videos => exact ⟨[], rfl, hfound⟩
    · exact (h.progress q).congr rfl rfl
  untouched q hq := by
    rw [task_setTask, if_neg fun heq ↦ hq (by rw [heq]; exact hp)]
    exact h.untouched q hq
  stored x hx := (h.stored x hx).imp_right fun ⟨videos, hx⟩ ↦ ⟨videos, by
    rw [task_setTask, if_neg fun heq ↦ by simp [← heq, hx] at htask]
    exact hx⟩
  kept := h.kept

/-- A video of the answer is passed over. -/
theorem CheckInv.skip (h : CheckInv sha256 (serverAnswers sha256 server order fails) s₀ s)
    (htask : s.task p = .looping (x :: videos)) (hx : x.1 ∉ s.requestedIDs p) :
    CheckInv sha256 (serverAnswers sha256 server order fails) s₀
      (s.setTask p (.looping videos)) where
  same := h.same
  progress q := by
    rw [task_setTask]
    split_ifs with hq
    · subst hq
      have hprogress := h.progress q
      rw [htask] at hprogress
      obtain ⟨handled, hanswer, hfound⟩ := hprogress
      refine ⟨handled ++ [x], by rw [hanswer, List.append_assoc, List.singleton_append], ?_⟩
      exact hfound.trans ((wanted_append_singleton s q handled x).trans (if_neg hx)).symm
    · exact (h.progress q).congr rfl rfl
  untouched q hq := by
    have hne : q ≠ p := (ne_of_mem_of_not_mem (h.mem_keys (by simp [htask])) hq).symm
    rw [task_setTask, if_neg hne]
    exact h.untouched q hq
  stored y hy := (h.stored y hy).imp_right fun ⟨videos, hy⟩ ↦ ⟨videos, by
    rw [task_setTask, if_neg fun heq ↦ by simp [← heq, hy] at htask]
    exact hy⟩
  kept := h.kept

/-- A video of the answer becomes a result, and is about to be stored. -/
theorem CheckInv.take (h : CheckInv sha256 (serverAnswers sha256 server order fails) s₀ s)
    (htask : s.task p = .looping (x :: videos)) (hx : x.1 ∈ s.requestedIDs p) :
    CheckInv sha256 (serverAnswers sha256 server order fails) s₀
      { s.setTask p (.putting x videos) with results := s.results ++ [x] } := by
  have hprogress := h.progress p
  rw [htask] at hprogress
  obtain ⟨handled, hanswer, hfound⟩ := hprogress
  have hdigits : hashVideoID sha256 x.1 4 = p :=
    ((mem_serverAnswers hanswer).1 (List.mem_append_right _ List.mem_cons_self)).2
  set s' : LookupRun := { s.setTask p (.putting x videos) with results := s.results ++ [x] }
  have htask' : ∀ q, s'.task q = if q = p then .putting x videos else s.task q := fun _ ↦ rfl
  refine ⟨h.same, fun q ↦ ?_, fun q hq ↦ ?_, fun y hy ↦ ?_, fun v hv ↦ ?_⟩
  · rw [htask']
    split_ifs with hq
    · subst hq
      refine ⟨handled, hanswer, hx, ?_⟩
      rw [found_append rfl, if_pos hdigits, hfound]
      exact ((wanted_append_singleton s q handled x).trans (if_pos hx)).symm
    · refine (h.progress q).congr rfl ?_
      rw [found_append rfl, if_neg fun heq ↦ hq (by rw [← heq, hdigits])]
  · have hne : q ≠ p := (ne_of_mem_of_not_mem (h.mem_keys (by simp [htask])) hq).symm
    rw [htask', if_neg hne]
    exact h.untouched q hq
  · rcases List.mem_append.1 hy with hy | hy
    · refine (h.stored y hy).imp_right fun ⟨left, hy⟩ ↦ ⟨left, ?_⟩
      rw [htask', if_neg fun heq ↦ by simp [← heq, hy] at htask]
      exact hy
    · obtain rfl := List.mem_singleton.1 hy
      exact Or.inr ⟨videos, by rw [htask', if_pos hdigits]⟩
  · refine h.kept v fun hmem ↦ hv ?_
    rw [List.map_append]
    exact List.mem_append_left _ hmem

/-- A result is stored. -/
theorem CheckInv.put (h : CheckInv sha256 (serverAnswers sha256 server order fails) s₀ s)
    (htask : s.task p = .putting x videos) :
    CheckInv sha256 (serverAnswers sha256 server order fails) s₀
      { s.setTask p (.looping videos) with cache := s.cache.insert x.1 x.2.cached } := by
  obtain ⟨-, hresult, hunique⟩ := h.of_putting htask
  set s' : LookupRun := { s.setTask p (.looping videos) with
    cache := s.cache.insert x.1 x.2.cached }
  have htask' : ∀ q, s'.task q = if q = p then .looping videos else s.task q := fun _ ↦ rfl
  refine ⟨h.same, fun q ↦ ?_, fun q hq ↦ ?_, fun y hy ↦ ?_, fun v hv ↦ ?_⟩
  · rw [htask']
    split_ifs with hq
    · subst hq
      have hprogress := h.progress q
      rw [htask] at hprogress
      obtain ⟨handled, hanswer, -, hfound⟩ := hprogress
      exact ⟨handled ++ [x], by rw [hanswer, List.append_assoc, List.singleton_append], hfound⟩
    · exact (h.progress q).congr rfl rfl
  · have hne : q ≠ p := (ne_of_mem_of_not_mem (h.mem_keys (by simp [htask])) hq).symm
    rw [htask', if_neg hne]
    exact h.untouched q hq
  · by_cases hkey : y.1 = x.1
    · obtain rfl := hunique y hy hkey
      exact Or.inl (Table.lookup_insert_self _ _ _)
    · refine (h.stored y hy).imp (fun hstored ↦ ?_) fun ⟨left, hy⟩ ↦ ⟨left, ?_⟩
      · exact (Table.lookup_insert_of_ne _ _ hkey).trans hstored
      · have hne : hashVideoID sha256 y.1 4 ≠ p := fun heq ↦ hkey <| by
          rw [heq, htask] at hy
          rw [(LookupTask.putting.inj hy).1]
        rw [htask', if_neg hne]
        exact hy
  · refine (Table.lookup_insert_of_ne _ _ fun heq ↦ hv ?_).trans (h.kept v hv)
    rw [heq]
    exact List.mem_map_of_mem hresult

/-- **Every step keeps the invariant.** -/
theorem CheckInv.step {e : LookupEvent}
    (h : CheckInv sha256 (serverAnswers sha256 server order fails) s₀ s)
    (hmessage : s.message = .checkVideos)
    (hstep : s.step (serverAnswers sha256 server order fails) e = some s') :
    CheckInv sha256 (serverAnswers sha256 server order fails) s₀ s' := by
  obtain ⟨p, hp, htask, rfl⟩ | ⟨p, x, videos, htask, hx, rfl⟩ | ⟨p, x, videos, htask, hx, rfl⟩ |
    ⟨p, x, videos, htask, rfl⟩ := step_cases hstep
  · exact h.answer hp htask
  · rw [hmessage]
    exact h.take htask hx
  · exact h.skip htask hx
  · exact h.put htask

theorem checkInv_start :
    CheckInv sha256 answers (start sha256 message cache ids) (start sha256 message cache ids) where
  same := ⟨rfl, rfl, rfl, rfl⟩
  progress _ := rfl
  untouched _ _ := rfl
  stored _ hx := absurd hx List.not_mem_nil
  kept _ _ := rfl

theorem run_checkInv
    (h : Steps.Run (step (serverAnswers sha256 server order fails)) Steps.Any
      (start sha256 .checkVideos cache ids) es s) :
    CheckInv sha256 (serverAnswers sha256 server order fails) (start sha256 .checkVideos cache ids)
      s :=
  h.inv checkInv_start fun hI _ hstep ↦ hI.step hI.same.2.2.2 hstep

/-! ### The end of `CHECK_VIDEOS` -/

/-- Where nothing is possible any more, every lookup has ended. -/
theorem finished_of_stuck (h : ∀ e, s.step answers e = none) : s.Finished := by
  intro p hp
  cases htask : s.task p with
  | waiting =>
    have hanswer := h (.answer p)
    rw [LookupRun.step, if_pos hp, htask] at hanswer
    cases hanswer
  | looping videos =>
    rcases videos with - | ⟨x, videos⟩
    · rfl
    · have hnext := h (.next p)
      rw [LookupRun.step, htask] at hnext
      by_cases hx : x.1 ∈ s.requestedIDs p <;> simp [hx] at hnext
  | putting x videos =>
    have hput := h (.put p)
    rw [LookupRun.step, htask] at hput
    cases hput
  | failed => rfl

/-- The most steps that a lookup can still take. -/
def remaining (answers : String → Option (List (VideoID × VideoResult))) (s : LookupRun) : ℕ :=
  (s.groups.keys.map fun p ↦ (s.task p).work (answers p)).sum

theorem remaining_lt (hgroups : s'.groups = s.groups) (hp : p ∈ s.groups.keys)
    (hother : ∀ q, q ≠ p → s'.task q = s.task q)
    (hwork : (s'.task p).work (answers p) < (s.task p).work (answers p)) :
    s'.remaining answers < s.remaining answers := by
  rw [remaining, hgroups, remaining]
  refine List.sum_lt_sum _ _ (fun q _ ↦ ?_) ⟨p, hp, hwork⟩
  by_cases hq : q = p
  · exact hq ▸ hwork.le
  · rw [hother q hq]

/-- **Every step takes a lookup further.** -/
theorem CheckInv.remaining_step {e : LookupEvent} (h : CheckInv sha256 answers s₀ s)
    (hstep : s.step answers e = some s') : s'.remaining answers < s.remaining answers := by
  obtain ⟨p, hp, htask, rfl⟩ | ⟨p, x, videos, htask, hx, rfl⟩ | ⟨p, x, videos, htask, hx, rfl⟩ |
    ⟨p, x, videos, htask, rfl⟩ := step_cases hstep
  · refine remaining_lt rfl hp (fun q hq ↦ if_neg hq) ?_
    rw [task_setTask, if_pos rfl, htask]
    cases answers p with
    | none => exact Nat.zero_lt_succ _
    | some videos => exact Nat.lt_succ_self _
  · refine remaining_lt rfl (h.mem_keys (by simp [htask])) (fun q hq ↦ if_neg hq) ?_
    rw [htask]
    change LookupTask.work _ (if p = p then _ else s.task p) < _
    rw [if_pos rfl]
    cases s.message <;> simp only [LookupTask.work, List.length_cons] <;> omega
  · refine remaining_lt rfl (h.mem_keys (by simp [htask])) (fun q hq ↦ if_neg hq) ?_
    rw [task_setTask, if_pos rfl, htask]
    simp only [LookupTask.work, List.length_cons]
    omega
  · refine remaining_lt rfl (h.mem_keys (by simp [htask])) (fun q hq ↦ if_neg hq) ?_
    rw [htask]
    change LookupTask.work _ (if p = p then _ else s.task p) < _
    rw [if_pos rfl]
    exact Nat.lt_succ_self _

/-- A lookup comes to an end. -/
theorem length_le_remaining
    (h : Steps.Run (step (serverAnswers sha256 server order fails)) Steps.Any
      (start sha256 .checkVideos cache ids) es s) :
    es.length + s.remaining (serverAnswers sha256 server order fails) ≤
      (start sha256 .checkVideos cache ids).remaining
        (serverAnswers sha256 server order fails) := by
  induction h with
  | nil => simp
  | snoc hrun _ hstep ih =>
    have hlt := (run_checkInv hrun).remaining_step hstep
    rw [List.length_append, List.length_singleton]
    omega

theorem mem_getVideos {v : VideoID} {video : CachedVideo} :
    (v, video) ∈ getVideos cache ids ↔ v ∈ ids ∧ cache.lookup v = some video := by
  rw [getVideos, List.mem_filterMap]
  constructor
  · rintro ⟨w, hw, hvideo⟩
    obtain ⟨video', hlookup, heq⟩ := Option.map_eq_some_iff.1 hvideo
    obtain ⟨rfl, rfl⟩ := Prod.mk.inj heq
    exact ⟨hw, hlookup⟩
  · rintro ⟨hv, hlookup⟩
    exact ⟨v, hv, by rw [hlookup, Option.map_some]⟩

/-- The videos that are looked up are those that are not cached. -/
theorem mem_lookedUp {v : VideoID} :
    v ∈ lookedUp .checkVideos cache ids ↔ v ∈ ids ∧ cache.lookup v = none := by
  rw [lookedUp, List.mem_filter, decide_eq_true_iff]
  refine and_congr_right fun hv ↦ ?_
  rw [Option.eq_none_iff_forall_ne_some, List.mem_map]
  refine ⟨fun h video hlookup ↦ h ⟨(v, video), mem_getVideos.2 ⟨hv, hlookup⟩, rfl⟩, ?_⟩
  rintro h ⟨⟨w, video⟩, hmem, rfl⟩
  exact h video (mem_getVideos.1 hmem).2

/-- What has been found at the end. -/
theorem CheckInv.found_eq (h : CheckInv sha256 answers s₀ s) (hfinished : s.Finished)
    (hp : p ∈ s.groups.keys) : s.found sha256 p = s.wanted p ((answers p).getD []) := by
  have hprogress := h.progress p
  have hended := hfinished p hp
  cases htask : s.task p with
  | waiting =>
    rw [htask] at hended
    cases hended
  | looping videos =>
    rw [htask] at hended hprogress
    obtain ⟨handled, hanswer, hfound⟩ := hprogress
    obtain rfl := List.isEmpty_iff.1 hended
    rw [hfound, hanswer, List.append_nil, Option.getD_some]
  | putting x videos =>
    rw [htask] at hended
    cases hended
  | failed =>
    rw [htask] at hprogress
    obtain ⟨hanswer, hfound⟩ := hprogress
    rw [hfound, hanswer]
    rfl

/-- **The results**: what the server has of the videos that are looked up. -/
theorem mem_results
    (h : CheckInv sha256 (serverAnswers sha256 server order fails)
      (start sha256 .checkVideos cache ids) s) (hfinished : s.Finished) :
    x ∈ s.results ↔ x.1 ∈ lookedUp .checkVideos cache ids ∧
      fails (hashVideoID sha256 x.1 4) = false ∧ server.lookup x.1 = some x.2 := by
  have hgroups : s.groups = .groupBy (hashVideoID sha256 · 4) (lookedUp .checkVideos cache ids) :=
    h.same.2.1
  have hfound : x ∈ s.results ↔ x ∈ s.found sha256 (hashVideoID sha256 x.1 4) := by
    rw [found, List.mem_filter, decide_eq_true_iff, and_iff_left rfl]
  have hrequested : x.1 ∈ s.requestedIDs (hashVideoID sha256 x.1 4) ↔
      x.1 ∈ lookedUp .checkVideos cache ids := by
    rw [requestedIDs, hgroups, OrderedMap.get_groupBy, List.mem_filter, decide_eq_true_iff,
      and_iff_left rfl]
  rw [hfound]
  by_cases hp : hashVideoID sha256 x.1 4 ∈ s.groups.keys
  · rw [h.found_eq hfinished hp, wanted, List.mem_filter, decide_eq_true_iff, hrequested, and_comm]
    refine and_congr_right fun _ ↦ ?_
    cases hfails : fails (hashVideoID sha256 x.1 4) with
    | true => simp [serverAnswers, hfails]
    | false =>
      obtain ⟨videos, hanswer⟩ : ∃ videos,
          serverAnswers sha256 server order fails (hashVideoID sha256 x.1 4) = some videos := by
        simp [serverAnswers, hfails]
      rw [hanswer, Option.getD_some, mem_serverAnswers hanswer]
      simp
  · -- no video of this prefix is looked up
    have hwaiting := h.progress (hashVideoID sha256 x.1 4)
    rw [h.untouched _ hp] at hwaiting
    rw [show s.found sha256 (hashVideoID sha256 x.1 4) = [] from hwaiting]
    refine iff_of_false List.not_mem_nil fun hx ↦ hp ?_
    rw [hgroups, OrderedMap.keys_groupBy, List.mem_eraseDups]
    exact List.mem_map_of_mem hx.1

/-- No video is twice among the results. -/
theorem count_results_le (h : CheckInv sha256 (serverAnswers sha256 server order fails) s₀ s)
    (hfinished : s.Finished) (v : VideoID) : (s.results.map Prod.fst).count v ≤ 1 := by
  have hfound : (s.results.map Prod.fst).count v =
      ((s.found sha256 (hashVideoID sha256 v 4)).map Prod.fst).count v := by
    rw [List.count_eq_countP, List.count_eq_countP, List.countP_map, List.countP_map, found,
      List.countP_filter]
    refine List.countP_congr fun y _ ↦ ?_
    simp only [Function.comp_apply, beq_iff_eq, Bool.and_eq_true, decide_eq_true_iff]
    exact ⟨fun heq ↦ ⟨heq, by rw [heq]⟩, And.left⟩
  rw [hfound]
  by_cases hp : hashVideoID sha256 v 4 ∈ s.groups.keys
  · rw [h.found_eq hfinished hp]
    cases hanswer : serverAnswers sha256 server order fails (hashVideoID sha256 v 4) with
    | none => exact Nat.zero_le 1
    | some videos =>
      exact List.nodup_iff_count_le_one.1
        ((nodup_serverAnswers hanswer).sublist (List.filter_sublist.map Prod.fst)) v
  · have hwaiting := h.progress (hashVideoID sha256 v 4)
    rw [h.untouched _ hp] at hwaiting
    rw [show s.found sha256 (hashVideoID sha256 v 4) = [] from hwaiting]
    exact Nat.zero_le 1

/-- What the cache and the server have of a video, when some of the calls fail. -/
def available (sha256 : List UInt8 → Digest) (cache : Table VideoID CachedVideo)
    (server : Table VideoID VideoResult) (fails : String → Bool) (v : VideoID) :
    Option CachedVideo :=
  match cache.lookup v with
  | some video => some video
  | none =>
    if fails (hashVideoID sha256 v 4) then none else (server.lookup v).map VideoResult.cached

theorem available_of_cached {v : VideoID} {video : CachedVideo}
    (h : cache.lookup v = some video) : available sha256 cache server fails v = some video := by
  rw [available, h]

/-- A video that is not cached is available when it is a result. -/
theorem available_eq_some {v : VideoID} {video : CachedVideo} (h : cache.lookup v = none) :
    available sha256 cache server fails v = some video ↔
      ∃ r, fails (hashVideoID sha256 v 4) = false ∧ server.lookup v = some r ∧
        r.cached = video := by
  rw [available, h]
  cases fails (hashVideoID sha256 v 4) <;> simp

section Finished

variable (hinv : CheckInv sha256 (serverAnswers sha256 server order fails)
  (start sha256 .checkVideos cache ids) s) (hfinished : s.Finished)

include hinv hfinished

/-- A result is what is available of a requested video that is not cached. -/
theorem mem_results_iff {v : VideoID} {r : VideoResult} :
    (v, r) ∈ s.results ↔ (v ∈ ids ∧ cache.lookup v = none) ∧
      fails (hashVideoID sha256 v 4) = false ∧ server.lookup v = some r := by
  rw [mem_results hinv hfinished, mem_lookedUp]

theorem available_iff {v : VideoID} (hlookedUp : v ∈ ids ∧ cache.lookup v = none)
    (video : CachedVideo) : available sha256 cache server fails v = some video ↔
      ∃ r, (v, r) ∈ s.results ∧ r.cached = video := by
  rw [available_eq_some hlookedUp.2]
  refine exists_congr fun r ↦ ?_
  rw [mem_results_iff hinv hfinished, and_iff_right hlookedUp, and_assoc]

/-- **What is answered.** -/
theorem mem_cached_append_results {v : VideoID} {video : CachedVideo} :
    (v, video) ∈ getVideos cache ids ++ s.results.map (fun x ↦ (x.1, x.2.cached)) ↔
      v ∈ ids ∧ available sha256 cache server fails v = some video := by
  rw [List.mem_append, mem_getVideos, List.mem_map]
  cases hlookup : cache.lookup v with
  | some video' =>
    rw [available_of_cached hlookup, or_iff_left]
    rintro ⟨⟨w, r⟩, hmem, heq⟩
    obtain ⟨rfl, -⟩ := Prod.mk.inj heq
    rw [((mem_results_iff hinv hfinished).1 hmem).1.2] at hlookup
    cases hlookup
  | none =>
    rw [or_iff_right fun h ↦ by cases h.2]
    constructor
    · rintro ⟨⟨w, r⟩, hmem, heq⟩
      obtain ⟨rfl, rfl⟩ := Prod.mk.inj heq
      have hlookedUp := ((mem_results_iff hinv hfinished).1 hmem).1
      exact ⟨hlookedUp.1, (available_iff hinv hfinished hlookedUp _).2 ⟨r, hmem, rfl⟩⟩
    · rintro ⟨hv, hvideo⟩
      obtain ⟨r, hmem, rfl⟩ := (available_iff hinv hfinished ⟨hv, hlookup⟩ _).1 hvideo
      exact ⟨(v, r), hmem, rfl⟩

/-- **What is cached in the end.** -/
theorem lookup_cache_eq (v : VideoID) : s.cache.lookup v =
    if v ∈ ids then available sha256 cache server fails v else cache.lookup v := by
  by_cases hmem : v ∈ s.results.map Prod.fst
  · obtain ⟨⟨w, r⟩, hr, rfl⟩ := List.mem_map.1 hmem
    have hlookedUp := ((mem_results_iff hinv hfinished).1 hr).1
    rw [if_pos hlookedUp.1, (available_iff hinv hfinished hlookedUp _).2 ⟨r, hr, rfl⟩]
    refine (hinv.stored _ hr).resolve_right fun ⟨videos, htask⟩ ↦ ?_
    have hkeys : hashVideoID sha256 w 4 ∈ s.groups.keys := hinv.mem_keys (by simp [htask])
    have hended := hfinished _ hkeys
    rw [htask] at hended
    cases hended
  · have hkept : s.cache.lookup v = cache.lookup v := hinv.kept v hmem
    rw [hkept]
    split_ifs with hv
    · cases hlookup : cache.lookup v with
      | some video => exact (available_of_cached hlookup).symm
      | none =>
        refine (Option.eq_none_iff_forall_ne_some.2 fun video hvideo ↦ hmem ?_).symm
        obtain ⟨r, hr, -⟩ := (available_iff hinv hfinished ⟨hv, hlookup⟩ video).1 hvideo
        exact List.mem_map_of_mem hr
    · rfl

end Finished

/-- **`CHECK_VIDEOS` finds what there is**, in whatever order the answers come: it comes to an end,
answers with the requested videos that are cached, or that the server has and whose prefix does not
fail, and has these in the cache. -/
theorem checkVideos_spec
    (h : Steps.Run (step (serverAnswers sha256 server order fails)) Steps.Any
      (start sha256 .checkVideos cache ids) es s) :
    es.length ≤ (start sha256 .checkVideos cache ids).remaining
        (serverAnswers sha256 server order fails) ∧
      (¬ s.Finished → ∃ e s', s.step (serverAnswers sha256 server order fails) e = some s') ∧
      (s.Finished → ∃ videos, s.response = .checked videos ∧
        (∀ v video, (v, video) ∈ videos ↔
          v ∈ ids ∧ available sha256 cache server fails v = some video) ∧
        (∀ v, cache.lookup v = none → (videos.map Prod.fst).count v ≤ 1) ∧
        ∀ v, s.cache.lookup v =
          if v ∈ ids then available sha256 cache server fails v else cache.lookup v) := by
  have hinv := run_checkInv h
  refine ⟨(Nat.le_add_right _ _).trans (length_le_remaining h), fun hfinished ↦ ?_,
    fun hfinished ↦ ?_⟩
  · by_contra hstuck
    exact hfinished (finished_of_stuck fun e ↦ by
      cases hstep : s.step (serverAnswers sha256 server order fails) e with
      | none => rfl
      | some s' => exact absurd ⟨e, s', hstep⟩ hstuck)
  have hresponse : s.response =
      .checked (getVideos cache ids ++ s.results.map fun x ↦ (x.1, x.2.cached)) := by
    obtain ⟨-, -, hcached, hmessage⟩ := hinv.same
    rw [response, hmessage, hcached]
    rfl
  refine ⟨_, hresponse, fun v video ↦ mem_cached_append_results hinv hfinished, fun v hnone ↦ ?_,
    lookup_cache_eq hinv hfinished⟩
  rw [List.map_append, List.count_append, List.map_map, List.count_eq_zero.2, Nat.zero_add]
  · exact count_results_le hinv hfinished v
  · rw [List.mem_map]
    rintro ⟨⟨w, video⟩, hmem, rfl⟩
    rw [(mem_getVideos.1 hmem).2] at hnone
    cases hnone

/-- A video with a score. -/
def oneScored : Table VideoID VideoResult :=
  Table.insert ∅ "a" ⟨80, fun _ ↦ none, 3, false, none, 0, 1⟩

/-- The call for `b` fails, while the answer for `a` is gone through. -/
def oneFails : List LookupEvent := [.answer "6161", .answer "6262", .next "6161", .put "6161"]

/-- The answers of that lookup. -/
def oneFailsAnswers : String → Option (List (VideoID × VideoResult)) :=
  serverAnswers firstByteDigest oneScored (fun _ ↦ .ascending VideoID) (· = "6262")

theorem exec_oneFails : (Steps.exec (step oneFailsAnswers) Steps.Any
    (start firstByteDigest .checkVideos ∅ ["a", "b", "a"]) oneFails).any
      (fun s ↦ decide s.Finished) = true := by
  decide +kernel

/-- One prefix fails, and the other video is found. -/
theorem checkVideos_oneFails : ∃ s : LookupRun, s.Finished ∧
    ∃ videos, s.response = .checked videos ∧ ∀ v video, (v, video) ∈ videos ↔
      v ∈ ["a", "b", "a"] ∧
        available firstByteDigest ∅ oneScored (· = "6262") v = some video := by
  obtain ⟨s, hrun, hfinished⟩ := Steps.exists_run_of_exec exec_oneFails
  obtain ⟨-, -, hend⟩ := checkVideos_spec hrun
  obtain ⟨videos, hresponse, hvideos, -⟩ := hend (of_decide_eq_true hfinished)
  exact ⟨s, of_decide_eq_true hfinished, videos, hresponse, hvideos⟩

end CheckVideos

end LookupRun

end RealTube.Extension
