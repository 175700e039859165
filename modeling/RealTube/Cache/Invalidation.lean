import RealTube.Concurrency.Footprint
import RealTube.Votes.Counters
import RealTube.Model.VideoService

/-!
# The video cache

`LookupByVideoID` of `service/video_svc.go` reads the cache, and on a miss the video, its
categories, and then writes the cache. `Submit` and `Delete` of `service/vote_svc.go`, and the loop
of `flush` in `service/score_worker.go`, commit to the database and then delete the key. Here any
number of them run beside each other, each step being one operation on Redis or one commit or query
on the database; Redis operations succeed and nothing expires.

A lookup is **overtaken** when a write on its video is committed after it has read the video's row.
A response that is overtaken is outdated, and harmless as long as the writer's deletion is still to
come. So the cache is right, when nothing is in flight, if no lookup sets an overtaken response
after the last deletion (`cacheRight_of_setsFresh`). The code has nothing to prevent that
(`not_cacheRight_setAfterDelete`).
-/

open Tx

namespace RealTube

/-! ### What the writers write -/

/-- The video a call is about. -/
def Call.videoID : Call → VideoID
  | vote call => call.videoID
  | recalculate _ q => q.videoID

/-- A call changes rows of its own video only. -/
theorem same_runTx_of_ne (call : Call) (db : DB) {v : VideoID} (hv : v ≠ call.videoID) :
    db.Same (call.code.runTx db).2 (.video v) ∧
      ∀ c, db.Same (call.code.runTx db).2 (.videoCategory v c) := by
  constructor
  · refine same_runTx (r := Row.video v) call.code db fun hr ↦ hv ?_
    cases call with
    | vote call => exact (within_code call).writes db _ hr
    | recalculate b q => exact (within_recalculate b q).writes db _ hr
  · refine fun c ↦ same_runTx (r := Row.videoCategory v c) call.code db fun hr ↦ hv ?_
    cases call with
    | vote call => exact (within_code call).writes db _ hr
    | recalculate b q => exact (within_recalculate b q).writes db _ hr

/-- It changes the response for its own video only. -/
theorem response_runTx (call : Call) (db : DB) {v : VideoID} (hv : v ≠ call.videoID) :
    (call.code.runTx db).2.response v = db.response v :=
  (response_congr (same_runTx_of_ne call db hv).1 (same_runTx_of_ne call db hv).2).symm

theorem findByVideoID_runTx (call : Call) (db : DB) {v : VideoID} (hv : v ≠ call.videoID) :
    findByVideoID v (call.code.runTx db).2 = findByVideoID v db := by
  rw [findByVideoID, findByVideoID,
    show db.videos.lookup v = _ from (same_runTx_of_ne call db hv).1]

/-! ### The system -/

/-- An operation: a lookup, or a write with the invalidation that follows it. -/
inductive CacheOp where
  | lookup (videoID : VideoID)
  | write (call : Call)

/-- The video an operation is about. -/
def CacheOp.videoID : CacheOp → VideoID
  | lookup videoID => videoID
  | write call => call.videoID

/-- Where an operation stands. -/
inductive OpState where
  /-- It has not begun. -/
  | ready
  /-- The lookup has not found its key in the cache. -/
  | missed
  /-- The lookup has read the video. -/
  | found (video : Video)
  /-- The lookup has read the categories and built its response. -/
  | built (resp : VideoResponse)
  /-- The write is committed, and has its key still to delete. -/
  | committed
  /-- It has returned, a lookup with its response if there is one. -/
  | returned (resp : Option VideoResponse)
  deriving DecidableEq

/-- The operation is in flight. -/
def OpState.inFlight : OpState → Bool
  | ready => false
  | returned _ => false
  | _ => true

/-- The database, the keys `video:…` of the cache, and the operations. For each of them, whether a
write on its video has been committed since it read the video. -/
structure CacheSys (ι : Type) where
  db : DB
  cache : Table VideoID VideoResponse
  op : ι → OpState
  overtaken : ι → Bool

namespace CacheSys

variable {ι : Type} [DecidableEq ι] (ops : ι → CacheOp)

/-- Nothing has begun, and nothing is cached. -/
def init (db : DB) : CacheSys ι := ⟨db, ∅, fun _ ↦ .ready, fun _ ↦ false⟩

/-- Operation `i` is now at `state`. -/
def setOp (sys : CacheSys ι) (i : ι) (state : OpState) : CacheSys ι :=
  { sys with op := Function.update sys.op i state }

/-- The system after the next step of operation `i`; `none` when it has returned. -/
def step (sys : CacheSys ι) (i : ι) : Option (CacheSys ι) :=
  match ops i, sys.op i with
  | .lookup v, .ready =>
    -- `GetVideo`
    match sys.cache.lookup v with
    | some resp => some (sys.setOp i (.returned (some resp)))
    | none => some (sys.setOp i .missed)
  | .lookup v, .missed =>
    match findByVideoID v sys.db with
    | some video => some { sys.setOp i (.found video) with
        overtaken := Function.update sys.overtaken i false }
    | none => some (sys.setOp i (.returned none))
  | .lookup v, .found video =>
    some (sys.setOp i (.built (buildResponse v video (getCategories v sys.db))))
  | .lookup v, .built resp =>
    -- `SetVideo`
    some { sys.setOp i (.returned (some resp)) with cache := sys.cache.insert v resp }
  | .write call, .ready =>
    match (call.code.runTx sys.db).1 with
    | .ok _ => some { sys.setOp i .committed with
        db := (call.code.runTx sys.db).2
        overtaken := fun j ↦ sys.overtaken j || (ops j).videoID = call.videoID }
    | .error _ => some (sys.setOp i (.returned none))
  | .write call, .committed =>
    -- `InvalidateVideo`
    some { sys.setOp i (.returned none) with cache := sys.cache.erase call.videoID }
  | _, _ => none

/-- The system after a schedule whose steps all satisfy `P`; `none` when one of them is outside `P`
or impossible. -/
def run (P : CacheSys ι → ι → Prop) [∀ sys i, Decidable (P sys i)] (sys : CacheSys ι) :
    List ι → Option (CacheSys ι)
  | [] => some sys
  | i :: is => if P sys i then (sys.step ops i).bind fun sys' ↦ sys'.run P is else none

/-- If operation `i` is about to set the cache, no write on its video has been committed since it
read the video, or a writer has the key still to delete. -/
def SetsFresh (sys : CacheSys ι) (i : ι) : Prop :=
  ∀ resp, sys.op i = .built resp → sys.overtaken i = false ∨
    ∃ j, sys.op j = .committed ∧ (ops j).videoID = (ops i).videoID

/-- Nothing is in flight. -/
def Quiet (sys : CacheSys ι) : Prop := ∀ i, (sys.op i).inFlight = false

/-- Every cached response is the one the database gives now. -/
def CacheRight (sys : CacheSys ι) : Prop :=
  ∀ v resp, sys.cache.lookup v = some resp → sys.db.response v = some resp

variable {ops} {sys sys' : CacheSys ι}

theorem setOp_op (sys : CacheSys ι) (i j : ι) (state : OpState) :
    (sys.setOp i state).op j = if j = i then state else sys.op j := Function.update_apply ..

/-! ### The invariant -/

omit [DecidableEq ι] in
variable (ops sys) in
/-- **The invariant**: what a lookup has read is what is there, unless it was overtaken, and what is
cached is right, unless a writer has the key still to delete. -/
structure Inv : Prop where
  found : ∀ i v video, ops i = .lookup v → sys.op i = .found video → sys.overtaken i = false →
    findByVideoID v sys.db = some video
  built : ∀ i v resp, ops i = .lookup v → sys.op i = .built resp → sys.overtaken i = false →
    sys.db.response v = some resp
  cached : ∀ v resp, sys.cache.lookup v = some resp → sys.db.response v = some resp ∨
    ∃ j, sys.op j = .committed ∧ (ops j).videoID = v

omit [DecidableEq ι] in
theorem inv_init (db : DB) : Inv ops (init db) :=
  ⟨by simp [init], by simp [init], by simp [init]⟩

/-- A lookup moves on. -/
theorem Inv.setOp (h : Inv ops sys) {i : ι} {state : OpState} {overtaken : ι → Bool}
    (hne : sys.op i ≠ .committed) (hother : ∀ j ≠ i, overtaken j = sys.overtaken j)
    (hfound : ∀ v video, ops i = .lookup v → state = .found video →
      findByVideoID v sys.db = some video)
    (hbuilt : ∀ v resp, ops i = .lookup v → state = .built resp → overtaken i = false →
      sys.db.response v = some resp) :
    Inv ops { sys.setOp i state with overtaken := overtaken } where
  found j v video hj hop hover := by
    change (sys.setOp i state).op j = _ at hop
    rw [setOp_op] at hop
    by_cases hji : j = i
    · rw [if_pos hji] at hop
      exact hfound v video (hji ▸ hj) hop
    · rw [if_neg hji] at hop
      exact h.found j v video hj hop ((hother j hji).symm.trans hover)
  built j v resp hj hop hover := by
    change (sys.setOp i state).op j = _ at hop
    rw [setOp_op] at hop
    by_cases hji : j = i
    · rw [if_pos hji] at hop
      exact hbuilt v resp (hji ▸ hj) hop (hji ▸ hover)
    · rw [if_neg hji] at hop
      exact h.built j v resp hj hop ((hother j hji).symm.trans hover)
  cached v resp hcache := by
    obtain hright | ⟨j, hj, hv⟩ := h.cached v resp hcache
    · exact Or.inl hright
    · refine Or.inr ⟨j, ?_, hv⟩
      change (sys.setOp i state).op j = _
      rw [setOp_op, if_neg]
      · exact hj
      · rintro rfl
        exact hne hj

/-- A lookup moves on to a state in which it knows nothing that is checked. -/
theorem Inv.setOp_plain (h : Inv ops sys) {i : ι} {state : OpState} (hne : sys.op i ≠ .committed)
    (hfound : ∀ video, state ≠ .found video) (hbuilt : ∀ resp, state ≠ .built resp) :
    Inv ops (sys.setOp i state) :=
  h.setOp hne (fun _ _ ↦ rfl) (fun _ video _ hstate ↦ absurd hstate (hfound video))
    fun _ resp _ hstate ↦ absurd hstate (hbuilt resp)

/-- **A lookup sets the cache.** -/
theorem Inv.set (h : Inv ops sys) {i : ι} {v : VideoID} {resp : VideoResponse}
    (hi : ops i = .lookup v) (hop : sys.op i = .built resp) (hfresh : SetsFresh ops sys i) :
    Inv ops { sys.setOp i (.returned (some resp)) with cache := sys.cache.insert v resp } := by
  have hne : sys.op i ≠ .committed := fun hc ↦ by
    rw [hop] at hc
    cases hc
  have hset : Inv ops (sys.setOp i (.returned (some resp))) :=
    h.setOp_plain hne (by simp) (by simp)
  refine ⟨hset.found, hset.built, fun v' resp' hcache ↦ ?_⟩
  change (sys.cache.insert v resp).lookup v' = _ at hcache
  rw [Table.lookup_insert] at hcache
  split_ifs at hcache with hv
  · obtain rfl := Option.some.inj hcache
    subst hv
    rcases hfresh resp hop with hover | ⟨j, hj, hjv⟩
    · exact Or.inl (h.built i v' resp hi hop hover)
    · refine Or.inr ⟨j, ?_, hjv.trans (hi ▸ rfl)⟩
      change (sys.setOp i _).op j = _
      rw [setOp_op, if_neg]
      · exact hj
      · rintro rfl
        exact hne hj
  · exact hset.cached v' resp' hcache

/-- **A writer commits**, and overtakes the lookups of its video. -/
theorem Inv.commit (h : Inv ops sys) {i : ι} {call : Call} (hi : ops i = .write call) :
    Inv ops { sys.setOp i .committed with
      db := (call.code.runTx sys.db).2
      overtaken := fun j ↦ sys.overtaken j || (ops j).videoID = call.videoID } where
  found j v video hj hop' hover := by
    change (sys.setOp i .committed).op j = _ at hop'
    rw [setOp_op] at hop'
    split_ifs at hop' with hji
    obtain ⟨hover, hv⟩ := Bool.or_eq_false_iff.1 hover
    rw [hj] at hv
    exact (findByVideoID_runTx call sys.db (of_decide_eq_false hv)).trans
      (h.found j v video hj hop' hover)
  built j v resp hj hop' hover := by
    change (sys.setOp i .committed).op j = _ at hop'
    rw [setOp_op] at hop'
    split_ifs at hop' with hji
    obtain ⟨hover, hv⟩ := Bool.or_eq_false_iff.1 hover
    rw [hj] at hv
    exact (response_runTx call sys.db (of_decide_eq_false hv)).trans
      (h.built j v resp hj hop' hover)
  cached v resp hcache := by
    by_cases hv : v = call.videoID
    · refine Or.inr ⟨i, ?_, hi ▸ hv.symm⟩
      change (sys.setOp i .committed).op i = _
      rw [setOp_op, if_pos rfl]
    · rcases h.cached v resp hcache with hright | ⟨j, hj, hjv⟩
      · exact Or.inl ((response_runTx call sys.db hv).trans hright)
      · refine Or.inr ⟨j, ?_, hjv⟩
        change (sys.setOp i .committed).op j = _
        rw [setOp_op, hj]
        exact ite_self _

/-- **A writer deletes its key.** -/
theorem Inv.delete (h : Inv ops sys) {i : ι} {call : Call} (hi : ops i = .write call) :
    Inv ops { sys.setOp i (.returned none) with cache := sys.cache.erase call.videoID } where
  found j v video hj hop hover := by
    change (sys.setOp i (.returned none)).op j = _ at hop
    rw [setOp_op] at hop
    split_ifs at hop
    exact h.found j v video hj hop hover
  built j v resp hj hop hover := by
    change (sys.setOp i (.returned none)).op j = _ at hop
    rw [setOp_op] at hop
    split_ifs at hop
    exact h.built j v resp hj hop hover
  cached v resp hcache := by
    change (sys.cache.erase call.videoID).lookup v = _ at hcache
    rw [Table.lookup_erase] at hcache
    split_ifs at hcache with hv
    obtain hright | ⟨j, hj, hjv⟩ := h.cached v resp hcache
    · exact Or.inl hright
    · refine Or.inr ⟨j, ?_, hjv⟩
      change (sys.setOp i (.returned none)).op j = _
      rw [setOp_op, if_neg]
      · exact hj
      · rintro rfl
        exact hv (hjv.symm.trans (hi ▸ rfl))

/-- An operation that has nothing to delete returns. -/
theorem Inv.setOp_returned (h : Inv ops sys) {i : ι} (hne : sys.op i ≠ .committed)
    (resp : Option VideoResponse) : Inv ops (sys.setOp i (.returned resp)) :=
  h.setOp_plain hne (by simp) (by simp)

/-- A lookup, from one operation on the cache or the database to the next. -/
theorem Inv.step_lookup (h : Inv ops sys) {i : ι} {v : VideoID} (hi : ops i = .lookup v)
    (hfresh : SetsFresh ops sys i) (hs : sys.step ops i = some sys') : Inv ops sys' := by
  cases hop : sys.op i with
  | ready =>
    have hne : sys.op i ≠ .committed := by simp [hop]
    simp only [CacheSys.step, hi, hop] at hs
    rcases hcache : sys.cache.lookup v with - | resp
    · rw [hcache] at hs
      exact Option.some.inj hs ▸ h.setOp_plain hne (by simp) (by simp)
    · rw [hcache] at hs
      exact Option.some.inj hs ▸ h.setOp_returned hne (some resp)
  | missed =>
    have hne : sys.op i ≠ .committed := by simp [hop]
    simp only [CacheSys.step, hi, hop] at hs
    rcases hvideo : findByVideoID v sys.db with - | video
    · rw [hvideo] at hs
      exact Option.some.inj hs ▸ h.setOp_returned hne none
    · rw [hvideo] at hs
      refine Option.some.inj hs ▸ h.setOp hne (fun j hj ↦ Function.update_of_ne hj ..)
        (fun v' video' hv' hstate ↦ ?_) fun v' resp hv' hstate ↦ ?_
      · cases hi.symm.trans hv'
        cases hstate
        exact hvideo
      · cases hstate
  | found video =>
    have hne : sys.op i ≠ .committed := by simp [hop]
    simp only [CacheSys.step, hi, hop] at hs
    refine Option.some.inj hs ▸ h.setOp hne (fun _ _ ↦ rfl) (fun v' video' hv' hstate ↦ ?_)
      fun v' resp hv' hstate hover ↦ ?_
    · cases hstate
    · cases hi.symm.trans hv'
      cases hstate
      rw [DB.response, h.found i v video hi hop hover, Option.map_some]
  | built resp =>
    simp only [CacheSys.step, hi, hop] at hs
    exact Option.some.inj hs ▸ h.set hi hop hfresh
  | _ =>
    simp only [CacheSys.step, hi, hop] at hs
    cases hs

/-- A write: its commit, and the deletion of its key. -/
theorem Inv.step_write (h : Inv ops sys) {i : ι} {call : Call} (hi : ops i = .write call)
    (hs : sys.step ops i = some sys') : Inv ops sys' := by
  cases hop : sys.op i with
  | ready =>
    have hne : sys.op i ≠ .committed := by simp [hop]
    simp only [CacheSys.step, hi, hop] at hs
    rcases hanswer : (call.code.runTx sys.db).1 with e | x
    · rw [hanswer] at hs
      exact Option.some.inj hs ▸ h.setOp_returned hne none
    · rw [hanswer] at hs
      exact Option.some.inj hs ▸ h.commit hi
  | committed =>
    simp only [CacheSys.step, hi, hop] at hs
    exact Option.some.inj hs ▸ h.delete hi
  | _ =>
    simp only [CacheSys.step, hi, hop] at hs
    cases hs

/-- **Every step keeps the invariant**, if it sets the cache only when fresh. -/
theorem Inv.step (h : Inv ops sys) {i : ι} (hfresh : SetsFresh ops sys i)
    (hs : sys.step ops i = some sys') : Inv ops sys' := by
  rcases hi : ops i with v | call
  · exact h.step_lookup hi hfresh hs
  · exact h.step_write hi hs

/-- **Every run keeps the invariant.** -/
theorem Inv.run (h : Inv ops sys) {P : CacheSys ι → ι → Prop} [∀ sys i, Decidable (P sys i)]
    (hP : ∀ sys i, P sys i → SetsFresh ops sys i) {schedule : List ι}
    (hs : sys.run ops P schedule = some sys') : Inv ops sys' := by
  induction schedule generalizing sys with
  | nil => exact Option.some.inj hs ▸ h
  | cons i is ih =>
    rw [CacheSys.run] at hs
    split_ifs at hs with hPi
    obtain ⟨mid, hmid, hrest⟩ := Option.bind_eq_some_iff.1 hs
    exact ih (h.step (hP sys i hPi) hmid) hrest

instance [Fintype ι] (sys : CacheSys ι) (i : ι) : Decidable (SetsFresh ops sys i) :=
  match h : sys.op i with
  | .built resp => decidable_of_iff (sys.overtaken i = false ∨
      ∃ j, sys.op j = .committed ∧ (ops j).videoID = (ops i).videoID)
      ⟨fun hor _ _ ↦ hor, fun hall ↦ hall resp h⟩
  | .ready => .isTrue fun _ h' ↦ nomatch h.symm.trans h'
  | .missed => .isTrue fun _ h' ↦ nomatch h.symm.trans h'
  | .found _ => .isTrue fun _ h' ↦ nomatch h.symm.trans h'
  | .committed => .isTrue fun _ h' ↦ nomatch h.symm.trans h'
  | .returned _ => .isTrue fun _ h' ↦ nomatch h.symm.trans h'

end CacheSys

/-- **The cache is right as long as lookups set it in time.** In every run in which no lookup sets a
response that was overtaken, unless a writer of its video has the key still to delete, every cached
response is the one the database gives, whenever nothing is in flight. -/
theorem cacheRight_of_setsFresh {ι : Type} [DecidableEq ι] [Fintype ι] {ops : ι → CacheOp}
    {db : DB} {schedule : List ι} {sys : CacheSys ι}
    (hrun : (CacheSys.init db).run ops (CacheSys.SetsFresh ops) schedule = some sys)
    (hquiet : sys.Quiet) : sys.CacheRight := by
  intro v resp hcache
  have hinit : CacheSys.Inv ops (CacheSys.init db) := CacheSys.inv_init db
  have hinv := hinit.run (fun _ _ h ↦ h) hrun
  refine (hinv.cached v resp hcache).resolve_right ?_
  rintro ⟨j, hj, -⟩
  have hnot := hquiet j
  rw [hj] at hnot
  cases hnot

instance {ι : Type} [Fintype ι] (sys : CacheSys ι) : Decidable sys.Quiet :=
  inferInstanceAs (Decidable (∀ _, _ = _))

/-- Two lookups of a video, and a vote on it. -/
def lookupsBesideVote : Fin 3 → CacheOp
  | 1 => .write (.vote (.submit .go
    { videoID := "v", userID := "b", category := .fullyAI, ipHash := "", userAgent := none,
      now := 0 }))
  | _ => .lookup "v"

/-- The vote is committed before the first lookup sets the cache, and deletes the key after that. -/
theorem run_setBeforeDelete : ((CacheSys.init oneVote).run lookupsBesideVote
    (CacheSys.SetsFresh lookupsBesideVote) [0, 0, 1, 0, 0, 1, 2, 2, 2, 2]).isSome := by
  decide +kernel

/-- The second lookup caches the response with both votes. -/
theorem cacheRight_setBeforeDelete : (Option.get _ run_setBeforeDelete).CacheRight :=
  cacheRight_of_setsFresh (Option.some_get run_setBeforeDelete).symm (by decide +kernel)

/-- The vote is committed and the key deleted between the two reads of the first lookup. -/
theorem run_setAfterDelete : ((CacheSys.init oneVote).run lookupsBesideVote (fun _ _ ↦ True)
    [0, 0, 1, 1, 0, 0]).isSome := by
  decide +kernel

/-- **A lookup that was overtaken leaves an outdated response**, and nothing will remove it. -/
theorem not_cacheRight_setAfterDelete :
    ¬ ∀ (schedule : List (Fin 3)) (sys : CacheSys (Fin 3)),
      (CacheSys.init oneVote).run lookupsBesideVote (fun _ _ ↦ True) schedule = some sys →
        sys.Quiet → sys.CacheRight := by
  intro h
  have hright := h _ _ (Option.some_get run_setAfterDelete).symm (by decide +kernel) "v"
  revert hright
  decide +kernel

end RealTube
