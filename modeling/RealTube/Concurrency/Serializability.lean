import RealTube.Concurrency.Footprint
import RealTube.Votes.Counters
import RealTube.Store.ReadCommitted

/-!
# Concurrent vote requests

Vote requests under READ COMMITTED, as a `ReadCommitted.Sys` over the database. Both transactions
read the vote of their user in one statement and act on the answer in later ones. The counters they
then update are protected by row locks; what nothing protects is the answer itself, from its
statement to the one that writes the vote.

* A request **keeps the reads** of the others (`ReadsKept`) when its commit does not change a vote
  that another request has read and is about to write.
* In a run of such commits every unfinished request **replays** on the committed database
  (`replays_of_readsKept`): the rows it has written are locked, so no other commit gives it a reason
  to differ. By `ReadCommitted.serial_of_run` the requests are then serializable.
* Requests of different users, or on different videos, always keep each other's reads, and so do
  submissions, since two of one user are serialized by the lock on the user's row
  (`readsKept_of_compatible`). A deletion takes no such lock, and two deletions of one vote are not
  serializable (`not_serializable_doubleDelete`).
-/

open Tx ReadCommitted

namespace RealTube

/-! ### Moving a request to another store -/

section Moves

variable {D D' : DB} {vs : List DB}

/-- The last two statements of a submission. -/
theorem moves_count {q : VoteRequest} {x : Except VoteError (Option ℚ)}
    (hvideo : D.videos.lookup q.videoID ≠ none) :
    Moves D D' (stmt (incrementVoteCount q.videoID q.category) fun _ ↦
      stmt (touchVideo q.now q.videoID) fun _ ↦ ret x) vs := by
  refine Moves.write touches_incrementVoteCount incrementVoteCount_ne_nil fun _ _ ↦ ?_
  refine Moves.write touches_touchVideo (touchVideo_ne_nil ?_) fun _ _ _ _ ↦ replays_ret ..
  exact videos_lookup_applyAll_ne_none _ hvideo

/-- Once a submission has read the existing category, it holds every row it depends on. -/
theorem moves_recordVote {q : VoteRequest} {w : ℚ} {existingCategory : Option Category}
    (hvideo : D.videos.lookup q.videoID ≠ none)
    (hcount : ∀ c, existingCategory = some c → 0 < D.voteCount q.videoID c) :
    Moves D D' (recordVote q w existingCategory) vs := by
  refine Moves.write (touches_upsertVote q w) (upsertVote_ne_nil q w) fun _ _ ↦ ?_
  have hvideo' := videos_lookup_applyAll_ne_none (upsertVote q w D) hvideo
  cases existingCategory with
  | none =>
    refine Moves.write touches_incrementTotalVotes (incrementTotalVotes_ne_nil hvideo')
      fun _ _ ↦ ?_
    exact moves_count (videos_lookup_applyAll_ne_none _ hvideo')
  | some c =>
    by_cases hc : c = q.category
    · simp only [countReplaced, hc, ne_eq, not_true_eq_false, if_false]
      exact moves_count hvideo'
    · simp only [countReplaced, ne_eq, hc, not_false_eq_true, if_true]
      refine Moves.write touches_decrementVoteCount (decrementVoteCount_ne_nil ?_) fun _ _ ↦ ?_
      · change 0 < (D.after (upsertVote q w)).voteCount q.videoID c
        rw [after_upsertVote]
        exact hcount c rfl
      · exact moves_count (videos_lookup_applyAll_ne_none _ hvideo')

/-- Once a deletion has read the category of a vote that is still there, it holds every row it
depends on. -/
theorem moves_eraseVote {q : VoteDeleteRequest} {c : Category}
    (hvote : D.votedCategory q.videoID q.userID ≠ none) (htotal : 0 < D.totalVotes q.videoID)
    (hcount : 0 < D.voteCount q.videoID c) : Moves D D' (eraseVote q c) vs := by
  refine Moves.write touches_dropVote (dropVote_ne_nil hvote) fun _ _ ↦ ?_
  refine Moves.write touches_decrementTotalVotes (decrementTotalVotes_ne_nil ?_) fun _ _ ↦ ?_
  · change 0 < (D.after (dropVote q.videoID q.userID)).totalVotes q.videoID
    rw [after_dropVote]
    exact htotal
  refine Moves.write touches_decrementVoteCount (decrementVoteCount_ne_nil ?_) fun _ _ ↦ ?_
  · change 0 < ((D.after (dropVote q.videoID q.userID)).after
      (decrementTotalVotes q.now q.videoID)).voteCount q.videoID c
    rw [after_decrementTotalVotes, after_dropVote]
    exact hcount
  · exact Moves.stmt_same (fun _ ↦ rfl) (fun _ ↦ rfl) fun _ _ _ ↦ replays_ret ..

theorem votedCategory_after_inserts (now : Time) (v : VideoID) (u : UserID) (v' : VideoID)
    (u' : UserID) : ((D.after (insertUser now u)).after (insertVideo now v)).votedCategory v' u' =
      D.votedCategory v' u' := by
  rw [after_insertVideo, after_insertUser]
  rfl

/-- **A submission moves** between stores on which its user has the same vote on its video, provided
no video was removed. -/
theorem moves_submit {b : Backend} {q : VoteRequest} (hcons : D.Consistent)
    (hvideos : D.videos.lookup q.videoID ≠ none → D'.videos.lookup q.videoID ≠ none)
    (hread : 4 ≤ vs.length →
      D'.votedCategory q.videoID q.userID = D.votedCategory q.videoID q.userID) :
    Moves D D' (VoteCall.submit b q).code vs := by
  rw [code_submit]
  refine Moves.write touches_insertUser insertUser_ne_nil fun {_ vs₁} hvs huser ↦ ?_
  subst hvs
  refine Moves.stmt_same (fun _ ↦ rfl) (fun _ ↦ ?_) fun {_ vs₂} hvs ↦ ?_
  · -- the trust read is that of the user's row, which is held
    have htrust : selectTrustScore q.userID (D'.after (insertUser q.now q.userID)) =
        selectTrustScore q.userID (D.after (insertUser q.now q.userID)) := by
      rw [after_insertUser, after_insertUser, selectTrustScore, selectTrustScore,
        Table.lookup_insert_self, Table.lookup_insert_self,
        show D.users.lookup q.userID = D'.users.lookup q.userID from huser]
    exact congrArg (fun w ↦ stmt (insertVideo q.now q.videoID) fun _ ↦ stmt (fun _ ↦ []) fun s' ↦
      recordVote q w (selectCategory q.videoID q.userID s')) htrust
  subst hvs
  have hrest : ∀ {v vs'}, vs₂ = v :: vs' →
      Moves ((D.after (insertUser q.now q.userID)).after (insertVideo q.now q.videoID))
        ((D'.after (insertUser q.now q.userID)).after (insertVideo q.now q.videoID))
        (stmt (fun _ ↦ []) fun s' ↦ recordVote q
          (selectTrustScore q.userID (D.after (insertUser q.now q.userID)))
          (selectCategory q.videoID q.userID s')) vs' := by
    rintro _ vs₃ rfl
    refine Moves.stmt_same (fun _ ↦ rfl) (fun hne ↦ ?_) fun _ ↦ ?_
    · rw [selectCategory, selectCategory, votedCategory_after_inserts, votedCategory_after_inserts,
        hread]
      have hpos := List.length_pos_iff.2 hne
      simp only [List.length_cons]
      omega
    · refine moves_recordVote (D := (D.after (insertUser q.now q.userID)).after
        (insertVideo q.now q.videoID)) ?_ fun c hc ↦ ?_
      · rw [after_insertVideo, Table.lookup_insert_self]
        exact Option.some_ne_none _
      · rw [selectCategory, votedCategory_after_inserts] at hc
        rw [after_insertVideo, after_insertUser]
        exact hcons.voteCount_pos hc
  -- a video that is there is not inserted, on either store
  by_cases hv : D.videos.lookup q.videoID = none
  · refine Moves.write touches_insertVideo (insertVideo_ne_nil ?_) fun hvs _ ↦ hrest hvs
    change (D.after (insertUser q.now q.userID)).videos.lookup q.videoID = none
    rw [after_insertUser]
    exact hv
  · refine Moves.stmt_same (fun _ ↦ ?_) (fun _ ↦ rfl) hrest
    rw [RowStore.applyAll_nil, RowStore.applyAll_nil,
      insertVideo_eq_nil (videos_lookup_applyAll_ne_none _ hv),
      insertVideo_eq_nil (videos_lookup_applyAll_ne_none _ (hvideos hv))]

/-- **A deletion of a vote moves** between stores on which its user has the same vote on its
video. -/
theorem moves_delete {b : Backend} {q : VoteDeleteRequest} (hcons : D.Consistent)
    (hvote : D.votedCategory q.videoID q.userID ≠ none)
    (hread : vs ≠ [] →
      D'.votedCategory q.videoID q.userID = D.votedCategory q.videoID q.userID) :
    Moves D D' (VoteCall.delete b q).code vs := by
  rw [code_delete]
  obtain ⟨c, hc⟩ := Option.ne_none_iff_exists'.1 hvote
  refine Moves.stmt_same (fun _ ↦ rfl) (fun hne ↦ ?_) fun _ ↦ ?_
  · rw [selectCategory, selectCategory, hread hne]
  · rw [selectCategory, hc]
    exact moves_eraseVote hvote (hcons.totalVotes_pos hvote) (hcons.voteCount_pos hc)

end Moves

/-! ### Requests that have written their vote -/

/-- A submission that has begun holds its user. -/
theorem user_mem_log_submit {b : Backend} {q : VoteRequest} {vs : List DB} (h : vs ≠ []) :
    Row.user q.userID ∈ RowStore.rows ((VoteCall.submit b q).code.log vs) := by
  obtain ⟨s, vs, rfl⟩ := List.exists_cons_of_ne_nil h
  obtain ⟨x, hx⟩ := List.exists_mem_of_ne_nil _
    (show insertUser q.now q.userID s ≠ [] from insertUser_ne_nil)
  refine RowStore.mem_rows.2 ⟨x, ?_, touches_insertUser.row hx⟩
  rw [code_submit, log_stmt_cons]
  exact List.mem_append_left _ hx

/-- A submission with a fifth statement holds its vote. -/
theorem vote_mem_log_submit {b : Backend} {q : VoteRequest} {vs : List DB} (h : 5 ≤ vs.length) :
    Row.vote q.videoID q.userID ∈ RowStore.rows ((VoteCall.submit b q).code.log vs) := by
  match vs, h with
  | s₁ :: s₂ :: s₃ :: s₄ :: s₅ :: vs, _ =>
    obtain ⟨x, hx⟩ := List.exists_mem_of_ne_nil _
      (show upsertVote q (selectTrustScore q.userID s₂) s₅ ≠ [] from
        upsertVote_ne_nil q _)
    refine RowStore.mem_rows.2 ⟨x, ?_, (touches_upsertVote q _).row hx⟩
    rw [code_submit]
    simp only [log_stmt_cons, recordVote, exec_bind, List.mem_append]
    exact Or.inr (Or.inr (Or.inr (Or.inr (Or.inl hx))))

/-- A deletion of a vote with a second statement holds the vote. -/
theorem vote_mem_log_delete {b : Backend} {q : VoteDeleteRequest} {D : DB} {vs : List DB}
    (hvote : D.votedCategory q.videoID q.userID ≠ none)
    (hrep : Replays D (VoteCall.delete b q).code vs) (h : 2 ≤ vs.length) :
    Row.vote q.videoID q.userID ∈ RowStore.rows ((VoteCall.delete b q).code.log vs) := by
  obtain ⟨c, hc⟩ := Option.ne_none_iff_exists'.1 hvote
  match vs, h with
  | s₁ :: s₂ :: vs, _ =>
    rw [code_delete] at hrep ⊢
    obtain ⟨-, hk, hrep⟩ := hrep
    simp only [selectCategory, hc] at hk hrep
    obtain ⟨hdrop, -, -⟩ := hrep
    obtain ⟨x, hx⟩ := List.exists_mem_of_ne_nil _ (dropVote_ne_nil hvote)
    refine RowStore.mem_rows.2 ⟨x, ?_, touches_dropVote.row hx⟩
    rw [log_stmt_cons, selectCategory, ← hk, List.nil_append, eraseVote, exec_bind, log_stmt_cons]
    exact List.mem_append_left _ (hdrop ▸ hx)

/-! ### Concurrent requests -/

section Concurrent

variable {ι : Type} [DecidableEq ι] [Fintype ι] (calls : ι → VoteCall)

/-- The transactions of a family of requests. -/
def codes (i : ι) : Tx DB Write (Except VoteError (Option ℚ)) := (calls i).code

/-- Request `j` is between reading its user's vote and writing it: a submission after its fourth
statement, a deletion that found a vote after its first. -/
def Deciding (sys : Sys DB ι) (j : ι) : Prop :=
  j ∉ sys.ended ∧ match calls j with
    | .submit _ _ => (sys.seen j).length = 4
    | .delete _ q => ∃ s, sys.seen j = [s] ∧ s.votedCategory q.videoID q.userID ≠ none

/-- What request `i` commits, if it commits now, leaves alone the votes that other requests have
read and are about to write. -/
def ReadsKept (sys : Sys DB ι) (i : ι) : Prop :=
  ∀ a, sys.rest (codes calls) i = ret (.ok a) → ∀ j, j ≠ i → Deciding calls sys j →
    (sys.view (codes calls) i).votedCategory (calls j).videoID (calls j).userID =
      sys.committed.votedCategory (calls j).videoID (calls j).userID

variable {calls} {sys : Sys DB ι} {s₀ : DB}

/-- **A commit leaves the other requests replaying.** -/
theorem replays_after_commit (hreach : Reachable (codes calls) s₀ sys) {i j : ι} (hij : j ≠ i)
    (hi : i ∉ sys.ended) (hj : j ∉ sys.ended) (hcons : sys.committed.Consistent)
    (hkept : Deciding calls sys j →
      (sys.view (codes calls) i).votedCategory (calls j).videoID (calls j).userID =
        sys.committed.votedCategory (calls j).videoID (calls j).userID)
    (hok : ∀ e, sys.rest (codes calls) j ≠ ret (.error e))
    (hrep : Replays sys.committed (codes calls j) (sys.seen j)) :
    Replays (sys.view (codes calls) i) (codes calls j) (sys.seen j) := by
  have hheld : SameHeld sys.committed (sys.view (codes calls) i) (codes calls j) (sys.seen j) :=
    fun r hr ↦ RowStore.same_applyAll_of_notMem _ fun hri ↦
      held_disjoint hreach hij (mem_held_iff.2 ⟨hj, hr⟩) (mem_held_iff.2 ⟨hi, hri⟩)
  have hvoteHeld : ∀ {v u}, Row.vote v u ∈ RowStore.rows ((codes calls j).log (sys.seen j)) →
      (sys.view (codes calls) i).votedCategory v u = sys.committed.votedCategory v u := by
    intro v u hr
    have hsame : sys.committed.votes.lookup (v, u) =
        (sys.view (codes calls) i).votes.lookup (v, u) := hheld _ hr
    rw [DB.votedCategory, DB.votedCategory, hsame]
  rw [Deciding] at hkept
  rw [Sys.rest] at hok
  rw [codes] at hheld hvoteHeld hrep hok ⊢
  cases hcall : calls j with
  | submit b q =>
    rw [hcall] at hheld hvoteHeld hrep hkept
    refine moves_submit hcons (videos_lookup_applyAll_ne_none _) (fun hlen ↦ ?_) hheld hrep
    rcases hlen.eq_or_lt with hlen | hlen
    · exact hkept ⟨hj, hlen.symm⟩
    · exact hvoteHeld (vote_mem_log_submit hlen)
  | delete b q =>
    rw [hcall] at hheld hvoteHeld hrep hkept hok
    cases hseen : sys.seen j with
    | nil => exact replays_nil ..
    | cons s vs =>
      rw [hseen] at hheld hvoteHeld hrep hok
      -- the deletion found a vote, and the committed store still has one
      have hs : s.votedCategory q.videoID q.userID ≠ none := fun hnone ↦ by
        refine hok b.notFound ?_
        rw [code_delete, rest_stmt_cons, selectCategory, hnone, rest_ret]
      have hvote : sys.committed.votedCategory q.videoID q.userID ≠ none := fun hnone ↦ by
        obtain ⟨c, hc⟩ := Option.ne_none_iff_exists'.1 hs
        rw [code_delete] at hrep
        have hk := hrep.2.1
        simp only [selectCategory, hnone, hc] at hk
        cases hk
      refine moves_delete hcons hvote (fun _ ↦ ?_) hheld hrep
      cases vs with
      | nil => exact hkept ⟨hj, s, hseen, hs⟩
      | cons s' vs =>
        exact hvoteHeld (vote_mem_log_delete hvote hrep (by simp))

/-- **What holds throughout a run whose commits keep the reads**: the committed counters are
consistent, and every request still at work replays on the committed store. -/
theorem replays_of_readsKept (h₀ : s₀.Consistent)
    (h : Run (codes calls) (ReadsKept calls) s₀ sys) :
    sys.committed.Consistent ∧ ∀ i, i ∉ sys.ended →
      (∀ e, sys.rest (codes calls) i ≠ ret (.error e)) →
        Replays sys.committed (codes calls i) (sys.seen i) := by
  refine Run.inv_each (G := DB.Consistent) (I := fun D i vs ↦
    (∀ e, (codes calls i).rest vs ≠ ret (.error e)) → Replays D (codes calls i) vs)
    h₀ (fun i _ ↦ replays_nil ..) ?_ ?_ h
  · intro sys i w k _ _ hi hrest _ _ hrep _
    have hnot : ∀ e, (codes calls i).rest (sys.seen i) ≠ ret (.error e) := fun e he ↦ by
      rw [show (codes calls i).rest (sys.seen i) = stmt w k from hrest] at he
      cases he
    exact (hrep hnot).snoc
  · intro sys i a hrun hkept hi hrest hcons hrep
    have hnot : ∀ e, (codes calls i).rest (sys.seen i) ≠ ret (.error e) := fun e he ↦ by
      rw [show (codes calls i).rest (sys.seen i) = ret (.ok a) from hrest] at he
      cases he
    have htx := runTx_of_replays (hrep i hi hnot) hrest
    refine ⟨?_, fun j hji hj hok ↦ ?_⟩
    · have hstep := hcons.step (.request (calls i))
      rwa [VoteEvent.step, show (calls i).code.runTx sys.committed = _ from htx] at hstep
    · exact replays_after_commit hrun.reachable hji hi hj hcons (hkept a hrest j hji) hok
        (hrep j hj hok)

/-! ### Serializability -/

/-- The requests have had the outcome, timestamps aside, of running them one at a time in some
order. -/
def Serializable (calls : ι → VoteCall) (s₀ : DB) (sys : Sys DB ι) : Prop :=
  ∃ order : List ι, order.Nodup ∧ (∀ i, i ∈ order) ∧
    (∀ k, ((runSerial (codes calls) order s₀).votes.lookup k).map
        (fun row ↦ { row with createdAt := 0 }) =
      (sys.committed.votes.lookup k).map fun row ↦ { row with createdAt := 0 }) ∧
    (∀ v, (runSerial (codes calls) order s₀).totalVotes v = sys.committed.totalVotes v) ∧
    (∀ v c, (runSerial (codes calls) order s₀).voteCount v c = sys.committed.voteCount v c) ∧
    (answersSerial (codes calls) order s₀).map Except.isOk =
      order.map (sys.succeeds (codes calls))

/-- **Requests that keep each other's reads are serializable.** In a run in which no commit changes
a vote that another request has read and is about to write, the requests end, from any database with
consistent counters, as if run one at a time. -/
theorem serializable_of_readsKept (h₀ : s₀.Consistent)
    (h : Run (codes calls) (ReadsKept calls) s₀ sys) (hended : ∀ i, i ∈ sys.ended) :
    Serializable calls s₀ sys := by
  obtain ⟨order, hser⟩ := serial_of_run (fun hrun ↦ (replays_of_readsKept h₀ hrun).2) h
  refine ⟨order, hser.nodup, fun i ↦ hser.ended i (hended i), fun k ↦ by rw [hser.store],
    fun v ↦ by rw [hser.store], fun v c ↦ by rw [hser.store], ?_⟩
  have hmap := congrArg (List.map Tx.succeeds) hser.answers
  rwa [List.map_map, List.map_map] at hmap

/-- Two requests that never get in each other's way: they are by different users or on different
videos, or both are submissions. -/
def VoteCall.Compatible : VoteCall → VoteCall → Prop
  | submit _ _, submit _ _ => True
  | call, call' => call.videoID ≠ call'.videoID ∨ call.userID ≠ call'.userID

/-- **Compatible requests keep each other's reads.** Two submissions of one user cannot both be past
their first statement, which takes the lock on the user's row. -/
theorem readsKept_of_compatible (hcalls : ∀ i j, i ≠ j → (calls i).Compatible (calls j))
    (hreach : Reachable (codes calls) s₀ sys) {i : ι} (hi : i ∉ sys.ended) :
    ReadsKept calls sys i := by
  intro a hrest j hji hj
  suffices hnot : Row.vote (calls j).videoID (calls j).userID ∉
      RowStore.rows ((codes calls i).log (sys.seen i)) by
    have hsame : sys.committed.votes.lookup ((calls j).videoID, (calls j).userID) =
        (sys.view (codes calls) i).votes.lookup ((calls j).videoID, (calls j).userID) :=
      RowStore.same_applyAll_of_notMem (r := Row.vote _ _) _ hnot
    rw [DB.votedCategory, DB.votedCategory, hsame]
  intro hr
  obtain ⟨hv, hu⟩ : (calls j).videoID = (calls i).videoID ∧ (calls j).userID = (calls i).userID :=
    (within_code (calls i)).log (sys.seen i) _ hr
  have hcompat := hcalls i j hji.symm
  cases hci : calls i with
  | delete b q =>
    rw [hci] at hcompat hv hu
    exact hcompat.elim (fun h ↦ h hv.symm) fun h ↦ h hu.symm
  | submit b q =>
    cases hcj : calls j with
    | delete b' q' =>
      rw [hci, hcj] at hcompat
      rw [hci, hcj] at hv hu
      exact hcompat.elim (fun h ↦ h hv.symm) fun h ↦ h hu.symm
    | submit b' q' =>
      -- both hold the user's row
      obtain ⟨hjended, hjseen⟩ := hj
      rw [hcj] at hjseen hu
      rw [hci] at hu
      have hiseen : sys.seen i ≠ [] := fun hnil ↦ by
        rw [hnil, log_nil] at hr
        exact List.not_mem_nil hr
      have hheldi : Row.user q.userID ∈ sys.held (codes calls) i := by
        refine mem_held_iff.2 ⟨hi, ?_⟩
        rw [Sys.log, codes, hci]
        exact user_mem_log_submit hiseen
      have hheldj : Row.user q'.userID ∈ sys.held (codes calls) j := by
        refine mem_held_iff.2 ⟨hjended, ?_⟩
        rw [Sys.log, codes, hcj]
        exact user_mem_log_submit fun hnil ↦ by simp [hnil] at hjseen
      rw [show q'.userID = q.userID from hu] at hheldj
      exact held_disjoint hreach hji.symm hheldi hheldj

end Concurrent

/-- Two users vote on one video, each for a category of their own. -/
def twoVoters (i : Fin 2) : VoteCall :=
  .submit (if i.val = 0 then .go else .python)
    { videoID := "v", userID := if i.val = 0 then "a" else "b",
      category := if i.val = 0 then .fullyAI else .aiAssisted, ipHash := "", userAgent := none,
      now := 0 }

theorem twoVoters_exec : ((Sys.init (DB.start ∅ ∅)).exec (codes twoVoters)
    (fun _ _ ↦ True) [0, 1, 0, 1, 0, 0, 0, 0, 0, 0, 0, 1, 1, 1, 1, 1, 1, 1]).isSome := by
  decide +kernel

theorem serializable_twoVoters :
    Serializable twoVoters (DB.start ∅ ∅) (Option.get _ twoVoters_exec) := by
  have hcompat : ∀ i j, i ≠ j → (twoVoters i).Compatible (twoVoters j) := fun _ _ _ ↦ trivial
  exact serializable_of_readsKept (consistent_start ∅ ∅)
    (.of_forall (fun hreach hi ↦ readsKept_of_compatible hcompat hreach hi)
      (run_of_exec .init (Option.some_get _).symm))
    (by decide +kernel)

/-- A user deletes a vote from two tabs. -/
def doubleDelete (i : Fin 2) : VoteCall :=
  .delete (if i.val = 0 then .go else .python) { videoID := "v", userID := "a", now := 0 }

/-- Two votes on one video. -/
def twoVotes : DB :=
  (DB.start ∅ ∅).runVotes ((List.finRange 2).map fun i ↦ .request (twoVoters i))

/-- Both deletions read the vote before either removes it. -/
theorem doubleDelete_exec : ((Sys.init twoVotes).exec (codes doubleDelete)
    (fun _ _ ↦ True) [0, 1, 0, 0, 0, 0, 0, 1, 1, 1, 1, 1]).isSome := by
  decide +kernel

/-- **A vote deleted twice at the same time is subtracted twice.** -/
theorem not_serializable_doubleDelete :
    ¬ ∀ sys, Reachable (codes doubleDelete) twoVotes sys → (∀ i, i ∈ sys.ended) →
      Serializable doubleDelete twoVotes sys := by
  intro h
  obtain ⟨order, hnodup, hmem, -, htotal, -⟩ := h (Option.get _ doubleDelete_exec)
    (run_of_exec .init (Option.some_get _).symm) (by decide +kernel)
  have horder : order = [0, 1] ∨ order = [1, 0] := by
    have hperm : order.Perm [0, 1] := (List.perm_ext_iff_of_nodup hnodup (by decide)).2 fun i ↦
      iff_of_true (hmem i) (by decide +revert)
    obtain ⟨i, j, rfl⟩ := List.length_eq_two.1 hperm.length_eq
    have hpairs : ∀ i j : Fin 2, [i, j].Nodup → [i, j] = [0, 1] ∨ [i, j] = [1, 0] := by decide
    exact hpairs i j hnodup
  have hone := htotal "v"
  revert hone
  obtain rfl | rfl := horder <;> decide +kernel

end RealTube
