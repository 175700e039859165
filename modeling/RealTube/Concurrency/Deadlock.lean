import RealTube.Concurrency.Footprint
import RealTube.Store.LockOrder
import RealTube.Votes.Counters

/-!
# Deadlocks between requests

Votes, deletions and recalculations lock a user, a vote, and then the **counters**: rows of `videos`
and `video_categories`. Users and votes are always locked before the counters, so they cannot take
part in a cycle. The counters have no such order:

* a new vote, a deletion and a recalculation without weight lock the video first;
* a changed vote, a repeated one and a recalculation with weight lock categories first, and a
  changed vote locks its old category before the new one.

What a request is going to lock is its **plan**, a function of the request and of what it has read
(`Call.counterPlan`). When the plans of the requests at work agree with one order of the counters
(`LockOrder`), every request asks for rows above the ones it holds, and there is no deadlock
(`no_deadlock_of_lockOrder`). A video that is not committed yet needs care: only its submission can
lock it, and does so before the vote (`VideoReady`, `lockRank`).

A new vote beside a changed one on the same video can deadlock (`deadlock_newBesideChanged`).
-/

open Tx ReadCommitted

namespace RealTube

/-! ### The order in which the counters are locked -/

/-- The counters a submission locks, in order, after it has read the existing category: those of a
new vote, of a changed one, and of the same vote again. -/
def VoteRequest.counterPlan (q : VoteRequest) : Option Category → List Row
  | none => [.video q.videoID, .videoCategory q.videoID q.category]
  | some c =>
    if c ≠ q.category then
      [.videoCategory q.videoID c, .videoCategory q.videoID q.category, .video q.videoID]
    else [.videoCategory q.videoID q.category, .video q.videoID]

/-- The rows of `videos` and `video_categories` a vote request is going to lock, in order, as far as
it has read what decides it. -/
def VoteCall.counterPlan : VoteCall → List DB → List Row
  | .submit _ q, _ :: _ :: _ :: s :: _ => q.counterPlan (selectCategory q.videoID q.userID s)
  | .delete _ q, s :: _ =>
    match selectCategory q.videoID q.userID s with
    | none => []
    | some c => [.video q.videoID, .videoCategory q.videoID c]
  | _, _ => []

/-- The rows a recalculation is going to lock, in order, as far as it has read what decides it. -/
def RecalculateRequest.counterPlan (q : RecalculateRequest) : List DB → List Row
  | s :: s' :: vs =>
    if s.weightOn q.videoID = 0 then
      .video q.videoID :: match vs with
        | [] => []
        | s'' :: _ => (selectCategories q.scanOrder q.videoID s'').map (.videoCategory q.videoID)
    else
      (selectGroups q.groupOrder q.videoID s').map (fun group ↦ .videoCategory q.videoID group.1) ++
        [.video q.videoID]
  | _ => []

/-- The rows of `videos` and `video_categories` a request is going to lock, in order, as far as it
has read what decides it. -/
def Call.counterPlan : Call → List DB → List Row
  | vote call => call.counterPlan
  | recalculate _ q => q.counterPlan

/-- A statement finds the video it locks. -/
def FindsVideo (s : DB) (r : Row) : Prop := ∀ v, r = .video v → s.videos.lookup v ≠ none

theorem findsVideo_videoCategory (s : DB) (v : VideoID) (c : Category) :
    FindsVideo s (.videoCategory v c) := fun _ h ↦ nomatch h

theorem findsVideo_vote (s : DB) (v : VideoID) (u : UserID) : FindsVideo s (.vote v u) :=
  fun _ h ↦ nomatch h

theorem findsVideo_video {s : DB} {v : VideoID} (h : s.videos.lookup v ≠ none) :
    FindsVideo s (.video v) := by
  rintro v' hv
  cases hv
  exact h

/-- **A submission follows its plan** once it has read the existing category, on views that have its
video. -/
theorem follows_recordVote (q : VoteRequest) (w : ℚ) (existingCategory : Option Category) :
    (recordVote q w existingCategory).Follows (fun s ↦ s.videos.lookup q.videoID ≠ none) FindsVideo
      [] (.vote q.videoID q.userID :: q.counterPlan existingCategory) := by
  have hcount : ∀ (held : List Row) (x : Except VoteError (Option ℚ)),
      (stmt (incrementVoteCount q.videoID q.category) fun _ ↦
        stmt (touchVideo q.now q.videoID) fun _ ↦ ret x).Follows
        (fun s ↦ s.videos.lookup q.videoID ≠ none) FindsVideo held
        [.videoCategory q.videoID q.category, .video q.videoID] :=
    fun held x ↦ .take touches_incrementVoteCount (fun s _ _ ↦ findsVideo_videoCategory s _ _)
      fun _ _ ↦ .take touches_touchVideo (fun _ hs _ ↦ findsVideo_video hs) fun _ _ ↦ trivial
  refine .take (touches_upsertVote q w) (fun s _ _ ↦ findsVideo_vote s _ _) fun _ _ ↦ ?_
  cases existingCategory with
  | none =>
    refine .take touches_incrementTotalVotes (fun _ hs _ ↦ findsVideo_video hs) fun s hs ↦
      .take touches_incrementVoteCount (fun s _ _ ↦ findsVideo_videoCategory s _ _) fun _ _ ↦
      .again touches_touchVideo ?_ fun _ _ ↦ trivial
    -- the video was locked when its total was incremented
    obtain ⟨x, hx⟩ := List.exists_mem_of_ne_nil _
      (show incrementTotalVotes q.now q.videoID s ≠ [] from incrementTotalVotes_ne_nil hs)
    have hvideo : Row.video q.videoID ∈ RowStore.rows (incrementTotalVotes q.now q.videoID s) :=
      RowStore.mem_rows.2 ⟨x, hx, touches_incrementTotalVotes.row hx⟩
    simp [hvideo]
  | some c =>
    by_cases hc : c = q.category
    · simp only [VoteRequest.counterPlan, countReplaced, hc, ne_eq, not_true_eq_false, if_false]
      exact hcount _ _
    · simp only [VoteRequest.counterPlan, countReplaced, ne_eq, hc, not_false_eq_true, if_true]
      exact .take touches_decrementVoteCount (fun s _ _ ↦ findsVideo_videoCategory s _ _)
        fun _ _ ↦ hcount _ _

/-- **A deletion follows its plan** once it has read the category. -/
theorem follows_eraseVote (q : VoteDeleteRequest) (c : Category) :
    (eraseVote q c).Follows (fun _ ↦ True) FindsVideo []
      [.vote q.videoID q.userID, .video q.videoID, .videoCategory q.videoID c] := by
  refine .take touches_dropVote (fun s _ _ ↦ findsVideo_vote s _ _) fun _ _ ↦
    .take touches_decrementTotalVotes (fun s _ hne ↦ findsVideo_video fun hnone ↦ hne ?_) fun _ _ ↦
    .take touches_decrementVoteCount (fun s _ _ ↦ findsVideo_videoCategory s _ _) fun _ _ ↦
    .rowless (fun h ↦ List.mem_singleton.1 h ▸ rfl) fun _ ↦ trivial
  rw [decrementTotalVotes, hnone]

/-- Updates of categories follow the order they come in. -/
theorem follows_setWeightedScores (v : VideoID) {γ : Type} (f : γ → ℚ) (g : γ → Category)
    (held plan : List Row) {k : Tx DB Write (Except VoteError (Option ℚ))} (cs : List γ)
    (hk : ∀ held, k.Follows (fun _ ↦ True) FindsVideo held plan) :
    (((cs.forM fun x ↦ exec (setWeightedScore v (f x) (g x)) : Tx DB Write Unit) >>=
      fun _ ↦ k).Follows (fun _ ↦ True) FindsVideo held
        (cs.map (fun x ↦ Row.videoCategory v (g x)) ++ plan)) := by
  induction cs generalizing held with
  | nil => exact hk held
  | cons x cs ih =>
    exact .take touches_setWeightedScore (fun s _ _ ↦ findsVideo_videoCategory s _ _) fun _ _ ↦ ih _

/-- The updates of a recalculation without weight. -/
def resetCategories (q : RecalculateRequest) (cs : List Category) :
    Tx DB Write (Except VoteError (Option ℚ)) :=
  (cs.forM fun c ↦ exec (setWeightedScore q.videoID 0 c) : Tx DB Write Unit) >>=
    fun _ ↦ ret (.ok none)

theorem follows_resetCategories (q : RecalculateRequest) (cs : List Category) :
    (resetCategories q cs).Follows (fun _ ↦ True) FindsVideo []
      (cs.map (Row.videoCategory q.videoID)) := by
  have h := follows_setWeightedScores q.videoID (fun _ ↦ 0) id [] [] (k := ret (.ok none)) cs
    fun _ ↦ trivial
  rwa [List.append_nil] at h

/-- **A recalculation with weight follows its plan** once it has read the groups. -/
theorem follows_updateScores (q : RecalculateRequest) (W : ℚ) (groups : List (Category × ℚ)) :
    (updateScores q W groups >>= fun _ ↦ ret (.ok none) :
      Tx DB Write (Except VoteError (Option ℚ))).Follows (fun _ ↦ True) FindsVideo []
      (groups.map (fun group ↦ .videoCategory q.videoID group.1) ++ [.video q.videoID]) := by
  rw [updateScores, bind_assoc]
  refine follows_setWeightedScores q.videoID _ Prod.fst [] _ groups fun held ↦ ?_
  refine .take touches_setScore (fun s _ hne ↦ findsVideo_video fun hnone ↦ hne ?_)
    fun _ _ ↦ trivial
  rw [setScore, hnone]

/-! ### Ranks -/

/-- The ranks of the rows, given an order of the counters: users, votes, counters. -/
def baseRank (ρ : Row → ℕ) : Row → ℕ
  | .user _ => 0
  | .video v => 3 + ρ (.video v)
  | .vote _ _ => 2
  | .videoCategory v c => 3 + ρ (.videoCategory v c)
  | .channel _ => 0

/-- The ranks of the rows on a committed database. A video that is not there can only be locked by
the submission that inserts it, before its vote. -/
def lockRank (db : DB) (ρ : Row → ℕ) (r : Row) : ℕ :=
  match r with
  | .video v => if db.videos.lookup v = none then 1 else baseRank ρ (.video v)
  | r => baseRank ρ r

theorem lockRank_le (db : DB) (ρ : Row → ℕ) (r : Row) : lockRank db ρ r ≤ baseRank ρ r := by
  cases r with
  | video v =>
    rw [lockRank]
    split_ifs
    · rw [baseRank]
      omega
    · exact le_rfl
  | _ => exact le_rfl

theorem lockRank_of_findsVideo {db : DB} {ρ : Row → ℕ} {r : Row} (h : FindsVideo db r) :
    lockRank db ρ r = baseRank ρ r := by
  cases r with
  | video v => exact if_neg (h v rfl)
  | _ => rfl

/-- **The last part of a transaction asks upwards.** Once a transaction follows a plan of rising
rank, what it asks for ranks above what it has taken of it, and above the rows `head` that it took
before. -/
theorem lockRank_lt_of_follows {db view : DB} {ρ : Row → ℕ} {I : DB → Prop} {plan : List Row}
    {p : Tx DB Write (Except VoteError (Option ℚ))} (hp : p.Follows I FindsVideo [] plan)
    (hplan : plan.Pairwise fun r r' ↦ baseRank ρ r < baseRank ρ r') {vs : List DB}
    (hvs : ∀ s ∈ vs, I s) (hview : I view) (head : List Row)
    (hhead : ∀ r ∈ head, ∀ r' ∈ plan, lockRank db ρ r < baseRank ρ r')
    (hsame : ∀ r, r ∉ head ++ RowStore.rows (p.log vs) → FindsVideo view r → FindsVideo db r) :
    ∀ r ∈ (p.rest vs).asks view, r ∉ head ++ RowStore.rows (p.log vs) →
      ∀ r' ∈ head ++ RowStore.rows (p.log vs), lockRank db ρ r' < lockRank db ρ r := by
  intro r hr hnot r' hr'
  have hnot' := hnot
  rw [List.mem_append, not_or] at hnot'
  obtain ⟨taken, rest, rfl, hfinds, htaken⟩ :=
    hp.next hvs hview hr ⟨List.not_mem_nil, hnot'.2⟩
  rw [lockRank_of_findsVideo (hsame r hnot hfinds)]
  rcases List.mem_append.1 hr' with h | h
  · exact hhead r' h r (List.mem_append_right _ List.mem_cons_self)
  · have hmem : r' ∈ taken := (htaken r' h).resolve_left List.not_mem_nil
    exact (lockRank_le db ρ r').trans_lt
      ((List.pairwise_append.1 hplan).2.2 r' hmem r List.mem_cons_self)

/-- A row of `videos` or `video_categories`. -/
def Row.IsCounter : Row → Prop
  | .video _ => True
  | .videoCategory _ _ => True
  | _ => False

theorem baseRank_of_isCounter {ρ : Row → ℕ} {r : Row} (h : r.IsCounter) :
    baseRank ρ r = 3 + ρ r := by
  cases r with
  | video v => rfl
  | videoCategory v c => rfl
  | _ => exact h.elim

theorem pairwise_baseRank {ρ : Row → ℕ} {plan : List Row} (hcounters : ∀ r ∈ plan, r.IsCounter)
    (h : plan.Pairwise fun r r' ↦ ρ r < ρ r') :
    plan.Pairwise fun r r' ↦ baseRank ρ r < baseRank ρ r' := by
  refine h.imp_of_mem fun hr hr' hlt ↦ ?_
  rw [baseRank_of_isCounter (hcounters _ hr), baseRank_of_isCounter (hcounters _ hr')]
  omega

theorem isCounter_submit (q : VoteRequest) (existingCategory : Option Category) :
    ∀ r ∈ q.counterPlan existingCategory, r.IsCounter := by
  cases existingCategory with
  | none => simp [VoteRequest.counterPlan, Row.IsCounter]
  | some c => by_cases hc : c = q.category <;> simp [VoteRequest.counterPlan, Row.IsCounter, hc]

/-! ### Every transaction asks upwards -/

/-- Where a submission stands with its video: it inserted the video exactly when the video is not
committed yet, and has seen it ever since. -/
def VideoReady (v : VideoID) (db : DB) (vs : List DB) : Prop :=
  ∀ s₁ s₂ s₃ rest, vs = s₁ :: s₂ :: s₃ :: rest →
    (s₃.videos.lookup v = none ↔ db.videos.lookup v = none) ∧
      ∀ s ∈ rest, s.videos.lookup v ≠ none

/-- What a transaction asks for next ranks above what it holds. -/
def Ascends (db : DB) (ρ : Row → ℕ) (p : Tx DB Write (Except VoteError (Option ℚ)))
    (vs : List DB) : Prop :=
  ∀ r ∈ (p.rest vs).asks (RowStore.applyAll db (p.log vs)), r ∉ RowStore.rows (p.log vs) →
    ∀ r' ∈ RowStore.rows (p.log vs), lockRank db ρ r' < lockRank db ρ r

/-- A row that was not written is as committed. -/
theorem findsVideo_of_notMem {db : DB} {ws : List Write} {r : Row} (hr : r ∉ RowStore.rows ws)
    (h : FindsVideo (RowStore.applyAll db ws) r) : FindsVideo db r := by
  rintro v rfl
  have hsame : db.videos.lookup v = (RowStore.applyAll db ws).videos.lookup v :=
    RowStore.same_applyAll_of_notMem (r := Row.video v) db hr
  rw [hsame]
  exact h v rfl

/-- The rows of the first four statements of a submission. -/
theorem log_submit {b : Backend} {q : VoteRequest} (s₁ s₂ s₃ s₄ : DB) (vs : List DB) :
    (VoteCall.submit b q).code.log (s₁ :: s₂ :: s₃ :: s₄ :: vs) =
      (insertUser q.now q.userID s₁ ++ insertVideo q.now q.videoID s₃) ++
        (recordVote q (selectTrustScore q.userID s₂)
          (selectCategory q.videoID q.userID s₄)).log vs := by
  rw [code_submit]
  simp only [log_stmt_cons, List.nil_append, List.append_assoc]

/-- After its third statement a submission sees its video. -/
theorem video_of_ready {b : Backend} {q : VoteRequest} {db s₁ s₂ s₃ : DB} {rest : List DB}
    (hready : VideoReady q.videoID db (s₁ :: s₂ :: s₃ :: rest)) :
    (RowStore.applyAll db ((VoteCall.submit b q).code.log (s₁ :: s₂ :: s₃ :: rest))).videos.lookup
      q.videoID ≠ none := by
  obtain ⟨hiff, -⟩ := hready s₁ s₂ s₃ rest rfl
  rw [code_submit]
  simp only [log_stmt_cons, List.nil_append, RowStore.applyAll_append]
  refine videos_lookup_applyAll_ne_none _ ?_
  by_cases hnone : s₃.videos.lookup q.videoID = none
  · rw [insertVideo, hnone]
    change (Table.insert _ _ _).lookup q.videoID ≠ none
    rw [Table.lookup_insert_self]
    exact Option.some_ne_none _
  · exact videos_lookup_applyAll_ne_none _ (videos_lookup_applyAll_ne_none _
      fun h ↦ hnone (hiff.2 h))

/-- What a submission holds when it has read the existing category: its user, and its video if it
has inserted it. -/
theorem lockRank_head_submit {q : VoteRequest} {db s₁ s₃ : DB} {ρ : Row → ℕ}
    (hvideo : s₃.videos.lookup q.videoID = none → db.videos.lookup q.videoID = none) :
    ∀ r ∈ RowStore.rows (insertUser q.now q.userID s₁ ++ insertVideo q.now q.videoID s₃),
      lockRank db ρ r ≤ 1 := by
  intro r hr
  rw [RowStore.rows_append, List.mem_append] at hr
  rcases hr with hr | hr
  · obtain ⟨x, hx, hrow⟩ := RowStore.mem_rows.1 hr
    cases Option.some.inj (hrow.symm.trans (touches_insertUser.row hx))
    exact Nat.zero_le 1
  · obtain ⟨x, hx, hrow⟩ := RowStore.mem_rows.1 hr
    cases Option.some.inj (hrow.symm.trans (touches_insertVideo.row hx))
    have hnone : s₃.videos.lookup q.videoID = none := by
      by_contra hne
      rw [insertVideo_eq_nil hne] at hx
      cases hx
    exact (if_pos (hvideo hnone)).le

/-- A transaction that has taken nothing asks upwards. -/
theorem ascends_nil (db : DB) (ρ : Row → ℕ) (p : Tx DB Write (Except VoteError (Option ℚ))) :
    Ascends db ρ p [] := by
  intro r _ _ r' hr'
  rw [log_nil] at hr'
  exact absurd hr' List.not_mem_nil

/-- A statement that only read changes nothing. -/
theorem Ascends.read {db s : DB} {ρ : Row → ℕ}
    {k : DB → Tx DB Write (Except VoteError (Option ℚ))} {vs : List DB}
    (h : Ascends db ρ (k s) vs) : Ascends db ρ (stmt (fun _ ↦ []) k) (s :: vs) := h

/-- A transaction that follows a plan of counters from the start asks upwards. -/
theorem ascends_of_follows {db : DB} {ρ : Row → ℕ} {plan : List Row}
    {p : Tx DB Write (Except VoteError (Option ℚ))}
    (hp : p.Follows (fun _ ↦ True) FindsVideo [] plan)
    (hplan : plan.Pairwise fun r r' ↦ baseRank ρ r < baseRank ρ r') (vs : List DB) :
    Ascends db ρ p vs :=
  lockRank_lt_of_follows hp hplan (fun _ _ ↦ trivial) trivial []
    (fun _ hr ↦ absurd hr List.not_mem_nil) fun _ hr ↦ findsVideo_of_notMem hr

/-- The vote ranks below the counters. -/
theorem pairwise_vote {ρ : Row → ℕ} {v : VideoID} {u : UserID} {plan : List Row}
    (hcounters : ∀ r ∈ plan, r.IsCounter) (h : plan.Pairwise fun r r' ↦ ρ r < ρ r') :
    (Row.vote v u :: plan).Pairwise fun r r' ↦ baseRank ρ r < baseRank ρ r' := by
  refine List.pairwise_cons.2 ⟨fun r hr ↦ ?_, pairwise_baseRank hcounters h⟩
  rw [baseRank_of_isCounter (hcounters r hr), baseRank]
  omega

/-- **A submission asks upwards.** -/
theorem ascends_submit {b : Backend} {q : VoteRequest} {db : DB} {ρ : Row → ℕ} {vs : List DB}
    (hready : VideoReady q.videoID db vs)
    (hplan : ((VoteCall.submit b q).counterPlan vs).Pairwise fun r r' ↦ ρ r < ρ r') :
    Ascends db ρ (VoteCall.submit b q).code vs := by
  match vs with
  | [] => exact ascends_nil db ρ _
  | [s₁] =>
    intro r hr
    rw [code_submit] at hr
    exact absurd hr List.not_mem_nil
  | [s₁, s₂] =>
    -- it asks for its video to insert it, and holds its user
    intro r hr hnot r' hr'
    rw [code_submit] at hr hnot hr'
    obtain ⟨x, hx, hrow⟩ := RowStore.mem_rows.1 hr
    cases Option.some.inj (hrow.symm.trans (touches_insertVideo.row hx))
    have hnone : db.videos.lookup q.videoID = none := by
      by_contra hne
      rw [insertVideo_eq_nil (videos_lookup_applyAll_ne_none _ hne)] at hx
      cases hx
    rw [log_stmt_cons, RowStore.rows_append, List.mem_append] at hr'
    rcases hr' with hr' | hr'
    · obtain ⟨x', hx', hrow'⟩ := RowStore.mem_rows.1 hr'
      cases Option.some.inj (hrow'.symm.trans (touches_insertUser.row hx'))
      exact Nat.zero_lt_one.trans_eq (if_pos hnone).symm
    · rw [log_stmt_cons, log_nil] at hr'
      exact absurd hr' List.not_mem_nil
  | [s₁, s₂, s₃] =>
    intro r hr
    rw [code_submit] at hr
    exact absurd hr List.not_mem_nil
  | s₁ :: s₂ :: s₃ :: s₄ :: vs =>
    have hview := video_of_ready (b := b) hready
    obtain ⟨hvideo, hseen⟩ := hready s₁ s₂ s₃ (s₄ :: vs) rfl
    rw [List.forall_mem_cons] at hseen
    have hrest : (VoteCall.submit b q).code.rest (s₁ :: s₂ :: s₃ :: s₄ :: vs) =
        (recordVote q (selectTrustScore q.userID s₂)
          (selectCategory q.videoID q.userID s₄)).rest vs := by
      rw [code_submit]
      rfl
    have hcounters := isCounter_submit q (selectCategory q.videoID q.userID s₄)
    rw [Ascends]
    rw [log_submit] at hview ⊢
    rw [hrest, RowStore.rows_append]
    refine lockRank_lt_of_follows (follows_recordVote q _ _) (pairwise_vote hcounters hplan)
      hseen.2 hview _ (fun r hr r' hr' ↦ ?_) fun r hr ↦ ?_
    · have hle : lockRank db ρ r ≤ 1 := lockRank_head_submit hvideo.1 r hr
      rcases List.mem_cons.1 hr' with rfl | hr'
      · exact Nat.lt_succ_of_le hle
      · rw [baseRank_of_isCounter (hcounters r' hr')]
        omega
    · rw [← RowStore.rows_append] at hr
      exact findsVideo_of_notMem hr

/-- **A deletion asks upwards.** -/
theorem ascends_delete {b : Backend} {q : VoteDeleteRequest} {db : DB} {ρ : Row → ℕ} {vs : List DB}
    (hplan : ((VoteCall.delete b q).counterPlan vs).Pairwise fun r r' ↦ ρ r < ρ r') :
    Ascends db ρ (VoteCall.delete b q).code vs := by
  match vs with
  | [] => exact ascends_nil db ρ _
  | s :: vs =>
    rw [code_delete]
    refine Ascends.read ?_
    rw [VoteCall.counterPlan] at hplan
    cases hc : selectCategory q.videoID q.userID s with
    | none =>
      intro r hr
      rw [rest_ret] at hr
      exact absurd hr List.not_mem_nil
    | some c =>
      rw [hc] at hplan
      exact ascends_of_follows (follows_eraseVote q c)
        (pairwise_vote (by simp [Row.IsCounter]) hplan) vs

/-- **A recalculation asks upwards.** -/
theorem ascends_recalculate {b : Backend} {q : RecalculateRequest} {db : DB} {ρ : Row → ℕ}
    {vs : List DB} (hplan : (q.counterPlan vs).Pairwise fun r r' ↦ ρ r < ρ r') :
    Ascends db ρ (Call.recalculate b q).code vs := by
  have hcategory : ∀ {cs : List Category}, ∀ r ∈ cs.map (Row.videoCategory q.videoID),
      r.IsCounter := fun r hr ↦ by
    obtain ⟨c, -, rfl⟩ := List.mem_map.1 hr
    trivial
  rw [code_recalculate]
  match vs, hplan with
  | [], _ => exact ascends_nil db ρ _
  | [s], _ =>
    refine Ascends.read ?_
    split_ifs <;> exact ascends_nil db ρ _
  | s :: s' :: vs, hplan =>
    refine Ascends.read ?_
    by_cases hW : s.weightOn q.videoID = 0
    · rw [if_pos hW]
      simp only [RecalculateRequest.counterPlan, hW, if_true] at hplan
      match vs, hplan with
      | [], _ => exact fun r hr ↦ absurd hr List.not_mem_nil
      | s'' :: vs, hplan =>
        -- the updates of the rows it has found, holding the video
        rw [List.pairwise_cons] at hplan
        have hfollows := follows_resetCategories q (selectCategories q.scanOrder q.videoID s'')
        have hrows : RowStore.rows ((resetScores q >>= fun _ ↦ ret (.ok none) :
              Tx DB Write (Except VoteError (Option ℚ))).log (s' :: s'' :: vs)) =
            RowStore.rows (setScore q.now q.videoID 0 s') ++ RowStore.rows
              ((resetCategories q (selectCategories q.scanOrder q.videoID s'')).log vs) :=
          RowStore.rows_append ..
        rw [Ascends]
        rw [hrows]
        refine lockRank_lt_of_follows hfollows (pairwise_baseRank hcategory hplan.2)
          (fun _ _ ↦ trivial) trivial _ (fun r hr r' hr' ↦ ?_) fun r hr ↦ ?_
        · obtain ⟨x, hx, hrow⟩ := RowStore.mem_rows.1 hr
          cases Option.some.inj (hrow.symm.trans (touches_setScore.row hx))
          refine (lockRank_le db ρ _).trans_lt ?_
          have hlt := hplan.1 r' hr'
          rw [baseRank_of_isCounter (hcategory r' hr'), baseRank]
          omega
        · rw [← hrows] at hr
          exact findsVideo_of_notMem hr
    · rw [if_neg hW]
      simp only [RecalculateRequest.counterPlan, hW, if_false] at hplan
      refine Ascends.read (ascends_of_follows (follows_updateScores q _ _) ?_ vs)
      refine pairwise_baseRank (fun r hr ↦ ?_) hplan
      rcases List.mem_append.1 hr with hr | hr
      · obtain ⟨group, -, rfl⟩ := List.mem_map.1 hr
        trivial
      · cases List.mem_singleton.1 hr
        trivial

/-! ### No deadlock along a common order -/

section Concurrent

variable {ι : Type} [DecidableEq ι] [Fintype ι] (calls : ι → Call)

/-- There is one order of the counters in which all transactions at work are going to lock them, as
far as they have read what decides it. -/
def LockOrder (sys : Sys DB ι) : Prop :=
  ∃ ρ : Row → ℕ, ∀ i, i ∉ sys.ended →
    ((calls i).counterPlan (sys.seen i)).Pairwise fun r r' ↦ ρ r < ρ r'

variable {calls} {sys : Sys DB ι} {s₀ : DB}

omit [DecidableEq ι] [Fintype ι] in
/-- After two statements a submission sees the video as it is committed. -/
theorem video_second_view {b : Backend} {q : VoteRequest} (db s₁ s₂ : DB) :
    (RowStore.applyAll db ((VoteCall.submit b q).code.log [s₁, s₂])).videos.lookup q.videoID =
      db.videos.lookup q.videoID := by
  have hsame : db.videos.lookup q.videoID = (RowStore.applyAll db
      ((VoteCall.submit b q).code.log [s₁, s₂])).videos.lookup q.videoID := by
    refine RowStore.same_applyAll_of_notMem (W := Write) (r := Row.video q.videoID) db fun hr ↦ ?_
    rw [code_submit, log_stmt_cons, log_stmt_cons, log_nil, List.nil_append, List.append_nil] at hr
    obtain ⟨x, hx, hrow⟩ := RowStore.mem_rows.1 hr
    cases Option.some.inj (hrow.symm.trans (touches_insertUser.row hx))
  exact hsame.symm

omit [DecidableEq ι] [Fintype ι] in
/-- A submission that did not see its video holds it. -/
theorem video_mem_log_submit {b : Backend} {q : VoteRequest} {s₁ s₂ s₃ : DB} (rest : List DB)
    (h : s₃.videos.lookup q.videoID = none) : Row.video q.videoID ∈
      RowStore.rows ((VoteCall.submit b q).code.log (s₁ :: s₂ :: s₃ :: rest)) := by
  obtain ⟨x, hx⟩ := List.exists_mem_of_ne_nil _
    (show insertVideo q.now q.videoID s₃ ≠ [] from insertVideo_ne_nil h)
  refine RowStore.mem_rows.2 ⟨x, ?_, touches_insertVideo.row hx⟩
  rw [code_submit]
  simp only [log_stmt_cons, List.mem_append]
  exact Or.inr (Or.inr (Or.inl hx))

/-- **Submissions and their videos**, throughout every run. -/
theorem videoReady_of_reachable (hreach : Reachable (Call.codes calls) s₀ sys) {i : ι}
    (hi : i ∉ sys.ended) {b : Backend} {q : VoteRequest} (hcall : calls i = .vote (.submit b q)) :
    VideoReady q.videoID sys.committed (sys.seen i) := by
  refine (Run.inv_each (G := fun _ ↦ True) (I := fun db i vs ↦ ∀ b q,
    calls i = .vote (.submit b q) → VideoReady q.videoID db vs) trivial ?_ ?_ ?_ hreach).2 i hi b q
    hcall
  · intro i b q _ s₁ s₂ s₃ rest hvs
    cases hvs
  · intro sys i w k _ _ _ _ _ _ hI b q hcall s₁ s₂ s₃ rest hvs
    have hready := hI b q hcall
    rw [Sys.view, Sys.log, Call.codes, hcall] at hvs
    rcases hseen : sys.seen i with _ | ⟨a, _ | ⟨a', _ | ⟨a'', vs⟩⟩⟩
    · rw [hseen] at hvs
      cases hvs
    · rw [hseen] at hvs
      cases hvs
    · rw [hseen] at hvs
      cases hvs
      exact ⟨Eq.congr_left (video_second_view ..), fun s hs ↦ absurd hs List.not_mem_nil⟩
    · rw [hseen] at hvs hready
      cases hvs
      obtain ⟨hiff, hrest⟩ := hready _ _ _ vs rfl
      refine ⟨hiff, fun s hs ↦ ?_⟩
      rcases List.mem_append.1 hs with hs | hs
      · exact hrest s hs
      · cases List.mem_singleton.1 hs
        exact video_of_ready hready
  · intro sys i a hrun _ hi _ _ hI
    refine ⟨trivial, fun j hji hj b q hcall s₁ s₂ s₃ rest hvs ↦ ?_⟩
    obtain ⟨hiff, hrest⟩ := hI j hj b q hcall s₁ s₂ s₃ rest hvs
    refine ⟨⟨fun hnone ↦ ?_, fun hnone ↦ ?_⟩, hrest⟩
    · -- the video is inserted by `j`, which holds it
      have hheld : Row.video q.videoID ∈ sys.held (Call.codes calls) j := by
        refine mem_held_iff.2 ⟨hj, ?_⟩
        rw [Sys.log, Call.codes, hcall, hvs]
        exact video_mem_log_submit rest hnone
      have hsame : sys.committed.videos.lookup q.videoID =
          (sys.view (Call.codes calls) i).videos.lookup q.videoID :=
        RowStore.same_applyAll_of_notMem (r := Row.video q.videoID) _ fun hr ↦
          held_disjoint hrun.reachable hji hheld (mem_held_iff.2 ⟨hi, hr⟩)
      exact hsame.symm.trans (hiff.1 hnone)
    · by_contra hne
      exact videos_lookup_applyAll_ne_none _ (fun h ↦ hne (hiff.2 h)) hnone

/-- **No deadlock while there is a common lock order**: in every reachable state in which the
transactions at work are going to lock the counters in one order, none of them waits in a cycle. -/
theorem no_deadlock_of_lockOrder (hreach : Reachable (Call.codes calls) s₀ sys)
    (horder : LockOrder calls sys) : ¬ sys.Deadlock (Call.codes calls) := by
  obtain ⟨ρ, hρ⟩ := horder
  refine no_deadlock_of_rank hreach (lockRank sys.committed ρ) fun i hi r hr hnot r' hr' ↦ ?_
  have hascends : Ascends sys.committed ρ (calls i).code (sys.seen i) := by
    have hplan := hρ i hi
    have hready := fun b q ↦ videoReady_of_reachable hreach hi (b := b) (q := q)
    cases hcall : calls i with
    | vote call =>
      rw [hcall] at hplan
      cases call with
      | submit b q => exact ascends_submit (hready b q hcall) hplan
      | delete b q => exact ascends_delete hplan
    | recalculate b q =>
      rw [hcall] at hplan
      exact ascends_recalculate hplan
  exact hascends r hr (fun h ↦ hnot (mem_held_iff.2 ⟨hi, h⟩)) r' (mem_held_iff.1 hr').2

end Concurrent

/-- Two votes on the video of `oneVote`: a new one for its category, and another user's. -/
def votesBeside (u : UserID) : Fin 2 → Call
  | 0 => .vote (.submit .go
    { videoID := "v", userID := "b", category := .fullyAI, ipHash := "", userAgent := none,
      now := 0 })
  | 1 => .vote (.submit .python
    { videoID := "v", userID := u, category := .aiAssisted, ipHash := "", userAgent := none,
      now := 0 })

/-- Both have upserted their vote, and one of them holds its first counter. -/
theorem exec_newBesideNew : ((Sys.init oneVote).exec (Call.codes (votesBeside "c"))
    (fun _ _ ↦ True) [0, 0, 0, 0, 0, 1, 1, 1, 1, 1, 0]).isSome := by
  decide +kernel

/-- Two new votes on one video lock the video first. -/
theorem no_deadlock_newBesideNew :
    ¬ (Option.get _ exec_newBesideNew).Deadlock (Call.codes (votesBeside "c")) :=
  no_deadlock_of_lockOrder (run_of_exec .init (Option.some_get exec_newBesideNew).symm)
    ⟨fun | .video _ => 0 | _ => 1, by decide +kernel⟩

/-- The changed vote holds its counters, too. -/
theorem exec_newBesideChanged : ((Sys.init oneVote).exec (Call.codes (votesBeside "a"))
    (fun _ _ ↦ True) [0, 0, 0, 0, 0, 1, 1, 1, 1, 1, 0, 1, 1]).isSome := by
  decide +kernel

/-- **A new vote and a changed vote can deadlock**: the new one holds the video and needs the
category, the changed one holds the category and needs the video. -/
theorem deadlock_newBesideChanged :
    ¬ ∀ sys, Reachable (Call.codes (votesBeside "a")) oneVote sys →
      ¬ sys.Deadlock (Call.codes (votesBeside "a")) := by
  intro h
  refine h (Option.get _ exec_newBesideChanged)
    (run_of_exec .init (Option.some_get exec_newBesideChanged).symm) ⟨0, ?_⟩
  refine .head (b := 1) ?_ (.single ?_) <;> decide +kernel

end RealTube
