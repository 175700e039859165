import RealTube.Concurrency.Footprint
import RealTube.Store.ReadCommitted
import RealTube.Scores.Recalculation
import Mathlib.Algebra.Order.Field.Basic

/-!
# The range of the scores

A recalculation reads the total weight of a video in one statement and the weights of its categories
in the next, and under READ COMMITTED each sees its own snapshot. What is committed in between may
take votes away and move votes to other categories: each vote that the second statement finds was
then counted by the first, and the quotients stay at most 100 (`bounded_of_addsNoVote`). A vote of
someone who had none (`AddsNoVote`) can take the score of the video out of the range
(`not_bounded_sameCategory`).

That the scores are not negative needs the weights not to be. `DB.Nonneg` is the invariant; votes
get their weights from the users, so it is about both tables.
-/

open Tx ReadCommitted

namespace RealTube

/-! ### Weights are not negative -/

/-- No trust score and no weight is negative. -/
structure DB.Nonneg (db : DB) : Prop where
  users : ∀ u row, db.users.lookup u = some row → 0 ≤ row.trustScore
  votes : ∀ k row, db.votes.lookup k = some row → 0 ≤ row.trustWeight

/-- The write makes no trust score and no weight negative. -/
def Write.Nonneg : Write → Prop
  | user _ row => 0 ≤ row.trustScore
  | vote _ _ row => 0 ≤ row.trustWeight
  | _ => True

theorem DB.Nonneg.write {db : DB} {w : Write} (h : db.Nonneg) (hw : w.Nonneg) :
    (db.write w).Nonneg := by
  cases w with
  | user u row =>
    refine ⟨fun u' row' hrow ↦ ?_, h.votes⟩
    rw [DB.write, Table.lookup_insert] at hrow
    split_ifs at hrow
    · exact Option.some.inj hrow ▸ hw
    · exact h.users u' row' hrow
  | vote v u row =>
    refine ⟨h.users, fun k row' hrow ↦ ?_⟩
    rw [DB.write, Table.lookup_insert] at hrow
    split_ifs at hrow
    · exact Option.some.inj hrow ▸ hw
    · exact h.votes k row' hrow
  | dropVote v u =>
    refine ⟨h.users, fun k row' hrow ↦ ?_⟩
    rw [DB.write, Table.lookup_erase] at hrow
    split_ifs at hrow
    exact h.votes k row' hrow
  | _ => exact ⟨h.users, h.votes⟩

theorem DB.Nonneg.weightIn_nonneg {db : DB} (h : db.Nonneg) (v : VideoID) (c : Category) :
    0 ≤ db.weightIn v c :=
  Table.sum_nonneg fun k row hrow ↦ by
    split_ifs
    · exact h.votes k row hrow
    · exact le_rfl

theorem DB.Nonneg.weightOn_nonneg {db : DB} (h : db.Nonneg) (v : VideoID) : 0 ≤ db.weightOn v :=
  Table.sum_nonneg fun k row hrow ↦ by
    split_ifs
    · exact h.votes k row hrow
    · exact le_rfl

/-! ### What the transactions write -/

/-- A statement whose writes are neither users nor votes. -/
theorem nonneg_of_touches {w : DB → List Write} {r : Row} (hw : Touches w r)
    (hr : match r with | .user _ => False | .vote _ _ => False | _ => True) {db : DB} :
    ∀ x ∈ w db, x.Nonneg := by
  intro x hx
  have hrow := hw.row hx
  cases x with
  | user u row =>
    cases Option.some.inj hrow
    exact hr.elim
  | vote v u row =>
    cases Option.some.inj hrow
    exact hr.elim
  | _ => trivial

/-- A submission records a trust that it read, so its vote has a weight that is not negative. -/
theorem emits_nonneg_recordVote (q : VoteRequest) {w : ℚ} (hw : 0 ≤ w)
    (existingCategory : Option Category) :
    (recordVote q w existingCategory).Emits DB.Nonneg Write.Nonneg := by
  have hcount : ∀ x : Except VoteError (Option ℚ),
      (stmt (incrementVoteCount q.videoID q.category) fun _ ↦
        stmt (touchVideo q.now q.videoID) fun _ ↦ ret x).Emits DB.Nonneg Write.Nonneg :=
    fun x s _ ↦ ⟨nonneg_of_touches touches_incrementVoteCount trivial,
      fun s _ ↦ ⟨nonneg_of_touches touches_touchVideo trivial, trivial⟩⟩
  refine fun s hs ↦ ⟨fun x hx ↦ ?_, ?_⟩
  · rw [upsertVote] at hx
    split at hx <;> (cases List.mem_singleton.1 hx; exact hw)
  · cases existingCategory with
    | none =>
      exact fun s _ ↦ ⟨nonneg_of_touches touches_incrementTotalVotes trivial, hcount _⟩
    | some c =>
      by_cases hc : c = q.category
      · simp only [countReplaced, hc, ne_eq, not_true_eq_false, if_false]
        exact hcount _
      · simp only [countReplaced, ne_eq, hc, not_false_eq_true, if_true]
        exact fun s _ ↦ ⟨nonneg_of_touches touches_decrementVoteCount trivial, hcount _⟩

theorem emits_nonneg_vote (call : VoteCall) : call.code.Emits DB.Nonneg Write.Nonneg := by
  cases call with
  | submit b q =>
    rw [code_submit]
    refine fun s hs ↦ ⟨fun x hx ↦ ?_, fun s₁ h₁ ↦ ⟨fun x hx ↦ absurd hx List.not_mem_nil,
      fun s₂ _ ↦ ⟨nonneg_of_touches touches_insertVideo trivial,
      fun s₃ _ ↦ ⟨fun x hx ↦ absurd hx List.not_mem_nil, emits_nonneg_recordVote q ?_ _⟩⟩⟩⟩
    · rw [insertUser] at hx
      split at hx
      · cases List.mem_singleton.1 hx
        exact (by norm_num : (0 : ℚ) ≤ 3 / 10)
      · rename_i row hrow
        cases List.mem_singleton.1 hx
        exact hs.users q.userID row hrow
    · rw [selectTrustScore]
      cases hrow : s₁.users.lookup q.userID with
      | none => exact le_rfl
      | some row => exact h₁.users q.userID row hrow
  | delete b q =>
    rw [code_delete]
    refine fun s _ ↦ ⟨fun x hx ↦ absurd hx List.not_mem_nil, ?_⟩
    dsimp only
    cases selectCategory q.videoID q.userID s with
    | none => trivial
    | some c =>
      refine fun s _ ↦ ⟨fun x hx ↦ ?_, fun s _ ↦ ⟨nonneg_of_touches touches_decrementTotalVotes
        trivial, fun s _ ↦ ⟨nonneg_of_touches touches_decrementVoteCount trivial,
        fun s _ ↦ ⟨fun x hx ↦ ?_, trivial⟩⟩⟩⟩
      · rw [dropVote] at hx
        split at hx
        · cases hx
        · cases List.mem_singleton.1 hx
          trivial
      · cases List.mem_singleton.1 hx
        trivial

/-- **Every transaction keeps the weights from being negative.** -/
theorem emits_nonneg (call : Call) : call.code.Emits DB.Nonneg Write.Nonneg := by
  cases call with
  | vote call => exact emits_nonneg_vote call
  | recalculate b q =>
    refine Emits.mono (fun x hx ↦ ?_) (within_recalculate b q)
    cases x with
    | user u row => exact (hx _ rfl).elim
    | vote v u row => exact (hx _ rfl).elim
    | _ => trivial

/-- Without users and votes there is no weight. -/
theorem nonneg_start (channels : Table ChannelID Channel) : (DB.start ∅ channels).Nonneg :=
  ⟨fun _ _ h ↦ (nomatch h), fun _ _ h ↦ (nomatch h)⟩

/-- A vote request run alone keeps the weights from being negative. -/
theorem nonneg_request {db : DB} (h : db.Nonneg) (call : VoteCall) :
    ((VoteEvent.request call).step db).Nonneg := by
  have hrun := (emits_nonneg_vote call).run (fun hs hx ↦ hs.write hx) h
  rw [VoteEvent.step, runTx]
  cases hres : call.code.run db with
  | mk x db' =>
    rw [hres] at hrun
    cases x with
    | ok a => exact hrun
    | error e => exact h

/-! ### What a recalculation writes -/

/-- A score written lies between 0 and 100. -/
def Write.Bounded : Write → Prop
  | video _ row => 0 ≤ row.score ∧ row.score ≤ 100
  | videoCategory _ _ row => 0 ≤ row.weightedScore ∧ row.weightedScore ≤ 100
  | _ => True

instance : DecidablePred Write.Bounded
  | .video _ _ => inferInstanceAs (Decidable (_ ∧ _))
  | .videoCategory _ _ _ => inferInstanceAs (Decidable (_ ∧ _))
  | .user _ _ | .vote _ _ _ | .dropVote _ _ | .channel _ _ | .notify _ =>
    inferInstanceAs (Decidable True)

theorem bounded_setScore {now : Time} {v : VideoID} {score : ℚ} (h : 0 ≤ score ∧ score ≤ 100)
    {db : DB} : ∀ x ∈ setScore now v score db, x.Bounded := by
  intro x hx
  rw [setScore] at hx
  split at hx
  · cases hx
  · cases List.mem_singleton.1 hx
    exact h

theorem bounded_setWeightedScore {v : VideoID} {weightedScore : ℚ} {c : Category}
    (h : 0 ≤ weightedScore ∧ weightedScore ≤ 100) {db : DB} :
    ∀ x ∈ setWeightedScore v weightedScore c db, x.Bounded := by
  intro x hx
  rw [setWeightedScore] at hx
  split at hx
  · cases hx
  · cases List.mem_singleton.1 hx
    exact h

theorem emits_bounded_reset (q : RecalculateRequest) :
    (resetScores q).Emits (fun _ ↦ True) Write.Bounded := by
  have hzero : (0 : ℚ) ≤ 0 ∧ (0 : ℚ) ≤ 100 := by norm_num
  refine fun s _ ↦ ⟨bounded_setScore hzero, fun s _ ↦ ⟨fun x hx ↦ absurd hx List.not_mem_nil, ?_⟩⟩
  change ((selectCategories q.scanOrder q.videoID s).forM fun c ↦
    exec (setWeightedScore q.videoID 0 c) : Tx DB Write Unit).Emits _ _
  induction selectCategories q.scanOrder q.videoID s with
  | nil => trivial
  | cons c cs ih => exact fun s _ ↦ ⟨bounded_setWeightedScore hzero, ih⟩

theorem emits_bounded_update (q : RecalculateRequest) {W : ℚ} {groups : List (Category × ℚ)}
    (h : ∀ group ∈ groups, 0 ≤ group.2 / W * 100 ∧ group.2 / W * 100 ≤ 100) :
    (updateScores q W groups).Emits (fun _ ↦ True) Write.Bounded := by
  have htop : 0 ≤ topScore W groups 0 ∧ topScore W groups 0 ≤ 100 :=
    ⟨(topScore_le_iff.1 le_rfl).1, topScore_le_iff.2 ⟨by norm_num, fun group hg ↦ (h group hg).2⟩⟩
  refine Emits.bind ?_ fun _ ↦ fun s _ ↦ ⟨bounded_setScore htop, trivial⟩
  clear htop
  induction groups with
  | nil => trivial
  | cons group groups ih =>
    rw [List.forall_mem_cons] at h
    exact fun s _ ↦ ⟨bounded_setWeightedScore h.1, ih h.2⟩

/-- **The range of one recalculation**: what it writes lies between 0 and 100 if the category
weights it reads are at most the total it read before. -/
theorem bounded_log_recalculate {b : Backend} {q : RecalculateRequest} {vs : List DB}
    (hnonneg : ∀ s ∈ vs, s.Nonneg)
    (hle : ∀ s s' vs', vs = s :: s' :: vs' → s.weightOn q.videoID ≠ 0 →
      ∀ c, s'.weightIn q.videoID c ≤ s.weightOn q.videoID) :
    ∀ x ∈ (Call.recalculate b q).code.log vs, x.Bounded := by
  have hret : ∀ x : Except VoteError (Option ℚ),
      (ret x : Tx DB Write _).Emits (fun _ ↦ True) Write.Bounded := fun _ ↦ trivial
  rw [code_recalculate]
  match vs with
  | [] => simp
  | s :: vs =>
    rw [log_stmt_cons, List.nil_append]
    split_ifs with hW
    · exact (Emits.bind (emits_bounded_reset q) fun _ ↦ hret _).log fun _ _ ↦ trivial
    · match vs with
      | [] => simp
      | s' :: vs =>
        rw [log_stmt_cons, List.nil_append]
        refine (Emits.bind (emits_bounded_update q fun group hgroup ↦ ?_) fun _ ↦ hret _).log
          fun _ _ ↦ trivial
        have hpos : 0 < s.weightOn q.videoID :=
          ((hnonneg s List.mem_cons_self).weightOn_nonneg _).lt_of_ne' hW
        have h₀ := (hnonneg s' (List.mem_cons_of_mem s List.mem_cons_self)).weightIn_nonneg
          q.videoID group.1
        have h₁ := hle s s' vs rfl hW group.1
        rw [(mem_selectGroups.1 hgroup).2]
        have hdiv : s'.weightIn q.videoID group.1 / s.weightOn q.videoID ≤ 1 :=
          (div_le_one hpos).2 h₁
        exact ⟨mul_nonneg (div_nonneg h₀ hpos.le) (by norm_num), by linarith⟩

/-! ### Votes that were there before -/

/-- Every vote on the video is by a user who has one in `old`, of at least its weight. -/
def DB.CoveredBy (db old : DB) (v : VideoID) : Prop :=
  ∀ u row, db.votes.lookup (v, u) = some row →
    ∃ row' ∈ old.votes.lookup (v, u), row.trustWeight ≤ row'.trustWeight

/-- If it is a vote on the video, its user has one in `old`, of at least its weight. -/
def Write.CoveredBy (old : DB) (v : VideoID) : Write → Prop
  | vote v' u row => v' = v →
    ∃ row' ∈ old.votes.lookup (v', u), row.trustWeight ≤ row'.trustWeight
  | _ => True

instance (old : DB) (v : VideoID) : DecidablePred (Write.CoveredBy old v)
  | .vote _ _ _ => inferInstanceAs (Decidable (_ → ∃ row' ∈ _, _))
  | .user _ _ | .video _ _ | .videoCategory _ _ _ | .dropVote _ _ | .channel _ _ | .notify _ =>
    inferInstanceAs (Decidable True)

namespace DB.CoveredBy

variable {db old : DB} {v : VideoID}

theorem refl (db : DB) (v : VideoID) : db.CoveredBy db v := fun _ row hrow ↦ ⟨row, hrow, le_rfl⟩

theorem write (h : db.CoveredBy old v) {w : Write} (hw : w.CoveredBy old v) :
    (db.write w).CoveredBy old v := by
  cases w with
  | vote v' u' row' =>
    intro u row hrow
    rw [DB.write, Table.lookup_insert] at hrow
    split_ifs at hrow with hkey
    · obtain ⟨rfl, rfl⟩ := Prod.mk.inj hkey
      exact Option.some.inj hrow ▸ hw rfl
    · exact h u row hrow
  | dropVote v' u' =>
    intro u row hrow
    rw [DB.write, Table.lookup_erase] at hrow
    split_ifs at hrow
    exact h u row hrow
  | _ => exact h

/-- **Votes that were there before** weigh no more in one category than all did. -/
theorem weightIn_le (h : db.CoveredBy old v) (hold : old.Nonneg) (c : Category) :
    db.weightIn v c ≤ old.weightOn v := by
  refine Table.sum_le_sum_lookup fun k ↦ ?_
  have hnonneg : 0 ≤ (old.votes.lookup k).elim 0 fun row : Vote ↦
      if k.1 = v then row.trustWeight else 0 := by
    cases hrow : old.votes.lookup k with
    | none => exact le_rfl
    | some row =>
      rw [Option.elim_some]
      split_ifs
      · exact hold.votes k row hrow
      · exact le_rfl
  cases hrow : db.votes.lookup k with
  | none => exact hnonneg
  | some row =>
    rw [Option.elim_some]
    by_cases hk : k.1 = v ∧ row.category = c
    · obtain ⟨v', u⟩ := k
      obtain rfl : v' = v := hk.1
      obtain ⟨row', hrow', hle⟩ := h u row hrow
      rw [if_pos hk, Option.mem_def.1 hrow', Option.elim_some, if_pos rfl]
      exact hle
    · rw [if_neg hk]
      exact hnonneg

end DB.CoveredBy

/-! ### The range of the scores -/

section Concurrent

variable {ι : Type} [DecidableEq ι] [Fintype ι] (calls : ι → Call)

/-- If request `j` commits now, then between the two reads of no recalculation that has found weight
does it add a vote to the video: who votes had a vote there at the first read, of at least the
weight. -/
def AddsNoVote (sys : Sys DB ι) (j : ι) : Prop :=
  sys.succeeds (Call.codes calls) j = true → ∀ i, match calls i, sys.seen i with
    | .recalculate _ q, [s] => s.weightOn q.videoID ≠ 0 →
      ∀ w ∈ sys.log (Call.codes calls) j, w.CoveredBy s q.videoID
    | _, _ => True

variable {calls} {sys : Sys DB ι} {s₀ : DB}

/-- **Between the two reads** the votes on the video are among those that the first has found. -/
theorem coveredBy_of_addsNoVote (h : Run (Call.codes calls) (AddsNoVote calls) s₀ sys) {i : ι}
    {b : Backend} {q : RecalculateRequest} {s : DB} (hi : i ∉ sys.ended)
    (hcall : calls i = .recalculate b q) (hseen : sys.seen i = [s])
    (hW : s.weightOn q.videoID ≠ 0) :
    sys.committed.CoveredBy s q.videoID := by
  -- invariant: so far the committed database is covered by what each recalculation has read first
  refine (Run.inv_each (G := fun _ ↦ True) (I := fun committed i vs ↦ ∀ b q s,
    calls i = .recalculate b q → vs = [s] → s.weightOn q.videoID ≠ 0 →
      committed.CoveredBy s q.videoID) trivial ?_ ?_ ?_ h).2 i hi b q s hcall hseen hW
  · intro i b q s _ hnil
    cases hnil
  · intro sys i w k _ _ _ hrest _ _ _ b q s hcall hsnoc _
    rcases hseen : sys.seen i with _ | ⟨s₁, vs⟩
    · -- the first statement of a recalculation sees what is committed
      have hview : sys.view (Call.codes calls) i = sys.committed := by
        rw [Sys.view, Sys.log, hseen, log_nil]
        rfl
      rw [hseen, List.nil_append, List.singleton_inj, hview] at hsnoc
      exact hsnoc ▸ .refl _ _
    · rw [hseen] at hsnoc
      have hlength := congrArg List.length hsnoc
      simp at hlength
  · intro sys j a _ hP _ hrest _ hI
    refine ⟨trivial, fun i hij hi b q s hcall hseen hW ↦ ?_⟩
    have hsucceeds : sys.succeeds (Call.codes calls) j = true := by
      rw [Sys.succeeds, hrest]
      rfl
    have hwrites := hP hsucceeds i
    rw [hcall, hseen] at hwrites
    exact applyAll_inv (I := fun db : DB ↦ db.CoveredBy s q.videoID)
      (fun hdb hw ↦ hdb.write hw) (hI i hi b q s hcall hseen hW) (hwrites hW)

end Concurrent

instance {ι : Type} [DecidableEq ι] [Fintype ι] (calls : ι → Call) (sys : Sys DB ι) (j : ι) :
    Decidable (AddsNoVote calls sys j) :=
  have : ∀ i, Decidable (match calls i, sys.seen i with
      | .recalculate _ q, [s] => s.weightOn q.videoID ≠ 0 →
        ∀ w ∈ sys.log (Call.codes calls) j, w.CoveredBy s q.videoID
      | _, _ => True) := fun i ↦
    match calls i, sys.seen i with
    | .recalculate _ _, [_] => inferInstanceAs (Decidable (_ → ∀ w ∈ _, _))
    | .vote _, _ => .isTrue trivial
    | .recalculate _ _, [] => .isTrue trivial
    | .recalculate _ _, _ :: _ :: _ => .isTrue trivial
  inferInstanceAs (Decidable (_ → ∀ _, _))

/-- A recalculation, and a vote of a user. -/
def recalculateBeside (u : UserID) (c : Category) : Fin 2 → Call
  | 0 => .recalculate .go recalculateNow
  | 1 => .vote (.submit .python
    { videoID := "v", userID := u, category := c, ipHash := "", userAgent := none, now := 0 })

/-- The vote commits between the two reads. -/
theorem exec_movedVote : ((Sys.init oneVote).exec (Call.codes (recalculateBeside "a" .aiAssisted))
    (AddsNoVote (recalculateBeside "a" .aiAssisted))
    [0, 1, 1, 1, 1, 1, 1, 1, 1, 1, 0, 0, 0]).isSome := by
  decide +kernel

theorem exec_sameCategory : ((Sys.init oneVote).exec (Call.codes (recalculateBeside "b" .fullyAI))
    (fun _ _ ↦ True) [0, 1, 1, 1, 1, 1, 1, 1, 1, 1, 0, 0, 0]).isSome := by
  decide +kernel

end RealTube
