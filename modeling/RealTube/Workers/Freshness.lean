import RealTube.Workers.System
import RealTube.Scores.Recalculation

/-!
# Scores catch up with the votes
-/

open Tx

namespace RealTube

/-! ### Databases that differ in scores only -/

/-- The write changes nothing the counters are about: it is a new version of a row that is there,
with the same counter, or a channel. -/
def Write.KeepsCounters (db : DB) : Write → Prop
  | video v row => ∃ old, db.videos.lookup v = some old ∧ row.totalVotes = old.totalVotes
  | videoCategory v c row =>
    ∃ old, db.videoCategories.lookup (v, c) = some old ∧ row.voteCount = old.voteCount
  | channel _ _ => True
  | _ => False

/-- The same votes and the same counters. -/
structure DB.SameCounters (db db' : DB) : Prop where
  votes : db'.votes = db.votes
  totalVotes : ∀ v, db'.totalVotes v = db.totalVotes v
  voteCount : ∀ v c, db'.voteCount v c = db.voteCount v c

theorem DB.SameCounters.refl (db : DB) : db.SameCounters db := ⟨rfl, fun _ ↦ rfl, fun _ _ ↦ rfl⟩

theorem DB.SameCounters.trans {db db' db'' : DB} (h : db.SameCounters db')
    (h' : db'.SameCounters db'') : db.SameCounters db'' where
  votes := h'.votes.trans h.votes
  totalVotes v := (h'.totalVotes v).trans (h.totalVotes v)
  voteCount v c := (h'.voteCount v c).trans (h.voteCount v c)

theorem DB.SameCounters.write {db db' : DB} (h : db.SameCounters db') {x : Write}
    (hx : x.KeepsCounters db) : db.SameCounters (db'.write x) := by
  cases x with
  | video v row =>
    obtain ⟨old, hold, hrow⟩ := hx
    refine ⟨h.votes, fun v' ↦ ?_, h.voteCount⟩
    rw [DB.totalVotes, DB.write, Table.lookup_insert]
    split_ifs with hv
    · rw [DB.totalVotes, hv, hold]
      exact hrow
    · exact h.totalVotes v'
  | videoCategory v c row =>
    obtain ⟨old, hold, hrow⟩ := hx
    refine ⟨h.votes, h.totalVotes, fun v' c' ↦ ?_⟩
    rw [DB.voteCount, DB.write, Table.lookup_insert]
    split_ifs with hk
    · rw [DB.voteCount, hk, hold]
      exact hrow
    · exact h.voteCount v' c'
  | channel ch row => exact ⟨h.votes, h.totalVotes, h.voteCount⟩
  | _ => exact hx.elim

/-- The writes of a statement, all made on the store it sees. -/
theorem DB.sameCounters_applyAll {db : DB} {ws : List Write} (h : ∀ x ∈ ws, x.KeepsCounters db) :
    db.SameCounters (RowStore.applyAll db ws) := by
  suffices hgen : ∀ {db'}, db.SameCounters db' → db.SameCounters (RowStore.applyAll db' ws) from
    hgen (.refl db)
  induction ws with
  | nil => exact fun h ↦ h
  | cons x ws ih =>
    rw [List.forall_mem_cons] at h
    exact fun hdb ↦ ih h.2 (hdb.write h.1)

theorem DB.Consistent.of_sameCounters {db db' : DB} (h : db.Consistent)
    (hsame : db.SameCounters db') : db'.Consistent where
  totalVotes_eq v := by rw [hsame.totalVotes, h.totalVotes_eq, DB.votesOn, DB.votesOn, hsame.votes]
  votesIn_le v c := by
    rw [hsame.voteCount, DB.votesIn, hsame.votes]
    exact h.votesIn_le v c

/-- A video with votes is there. -/
theorem DB.Consistent.lookup_ne_none {db : DB} (h : db.Consistent) {v : VideoID}
    (hv : 0 < db.votesOn v) : db.videos.lookup v ≠ none := by
  intro hnone
  have htotal := h.totalVotes_eq v
  rw [DB.totalVotes, hnone, Option.elim_none] at htotal
  omega

theorem keepsCounters_setScore {now : Time} {v : VideoID} {score : ℚ} {db : DB} :
    ∀ x ∈ setScore now v score db, x.KeepsCounters db := by
  rw [setScore]
  cases h : db.videos.lookup v with
  | none => simp
  | some row => simp [Write.KeepsCounters, h]

theorem keepsCounters_setWeightedScore {v : VideoID} {c : Category} {score : ℚ} {db : DB} :
    ∀ x ∈ setWeightedScore v score c db, x.KeepsCounters db := by
  rw [setWeightedScore]
  cases h : db.videoCategories.lookup (v, c) with
  | none => simp
  | some row => simp [Write.KeepsCounters, h]

theorem makes_setWeightedScores {v : VideoID} {β : Type} (f : β → ℚ) (g : β → Category)
    (cs : List β) : (cs.forM fun x ↦ exec (setWeightedScore v (f x) (g x)) :
      Tx DB Write Unit).Makes Write.KeepsCounters := by
  induction cs with
  | nil => trivial
  | cons x cs ih => exact fun _ ↦ ⟨keepsCounters_setWeightedScore, ih⟩

/-- A recalculation changes no counter. -/
theorem makes_recalculate (b : Backend) (q : RecalculateRequest) :
    (Call.recalculate b q).code.Makes Write.KeepsCounters := by
  have hread : ∀ {s : DB}, ∀ x ∈ ([] : List Write), x.KeepsCounters s :=
    fun x hx ↦ absurd hx List.not_mem_nil
  rw [code_recalculate]
  refine fun s ↦ ⟨hread, ?_⟩
  dsimp only
  split_ifs
  · exact fun _ ↦ ⟨keepsCounters_setScore, fun _ ↦ ⟨hread,
      (makes_setWeightedScores (fun _ ↦ 0) id _).bind fun _ ↦ trivial⟩⟩
  · refine fun _ ↦ ⟨hread, ?_⟩
    dsimp only
    rw [updateScores, bind_assoc]
    exact (makes_setWeightedScores _ _ _).bind fun _ _ ↦ ⟨keepsCounters_setScore, trivial⟩

/-! ### The votes on one video -/

/-- Two databases have the same votes on a video. -/
def DB.SameVotes (v : VideoID) (db db' : DB) : Prop :=
  ∀ u, db.votes.lookup (v, u) = db'.votes.lookup (v, u)

namespace DB.SameVotes

variable {v : VideoID} {db db' : DB} (h : db.SameVotes v db')
include h

theorem sum_eq {M : Type} [AddCommMonoid M] {f : VideoID × UserID → Vote → M}
    (hf : ∀ k row, k.1 ≠ v → f k row = 0) : db.votes.sum f = db'.votes.sum f := by
  refine Table.sum_congr_lookup fun ⟨v', u⟩ ↦ ?_
  by_cases hv : v' = v
  · rw [hv, h u]
  · have hzero : ∀ row : Option Vote, row.elim 0 (f (v', u)) = 0 := by
      rintro (_ | row)
      · rfl
      · exact hf _ row hv
    rw [hzero, hzero]

theorem votesOn_eq : db.votesOn v = db'.votesOn v := h.sum_eq fun _ _ hk ↦ if_neg hk

theorem weightOn_eq : db.weightOn v = db'.weightOn v := h.sum_eq fun _ _ hk ↦ if_neg hk

theorem weightIn_eq (c : Category) : db.weightIn v c = db'.weightIn v c :=
  h.sum_eq fun _ _ hk ↦ if_neg fun hc ↦ hk hc.1

theorem videoScore_eq : db.videoScore v = db'.videoScore v := by
  rw [DB.videoScore, DB.videoScore, show db.categoryScore v = db'.categoryScore v from
    funext fun c ↦ by rw [DB.categoryScore, DB.categoryScore, h.weightIn_eq, h.weightOn_eq]]

end DB.SameVotes

/-- The score of a video is that of its votes. -/
def DB.ScoreRight (db : DB) (v : VideoID) : Prop :=
  ∃ row, db.videos.lookup v = some row ∧ row.score = db.videoScore v

/-! ### A recalculation and the database around it -/

/-- What an open recalculation can rely on: it has changed no counter, and has seen only consistent
databases. -/
structure Job.Sound (job : Job) (db : DB) : Prop where
  counters : db.SameCounters (job.view db)
  views : ∀ s ∈ job.views, s.Consistent

/-- A recalculation that has seen the votes on its video as they are. -/
def Job.Fresh (job : Job) (db : DB) : Prop :=
  ∀ s ∈ job.views, s.SameVotes job.request.videoID db

/-- A recalculation holds rows of its video and of the video's categories. -/
theorem owns_of_mem_held {job : Job} {r : Row} (h : r ∈ job.held) : job.request.Owns r :=
  (within_recalculate job.backend job.request).log job.views r h

/-- What others commit keeps a recalculation sound when they leave its rows alone. -/
theorem Job.Sound.of_same {job : Job} {db db' : DB} (h : job.Sound db)
    (hsame : ∀ r ∈ job.held, db.Same db' r) : job.Sound db' := by
  -- row by row: a row that is held is as the recalculation left it, the others as committed
  have hheld : ∀ r ∈ job.held, (job.view db).Same (job.view db') r := fun r hr ↦
    RowStore.same_applyAll (W := Write) job.log (hsame r hr)
  have hfree : ∀ r, r ∉ job.held → db'.Same (job.view db') r := fun r hr ↦
    RowStore.same_applyAll_of_notMem (W := Write) db' hr
  refine ⟨⟨Table.ext_lookup fun ⟨v, u⟩ ↦ ?_, fun v ↦ ?_, fun v c ↦ ?_⟩, h.views⟩
  · exact (hfree (.vote v u) fun hr ↦ (owns_of_mem_held hr).elim).symm
  · by_cases hr : Row.video v ∈ job.held
    · have hview : (job.view db).videos.lookup v = (job.view db').videos.lookup v := hheld _ hr
      have hdb : db.videos.lookup v = db'.videos.lookup v := hsame _ hr
      rw [DB.totalVotes, ← hview, DB.totalVotes, ← hdb]
      exact h.counters.totalVotes v
    · have hview : db'.videos.lookup v = (job.view db').videos.lookup v := hfree _ hr
      rw [DB.totalVotes, ← hview, DB.totalVotes]
  · by_cases hr : Row.videoCategory v c ∈ job.held
    · have hview : (job.view db).videoCategories.lookup (v, c) =
          (job.view db').videoCategories.lookup (v, c) := hheld _ hr
      have hdb : db.videoCategories.lookup (v, c) = db'.videoCategories.lookup (v, c) := hsame _ hr
      rw [DB.voteCount, ← hview, DB.voteCount, ← hdb]
      exact h.counters.voteCount v c
    · have hview : db'.videoCategories.lookup (v, c) =
          (job.view db').videoCategories.lookup (v, c) := hfree _ hr
      rw [DB.voteCount, ← hview, DB.voteCount]

/-- A recalculation that has just begun. -/
theorem Job.sound_begin (b : Backend) (q : RecalculateRequest) (db : DB) :
    Job.Sound ⟨b, q, []⟩ db where
  counters := by
    rw [Job.view, Job.log, log_nil]
    exact .refl db
  views s hs := absurd hs List.not_mem_nil

/-- One more statement keeps a recalculation sound. -/
theorem Job.Sound.statement {job : Job} {db : DB} (h : job.Sound db) (hdb : db.Consistent)
    {w : DB → List Write} {k : DB → Tx DB Write (Except VoteError (Option ℚ))}
    (hrest : job.rest = stmt w k) :
    Job.Sound { job with views := job.views ++ [job.view db] } db where
  counters := by
    have hmakes : job.rest.Makes Write.KeepsCounters :=
      (makes_recalculate job.backend job.request).rest job.views
    rw [hrest] at hmakes
    rw [Job.view, Job.log, log_append]
    change db.SameCounters (RowStore.applyAll db (job.log ++ Tx.log job.rest [job.view db]))
    rw [hrest, log_stmt_cons, log_nil, List.append_nil, RowStore.applyAll_append]
    exact h.counters.trans (DB.sameCounters_applyAll (hmakes (job.view db)).1)
  views s hs := by
    rcases List.mem_append.1 hs with hs | hs
    · exact h.views s hs
    · rw [List.mem_singleton.1 hs]
      exact hdb.of_sameCounters h.counters

/-- The view of a sound recalculation has the votes of the database. -/
theorem Job.Sound.sameVotes {job : Job} {db : DB} (h : job.Sound db) (v : VideoID) :
    (job.view db).SameVotes v db := fun u ↦ by rw [h.counters.votes]

section Fresh

variable {b : Backend} {q : RecalculateRequest} {views : List DB} {db : DB}

/-- **The score a recalculation has written**: in a view that has the video, and nothing has been
written to the video afterwards. -/
theorem Job.Fresh.lookup_view (hfresh : Job.Fresh ⟨b, q, views⟩ db)
    (hsound : Job.Sound ⟨b, q, views⟩ db) (hpos : 0 < db.votesOn q.videoID) {score : ℚ} {s' : DB}
    {ws ws' : List Write} (hs' : s' ∈ views)
    (hlog : Job.log ⟨b, q, views⟩ = ws ++ (setScore q.now q.videoID score s' ++ ws'))
    (hnot : Row.video q.videoID ∉ (RowStore.rows ws' : List Row)) :
    ∃ row, (Job.view ⟨b, q, views⟩ db).videos.lookup q.videoID = some row ∧ row.score = score := by
  have hvotes := (hfresh s' hs').votesOn_eq
  obtain ⟨row, hrow⟩ := Option.ne_none_iff_exists'.1
    ((hsound.views s' hs').lookup_ne_none (hvotes ▸ hpos))
  refine ⟨{ row with score, lastUpdated := q.now }, ?_, rfl⟩
  have hset : setScore q.now q.videoID score s' =
      [.video q.videoID { row with score, lastUpdated := q.now }] := by
    rw [setScore, hrow]
  rw [Job.view, hlog, hset, RowStore.applyAll_append, RowStore.applyAll_append]
  have hafter : DB.Same _ _ (Row.video q.videoID) :=
    RowStore.same_applyAll_of_notMem (W := Write) (DB.write (RowStore.applyAll db ws)
      (.video q.videoID { row with score, lastUpdated := q.now })) hnot
  exact Eq.trans (Eq.symm hafter) (Table.lookup_insert_self ..)

/-- Two fresh views give the score. -/
theorem Job.Fresh.topScore_eq (hfresh : Job.Fresh ⟨b, q, views⟩ db) {s s' : DB} (hs : s ∈ views)
    (hs' : s' ∈ views) :
    topScore (s.weightOn q.videoID) (selectGroups q.groupOrder q.videoID s') 0 =
      db.videoScore q.videoID := by
  rw [(hfresh s hs).weightOn_eq, ← (hfresh s' hs').weightOn_eq, topScore_selectGroups,
    (hfresh s' hs').videoScore_eq]

end Fresh

/-- **A recalculation that has seen the votes as they are writes the right score.** -/
theorem Job.Fresh.scoreRight {job : Job} {db : DB} (hfresh : job.Fresh db) (hsound : job.Sound db)
    (hpos : 0 < db.votesOn job.request.videoID) {x : Except VoteError (Option ℚ)}
    (hend : job.rest = ret x) : (job.view db).ScoreRight job.request.videoID := by
  obtain ⟨b, q, views⟩ := job
  rw [DB.ScoreRight, (hsound.sameVotes q.videoID).videoScore_eq]
  have hwrite : ∀ (score : ℚ) (s' : DB) (ws ws' : List Write), s' ∈ views →
      Job.log ⟨b, q, views⟩ = ws ++ (setScore q.now q.videoID score s' ++ ws') →
      Row.video q.videoID ∉ (RowStore.rows ws' : List Row) → score = db.videoScore q.videoID →
      ∃ row, (Job.view ⟨b, q, views⟩ db).videos.lookup q.videoID = some row ∧
        row.score = db.videoScore q.videoID := by
    rintro score s' ws ws' hs' hlog hnot rfl
    exact hfresh.lookup_view hsound hpos hs' hlog hnot
  rw [Job.rest, Job.code, code_recalculate] at hend
  rw [Job.log, Job.code, code_recalculate] at hwrite
  rcases views with _ | ⟨s, us⟩
  · cases hend
  rw [rest_stmt_cons] at hend
  rw [log_stmt_cons, List.nil_append] at hwrite
  by_cases hW : s.weightOn q.videoID = 0
  · rw [if_pos hW] at hend hwrite
    rcases us with _ | ⟨s', us'⟩
    · cases hend
    refine hwrite 0 s' [] _ (List.mem_cons_of_mem _ List.mem_cons_self) rfl ?_ ?_
    · -- what comes after it are categories
      have hcategories : ∀ cs : List Category,
          ((cs.forM fun c ↦ exec (setWeightedScore q.videoID 0 c) : Tx DB Write Unit) >>=
            fun _ ↦ (ret (.ok none) : Tx DB Write (Except VoteError (Option ℚ)))).Within
            (· ≠ Row.video q.videoID) := fun cs ↦
        Emits.bind (within_setWeightedScores (fun _ ↦ Row.noConfusion) (fun _ ↦ 0) id cs)
          fun _ ↦ trivial
      exact fun hr ↦ Within.log (.read fun _ ↦ hcategories _) us' _ hr rfl
    · rw [(hfresh s List.mem_cons_self).weightOn_eq] at hW
      exact (db.videoScore_of_weightOn_eq_zero _ hW).symm
  · rw [if_neg hW] at hend hwrite
    rcases us with _ | ⟨s', us'⟩
    · cases hend
    rw [rest_stmt_cons, updateScores, bind_assoc] at hend
    rw [log_stmt_cons, List.nil_append, updateScores, bind_assoc] at hwrite
    obtain ⟨us, us'', -, rfl, -, hend, hlog⟩ := exists_of_rest_bind hend
    rcases us'' with _ | ⟨s'', us''⟩
    · cases hend
    refine hwrite _ s'' _ _ ?_ hlog ?_ (hfresh.topScore_eq List.mem_cons_self ?_)
    · simp
    · exact (log_ret _ us'').symm ▸ List.not_mem_nil
    · simp

/-! ### What a channel worker writes -/

/-- The write sets the score of a video without votes, or is about a channel. -/
def Write.Preliminary (db : DB) : Write → Prop
  | video v row =>
    ∃ old, db.videos.lookup v = some old ∧ row.totalVotes = old.totalVotes ∧ old.totalVotes = 0
  | channel _ _ => True
  | _ => False

theorem Write.Preliminary.keepsCounters {db : DB} {x : Write} (h : x.Preliminary db) :
    x.KeepsCounters db := by
  cases x with
  | video v row =>
    obtain ⟨old, hold, hrow, -⟩ := h
    exact ⟨old, hold, hrow⟩
  | channel ch row => trivial
  | _ => exact h.elim

/-- Channel workers set scores of videos without votes only. -/
theorem makes_recalculateChannel (b : Backend) (q : ChannelRequest) :
    (recalculateChannel b q).Makes Write.Preliminary := by
  have hread : ∀ {s : DB}, ∀ x ∈ ([] : List Write), x.Preliminary s :=
    fun x hx ↦ absurd hx List.not_mem_nil
  rw [recalculateChannel_eq]
  refine fun s ↦ ⟨hread, fun s ↦ ⟨?_, fun s ↦ ⟨hread, fun s ↦ ⟨?_, ?_⟩⟩⟩⟩
  · rw [insertChannel]
    cases s.channels.lookup q.channelID <;> simp [Write.Preliminary]
  · rw [updateChannel]
    cases s.channels.lookup q.channelID <;> simp [Write.Preliminary]
  · split_ifs
    · refine fun s ↦ ⟨hread, fun s ↦ ⟨fun x hx ↦ ?_, trivial⟩⟩
      obtain ⟨v, -, hv⟩ := List.mem_filterMap.1 hx
      obtain ⟨row, hrow, hset⟩ := Option.bind_eq_some_iff.1 hv
      split_ifs at hset with hunscored
      cases hset
      exact ⟨row, hrow, rfl, hunscored.2.1⟩
    · trivial

/-! ### What a vote tells the workers -/

/-- The notifications of a transaction run alone. -/
def notified {α : Type} (p : Tx DB Write α) (db : DB) : List VideoID :=
  (p.writes db).filterMap Write.notifies

@[simp] theorem notified_ret {α : Type} (a : α) (db : DB) :
    notified (ret a : Tx DB Write α) db = [] := rfl

theorem notified_stmt {α : Type} (w : DB → List Write) (k : DB → Tx DB Write α) (db : DB) :
    notified (stmt w k) db = (w db).filterMap Write.notifies ++ notified (k db) (db.after w) :=
  List.filterMap_append

/-- Only votes notify. -/
theorem notifies_of_touches {w : DB → List Write} {r : Row} (hw : Touches w r)
    (hr : ∀ v u, r ≠ .vote v u) (db : DB) : (w db).filterMap Write.notifies = [] := by
  refine List.filterMap_eq_nil_iff.2 fun x hx ↦ ?_
  have hrow := hw.row hx
  cases x with
  | vote v u row => exact absurd (Option.some.inj hrow).symm (hr v u)
  | notify v => cases hrow
  | _ => rfl

theorem notifies_upsertVote (q : VoteRequest) (w : ℚ) (db : DB) :
    (upsertVote q w db).filterMap Write.notifies = [q.videoID] := by
  rw [upsertVote]
  cases db.votes.lookup (q.videoID, q.userID) <;> rfl

theorem notifies_dropVote (v : VideoID) (u : UserID) (db : DB) :
    (dropVote v u db).filterMap Write.notifies = [] := by
  rw [dropVote]
  cases db.votes.lookup (v, u) <;> rfl

section Counters

variable {w : DB → List Write} {v : VideoID} {c : Category}

theorem notifies_of_touches_videoCategory (hw : Touches w (.videoCategory v c)) (db : DB) :
    (w db).filterMap Write.notifies = [] :=
  notifies_of_touches hw (fun _ _ h ↦ nomatch h) db

theorem notifies_of_touches_video (hw : Touches w (.video v)) (db : DB) :
    (w db).filterMap Write.notifies = [] :=
  notifies_of_touches hw (fun _ _ h ↦ nomatch h) db

end Counters

/-- The last statements of a submission count the vote. -/
theorem notified_countVote {α : Type} (q : VoteRequest) (x : α) (db : DB) :
    notified (stmt (incrementVoteCount q.videoID q.category) fun _ ↦
      stmt (touchVideo q.now q.videoID) fun _ ↦ ret x) db = [] := by
  rw [notified_stmt, notified_stmt, notifies_of_touches_videoCategory touches_incrementVoteCount,
    notifies_of_touches_video touches_touchVideo, notified_ret]
  rfl

theorem notified_submit (b : Backend) (q : VoteRequest) (db : DB) :
    notified (VoteCall.submit b q).code db = [q.videoID] := by
  rw [code_submit, notified_stmt, notified_stmt, notified_stmt, notified_stmt,
    notifies_of_touches touches_insertUser (fun _ _ h ↦ nomatch h),
    notifies_of_touches_video touches_insertVideo]
  simp only [recordVote, exec_bind, notified_stmt, notifies_upsertVote, List.filterMap_nil,
    List.nil_append]
  refine congrArg _ ?_
  -- the three kinds of submission
  generalize selectCategory q.videoID q.userID _ = existingCategory
  rcases existingCategory with - | c
  · refine (notified_stmt ..).trans ?_
    rw [notifies_of_touches_video touches_incrementTotalVotes]
    exact notified_countVote q _ _
  · by_cases hc : c = q.category
    · simp only [countReplaced, hc, ne_eq, not_true_eq_false, if_false]
      exact notified_countVote q _ _
    · simp only [countReplaced, ne_eq, hc, not_false_eq_true, if_true]
      refine (notified_stmt ..).trans ?_
      rw [notifies_of_touches_videoCategory touches_decrementVoteCount]
      exact notified_countVote q _ _

theorem notified_delete (b : Backend) (q : VoteDeleteRequest) {db : DB}
    (hok : ((VoteCall.delete b q).code.run db).1.isOk) :
    notified (VoteCall.delete b q).code db = [q.videoID] := by
  rw [code_delete] at hok ⊢
  rw [run_stmt_after, after_query] at hok
  rw [notified_stmt, after_query, List.filterMap_nil, List.nil_append]
  rcases hc : selectCategory q.videoID q.userID db with - | c
  · rw [hc] at hok
    cases hok
  · simp only [eraseVote, exec_bind, notified_stmt, notifies_dropVote,
      notifies_of_touches_video touches_decrementTotalVotes,
      notifies_of_touches_videoCategory touches_decrementVoteCount, List.nil_append]
    rfl

/-- **A vote request that succeeds notifies of its video**, once: by the trigger, or by
`pg_notify`. -/
theorem notifications_eq (call : VoteCall) (db : DB) : call.notifications db =
    if (call.code.run db).1.isOk then [call.videoID] else [] := by
  have hnotified : (call.code.run db).1.isOk → notified call.code db = [call.videoID] := by
    intro hok
    cases call with
    | submit b q => exact notified_submit b q db
    | delete b q => exact notified_delete b q hok
  rw [VoteCall.notifications]
  rcases hrun : (call.code.run db).1 with e | a
  · rfl
  · rw [hrun] at hnotified
    exact hnotified rfl

end RealTube
