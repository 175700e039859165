import RealTube.Model.VoteRepo
import Mathlib.Tactic.Ring
import Mathlib.Tactic.Linarith

/-!
# Vote requests run one at a time

What a submission and a deletion do to the tables when nothing runs beside them, read off the
statements: the `votes` table is written at one key, each counter moves by at most one. The counters
are then compared with the counts over `votes`, which the same write moves at one key only
(`votesIn_submit`, `votesIn_unvote`).
-/

open Tx

namespace RealTube

namespace DB

variable (db : DB)

/-! ### Counts over the votes -/

section Counts

variable (v : VideoID) (u : UserID) (v' : VideoID) (c' : Category)

/-- The votes of a video are those of one user and those of the rest. -/
theorem votesOn_split :
    db.votesOn v' = (if v = v' ∧ db.votedCategory v u ≠ none then 1 else 0) +
      (db.votes.erase (v, u)).count fun k _ ↦ k.1 = v' := by
  rw [votesOn, Table.count_eq_add_erase _ _ (v, u), votedCategory]
  cases db.votes.lookup (v, u) <;> simp

/-- The votes of a video in a category are those of one user and those of the rest. -/
theorem votesIn_split :
    db.votesIn v' c' = (if v = v' ∧ db.votedCategory v u = some c' then 1 else 0) +
      (db.votes.erase (v, u)).count fun k row ↦ k.1 = v' ∧ row.category = c' := by
  rw [votesIn, Table.count_eq_add_erase _ _ (v, u), votedCategory]
  cases db.votes.lookup (v, u) <;> simp

/-- A vote that is there is counted in its category. -/
theorem votesIn_pos {v : VideoID} {u : UserID} {c : Category}
    (h : db.votedCategory v u = some c) : 0 < db.votesIn v c := by
  rw [votesIn_split db v u v c, if_pos ⟨rfl, h⟩]
  omega

/-- A vote that is there is counted. -/
theorem votesOn_pos {v : VideoID} {u : UserID} (h : db.votedCategory v u ≠ none) :
    0 < db.votesOn v := by
  rw [votesOn_split db v u v, if_pos ⟨rfl, h⟩]
  omega

end Counts

end DB

/-! ### A submission -/

section Submit

/-- The trust a submission records: that of the user's row, or the default of a new one. -/
def DB.trustScore (db : DB) (u : UserID) : ℚ := (db.users.lookup u).elim (3 / 10) User.trustScore

/-- The row of `videos` a submission starts from: the stored one, or a new one. -/
def DB.videoOrNew (db : DB) (now : Time) (v : VideoID) : Video :=
  (db.videos.lookup v).getD (Video.new now)

/-- The category counters when those of the replaced vote are adjusted. -/
def DB.countReplaced (db : DB) (q : VoteRequest) : Table (VideoID × Category) VideoCategory :=
  match db.votedCategory q.videoID q.userID with
  | none => db.videoCategories
  | some c =>
    if c ≠ q.category then
      db.videoCategories.modify (q.videoID, c) fun row ↦
        if row.voteCount > 0 then { row with voteCount := row.voteCount - 1 } else row
    else db.videoCategories

/-- **The effect of a submission**, table by table. -/
def DB.submit (db : DB) (q : VoteRequest) : DB where
  users := db.users.insert q.userID (User.seenAt q.now (db.users.lookup q.userID))
  videos := db.videos.insert q.videoID
    { db.videoOrNew q.now q.videoID with
      totalVotes := (db.videoOrNew q.now q.videoID).totalVotes +
        if db.votedCategory q.videoID q.userID = none then 1 else 0
      lastUpdated := q.now }
  videoCategories := (db.countReplaced q).insert (q.videoID, q.category)
    { voteCount := db.voteCount q.videoID q.category + 1
      weightedScore :=
        (db.videoCategories.lookup (q.videoID, q.category)).elim 0 VideoCategory.weightedScore }
  votes := db.votes.insert (q.videoID, q.userID)
    (q.row (db.trustScore q.userID) (db.votes.lookup (q.videoID, q.userID)))
  channels := db.channels

theorem run_stmt_after {α : Type} (w : DB → List Write) (k : DB → Tx DB Write α) (db : DB) :
    (stmt w k).run db = (k db).run (db.after w) := rfl

@[simp] theorem after_query (db : DB) : (db.after fun _ ↦ []) = db := rfl

theorem selectTrustScore_insertUser (db : DB) (now : Time) (u : UserID) :
    (User.seenAt now (db.users.lookup u)).trustScore = db.trustScore u := by
  rw [DB.trustScore]
  cases db.users.lookup u <;> rfl

/-- The weighted score of a category the user leaves is not the one the user enters. -/
theorem lookup_countReplaced (db : DB) (q : VoteRequest) :
    (db.countReplaced q).lookup (q.videoID, q.category) =
      db.videoCategories.lookup (q.videoID, q.category) := by
  rw [DB.countReplaced]
  split
  · rfl
  · split_ifs with hc
    · exact Table.lookup_modify_of_ne _ _ fun h ↦ hc (congrArg Prod.snd h).symm
    · rfl

/-- **A submission run alone.** -/
theorem run_submitVoteTx (q : VoteRequest) (db : DB) :
    (submitVoteTx q).run db = (.ok (db.trustScore q.userID), db.submit q) := by
  have htrust : selectTrustScore q.userID (db.after (insertUser q.now q.userID)) =
      db.trustScore q.userID := by
    rw [after_insertUser, selectTrustScore, Table.lookup_insert_self]
    exact selectTrustScore_insertUser db q.now q.userID
  have hcat : selectCategory q.videoID q.userID
      ((db.after (insertUser q.now q.userID)).after (insertVideo q.now q.videoID)) =
      db.votedCategory q.videoID q.userID := by
    rw [after_insertUser, after_insertVideo]
    rfl
  simp only [submitVoteTx, exec_bind, query_bind, run_stmt_after, after_query, htrust, hcat]
  rw [after_insertUser, after_insertVideo, after_upsertVote]
  have hrow := lookup_countReplaced db q
  -- the three kinds of submission: a new vote, a changed one, the same again
  cases hv : db.votedCategory q.videoID q.userID with
  | none =>
    simp [countReplaced, run_stmt_after, after_incrementTotalVotes, after_incrementVoteCount,
      after_touchVideo, DB.submit, DB.countReplaced, hv, DB.voteCount, DB.videoOrNew]
  | some c =>
    by_cases hc : c = q.category
    · simp [countReplaced, run_stmt_after, after_incrementVoteCount, after_touchVideo, DB.submit,
        DB.countReplaced, hv, hc, DB.voteCount, DB.videoOrNew]
    · simp only [DB.countReplaced, hv, ne_eq, hc, not_false_eq_true, if_true] at hrow
      simp [countReplaced, run_stmt_after, after_decrementVoteCount, after_incrementVoteCount,
         after_touchVideo, DB.submit, DB.countReplaced, hv, hc,
        DB.voteCount, DB.videoOrNew, hrow]

/-- The trust a submission answers and the store it leaves. -/
theorem runTx_submit (b : Backend) (q : VoteRequest) (db : DB) :
    (VoteCall.submit b q).code.runTx db = (.ok (some (db.trustScore q.userID)), db.submit q) := by
  have hrun : (VoteCall.submit b q).code.run db =
      (.ok (some (db.trustScore q.userID)), db.submit q) := by
    cases b <;>
      simp only [VoteCall.code, Go.submitVote, Python.submitVote, run_bind, run_submitVoteTx] <;>
        rfl
  rw [runTx, hrun]

variable (q : VoteRequest) (db : DB) (v : VideoID) (c : Category)

theorem votedCategory_submit (u : UserID) : (db.submit q).votedCategory v u =
    if v = q.videoID ∧ u = q.userID then some q.category else db.votedCategory v u := by
  have hrow : ∀ r, (q.row (db.trustScore q.userID) r).category = q.category := by
    rintro (_ | r) <;> rfl
  rw [DB.votedCategory, DB.submit, Table.lookup_insert]
  by_cases h : v = q.videoID ∧ u = q.userID
  · rw [if_pos h, if_pos (Prod.ext h.1 h.2), Option.map_some, hrow]
  · rw [if_neg h, if_neg fun he ↦ h ⟨congrArg Prod.fst he, congrArg Prod.snd he⟩, DB.votedCategory]

theorem totalVotes_submit : (db.submit q).totalVotes v = db.totalVotes v +
    if v = q.videoID ∧ db.votedCategory q.videoID q.userID = none then 1 else 0 := by
  rw [DB.totalVotes, DB.submit, Table.lookup_insert]
  by_cases hv : v = q.videoID
  · subst hv
    simp only [true_and, if_true, Option.elim_some, DB.videoOrNew, DB.totalVotes]
    cases db.videos.lookup q.videoID <;> rfl
  · simp [hv, DB.totalVotes]

theorem votesOn_submit : (db.submit q).votesOn v = db.votesOn v +
    if v = q.videoID ∧ db.votedCategory q.videoID q.userID = none then 1 else 0 := by
  rw [DB.votesOn_split db q.videoID q.userID v, DB.votesOn_split _ q.videoID q.userID v,
    votedCategory_submit]
  simp only [DB.submit, Table.erase_insert, eq_comm (a := q.videoID)]
  cases db.votedCategory q.videoID q.userID <;> simp [add_comm]

theorem votesIn_submit : (db.submit q).votesIn v c +
    (if v = q.videoID ∧ db.votedCategory q.videoID q.userID = some c then 1 else 0) =
      db.votesIn v c + if v = q.videoID ∧ c = q.category then 1 else 0 := by
  rw [DB.votesIn_split db q.videoID q.userID v c, DB.votesIn_split _ q.videoID q.userID v c,
    votedCategory_submit]
  simp only [DB.submit, Table.erase_insert, and_self, if_true, Option.some.injEq,
    eq_comm (a := q.videoID), eq_comm (a := q.category)]
  omega

/-- The category counter a submission adds to. -/
def VoteRequest.Raises (q : VoteRequest) (v : VideoID) (c : Category) : Prop :=
  v = q.videoID ∧ c = q.category

/-- The category counter a submission takes from: the one the user leaves, unless it is 0. -/
def VoteRequest.Lowers (q : VoteRequest) (db : DB) (v : VideoID) (c : Category) : Prop :=
  v = q.videoID ∧ db.votedCategory q.videoID q.userID = some c ∧ c ≠ q.category ∧
    0 < db.voteCount v c

instance : Decidable (q.Raises v c) := inferInstanceAs (Decidable (_ ∧ _))

instance : Decidable (q.Lowers db v c) := inferInstanceAs (Decidable (_ ∧ _ ∧ _ ∧ _))

theorem voteCount_modify_decrement (t : Table (VideoID × Category) VideoCategory)
    (k k' : VideoID × Category) :
    ((t.modify k' fun row ↦ if row.voteCount > 0
        then { row with voteCount := row.voteCount - 1 } else row).lookup k).elim
        0 VideoCategory.voteCount =
      (t.lookup k).elim 0 VideoCategory.voteCount -
        if k = k' ∧ 0 < (t.lookup k).elim 0 VideoCategory.voteCount then 1 else 0 := by
  rw [Table.lookup_modify]
  by_cases hk : k = k'
  · subst hk
    cases h : t.lookup k with
    | none => simp
    | some row =>
      by_cases hpos : row.voteCount > 0 <;> simp [hpos]
  · simp [hk]

theorem voteCount_submit : (db.submit q).voteCount v c = db.voteCount v c +
    (if q.Raises v c then 1 else 0) - if q.Lowers db v c then 1 else 0 := by
  rw [DB.voteCount, DB.submit, Table.lookup_insert]
  by_cases hc : v = q.videoID ∧ c = q.category
  · obtain ⟨rfl, rfl⟩ := hc
    simp [VoteRequest.Raises, VoteRequest.Lowers]
  · have hlow : ((db.countReplaced q).lookup (v, c)).elim 0 VideoCategory.voteCount =
        db.voteCount v c - if q.Lowers db v c then 1 else 0 := by
      rw [DB.countReplaced]
      split
      · rename_i hv
        simp [VoteRequest.Lowers, hv, DB.voteCount]
      · rename_i c' hv
        have hiff : q.Lowers db v c ↔ c' ≠ q.category ∧
            (v, c) = (q.videoID, c') ∧ 0 < db.voteCount v c := by
          rw [VoteRequest.Lowers, hv, Option.some.injEq, Prod.mk.injEq]
          constructor
          · rintro ⟨rfl, rfl, hne, hpos⟩
            exact ⟨hne, ⟨rfl, rfl⟩, hpos⟩
          · rintro ⟨hne, ⟨rfl, rfl⟩, hpos⟩
            exact ⟨rfl, rfl, hne, hpos⟩
        split_ifs with hc' hlow hlow
        · rw [voteCount_modify_decrement, ← DB.voteCount, if_pos (hiff.1 hlow).2]
        · rw [voteCount_modify_decrement, ← DB.voteCount,
            if_neg fun h ↦ hlow (hiff.2 ⟨hc', h⟩), sub_zero]
        · exact absurd (hiff.1 hlow).1 hc'
        · rw [DB.voteCount, sub_zero]
    rw [if_neg fun h ↦ hc ⟨congrArg Prod.fst h, congrArg Prod.snd h⟩, hlow]
    simp [VoteRequest.Raises, hc]

end Submit

/-! ### A deletion -/

section Delete

/-- **The effect of a deletion** of a vote in a category, table by table. -/
def DB.unvote (db : DB) (q : VoteDeleteRequest) (c : Category) : DB where
  users := db.users
  videos := db.videos.modify q.videoID fun row ↦
    if row.totalVotes > 0 then
      { row with totalVotes := row.totalVotes - 1, lastUpdated := q.now }
    else row
  videoCategories := db.videoCategories.modify (q.videoID, c) fun row ↦
    if row.voteCount > 0 then { row with voteCount := row.voteCount - 1 } else row
  votes := db.votes.erase (q.videoID, q.userID)
  channels := db.channels

/-- **A deletion run alone.** -/
theorem run_deleteVoteTx (notFound : VoteError) (q : VoteDeleteRequest) (db : DB) :
    (deleteVoteTx notFound q).run db =
      match db.votedCategory q.videoID q.userID with
      | none => (.error notFound, db)
      | some c => (.ok (), db.unvote q c) := by
  simp only [deleteVoteTx, query_bind, run_stmt_after, after_query, selectCategory]
  cases db.votedCategory q.videoID q.userID with
  | none => rfl
  | some c =>
    simp only [exec_bind, run_stmt_after, after_dropVote, after_decrementTotalVotes,
      after_decrementVoteCount, after_notifyVoteChanges, pure_eq, run_ret, DB.unvote]

/-- What a deletion answers and the store it leaves: without a vote, an error and no change. -/
theorem runTx_delete (b : Backend) (q : VoteDeleteRequest) (db : DB) :
    (VoteCall.delete b q).code.runTx db =
      match db.votedCategory q.videoID q.userID with
      | none => (.error b.notFound, db)
      | some c => (.ok none, db.unvote q c) := by
  have hrun : (VoteCall.delete b q).code.run db =
      match db.votedCategory q.videoID q.userID with
      | none => (.error b.notFound, db)
      | some c => (.ok none, db.unvote q c) := by
    cases b <;>
      simp only [VoteCall.code, Go.deleteVote, Python.deleteVote, run_bind, run_deleteVoteTx] <;>
      cases db.votedCategory q.videoID q.userID <;> rfl
  rw [runTx, hrun]
  cases db.votedCategory q.videoID q.userID <;> rfl

variable (q : VoteDeleteRequest) (db : DB) (v : VideoID) (c c' : Category)

theorem votedCategory_unvote (u : UserID) : (db.unvote q c).votedCategory v u =
    if v = q.videoID ∧ u = q.userID then none else db.votedCategory v u := by
  rw [DB.votedCategory, DB.unvote, Table.lookup_erase]
  by_cases h : v = q.videoID ∧ u = q.userID
  · rw [if_pos h, if_pos (Prod.ext h.1 h.2), Option.map_none]
  · rw [if_neg h, if_neg fun he ↦ h ⟨congrArg Prod.fst he, congrArg Prod.snd he⟩, DB.votedCategory]

theorem totalVotes_unvote : (db.unvote q c).totalVotes v = db.totalVotes v -
    if v = q.videoID ∧ 0 < db.totalVotes v then 1 else 0 := by
  rw [DB.totalVotes, DB.unvote, Table.lookup_modify, DB.totalVotes]
  by_cases hv : v = q.videoID
  · subst hv
    cases db.videos.lookup q.videoID with
    | none => simp
    | some row => by_cases hpos : row.totalVotes > 0 <;> simp [hpos]
  · simp [hv]

theorem voteCount_unvote : (db.unvote q c).voteCount v c' = db.voteCount v c' -
    if v = q.videoID ∧ c' = c ∧ 0 < db.voteCount v c' then 1 else 0 := by
  rw [DB.voteCount, DB.unvote, voteCount_modify_decrement, DB.voteCount]
  simp only [Prod.mk.injEq, and_assoc]

variable {q db c}

/-- A deletion takes one vote from its video. -/
theorem votesOn_unvote (h : db.votedCategory q.videoID q.userID = some c) :
    (db.unvote q c).votesOn v + (if v = q.videoID then 1 else 0) = db.votesOn v := by
  rw [DB.votesOn_split db q.videoID q.userID v, DB.votesOn_split _ q.videoID q.userID v,
    votedCategory_unvote, h]
  simp only [DB.unvote, Table.erase_erase, eq_comm (a := q.videoID)]
  simp [add_comm]

/-- A deletion takes one vote from its category. -/
theorem votesIn_unvote (h : db.votedCategory q.videoID q.userID = some c) :
    (db.unvote q c).votesIn v c' + (if v = q.videoID ∧ c' = c then 1 else 0) =
      db.votesIn v c' := by
  rw [DB.votesIn_split db q.videoID q.userID v c', DB.votesIn_split _ q.videoID q.userID v c',
    votedCategory_unvote, h]
  simp only [DB.unvote, Table.erase_erase, eq_comm (a := q.videoID)]
  simp [add_comm, eq_comm]

end Delete

end RealTube
