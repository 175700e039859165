import RealTube.Model.VoteRepo
import RealTube.Model.ScoreService

/-!
# The transactions and the rows they touch

The transactions are spelled out as trees of statements (`code_submit`, `code_delete`,
`code_recalculate`). Every writing statement is about one row (`Touches`): what it writes
depends on that row and is a new version of it. Two kinds of statement can write nothing, an
`UPDATE` or `DELETE` without a row to change and `ON CONFLICT DO NOTHING`; the `_ne_nil` lemmas say
when the others take the lock on their row.
-/

open Tx

namespace RealTube

/-! ### The two halves of a transaction -/

/-- What a submission does once it has read the existing category. -/
def recordVote (q : VoteRequest) (trustWeight : ℚ) (existingCategory : Option Category) :
    Tx DB Write (Except VoteError (Option ℚ)) := do
  exec (upsertVote q trustWeight)
  countReplaced q existingCategory
  exec (incrementVoteCount q.videoID q.category)
  exec (touchVideo q.now q.videoID)
  return .ok (some trustWeight)

/-- What a deletion does once it has read the category. -/
def eraseVote (q : VoteDeleteRequest) (c : Category) :
    Tx DB Write (Except VoteError (Option ℚ)) := do
  exec (dropVote q.videoID q.userID)
  exec (decrementTotalVotes q.now q.videoID)
  exec (decrementVoteCount q.videoID c)
  exec (notifyVoteChanges q.videoID)
  return .ok none

theorem code_submit (b : Backend) (q : VoteRequest) :
    (VoteCall.submit b q).code =
      stmt (insertUser q.now q.userID) fun _ ↦ stmt (fun _ ↦ []) fun s ↦
        stmt (insertVideo q.now q.videoID) fun _ ↦ stmt (fun _ ↦ []) fun s' ↦
          recordVote q (selectTrustScore q.userID s) (selectCategory q.videoID q.userID s') := by
  cases b <;>
    simp only [VoteCall.code, Go.submitVote, Python.submitVote, submitVoteTx, bind_assoc] <;> rfl

theorem code_delete (b : Backend) (q : VoteDeleteRequest) :
    (VoteCall.delete b q).code = stmt (fun _ ↦ []) fun s ↦
      match selectCategory q.videoID q.userID s with
      | none => ret (.error b.notFound)
      | some c => eraseVote q c := by
  cases b <;>
    simp only [VoteCall.code, Go.deleteVote, Python.deleteVote, deleteVoteTx, query_bind,
      stmt_bind] <;> refine congrArg _ (funext fun s ↦ ?_) <;>
    cases selectCategory q.videoID q.userID s <;> rfl

/-! ### The transactions of the system -/

/-- A request to the database: a vote request, or a recalculation by a score worker. -/
inductive Call where
  | vote (call : VoteCall)
  | recalculate (b : Backend) (q : RecalculateRequest)

/-- The transaction of a request. -/
def Call.code : Call → Tx DB Write (Except VoteError (Option ℚ))
  | vote call => call.code
  | recalculate b q => do
    recalculateVideoScore b q
    return .ok none

/-- The transactions of a family of requests. -/
def Call.codes {ι : Type} (calls : ι → Call) (i : ι) : Tx DB Write (Except VoteError (Option ℚ)) :=
  (calls i).code

/-- A recalculation once it has found weight: one update per group, then the score. -/
theorem code_recalculate (b : Backend) (q : RecalculateRequest) :
    (Call.recalculate b q).code = stmt (fun _ ↦ []) fun s ↦
      if s.weightOn q.videoID = 0 then resetScores q >>= fun _ ↦ ret (.ok none)
      else stmt (fun _ ↦ []) fun s' ↦
        updateScores q (s.weightOn q.videoID) (selectGroups q.groupOrder q.videoID s') >>=
          fun _ ↦ ret (.ok none) := by
  rw [Call.code, recalculateVideoScore_eq, Go.recalculateVideoScore_eq, stmt_bind]
  refine congrArg _ (funext fun s ↦ ?_)
  split_ifs <;> rfl

variable {now : Time} {v : VideoID} {u : UserID} {c : Category} {db : DB}

/-! ### One row each -/

theorem touches_insertUser : Touches (insertUser now u) (.user u) where
  same h := by rw [insertUser, insertUser, show _ = _ from h]
  row {s x} hx := by
    rw [insertUser] at hx
    split at hx <;> simp_all [RowStore.row, Write.row]

theorem touches_insertVideo : Touches (insertVideo now v) (.video v) where
  same h := by rw [insertVideo, insertVideo, show _ = _ from h]
  row {s x} hx := by
    rw [insertVideo] at hx
    split at hx <;> simp_all [RowStore.row, Write.row]

theorem touches_upsertVote (q : VoteRequest) (w : ℚ) :
    Touches (upsertVote q w) (.vote q.videoID q.userID) where
  same h := by rw [upsertVote, upsertVote, show _ = _ from h]
  row {s x} hx := by
    rw [upsertVote] at hx
    split at hx <;> simp_all [RowStore.row, Write.row]

theorem touches_incrementTotalVotes : Touches (incrementTotalVotes now v) (.video v) where
  same h := by rw [incrementTotalVotes, incrementTotalVotes, show _ = _ from h]
  row {s x} hx := by
    rw [incrementTotalVotes] at hx
    split at hx <;> simp_all [RowStore.row, Write.row]

theorem touches_decrementTotalVotes : Touches (decrementTotalVotes now v) (.video v) where
  same h := by rw [decrementTotalVotes, decrementTotalVotes, show _ = _ from h]
  row {s x} hx := by
    rw [decrementTotalVotes] at hx
    split at hx
    · cases hx
    · split_ifs at hx <;> simp_all [RowStore.row, Write.row]

theorem touches_decrementVoteCount : Touches (decrementVoteCount v c) (.videoCategory v c) where
  same h := by rw [decrementVoteCount, decrementVoteCount, show _ = _ from h]
  row {s x} hx := by
    rw [decrementVoteCount] at hx
    split at hx
    · cases hx
    · split_ifs at hx <;> simp_all [RowStore.row, Write.row]

theorem touches_incrementVoteCount : Touches (incrementVoteCount v c) (.videoCategory v c) where
  same h := by rw [incrementVoteCount, incrementVoteCount, show _ = _ from h]
  row {s x} hx := by
    rw [incrementVoteCount] at hx
    split at hx <;> simp_all [RowStore.row, Write.row]

theorem touches_touchVideo : Touches (touchVideo now v) (.video v) where
  same h := by rw [touchVideo, touchVideo, show _ = _ from h]
  row {s x} hx := by
    rw [touchVideo] at hx
    split at hx <;> simp_all [RowStore.row, Write.row]

theorem touches_dropVote : Touches (dropVote v u) (.vote v u) where
  same h := by rw [dropVote, dropVote, show _ = _ from h]
  row {s x} hx := by
    rw [dropVote] at hx
    split at hx <;> simp_all [RowStore.row, Write.row]

theorem touches_setScore {score : ℚ} : Touches (setScore now v score) (.video v) where
  same h := by rw [setScore, setScore, show _ = _ from h]
  row {s x} hx := by
    rw [setScore] at hx
    split at hx <;> simp_all [RowStore.row, Write.row]

theorem touches_setWeightedScore {weightedScore : ℚ} :
    Touches (setWeightedScore v weightedScore c) (.videoCategory v c) where
  same h := by rw [setWeightedScore, setWeightedScore, show _ = _ from h]
  row {s x} hx := by
    rw [setWeightedScore] at hx
    split at hx <;> simp_all [RowStore.row, Write.row]

/-! ### What a transaction can write -/

/-- The rows a vote request can write: its user, its video, the video's categories and its vote. -/
def VoteCall.Owns (call : VoteCall) : Row → Prop
  | .user u => u = call.userID
  | .video v => v = call.videoID
  | .videoCategory v _ => v = call.videoID
  | .vote v u => v = call.videoID ∧ u = call.userID
  | .channel _ => False

/-- A vote request writes nothing else. -/
theorem within_code (call : VoteCall) : call.code.Within call.Owns := by
  have huser : call.Owns (.user call.userID) := rfl
  have hvideo : call.Owns (.video call.videoID) := rfl
  have hcategory : ∀ c, call.Owns (.videoCategory call.videoID c) := fun _ ↦ rfl
  have hvote : call.Owns (.vote call.videoID call.userID) := ⟨rfl, rfl⟩
  cases call with
  | submit b q =>
    have hcount : ∀ x : Except VoteError (Option ℚ),
        (stmt (incrementVoteCount q.videoID q.category) fun _ ↦
          stmt (touchVideo q.now q.videoID) fun _ ↦ ret x).Within (VoteCall.submit b q).Owns :=
      fun x ↦ .write touches_incrementVoteCount (hcategory _) fun _ ↦
        .write touches_touchVideo hvideo fun _ ↦ trivial
    rw [code_submit]
    refine .write touches_insertUser huser fun _ ↦ .read fun s ↦
      .write touches_insertVideo hvideo fun _ ↦ .read fun s' ↦
      .write (touches_upsertVote q _) hvote fun _ ↦ ?_
    -- the three kinds of submission
    cases selectCategory q.videoID q.userID s' with
    | none => exact .write touches_incrementTotalVotes hvideo fun _ ↦ hcount _
    | some c =>
      by_cases hc : c = q.category
      · simp only [countReplaced, hc, ne_eq, not_true_eq_false, if_false]
        exact hcount _
      · simp only [countReplaced, ne_eq, hc, not_false_eq_true, if_true]
        exact .write touches_decrementVoteCount (hcategory c) fun _ ↦ hcount _
  | delete b q =>
    rw [code_delete]
    refine .read fun s ↦ ?_
    cases selectCategory q.videoID q.userID s with
    | none => exact trivial
    | some c =>
      exact .write touches_dropVote hvote fun _ ↦ .write touches_decrementTotalVotes hvideo fun _ ↦
        .write touches_decrementVoteCount (hcategory c) fun _ ↦
        .rowless (fun h ↦ List.mem_singleton.1 h ▸ rfl) fun _ ↦ trivial

/-- The rows a recalculation can write: its video and the video's categories. -/
def RecalculateRequest.Owns (q : RecalculateRequest) : Row → Prop
  | .video v => v = q.videoID
  | .videoCategory v _ => v = q.videoID
  | _ => False

/-- A loop over categories writes rows of categories. -/
theorem within_setWeightedScores {P : Row → Prop} {v : VideoID} (hP : ∀ c, P (.videoCategory v c))
    {β : Type} (f : β → ℚ) (g : β → Category) (cs : List β) :
    (cs.forM fun x ↦ exec (setWeightedScore v (f x) (g x)) : Tx DB Write Unit).Within P := by
  induction cs with
  | nil => trivial
  | cons x cs ih => exact .write touches_setWeightedScore (hP _) fun _ ↦ ih

/-- A recalculation writes nothing else. -/
theorem within_recalculate (b : Backend) (q : RecalculateRequest) :
    (Call.recalculate b q).code.Within q.Owns := by
  have hscore : ∀ (score : ℚ) {k : DB → Tx DB Write (Except VoteError (Option ℚ))},
      (∀ s, (k s).Within q.Owns) → (stmt (setScore q.now q.videoID score) k).Within q.Owns :=
    fun score _ hk ↦ .write touches_setScore (show q.Owns (.video _) from rfl) hk
  rw [code_recalculate]
  refine .read fun s ↦ ?_
  split_ifs
  · exact hscore 0 fun _ ↦ .read fun s ↦
      Emits.bind (within_setWeightedScores (fun _ ↦ rfl) (fun _ ↦ 0) id _) fun _ ↦ trivial
  · refine .read fun s' ↦ ?_
    rw [updateScores, bind_assoc]
    exact Emits.bind (within_setWeightedScores (fun _ ↦ rfl) _ _ _) fun _ ↦
      hscore _ fun _ ↦ trivial

/-! ### When the lock is taken -/

theorem insertUser_ne_nil : insertUser now u db ≠ [] := by
  rw [insertUser]
  cases db.users.lookup u <;> simp

/-- `ON CONFLICT DO NOTHING` writes nothing where there is a row. -/
theorem insertVideo_eq_nil (h : db.videos.lookup v ≠ none) : insertVideo now v db = [] := by
  obtain ⟨row, hrow⟩ := Option.ne_none_iff_exists'.1 h
  simp [insertVideo, hrow]

theorem insertVideo_ne_nil (h : db.videos.lookup v = none) : insertVideo now v db ≠ [] := by
  simp [insertVideo, h]

theorem upsertVote_ne_nil (q : VoteRequest) (w : ℚ) : upsertVote q w db ≠ [] := by
  rw [upsertVote]
  cases db.votes.lookup (q.videoID, q.userID) <;> simp

theorem incrementVoteCount_ne_nil : incrementVoteCount v c db ≠ [] := by
  rw [incrementVoteCount]
  cases db.videoCategories.lookup (v, c) <;> simp

theorem incrementTotalVotes_ne_nil (h : db.videos.lookup v ≠ none) :
    incrementTotalVotes now v db ≠ [] := by
  obtain ⟨row, hrow⟩ := Option.ne_none_iff_exists'.1 h
  simp [incrementTotalVotes, hrow]

theorem touchVideo_ne_nil (h : db.videos.lookup v ≠ none) : touchVideo now v db ≠ [] := by
  obtain ⟨row, hrow⟩ := Option.ne_none_iff_exists'.1 h
  simp [touchVideo, hrow]

theorem decrementTotalVotes_ne_nil (h : 0 < db.totalVotes v) :
    decrementTotalVotes now v db ≠ [] := by
  rw [DB.totalVotes] at h
  rw [decrementTotalVotes]
  cases hrow : db.videos.lookup v with
  | none => simp [hrow] at h
  | some row =>
    rw [hrow, Option.elim_some] at h
    simp [h]

theorem decrementVoteCount_ne_nil (h : 0 < db.voteCount v c) : decrementVoteCount v c db ≠ [] := by
  rw [DB.voteCount] at h
  rw [decrementVoteCount]
  cases hrow : db.videoCategories.lookup (v, c) with
  | none => simp [hrow] at h
  | some row =>
    rw [hrow, Option.elim_some] at h
    simp [h]

theorem dropVote_ne_nil (h : db.votedCategory v u ≠ none) : dropVote v u db ≠ [] := by
  rw [DB.votedCategory] at h
  rw [dropVote]
  cases hrow : db.votes.lookup (v, u) with
  | none => simp [hrow] at h
  | some row => simp

/-! ### No video is removed -/

theorem videos_lookup_write_ne_none (w : Write) (h : db.videos.lookup v ≠ none) :
    (db.write w).videos.lookup v ≠ none := by
  cases w <;> simp only [DB.write, Table.lookup_insert] <;> try exact h
  split_ifs
  · exact Option.some_ne_none _
  · exact h

theorem videos_lookup_applyAll_ne_none (ws : List Write) (h : db.videos.lookup v ≠ none) :
    (RowStore.applyAll db ws).videos.lookup v ≠ none := by
  induction ws generalizing db with
  | nil => exact h
  | cons w ws ih => exact ih (videos_lookup_write_ne_none w h)

end RealTube
