import RealTube.Model.Handlers
import RealTube.Votes.Counters

/-!
# Database calls that fail

A submission makes about ten calls to the database: those of its transaction, from `BEGIN` to
`COMMIT`, and one more that reads the score for the response. Any of them may fail. What fails in
the transaction undoes it, so a deletion that reports an error has changed nothing. But the score is
read after the commit. If that fails, the vote stays, and the client is told that it could not be
submitted, on both backends and in no other case (`keepsOnError_iff`).

The removal of the cached response, which comes after the commit as well, is only logged when it
fails. It does not touch the tables, and is left out.
-/

open Tx

namespace RealTube

/-- `VoteResponse`, of a success. -/
structure VoteResponse where
  newScore : ℚ
  userTrust : ℚ
  deriving DecidableEq

/-! ### The services -/

section Services

variable (fails : ℕ → Bool)

/-- A transaction, and the read of the score after it. -/
def submitAndRead (tx : Tx DB Write (Except VoteError ℚ)) (v : VideoID) (db : DB) :
    Except (Abort VoteError) VoteResponse × DB :=
  match tx.transact fails db with
  | (.error e, db') => (.error e, db')
  | (.ok userTrust, db') =>
    if fails (tx.calls db + 2) then (.error .call, db')
    else
      match db'.score v with
      | none => (.error .call, db')
      | some newScore => (.ok ⟨newScore, userTrust⟩, db')

namespace Go

/-- `VoteService.Submit`, of a valid category. -/
def submit (q : VoteRequest) (db : DB) : Except (Abort VoteError) VoteResponse × DB :=
  submitAndRead fails (submitVote q) q.videoID db

/-- `VoteService.Delete`. -/
def delete (q : VoteDeleteRequest) (db : DB) : Except (Abort VoteError) Unit × DB :=
  (deleteVote q).transact fails db

end Go

namespace Python

/-- `submit_vote`. -/
def submitVoteService (q : VoteRequest) (db : DB) : Except (Abort VoteError) VoteResponse × DB :=
  submitAndRead fails (submitVote q) q.videoID db

/-- `delete_vote`. -/
def deleteVoteService (q : VoteDeleteRequest) (db : DB) : Except (Abort VoteError) Unit × DB :=
  (deleteVote q).transact fails db

variable (lower : Backend → Text.LowerCase) (now : Time)

/-- `POST /api/votes`. -/
def submit (ip : String) (body : Option VoteBody) (db : DB) : Except ApiError VoteResponse × DB :=
  match Backend.python.submitHandler lower ip now body with
  | .error e => (.error e, db)
  | .ok q =>
    let (answer, db') := submitVoteService fails q db
    (answer.mapError fun _ ↦ internalError "Failed to submit vote", db')

/-- The response to a deletion that fails. -/
def deleteError : Abort VoteError → ApiError
  | .program .lookupError => ⟨404, "NOT_FOUND", "Vote not found"⟩
  | _ => internalError "Failed to delete vote"

/-- `DELETE /api/votes`. -/
def delete (body : Option VoteDeleteBody) (db : DB) : Except ApiError Unit × DB :=
  match Backend.python.deleteHandler lower now body with
  | .error e => (.error e, db)
  | .ok q =>
    let (answer, db') := deleteVoteService fails q db
    (answer.mapError deleteError, db')

end Python

end Services

/-! ### What an error says -/

/-- The tables of the vote code are the same. -/
structure DB.SameVoteTables (db db' : DB) : Prop where
  votes : db'.votes = db.votes
  videos : db'.videos = db.videos
  videoCategories : db'.videoCategories = db.videoCategories
  users : db'.users = db.users

/-- **An error means that nothing has changed.** -/
def KeepsOnError {ε α : Type} (db : DB) (r : Except ε α × DB) : Prop :=
  ∀ e, r.1 = .error e → db.SameVoteTables r.2

/-- **The first call to fail is the read of the score**: the one after the `COMMIT`. -/
def ScoreReadFails (fails : ℕ → Bool) (tx : Tx DB Write (Except VoteError ℚ)) (db : DB) : Prop :=
  (∀ i < tx.calls db + 2, fails i = false) ∧ fails (tx.calls db + 2) = true

variable {fails : ℕ → Bool} {db : DB}

theorem DB.SameVoteTables.refl (db : DB) : db.SameVoteTables db := ⟨rfl, rfl, rfl, rfl⟩

/-- **A submission changes the tables**: it counts for its category, whatever vote it replaces. -/
theorem not_sameVoteTables_submit (db : DB) (q : VoteRequest) :
    ¬db.SameVoteTables (db.submit q) := by
  intro hsame
  have hcount := voteCount_submit q db q.videoID q.category
  rw [if_pos ⟨rfl, rfl⟩, if_neg fun hlow ↦ hlow.2.2.1 rfl, DB.voteCount, hsame.videoCategories,
    ← DB.voteCount] at hcount
  omega

/-- The score of the video is there after a submission. -/
theorem score_submit (db : DB) (q : VoteRequest) :
    ∃ score, (db.submit q).score q.videoID = some score :=
  ⟨_, congrArg (Option.map Video.score) (Table.lookup_insert_self _ _ _)⟩

/-- What a submission comes to. -/
theorem keepsOnError_submitAndRead {q : VoteRequest} :
    KeepsOnError db (submitAndRead fails (submitVoteTx q) q.videoID db) ↔
      ¬ScoreReadFails fails (submitVoteTx q) db := by
  have hrun := run_submitVoteTx q db
  have htransact := transact_of_ok fails (congrArg Prod.fst hrun)
  rw [hrun] at htransact
  rw [KeepsOnError, submitAndRead, htransact, ScoreReadFails]
  by_cases hcommit : ∀ i < (submitVoteTx q).calls db + 2, fails i = false
  · rw [if_pos hcommit]
    dsimp only
    rcases fails ((submitVoteTx q).calls db + 2) with - | -
    · obtain ⟨score, hscore⟩ := score_submit db q
      rw [if_neg Bool.false_ne_true, hscore]
      exact iff_of_true (fun e he ↦ nomatch he) fun hread ↦ Bool.false_ne_true hread.2
    · rw [if_pos rfl]
      exact iff_of_false (fun hkeeps ↦ not_sameVoteTables_submit db q (hkeeps .call rfl))
        fun hnot ↦ hnot ⟨hcommit, rfl⟩
  · rw [if_neg hcommit]
    exact iff_of_true (fun _ _ ↦ .refl db) fun hread ↦ hcommit hread.1

/-- The handler answers another error. -/
theorem keepsOnError_mapError_iff {ε ε' α : Type} {f : ε → ε'} {r : Except ε α × DB} :
    KeepsOnError db (r.1.mapError f, r.2) ↔ KeepsOnError db r := by
  obtain ⟨e | a, db'⟩ := r
  · exact ⟨fun h _ _ ↦ h (f e) rfl, fun h _ _ ↦ h e rfl⟩
  · exact iff_of_true (fun _ h ↦ nomatch h) fun _ h ↦ nomatch h

theorem keepsOnError_transact {ε α : Type} (tx : Tx DB Write (Except ε α)) :
    KeepsOnError db (tx.transact fails db) := by
  intro e he
  rw [transact_of_error fails he]
  exact .refl db

theorem keepsOnError_python_submit {lower : Backend → Text.LowerCase} {now : Time} {ip : String}
    {body : Option VoteBody} : KeepsOnError db (Python.submit fails lower now ip body db) ↔
      ∀ q, Backend.python.submitHandler lower ip now body = .ok q →
        ¬ScoreReadFails fails (Python.submitVote q) db := by
  rw [Python.submit]
  rcases Backend.python.submitHandler lower ip now body with e | q
  · exact iff_of_true (fun _ _ ↦ .refl db) fun q hq ↦ nomatch hq
  · refine keepsOnError_mapError_iff.trans (keepsOnError_submitAndRead.trans ⟨?_, ?_⟩)
    · rintro hnot _ ⟨⟩
      exact hnot
    · exact fun h ↦ h q rfl

/-- **When an error means that nothing has changed.** A submission that reports an error has left
the tables as they were unless the first call to fail is the read of the score. A deletion always
has. -/
theorem keepsOnError_iff (fails : ℕ → Bool) (db : DB) :
    (∀ q, KeepsOnError db (Go.submit fails q db) ↔ ¬ScoreReadFails fails (Go.submitVote q) db) ∧
      (∀ lower now ip body, KeepsOnError db (Python.submit fails lower now ip body db) ↔
        ∀ q, Backend.python.submitHandler lower ip now body = .ok q →
          ¬ScoreReadFails fails (Python.submitVote q) db) ∧
      (∀ q, KeepsOnError db (Go.delete fails q db)) ∧
      ∀ lower now body, KeepsOnError db (Python.delete fails lower now body db) := by
  refine ⟨fun q ↦ keepsOnError_submitAndRead, fun lower now ip body ↦ keepsOnError_python_submit,
    fun q ↦ keepsOnError_transact _, fun lower now body ↦ ?_⟩
  rw [Python.delete]
  rcases Backend.python.deleteHandler lower now body with e | q
  · exact fun _ _ ↦ .refl db
  · exact keepsOnError_mapError_iff.2 (keepsOnError_transact _)

/-- A vote on an empty database. -/
def onlyVote : VoteRequest := ⟨"v", "ab", .fullyAI, "127.0.0.1", none, 0⟩

/-- Its body. -/
def onlyVoteBody : VoteBody where
  videoID := Text.ofString "v"
  category := Text.ofString "fully_ai"
  userID := Text.ofString "ab"
  userAgent := none

theorem scoreReadFails_onlyVote :
    ScoreReadFails (· = 10) (submitVoteTx onlyVote) (DB.start ∅ ∅) := by
  have hcalls : (submitVoteTx onlyVote).calls (DB.start ∅ ∅) = 8 := by decide +kernel
  rw [ScoreReadFails, hcalls]
  decide

/-- **The vote stays, and an error is reported**: the eleventh call fails, on an empty database. -/
theorem not_keepsOnError : (¬∀ fails db q, KeepsOnError db (Go.submit fails q db)) ∧
    ¬∀ fails db lower now ip body, KeepsOnError db (Python.submit fails lower now ip body db) := by
  constructor
  · intro h
    exact keepsOnError_submitAndRead.1 (h (· = 10) (DB.start ∅ ∅) onlyVote)
      scoreReadFails_onlyVote
  · intro h
    have hkeeps := h (· = 10) (DB.start ∅ ∅) (fun _ ↦ .ascii) 0 "127.0.0.1" (some onlyVoteBody)
    have hbody : Backend.python.submitHandler (fun _ ↦ .ascii) "127.0.0.1" 0 (some onlyVoteBody) =
        .ok onlyVote := by
      rfl
    exact keepsOnError_python_submit.1 hkeeps _ hbody scoreReadFails_onlyVote

end RealTube
