import RealTube.Api.Validators
import RealTube.Store.Alike
import RealTube.Votes.Failures

/-!
# The vote endpoints of the two backends

`POST /api/votes` and `DELETE /api/votes`, from the decoded body to the answer: `handler/vote.go`
with `VoteService`, and `routers/votes.py` with `services/vote_service.py`. Both backends work on
one database, and a proxy may send any request to either of them. The bodies have all the fields
that a vote needs: one that is missing is the empty string in Go, and no valid body in Python.

It makes no difference to which (`serveAll_alike`). Whatever calls to the database fail, and
whatever workers commit in between, all requests are answered with the same status, the same code
and the same values, and the tables end up the same, but for what `votes` has on the client. The
address is that of the proxy's header in Go, and of the connection in Python; a missing user agent
is stored as an empty one by Go, and a long one is cut at another place. The requests must not have
one of the texts that the validators do not agree on (`Api.Validators`), nor a user agent that only
one of the backends can store (`Api.UserAgent`).
-/

open Tx

namespace RealTube

/-! ### The endpoints -/

namespace Go.VoteHandler

section

variable (fails : ℕ → Bool) (lower : Backend → Text.LowerCase) (now : Time)

/-- `POST /api/votes`. -/
def submit (ip : String) (body : Option VoteBody) (db : DB) : Except ApiError VoteResponse × DB :=
  match Backend.go.submitHandler lower ip now body with
  | .error e => (.error e, db)
  | .ok q =>
    let (answer, db') := Go.submit fails q db
    (answer.mapError fun _ ↦ internalError "Failed to submit vote", db')

/-- The response to a deletion that fails. -/
def deleteError : Abort VoteError → ApiError
  | .program .errNoRows => ⟨404, "NOT_FOUND", "Vote not found"⟩
  | _ => internalError "Failed to delete vote"

/-- `DELETE /api/votes`. -/
def delete (body : Option VoteDeleteBody) (db : DB) : Except ApiError Unit × DB :=
  match Backend.go.deleteHandler lower now body with
  | .error e => (.error e, db)
  | .ok q =>
    let (answer, db') := Go.delete fails q db
    (answer.mapError deleteError, db')

end

end Go.VoteHandler

/-- A request that gets to its handler: which calls to the database fail there, the address of the
client as each backend takes it, and whether the reply gets back. -/
structure Visit where
  fails : ℕ → Bool
  now : Time
  ip : Backend → String
  replied : Bool

section Endpoints

variable (lower : Backend → Text.LowerCase)

/-- `POST /api/votes`, on either backend. -/
def Backend.submitEndpoint (body : VoteBody) (visit : Visit) :
    Backend → DB → Except ApiError VoteResponse × DB
  | go => Go.VoteHandler.submit visit.fails lower visit.now (visit.ip .go) (some body)
  | python => Python.submit visit.fails lower visit.now (visit.ip .python) (some body)

/-- `DELETE /api/votes`, on either backend. -/
def Backend.deleteEndpoint (body : VoteDeleteBody) (visit : Visit) :
    Backend → DB → Except ApiError Unit × DB
  | go => Go.VoteHandler.delete visit.fails lower visit.now (some body)
  | python => Python.delete visit.fails lower visit.now (some body)

/-- The submission of a request, and the answer to its body. -/
theorem submitEndpoint_eq (b : Backend) (body : VoteBody) (visit : Visit) (db : DB) :
    b.submitEndpoint lower body visit db =
      match b.submitHandler lower (visit.ip b) visit.now (some body) with
      | .error e => (.error e, db)
      | .ok q =>
        ((submitAndRead visit.fails (submitVoteTx q) q.videoID db).1.mapError fun _ ↦
            internalError "Failed to submit vote",
          (submitAndRead visit.fails (submitVoteTx q) q.videoID db).2) := by
  cases b <;> rfl

/-- What the handlers make of an error of a deletion. -/
def Backend.deleteError : Backend → Abort VoteError → ApiError
  | go => Go.VoteHandler.deleteError
  | python => Python.deleteError

/-- The deletion of a request, and the answer to its body. -/
theorem deleteEndpoint_eq (b : Backend) (body : VoteDeleteBody) (visit : Visit) (db : DB) :
    b.deleteEndpoint lower body visit db =
      match b.deleteHandler lower visit.now (some body) with
      | .error e => (.error e, db)
      | .ok q =>
        (((deleteVoteTx b.notFound q).transact visit.fails db).1.mapError b.deleteError,
          ((deleteVoteTx b.notFound q).transact visit.fails db).2) := by
  cases b <;> rfl

end Endpoints

/-! ### The same but for the clients -/

/-- The row without the address and the user agent of the client. -/
def Vote.forgetClient (row : Vote) : Vote := { row with ipHash := "", userAgent := none }

/-- The databases are the same but for the clients in `votes`. -/
structure DB.SameButClients (db db' : DB) : Prop where
  users : db.users = db'.users
  videos : db.videos = db'.videos
  videoCategories : db.videoCategories = db'.videoCategories
  channels : db.channels = db'.channels
  votes : ∀ k, (db.votes.lookup k).map Vote.forgetClient =
    (db'.votes.lookup k).map Vote.forgetClient

namespace DB.SameButClients

variable {db db' : DB}

theorem refl (db : DB) : db.SameButClients db := ⟨rfl, rfl, rfl, rfl, fun _ ↦ rfl⟩

theorem votedCategory (h : db.SameButClients db') (v : VideoID) (u : UserID) :
    db.votedCategory v u = db'.votedCategory v u := by
  have hvotes := congrArg (Option.map Vote.category) (h.votes (v, u))
  rw [Option.map_map, Option.map_map] at hvotes
  exact hvotes

/-- Votes that differ in their clients are written. -/
theorem insertVote (h : db.SameButClients db') (v : VideoID) (u : UserID) {row row' : Vote}
    (hrow : row.forgetClient = row'.forgetClient) :
    (db.write (.vote v u row)).SameButClients (db'.write (.vote v u row')) := by
  refine { h with votes := fun k ↦ ?_ }
  simp only [DB.write, Table.lookup_insert]
  split_ifs
  · exact congrArg some hrow
  · exact h.votes k

/-- **The same is written to both.** -/
theorem write (h : db.SameButClients db') (w : Write) :
    (db.write w).SameButClients (db'.write w) := by
  cases w with
  | user u row => exact { h with users := congrArg (·.insert u row) h.users }
  | video v row => exact { h with videos := congrArg (·.insert v row) h.videos }
  | videoCategory v c row =>
    exact { h with videoCategories := congrArg (·.insert (v, c) row) h.videoCategories }
  | vote v u row => exact h.insertVote v u rfl
  | dropVote v u =>
    refine { h with votes := fun k ↦ ?_ }
    simp only [DB.write, Table.lookup_erase]
    split_ifs
    · rfl
    · exact h.votes k
  | channel ch row => exact { h with channels := congrArg (·.insert ch row) h.channels }
  | notify v => exact h

theorem applyAll (h : db.SameButClients db') (ws : List Write) :
    (RowStore.applyAll db ws).SameButClients (RowStore.applyAll db' ws) := by
  induction ws generalizing db db' with
  | nil => exact h
  | cons w ws ih => exact ih (h.write w)

end DB.SameButClients

/-- A statement makes the same writes on both. -/
theorem alike_exec_of_eq {w : DB → List Write}
    (hw : ∀ db db', db.SameButClients db' → w db = w db') :
    Alike DB.SameButClients (fun _ _ ↦ True) (exec w) (exec w) :=
  alike_exec fun db db' h ↦ hw db db' h ▸ h.applyAll (w db)

/-- Requests that differ in their clients only. -/
def VoteRequest.SameVote (q q' : VoteRequest) : Prop :=
  q' = { q with ipHash := q'.ipHash, userAgent := q'.userAgent }

/-- **The upsert of a vote** is the only statement that writes something of the client. -/
theorem alike_upsertVote {q q' : VoteRequest} (hq : q.SameVote q') (trustWeight : ℚ) :
    Alike DB.SameButClients (fun _ _ ↦ True) (exec (upsertVote q trustWeight))
      (exec (upsertVote q' trustWeight)) := by
  refine alike_exec fun db db' h ↦ ?_
  have hvote := h.votes (q.videoID, q.userID)
  rw [hq, upsertVote, upsertVote]
  dsimp only
  cases hrow : db.votes.lookup (q.videoID, q.userID) with
  | none =>
    rw [hrow, Option.map_none, eq_comm, Option.map_eq_none_iff] at hvote
    rw [hvote]
    exact h.insertVote q.videoID q.userID rfl
  | some row =>
    rw [hrow, Option.map_some, eq_comm, Option.map_eq_some_iff] at hvote
    obtain ⟨row', hrow', hforget⟩ := hvote
    rw [hrow']
    refine h.insertVote q.videoID q.userID ?_
    exact congrArg (fun r : Vote ↦ { r with
      category := q.category, trustWeight, createdAt := q.now }) hforget.symm

theorem alike_countReplaced (q : VoteRequest) (c : Option Category) :
    Alike DB.SameButClients (fun _ _ ↦ True) (countReplaced q c) (countReplaced q c) := by
  cases c with
  | none => exact alike_exec_of_eq fun db db' h ↦ by rw [incrementTotalVotes, h.videos]; rfl
  | some c =>
    rw [countReplaced]
    split_ifs
    · exact alike_exec_of_eq fun db db' h ↦ by rw [decrementVoteCount, h.videoCategories]; rfl
    · exact .ret trivial

/-- **Submissions go alike.** -/
theorem alike_submitVoteTx {q q' : VoteRequest} (hq : q.SameVote q') :
    Alike DB.SameButClients (AlikeResults Eq Eq) (submitVoteTx q) (submitVoteTx q') := by
  have hupsert := alike_upsertVote hq
  rw [hq] at hupsert ⊢
  refine (alike_exec_of_eq fun db db' h ↦ by rw [insertUser, h.users]; rfl).bind fun _ _ _ ↦ ?_
  refine (alike_query (P := Eq) fun db db' h ↦ ?_).bind fun trustWeight _ heq ↦ ?_
  · rw [selectTrustScore, h.users]
    rfl
  subst heq
  refine (alike_exec_of_eq fun db db' h ↦ by rw [insertVideo, h.videos]; rfl).bind fun _ _ _ ↦ ?_
  refine (alike_query (P := Eq) fun db db' h ↦ h.votedCategory _ _).bind fun c _ heq ↦ ?_
  subst heq
  refine (hupsert trustWeight).bind fun _ _ _ ↦ ?_
  refine (alike_countReplaced q c).bind fun _ _ _ ↦ ?_
  refine (alike_exec_of_eq fun db db' h ↦ by rw [incrementVoteCount, h.videoCategories]; rfl).bind
    fun _ _ _ ↦ ?_
  refine (alike_exec_of_eq fun db db' h ↦ by rw [touchVideo, h.videos]; rfl).bind fun _ _ _ ↦ ?_
  exact .ret (.ok rfl)

/-- **Deletions go alike**, with the errors of their backends. -/
theorem alike_deleteVoteTx (b b' : Backend) (q : VoteDeleteRequest) :
    Alike DB.SameButClients (AlikeResults (fun e e' ↦ e = b.notFound ∧ e' = b'.notFound) Eq)
      (deleteVoteTx b.notFound q) (deleteVoteTx b'.notFound q) := by
  refine (alike_query (P := Eq) fun db db' h ↦ h.votedCategory _ _).bind fun c _ heq ↦ ?_
  subst heq
  cases c with
  | none => exact .ret (.error ⟨rfl, rfl⟩)
  | some c =>
    refine (alike_exec fun db db' h ↦ ?_).bind fun _ _ _ ↦ ?_
    · have hvote := h.votes (q.videoID, q.userID)
      rw [dropVote, dropVote]
      cases hrow : db.votes.lookup (q.videoID, q.userID) with
      | none =>
        rw [hrow, Option.map_none, eq_comm, Option.map_eq_none_iff] at hvote
        rw [hvote]
        exact h
      | some row =>
        rw [hrow, Option.map_some, eq_comm, Option.map_eq_some_iff] at hvote
        obtain ⟨row', hrow', -⟩ := hvote
        rw [hrow']
        exact h.write (.dropVote q.videoID q.userID)
    refine (alike_exec_of_eq fun db db' h ↦ by rw [decrementTotalVotes, h.videos]; rfl).bind
      fun _ _ _ ↦ ?_
    refine (alike_exec_of_eq fun db db' h ↦ by
      rw [decrementVoteCount, h.videoCategories]; rfl).bind fun _ _ _ ↦ ?_
    exact (alike_exec_of_eq fun _ _ _ ↦ rfl).bind fun _ _ _ ↦ .ret (.ok rfl)

/-! ### Handlers -/

/-- Errors with the same status and the same code. The messages may differ: a text that is not
ASCII may be too long for Go, and invalid for Python. -/
def SameKind (e e' : ApiError) : Prop := e.status = e'.status ∧ e.code = e'.code

/-- The backends take the texts of a submission for the same. -/
structure VoteBody.Plain (body : VoteBody) : Prop where
  videoID : ¬SeparatorPadded videoIDRule.cls 1 16 body.videoID
  userID : ¬SeparatorPadded anyHexDigits 1 64 body.userID
  userAgent : Storable ((Backend.go.userAgent body.userAgent).getD []) ↔
    Storable ((Backend.python.userAgent body.userAgent).getD [])

/-- The same for a deletion. -/
structure VoteDeleteBody.Plain (body : VoteDeleteBody) : Prop where
  videoID : ¬SeparatorPadded videoIDRule.cls 1 16 body.videoID
  userID : ¬SeparatorPadded anyHexDigits 1 64 body.userID

/-- **Validators that agree** accept the same value on any two backends, or both reject. -/
theorem Agree.alike {α : Type} {validate : Backend → Except String α} (h : Agree validate)
    (b b' : Backend) : AlikeResults SameKind Eq ((validate b).mapError invalidField)
      ((validate b').mapError invalidField) := by
  have heq : ∀ b b' v, validate b = .ok v → validate b' = .ok v := by
    intro b b' v hv
    cases b <;> cases b'
    · exact hv
    · exact (agree_iff.1 h v).1 hv
    · exact (agree_iff.1 h v).2 hv
    · exact hv
  cases hb : validate b with
  | ok v =>
    rw [heq b b' v hb]
    exact .ok rfl
  | error message =>
    cases hb' : validate b' with
    | ok v => exact nomatch hb.symm.trans (heq b' b v hb')
    | error message' => exact .error ⟨rfl, rfl⟩

section Parity

variable (lower : Backend → PiecewiseLower) (b b' : Backend)

theorem agree_validateVideoID_iff {s : Text} :
    Agree (·.validateVideoID s) ↔ ¬SeparatorPadded videoIDRule.cls 1 16 s :=
  agree_id_iff (List.all_iff_forall_prop.1 (by decide +kernel))
    fun _ _ ↦ validateVideoID_eq_ok_iff

theorem agree_validateUserID_iff {s : Text} :
    Agree (fun b ↦ b.validateUserID (lower b).toLowerCase s) ↔
      ¬SeparatorPadded anyHexDigits 1 64 s :=
  agree_hex_iff lower fun _ _ ↦ validateUserID_eq_ok_iff

/-- **The handlers of a submission** pass on the same, or reject it for the same. -/
theorem alike_submitHandler {body : VoteBody} (h : body.Plain) (ip ip' : String) (now : Time) :
    AlikeResults SameKind VoteRequest.SameVote
      (b.submitHandler (fun b ↦ (lower b).toLowerCase) ip now (some body))
      (b'.submitHandler (fun b ↦ (lower b).toLowerCase) ip' now (some body)) := by
  have hagent : Storable ((b.userAgent body.userAgent).getD []) ↔
      Storable ((b'.userAgent body.userAgent).getD []) := by
    cases b <;> cases b'
    · exact Iff.rfl
    · exact h.userAgent
    · exact h.userAgent.symm
    · exact Iff.rfl
  refine ((agree_validateVideoID_iff.2 h.videoID).alike b b').bind fun v _ heq ↦ ?_
  subst heq
  refine (((agree_validateUserID_iff lower).2 h.userID).alike b b').bind fun u _ heq ↦ ?_
  subst heq
  cases checkCategory body.category with
  | error e => exact .error ⟨rfl, rfl⟩
  | ok c =>
    show AlikeResults _ _ (if _ then _ else _) (if _ then _ else _)
    split_ifs with hstorable hstorable' hstorable'
    · exact .ok rfl
    · exact absurd (hagent.1 hstorable) hstorable'
    · exact absurd (hagent.2 hstorable') hstorable
    · exact .error ⟨rfl, rfl⟩

/-- **The handlers of a deletion** do too. -/
theorem alike_deleteHandler {body : VoteDeleteBody} (h : body.Plain) (now : Time) :
    AlikeResults SameKind Eq
      (b.deleteHandler (fun b ↦ (lower b).toLowerCase) now (some body))
      (b'.deleteHandler (fun b ↦ (lower b).toLowerCase) now (some body)) := by
  refine ((agree_validateVideoID_iff.2 h.videoID).alike b b').bind fun v _ heq ↦ ?_
  subst heq
  refine (((agree_validateUserID_iff lower).2 h.userID).alike b b').bind fun u _ heq ↦ ?_
  subst heq
  exact .ok rfl

/-! ### Endpoints -/

variable {db db' : DB}

/-- A submission is read after it is committed. -/
theorem alike_submitAndRead {tx tx' : Tx DB Write (Except VoteError ℚ)}
    (h : Alike DB.SameButClients (AlikeResults Eq Eq) tx tx') (hdb : db.SameButClients db')
    (fails : ℕ → Bool) (v : VideoID) :
    AlikeResults (AlikeAborts Eq) Eq (submitAndRead fails tx v db).1
        (submitAndRead fails tx' v db').1 ∧
      (submitAndRead fails tx v db).2.SameButClients (submitAndRead fails tx' v db').2 := by
  have hcalls : tx.calls db = tx'.calls db' := h.calls_congr hdb
  obtain ⟨hresult, hstore⟩ := h.transact hdb fails
  rw [submitAndRead, submitAndRead, hcalls]
  generalize tx.transact fails db = x at hresult hstore
  generalize tx'.transact fails db' = x' at hresult hstore
  obtain ⟨r, db₁⟩ := x
  obtain ⟨r', db₁'⟩ := x'
  cases hresult with
  | error he => exact ⟨.error he, hstore⟩
  | @ok trust _ ha =>
    subst ha
    have hscore : db₁.score v = db₁'.score v :=
      congrArg (fun videos ↦ (Table.lookup videos v).map Video.score) hstore.videos
    dsimp only
    rw [hscore]
    split_ifs
    · exact ⟨.error .call, hstore⟩
    · cases db₁'.score v with
      | none => exact ⟨.error .call, hstore⟩
      | some score => exact ⟨.ok rfl, hstore⟩

theorem alike_submitEndpoint {body : VoteBody} (h : body.Plain) (visit : Visit)
    (hdb : db.SameButClients db') :
    AlikeResults SameKind Eq
        (b.submitEndpoint (fun b ↦ (lower b).toLowerCase) body visit db).1
        (b'.submitEndpoint (fun b ↦ (lower b).toLowerCase) body visit db').1 ∧
      (b.submitEndpoint (fun b ↦ (lower b).toLowerCase) body visit db).2.SameButClients
        (b'.submitEndpoint (fun b ↦ (lower b).toLowerCase) body visit db').2 := by
  have hhandler := alike_submitHandler lower b b' h (visit.ip b) (visit.ip b') visit.now
  rw [submitEndpoint_eq, submitEndpoint_eq]
  generalize b.submitHandler (fun b ↦ (lower b).toLowerCase) (visit.ip b) visit.now (some body) = x
    at hhandler
  generalize b'.submitHandler (fun b ↦ (lower b).toLowerCase) (visit.ip b') visit.now
    (some body) = x' at hhandler
  cases hhandler with
  | error he => exact ⟨.error he, hdb⟩
  | @ok q q' hq =>
    obtain ⟨hresult, hstore⟩ :=
      alike_submitAndRead (alike_submitVoteTx hq) hdb visit.fails q.videoID
    have hv : q'.videoID = q.videoID := by rw [hq]
    dsimp only
    rw [hv]
    exact ⟨hresult.mapError fun _ _ _ ↦ ⟨rfl, rfl⟩, hstore⟩

/-- The errors of a deletion are answered alike. -/
theorem sameKind_deleteError {b b' : Backend} {e e' : Abort VoteError}
    (h : AlikeAborts (fun e e' ↦ e = b.notFound ∧ e' = b'.notFound) e e') :
    SameKind (b.deleteError e) (b'.deleteError e') := by
  cases h with
  | call => cases b <;> cases b' <;> exact ⟨rfl, rfl⟩
  | program h =>
    obtain ⟨rfl, rfl⟩ := h
    cases b <;> cases b' <;> exact ⟨rfl, rfl⟩

theorem alike_deleteEndpoint {body : VoteDeleteBody} (h : body.Plain) (visit : Visit)
    (hdb : db.SameButClients db') :
    AlikeResults SameKind Eq
        (b.deleteEndpoint (fun b ↦ (lower b).toLowerCase) body visit db).1
        (b'.deleteEndpoint (fun b ↦ (lower b).toLowerCase) body visit db').1 ∧
      (b.deleteEndpoint (fun b ↦ (lower b).toLowerCase) body visit db).2.SameButClients
        (b'.deleteEndpoint (fun b ↦ (lower b).toLowerCase) body visit db').2 := by
  have hhandler := alike_deleteHandler lower b b' h visit.now
  rw [deleteEndpoint_eq, deleteEndpoint_eq]
  generalize b.deleteHandler (fun b ↦ (lower b).toLowerCase) visit.now (some body) = x at hhandler
  generalize b'.deleteHandler (fun b ↦ (lower b).toLowerCase) visit.now (some body) = x'
    at hhandler
  cases hhandler with
  | error he => exact ⟨.error he, hdb⟩
  | @ok q _ hq =>
    subst hq
    obtain ⟨hresult, hstore⟩ := (alike_deleteVoteTx b b' q).transact hdb visit.fails
    exact ⟨hresult.mapError fun _ _ h ↦ sameKind_deleteError h, hstore⟩

end Parity

/-! ### Many requests -/

/-- A request that gets to its handler, or something that workers commit. -/
inductive VoteTraffic where
  | submit (body : VoteBody) (visit : Visit)
  | delete (body : VoteDeleteBody) (visit : Visit)
  | commit (ws : List Write)

/-- The body of an answer to a request: an error, or a success, with values for a submission. -/
abbrev VoteAnswer : Type := Except ApiError (Option VoteResponse)

namespace VoteTraffic

/-- The texts of a request are plain. -/
def Plain : VoteTraffic → Prop
  | submit body _ => body.Plain
  | delete body _ => body.Plain
  | commit _ => True

/-- A backend serves a request. -/
def serve (lower : Backend → Text.LowerCase) (b : Backend) (db : DB) :
    VoteTraffic → Option VoteAnswer × DB
  | submit body visit =>
    let (answer, db') := b.submitEndpoint lower body visit db
    (some (answer.map some), db')
  | delete body visit =>
    let (answer, db') := b.deleteEndpoint lower body visit db
    (some (answer.map fun _ ↦ none), db')
  | commit ws => (none, RowStore.applyAll db ws)

end VoteTraffic

/-- Each request is served by a backend, all on one database. -/
def serveAll (lower : Backend → Text.LowerCase) :
    List (Backend × VoteTraffic) → DB → List (Option VoteAnswer) × DB
  | [], db => ([], db)
  | (b, r) :: rs, db =>
    let (answer, db') := r.serve lower b db
    ((answer :: (serveAll lower rs db').1), (serveAll lower rs db').2)

/-- Answers with the same values, or the same kind of error. -/
def SameAnswer : Option VoteAnswer → Option VoteAnswer → Prop :=
  Option.Rel (AlikeResults SameKind Eq)

/-- One request. -/
theorem VoteTraffic.serve_alike (lower : Backend → PiecewiseLower) (b b' : Backend)
    {r : VoteTraffic} (h : r.Plain) {db db' : DB} (hdb : db.SameButClients db') :
    SameAnswer (r.serve (fun b ↦ (lower b).toLowerCase) b db).1
        (r.serve (fun b ↦ (lower b).toLowerCase) b' db').1 ∧
      (r.serve (fun b ↦ (lower b).toLowerCase) b db).2.SameButClients
        (r.serve (fun b ↦ (lower b).toLowerCase) b' db').2 := by
  cases r with
  | submit body visit =>
    obtain ⟨hanswer, hstore⟩ := alike_submitEndpoint lower b b' h visit hdb
    exact ⟨.some (hanswer.map fun _ _ ↦ congrArg some), hstore⟩
  | delete body visit =>
    obtain ⟨hanswer, hstore⟩ := alike_deleteEndpoint lower b b' h visit hdb
    exact ⟨.some (hanswer.map fun _ _ _ ↦ rfl), hstore⟩
  | commit ws => exact ⟨.none, hdb.applyAll ws⟩

theorem serveAll_alike_of_sameButClients (lower : Backend → PiecewiseLower)
    {xs ys : List (Backend × VoteTraffic)} (hplain : ∀ x ∈ xs, x.2.Plain)
    (hsame : xs.map Prod.snd = ys.map Prod.snd) {db db' : DB} (hdb : db.SameButClients db') :
    List.Forall₂ SameAnswer (serveAll (fun b ↦ (lower b).toLowerCase) xs db).1
        (serveAll (fun b ↦ (lower b).toLowerCase) ys db').1 ∧
      (serveAll (fun b ↦ (lower b).toLowerCase) xs db).2.SameButClients
        (serveAll (fun b ↦ (lower b).toLowerCase) ys db').2 := by
  induction xs generalizing ys db db' with
  | nil =>
    obtain rfl := List.map_eq_nil_iff.1 hsame.symm
    exact ⟨.nil, hdb⟩
  | cons x xs ih =>
    cases ys with
    | nil => cases hsame
    | cons y ys =>
      obtain ⟨b, r⟩ := x
      obtain ⟨b', r'⟩ := y
      obtain ⟨hr, hrest⟩ := List.cons.inj hsame
      obtain rfl : r = r' := hr
      obtain ⟨hhead, htail⟩ := List.forall_mem_cons.1 hplain
      obtain ⟨hanswer, hstore⟩ := r.serve_alike lower b b' hhead hdb
      obtain ⟨hanswers, hend⟩ := ih htail hrest hstore
      exact ⟨.cons hanswer hanswers, hend⟩

/-- A vote, with white space around its video, and two deletions of it. -/
def voteThenDeletions : List VoteTraffic :=
  let visit : Visit := ⟨fun _ ↦ false, 0, fun
    | .go => "203.0.113.7"
    | .python => "172.18.0.2", true⟩
  [.submit ⟨Text.ofString " v\n", Text.ofString "fully_ai", Text.ofString "AB", none⟩ visit,
    .delete ⟨Text.ofString "v", Text.ofString "ab"⟩ visit,
    .delete ⟨Text.ofString "v", Text.ofString "ab"⟩ visit]

end RealTube
