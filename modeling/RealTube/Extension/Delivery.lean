import RealTube.Extension.OfflineQueue
import RealTube.Api.Endpoints
import RealTube.Concurrency.Footprint
import RealTube.Users.PublicID

/-!
# Votes on their way to the tables

`Extension.OfflineQueue` has a map in the place of the server. Here there are the endpoints and the
database: the extension sends what `api.submitVote` and `api.deleteVote` of
`background/api-client.ts` send, under the public id of its user, and either backend validates it,
runs the transaction, reads the score and answers. `fetchWithRetry` sends a request again as long as
no answer comes. On the way a request or its reply may be lost, a request may be answered with 429,
and any call to the database may fail, also the one after the commit. Before every attempt others
may have committed anything but votes of this user. The actions and flushes of the installation
itself run one after the other; how they interleave is the subject of `Extension.Flush`.

The database refines the map (`exists_step_votes`): whatever happens is an event of the user with an
outcome, so all runs are runs of the abstract machine (`exists_run_votes`). That the last action of
the user wins is then a fact about the table `votes` (`votedCategory_eq_wanted`).
-/

open Tx

namespace RealTube

/-! ### The votes of a user in the tables -/

/-- The names of the categories that a user has voted for. -/
def DB.votesOf (db : DB) (u : UserID) (v : VideoID) : Option String :=
  (db.votedCategory v u).map Category.name

/-- No vote of the user is written. -/
def Foreign (u : UserID) (ws : List Write) : Prop := ∀ v, .vote v u ∉ (RowStore.rows ws : List Row)

section Votes

variable {b : Backend} {u : UserID} {db : DB}

theorem votesOf_applyAll {ws : List Write} (h : Foreign u ws) :
    (RowStore.applyAll db ws).votesOf u = db.votesOf u := by
  funext v
  have hsame := RowStore.same_applyAll_of_notMem db (h v)
  rw [DB.votesOf, DB.votesOf, DB.votedCategory, DB.votedCategory]
  exact congrArg (fun row ↦ (row.map Vote.category).map Category.name) hsame.symm

/-- **Requests of others** write no vote of the user, whatever they see, -/
theorem foreign_log_code {call : VoteCall} (h : call.userID ≠ u) (views : List DB) :
    Foreign u (call.code.log views) := fun v hv ↦
  h ((within_code call).log views (.vote v u) hv).2.symm

/-- and no recalculation writes votes. -/
theorem foreign_log_recalculate (q : RecalculateRequest) (views : List DB) :
    Foreign u ((Call.recalculate b q).code.log views) := fun v hv ↦
  (within_recalculate b q).log views (.vote v u) hv

theorem votesOf_submit (db : DB) (q : VoteRequest) : (db.submit q).votesOf q.userID =
    Function.update (db.votesOf q.userID) q.videoID (some q.category.name) := by
  funext v
  rw [DB.votesOf, votedCategory_submit, Function.update_apply]
  split_ifs with h h' h'
  · rfl
  · exact absurd h.1 h'
  · exact absurd ⟨h', rfl⟩ h
  · rfl

theorem votesOf_unvote (db : DB) (q : VoteDeleteRequest) (c : Category) :
    (db.unvote q c).votesOf q.userID =
      Function.update (db.votesOf q.userID) q.videoID none := by
  funext v
  rw [DB.votesOf, votedCategory_unvote, Function.update_apply]
  split_ifs with h h' h'
  · rfl
  · exact absurd h.1 h'
  · exact absurd ⟨h', rfl⟩ h
  · rfl

/-- **What a call may have done**: it has set the vote, or it has failed and changed nothing. It may
have set the vote and failed as well. -/
def Sets (before : VideoID → Option String) (v : VideoID) (vote : Option String) (success : Bool)
    (after : VideoID → Option String) : Prop :=
  after = Function.update before v vote ∨ success = false ∧ after = before

variable {before mid after : VideoID → Option String} {v : VideoID} {vote : Option String}
  {success : Bool}

theorem Sets.refl (before : VideoID → Option String) (v : VideoID) (vote : Option String) :
    Sets before v vote false before := Or.inr ⟨rfl, rfl⟩

/-- **A request may be sent again**: setting a vote twice is setting it. -/
theorem Sets.trans (h : Sets before v vote false mid) (h' : Sets mid v vote success after) :
    Sets before v vote success after := by
  obtain rfl | ⟨-, rfl⟩ := h
  · refine Or.inl ?_
    obtain rfl | ⟨-, rfl⟩ := h'
    · exact Function.update_idem ..
    · rfl
  · exact h'

/-- A failure says less. -/
theorem Sets.fail (h : Sets before v vote success after) : Sets before v vote false after :=
  h.imp_right fun h ↦ ⟨rfl, h.2⟩

/-- **The outcome** of a call. -/
theorem Sets.exists_outcome (h : Sets before v vote success after) :
    ∃ outcome : Extension.Outcome, (success = true ↔ outcome = .ok) ∧
      after = if outcome.served then Function.update before v vote else before := by
  obtain rfl | ⟨rfl, rfl⟩ := h
  · cases success with
    | true => exact ⟨.ok, iff_of_true rfl rfl, rfl⟩
    | false => exact ⟨.lost, iff_of_false Bool.false_ne_true nofun, rfl⟩
  · exact ⟨.failed, iff_of_false Bool.false_ne_true nofun, rfl⟩

end Votes

/-! ### What the endpoints do -/

theorem toBool_mapError {ε ε' α : Type} (f : ε → ε') (x : Except ε α) :
    (x.mapError f).toBool = x.toBool := by
  cases x <;> rfl

/-- The backend takes the id as it is, or not at all. -/
def Backend.KeepsID (b : Backend) (v : VideoID) : Prop :=
  ∀ v', b.validateVideoID (Text.ofString v) = .ok v' → v' = v

section Effects

variable {lower : Backend → Text.LowerCase} {b : Backend} {v : VideoID} {u : UserID}
  {agent : Option Text} {category : String} {visit : Visit}

theorem ofString_injective {s s' : String} (h : Text.ofString s = Text.ofString s') : s = s' := by
  rw [← Text.toString_ofString s, h, Text.toString_ofString]

/-- A valid id is one that is kept. -/
theorem keepsID_of_allows (h : videoIDRule.Allows v) : b.KeepsID v := by
  intro v' hv'
  have hspace : ∀ c ∈ videoIDRule.cls, b.isSpace c = false :=
    List.all_iff_forall_prop.1 (by cases b <;> decide +kernel)
  have hstrip : b.strip (Text.ofString v) = Text.ofString v := by
    refine Text.trim_eq_self fun x hx ↦ ?_
    obtain ⟨c, hc, rfl⟩ := List.mem_map.1 hx
    exact hspace c (h.2.2 c hc)
  exact (ofString_injective (hstrip.symm.trans (validateVideoID_eq_ok_iff.1 hv').1)).symm

/-- **The public id of the extension is a valid user id.** -/
theorem allows_publicUserID (sha256 : List UInt8 → Digest) (id : Extension.LocalID) :
    userIDRule.Allows (Extension.publicUserID (Extension.sha256Hex sha256) id) := by
  have hhex (s : String) : ∃ bs : Digest,
      (Extension.sha256Hex sha256 s).toList = encodeHex bs.1 := by
    refine ⟨sha256 (utf8 s.toList), ?_⟩
    rw [← sha256Hex_eq, Go.sha256Hex, String.toList_ofList]
  obtain ⟨bs, hbs⟩ := hhex ((Extension.sha256Hex sha256)^[4999] id)
  have hid : (Extension.publicUserID (Extension.sha256Hex sha256) id).toList = encodeHex bs.1 := by
    rw [Extension.publicUserID, Extension.iteratedHash,
      show Extension.hashIterations = 4999 + 1 from rfl, Function.iterate_succ_apply', hbs]
  rw [IDRule.Allows, ← String.length_toList, hid, length_encodeHex, bs.2]
  exact ⟨by decide, by decide, fun c hc ↦ mem_hexDigits_of_mem_encodeHex hc⟩

theorem name_of_ofText {s : String} {c : Category}
    (h : Category.ofText (Text.ofString s) = some c) :
    c.name = s := by
  have hfind : Category.all.find? (fun c ↦ Text.ofString c.name = Text.ofString s) = some c := h
  have hname := List.find?_some hfind
  exact ofString_injective (of_decide_eq_true hname)

/-- What a request for the user and the video asks for. -/
theorem submitHandler_eq_ok {ip : String} {now : Time} {q : VoteRequest} (hv : b.KeepsID v)
    (hu : userIDRule.Allows u)
    (h : b.submitHandler lower ip now (some { videoID := Text.ofString v
                                              category := Text.ofString category
                                              userID := Text.ofString u
                                              userAgent := agent }) = .ok q) :
    q.videoID = v ∧ q.userID = u ∧ q.category.name = category := by
  rw [Backend.submitHandler] at h
  simp only [bind_eq_ok_iff, mapError_eq_ok_iff] at h
  obtain ⟨v', hvideo, u', huser, c, hcategory, h⟩ := h
  split_ifs at h
  obtain rfl := Except.ok.inj h
  refine ⟨hv v' hvideo, ?_, ?_⟩
  · rw [validateUserID_eq_ok_iff, stripLower_eq_self hu.2.2] at huser
    exact (ofString_injective huser.1).symm
  · rw [checkCategory] at hcategory
    split_ifs at hcategory
    split at hcategory
    · cases hcategory
    · next hc => exact Except.ok.inj hcategory ▸ name_of_ofText hc

theorem deleteHandler_eq_ok {now : Time} {q : VoteDeleteRequest} (hv : b.KeepsID v)
    (hu : userIDRule.Allows u)
    (h : b.deleteHandler lower now (some { videoID := Text.ofString v
                                           userID := Text.ofString u }) = .ok q) :
    q.videoID = v ∧ q.userID = u := by
  rw [Backend.deleteHandler] at h
  simp only [bind_eq_ok_iff, mapError_eq_ok_iff] at h
  obtain ⟨v', hvideo, u', huser, h⟩ := h
  obtain rfl := Except.ok.inj h
  rw [validateUserID_eq_ok_iff, stripLower_eq_self hu.2.2] at huser
  exact ⟨hv v' hvideo, (ofString_injective huser.1).symm⟩

/-- A submission that gets to the database. -/
theorem sets_submitAndRead (fails : ℕ → Bool) (q : VoteRequest) (db : DB) :
    Sets (db.votesOf q.userID) q.videoID (some q.category.name)
      (submitAndRead fails (submitVoteTx q) q.videoID db).1.toBool
      ((submitAndRead fails (submitVoteTx q) q.videoID db).2.votesOf q.userID) := by
  have hrun := run_submitVoteTx q db
  have htransact := transact_of_ok fails (congrArg Prod.fst hrun)
  rw [hrun] at htransact
  rw [submitAndRead, htransact]
  by_cases hcommit : ∀ i < (submitVoteTx q).calls db + 2, fails i = false
  · -- committed: the read of the score decides about the answer only
    rw [if_pos hcommit]
    refine Or.inl ?_
    rw [← votesOf_submit]
    dsimp only
    split_ifs
    · rfl
    · split <;> rfl
  · rw [if_neg hcommit]
    exact .refl _ _ _

/-- A deletion that gets to the database. -/
theorem sets_deleteVoteTx (fails : ℕ → Bool) (q : VoteDeleteRequest) (db : DB) :
    Sets (db.votesOf q.userID) q.videoID none
        ((deleteVoteTx b.notFound q).transact fails db).1.toBool
        (((deleteVoteTx b.notFound q).transact fails db).2.votesOf q.userID) ∧
      (db.votesOf q.userID q.videoID = none →
        ((deleteVoteTx b.notFound q).transact fails db).1.toBool = false) := by
  have hrun := run_deleteVoteTx b.notFound q db
  cases hvoted : db.votedCategory q.videoID q.userID with
  | none =>
    rw [hvoted] at hrun
    have herror : ∃ e, ((deleteVoteTx b.notFound q).transact fails db).1 = .error e := by
      rw [transact, attempt_eq, hrun]
      split_ifs <;> exact ⟨_, rfl⟩
    obtain ⟨e, he⟩ := herror
    rw [transact_of_error fails he, he]
    exact ⟨.refl _ _ _, fun _ ↦ rfl⟩
  | some c =>
    rw [hvoted] at hrun
    rw [transact_of_ok fails (congrArg Prod.fst hrun), hrun]
    refine ⟨?_, fun hnone ↦ ?_⟩
    · split_ifs
      · exact Or.inl (votesOf_unvote db q c)
      · exact .refl _ _ _
    · rw [DB.votesOf, hvoted] at hnone
      cases hnone

/-- **A submission** sets the vote, or fails. -/
theorem sets_submitEndpoint (hv : b.KeepsID v) (hu : userIDRule.Allows u) (db : DB) :
    Sets (db.votesOf u) v (some category)
      (b.submitEndpoint lower ⟨Text.ofString v, Text.ofString category, Text.ofString u, agent⟩
        visit db).1.toBool
      ((b.submitEndpoint lower ⟨Text.ofString v, Text.ofString category, Text.ofString u, agent⟩
        visit db).2.votesOf u) := by
  rw [submitEndpoint_eq]
  split
  · exact .refl _ _ _
  · next q hq =>
    obtain ⟨rfl, rfl, rfl⟩ := submitHandler_eq_ok hv hu hq
    rw [toBool_mapError]
    exact sets_submitAndRead visit.fails q db

/-- **A deletion** removes the vote, or fails; without a vote it fails. -/
theorem sets_deleteEndpoint (hv : b.KeepsID v) (hu : userIDRule.Allows u) (db : DB) :
    Sets (db.votesOf u) v none
        (b.deleteEndpoint lower ⟨Text.ofString v, Text.ofString u⟩ visit db).1.toBool
        ((b.deleteEndpoint lower ⟨Text.ofString v, Text.ofString u⟩ visit db).2.votesOf u) ∧
      (db.votesOf u v = none →
        (b.deleteEndpoint lower ⟨Text.ofString v, Text.ofString u⟩ visit db).1.toBool = false) := by
  rw [deleteEndpoint_eq]
  split
  · exact ⟨.refl _ _ _, fun _ ↦ rfl⟩
  · next q hq =>
    obtain ⟨rfl, rfl⟩ := deleteHandler_eq_ok hv hu hq
    rw [toBool_mapError]
    exact sets_deleteVoteTx visit.fails q db

end Effects

/-! ### Calls with retries -/

/-- An attempt of `fetchWithRetry`: what others commit before it, and what becomes of it. It does
not get to its handler when the request is lost, or answered with 429. -/
structure Attempt where
  others : List Write
  visit : Option Visit

/-- The answer to an attempt, if one arrives, and the database after it. -/
def Attempt.run {α : Type} (endpoint : Visit → DB → Except ApiError α × DB) (attempt : Attempt)
    (db : DB) : Option (Except ApiError α) × DB :=
  match attempt.visit with
  | none => (none, RowStore.applyAll db attempt.others)
  | some visit =>
    let (answer, db') := endpoint visit (RowStore.applyAll db attempt.others)
    (if visit.replied then some answer else none, db')

/-- `fetchWithRetry` and the check of `response.ok`: whether the call has worked, and the database
after it. -/
def callEndpoint {α : Type} (endpoint : Visit → DB → Except ApiError α × DB) :
    List Attempt → DB → Bool × DB
  | [], db => (false, db)
  | attempt :: attempts, db =>
    match attempt.run endpoint db with
    | (some answer, db') => (answer.toBool, db')
    | (none, db') => callEndpoint endpoint attempts db'

section Calls

variable {α : Type} {endpoint : Visit → DB → Except ApiError α × DB} {u : UserID} {v : VideoID}
  {vote : Option String}

/-- **A call with retries** does what a request does. -/
theorem sets_callEndpoint (h : ∀ visit db,
      Sets (db.votesOf u) v vote (endpoint visit db).1.toBool ((endpoint visit db).2.votesOf u))
    {attempts : List Attempt} (hothers : ∀ attempt ∈ attempts, Foreign u attempt.others) (db : DB) :
    Sets (db.votesOf u) v vote (callEndpoint endpoint attempts db).1
      ((callEndpoint endpoint attempts db).2.votesOf u) := by
  induction attempts generalizing db with
  | nil => exact .refl _ _ _
  | cons attempt attempts ih =>
    rw [List.forall_mem_cons] at hothers
    obtain ⟨others, - | visit⟩ := attempt
    · -- nothing but the writes of others
      have hrest := ih hothers.2 (RowStore.applyAll db others)
      rwa [votesOf_applyAll hothers.1] at hrest
    · have hvisit := h visit (RowStore.applyAll db others)
      rw [votesOf_applyAll hothers.1] at hvisit
      rw [callEndpoint, Attempt.run]
      dsimp only
      split_ifs
      · exact hvisit
      · exact hvisit.fail.trans (ih hothers.2 _)

/-- A call that only works where there is a vote. -/
theorem callEndpoint_eq_false (h : ∀ visit db,
      Sets (db.votesOf u) v none (endpoint visit db).1.toBool ((endpoint visit db).2.votesOf u) ∧
        (db.votesOf u v = none → (endpoint visit db).1.toBool = false))
    {attempts : List Attempt} (hothers : ∀ attempt ∈ attempts, Foreign u attempt.others) {db : DB}
    (hnone : db.votesOf u v = none) : (callEndpoint endpoint attempts db).1 = false ∧
      (callEndpoint endpoint attempts db).2.votesOf u = db.votesOf u := by
  induction attempts generalizing db with
  | nil => exact ⟨rfl, rfl⟩
  | cons attempt attempts ih =>
    rw [List.forall_mem_cons] at hothers
    obtain ⟨others, visit⟩ := attempt
    have hsame : (RowStore.applyAll db others).votesOf u = db.votesOf u :=
      votesOf_applyAll hothers.1
    cases visit with
    | none => exact hsame ▸ ih hothers.2 (by rw [hsame, hnone])
    | some visit =>
      obtain ⟨hsets, hfails⟩ := h visit (RowStore.applyAll db others)
      -- removing a vote that is not there changes nothing
      have hsame' : (endpoint visit (RowStore.applyAll db others)).2.votesOf u = db.votesOf u := by
        rw [hsame] at hsets
        obtain heq | ⟨-, heq⟩ := hsets
        · rw [heq, ← hnone, Function.update_eq_self]
        · exact heq
      rw [callEndpoint, Attempt.run]
      dsimp only
      split_ifs
      · exact ⟨hfails (by rw [hsame, hnone]), hsame'⟩
      · exact hsame' ▸ ih hothers.2 (by rw [hsame', hnone])

end Calls

namespace Extension

/-! ### An installation and a backend -/

/-- The queue of an installation, the tables of the backend, and what the last action that was
reported successful has asked for. -/
structure Installation where
  pending : Table VideoID PendingVote
  db : DB
  wanted : VideoID → Option String

/-- What can happen. -/
inductive DeliveryEvent where
  /-- `SUBMIT_VOTE`. -/
  | submitVote (v : VideoID) (category : String) (attempts : List Attempt) (now : ℤ)
  /-- `DELETE_VOTE`. -/
  | deleteVote (v : VideoID) (attempts : List Attempt)
  /-- `flushPendingVotes`. -/
  | flush (now : ℤ) (order : Arrangement VideoID) (attempts : VideoID → List Attempt)
  /-- Others commit. -/
  | others (ws : List Write)

/-- The action, without its calls; `none` is nothing of this user. -/
inductive DeliveryEvent.Matches : DeliveryEvent → UserEvent → Prop
  | submitVote {v : VideoID} {category : String} {attempts : List Attempt} {now : ℤ}
      (outcome : Outcome) :
    Matches (.submitVote v category attempts now) (.submitVote v category outcome now)
  | deleteVote {v : VideoID} {attempts : List Attempt} (outcome : Outcome) :
    Matches (.deleteVote v attempts) (.deleteVote v outcome)
  | flush {now : ℤ} {order : Arrangement VideoID} {attempts : VideoID → List Attempt}
      (outcome : VideoID → Outcome) :
    Matches (.flush now order attempts) (.flush now order outcome)

/-- It is an action of this user. -/
def DeliveryEvent.own : DeliveryEvent → Bool
  | others _ => false
  | _ => true

namespace Installation

section Steps

variable (b : Backend) (lower : Backend → Text.LowerCase) (u : UserID) (agent : Option Text)

/-- `api.submitVote`. -/
def submitVote (v : VideoID) (category : String) (attempts : List Attempt) (db : DB) : Bool × DB :=
  callEndpoint (fun visit ↦ b.submitEndpoint lower
    ⟨Text.ofString v, Text.ofString category, Text.ofString u, agent⟩ visit) attempts db

/-- `api.deleteVote`. -/
def deleteVote (v : VideoID) (attempts : List Attempt) (db : DB) : Bool × DB :=
  callEndpoint (fun visit ↦ b.deleteEndpoint lower ⟨Text.ofString v, Text.ofString u⟩ visit)
    attempts db

/-- The loop of a flush, which the first failure ends. -/
def flushLoop (now : ℤ) (attempts : VideoID → List Attempt) :
    List (VideoID × PendingVote) → Installation → Installation
  | [], s => s
  | (v, vote) :: todo, s =>
    if Votes.Expired now vote then
      flushLoop now attempts todo { s with pending := s.pending.erase v }
    else
      match submitVote b lower u agent v vote.category (attempts v) s.db with
      | (true, db) => flushLoop now attempts todo { s with pending := s.pending.erase v, db }
      | (false, db) => { s with db }

/-- The state after an event. An action, and a flush, runs to its end before the next one begins;
a deletion that is reported as failed leaves what is wanted. -/
def step (s : Installation) : DeliveryEvent → Installation
  | .submitVote v category attempts now =>
    let wanted := Function.update s.wanted v (some category)
    match submitVote b lower u agent v category attempts s.db with
    | (true, db) => { s with db, wanted }
    | (false, db) =>
      { pending := s.pending.insert v { category, timestamp := now }, db, wanted }
  | .deleteVote v attempts =>
    match deleteVote b lower u v attempts s.db with
    | (true, db) => { s with db, wanted := Function.update s.wanted v none }
    | (false, db) => { s with db }
  | .flush now order attempts =>
    flushLoop b lower u agent now attempts (s.pending.rows order fun _ ↦ True) s
  | .others ws => { s with db := RowStore.applyAll s.db ws }

/-- An empty queue, and nothing wanted but what is there. -/
def init (db : DB) : Installation := ⟨∅, db, db.votesOf u⟩

/-- **The abstraction**: the table `votes` as a map. -/
def votes (s : Installation) : UserState := ⟨⟨s.pending, s.db.votesOf u⟩, s.wanted⟩

/-- The backend keeps the id of the video, and nobody else votes for this user. -/
def Proper : DeliveryEvent → Prop
  | .submitVote v _ attempts _ => b.KeepsID v ∧ ∀ attempt ∈ attempts, Foreign u attempt.others
  | .deleteVote v attempts => b.KeepsID v ∧ ∀ attempt ∈ attempts, Foreign u attempt.others
  | .flush _ _ attempts => ∀ v, ∀ attempt ∈ attempts v, Foreign u attempt.others
  | .others ws => Foreign u ws

/-- The ids in the queue are kept. -/
def Keeps (s : Installation) : Prop := ∀ v, s.pending.lookup v ≠ none → b.KeepsID v

end Steps

/-! ### The refinement -/

variable {b : Backend} {lower : Backend → Text.LowerCase} {u : UserID} {agent : Option Text}
  {s : Installation} {v : VideoID} {attempts : List Attempt}

/-- What the map is after a call. -/
theorem setServer_eq (votes : Votes) (v : VideoID) (vote : Option String) :
    votes.setServer v vote = { votes with server := Function.update votes.server v vote } := by
  rw [Votes.setServer]
  exact congrArg (Votes.mk votes.pending) (funext fun v' ↦ (Function.update_apply ..).symm)

/-- **The outcome of `api.submitVote`.** -/
theorem exists_outcome_submitVote (lower : Backend → Text.LowerCase) (agent : Option Text)
    (hv : b.KeepsID v) (hu : userIDRule.Allows u)
    (hothers : ∀ attempt ∈ attempts, Foreign u attempt.others) (category : String) (db : DB) :
    ∃ outcome : Outcome,
      ((submitVote b lower u agent v category attempts db).1 = true ↔ outcome = .ok) ∧
      (submitVote b lower u agent v category attempts db).2.votesOf u =
        if outcome.served then Function.update (db.votesOf u) v (some category)
        else db.votesOf u :=
  (sets_callEndpoint (fun _ db ↦ sets_submitEndpoint hv hu db) hothers db).exists_outcome

/-- **The outcome of `api.deleteVote`**, where there is a vote. -/
theorem exists_outcome_deleteVote (lower : Backend → Text.LowerCase) (hv : b.KeepsID v)
    (hu : userIDRule.Allows u) (hothers : ∀ attempt ∈ attempts, Foreign u attempt.others)
    (db : DB) :
    ∃ outcome : Outcome, ((deleteVote b lower u v attempts db).1 = true ↔ outcome = .ok) ∧
      (deleteVote b lower u v attempts db).2.votesOf u =
        if outcome.served then Function.update (db.votesOf u) v none else db.votesOf u :=
  (sets_callEndpoint (fun _ db ↦ (sets_deleteEndpoint hv hu db).1) hothers db).exists_outcome

/-- Where there is none, a deletion fails and changes nothing. -/
theorem deleteVote_of_none (lower : Backend → Text.LowerCase) (hv : b.KeepsID v)
    (hu : userIDRule.Allows u) (hothers : ∀ attempt ∈ attempts, Foreign u attempt.others) {db : DB}
    (hnone : db.votesOf u v = none) : (deleteVote b lower u v attempts db).1 = false ∧
      (deleteVote b lower u v attempts db).2.votesOf u = db.votesOf u :=
  callEndpoint_eq_false (fun _ db ↦ sets_deleteEndpoint hv hu db) hothers hnone

theorem want_eq (s : UserState) (votes : Votes) (v : VideoID) (vote : Option String) :
    s.want votes v vote = ⟨votes, Function.update s.wanted v vote⟩ := by
  rw [UserState.want]
  exact congrArg (UserState.mk votes) (funext fun v' ↦ (Function.update_apply ..).symm)

/-- What `api.submitVote` does to the map. -/
theorem submitVote_eq (votes : Votes) (v : VideoID) (category : String) (outcome : Outcome) :
    votes.submitVote v category outcome = { votes with
      server := if outcome.served then Function.update votes.server v (some category)
        else votes.server } := by
  rw [Votes.submitVote, setServer_eq]
  split_ifs <;> rfl

/-- **A submission** is one of the abstract machine. -/
theorem exists_votes_submitVote (hv : b.KeepsID v) (hu : userIDRule.Allows u)
    (hothers : ∀ attempt ∈ attempts, Foreign u attempt.others) (category : String) (now : ℤ) :
    ∃ outcome : Outcome,
      ((submitVote b lower u agent v category attempts s.db).1 = true ↔ outcome = .ok) ∧
      (s.step b lower u agent (.submitVote v category attempts now)).votes u =
        (s.votes u).step (.submitVote v category outcome now) := by
  obtain ⟨outcome, hok, hserver⟩ :=
    exists_outcome_submitVote lower agent hv hu hothers category s.db
  refine ⟨outcome, hok, ?_⟩
  rw [step, UserState.step, submitVote_eq]
  generalize submitVote b lower u agent v category attempts s.db = call at hok hserver ⊢
  obtain ⟨success, db⟩ := call
  rw [want_eq, want_eq]
  cases success with
  | true =>
    rw [if_pos (hok.1 rfl)]
    exact congrArg (fun server ↦ UserState.mk ⟨s.pending, server⟩ _) hserver
  | false =>
    rw [if_neg fun heq ↦ Bool.false_ne_true (hok.2 heq)]
    exact congrArg (fun server ↦ UserState.mk ⟨_, server⟩ _) hserver

/-- **A deletion** is one of the abstract machine. -/
theorem exists_votes_deleteVote (hv : b.KeepsID v) (hu : userIDRule.Allows u)
    (hothers : ∀ attempt ∈ attempts, Foreign u attempt.others) :
    ∃ outcome : Outcome, (s.db.votesOf u v ≠ none → outcome ≠ .failed →
        (deleteVote b lower u v attempts s.db).2.votesOf u ≠ s.db.votesOf u ∧
          ((deleteVote b lower u v attempts s.db).1 = true → outcome = .ok)) ∧
      (s.step b lower u agent (.deleteVote v attempts)).votes u =
        (s.votes u).step (.deleteVote v outcome) := by
  simp only [step, UserState.step, setServer_eq]
  by_cases hnone : s.db.votesOf u v = none
  · obtain ⟨hfails, hsame⟩ := deleteVote_of_none lower hv hu hothers hnone
    refine ⟨.failed, fun hsome ↦ absurd hnone hsome, ?_⟩
    generalize deleteVote b lower u v attempts s.db = call at hfails hsame ⊢
    obtain ⟨success, db⟩ := call
    obtain rfl : success = false := hfails
    rw [if_pos (show (s.votes u).server v = none from hnone)]
    exact congrArg (fun server ↦ UserState.mk ⟨s.pending, server⟩ _) hsame
  · obtain ⟨outcome, hok, hserver⟩ := exists_outcome_deleteVote lower hv hu hothers s.db
    refine ⟨outcome, fun _ hne ↦ ⟨fun hsame ↦ hnone ?_, hok.1⟩, ?_⟩
    · -- the vote is gone, so the tables are not the same
      have hserved : outcome.served = true := by
        cases outcome with
        | failed => exact absurd rfl hne
        | ok | lost => rfl
      rw [← hsame, hserver, if_pos hserved, Function.update_self]
    · generalize deleteVote b lower u v attempts s.db = call at hok hserver ⊢
      obtain ⟨success, db⟩ := call
      rw [if_neg (show (s.votes u).server v ≠ none from hnone)]
      cases outcome with
      | ok =>
        obtain rfl := hok.2 rfl
        rw [want_eq]
        exact congrArg (fun server ↦ UserState.mk ⟨s.pending, server⟩ _) hserver
      | failed =>
        obtain rfl : success = false := Bool.eq_false_iff.2 fun heq ↦ by cases hok.1 heq
        exact congrArg (fun server ↦ UserState.mk ⟨s.pending, server⟩ _) hserver
      | lost =>
        obtain rfl : success = false := Bool.eq_false_iff.2 fun heq ↦ by cases hok.1 heq
        exact congrArg (fun server ↦ UserState.mk ⟨s.pending, server⟩ _) hserver

/-- A flush asks for the outcomes of its own votes only. -/
theorem flushLoop_congr {now : ℤ} {outcome outcome' : VideoID → Outcome}
    {todo : List (VideoID × PendingVote)} (h : ∀ x ∈ todo, outcome x.1 = outcome' x.1)
    (votes : Votes) :
    Votes.flushLoop now outcome todo votes = Votes.flushLoop now outcome' todo votes := by
  induction todo generalizing votes with
  | nil => rfl
  | cons x todo ih =>
    obtain ⟨v, vote⟩ := x
    rw [List.forall_mem_cons] at h
    rw [Votes.flushLoop, Votes.flushLoop, h.1, ih h.2]
    split_ifs
    · rfl
    · generalize outcome' v = o
      cases o with
      | ok => exact ih h.2 _
      | failed | lost => rfl

/-- **A flush** is one of the abstract machine. -/
theorem exists_votes_flushLoop (hu : userIDRule.Allows u) {now : ℤ}
    {attempts : VideoID → List Attempt}
    (hothers : ∀ v, ∀ attempt ∈ attempts v, Foreign u attempt.others)
    {todo : List (VideoID × PendingVote)} (hnodup : (todo.map Prod.fst).Nodup)
    (hkeeps : ∀ x ∈ todo, b.KeepsID x.1) : ∃ outcome : VideoID → Outcome,
      (flushLoop b lower u agent now attempts todo s).votes u =
        ⟨Votes.flushLoop now outcome todo (s.votes u).toVotes, s.wanted⟩ := by
  induction todo generalizing s with
  | nil => exact ⟨fun _ ↦ .ok, rfl⟩
  | cons x todo ih =>
    obtain ⟨v, vote⟩ := x
    rw [List.map_cons, List.nodup_cons] at hnodup
    rw [List.forall_mem_cons] at hkeeps
    rw [flushLoop]
    split_ifs with hexpired
    · obtain ⟨outcome, heq⟩ := ih (s := { s with pending := s.pending.erase v }) hnodup.2 hkeeps.2
      refine ⟨outcome, heq.trans ?_⟩
      rw [Votes.flushLoop, if_pos hexpired]
      rfl
    · obtain ⟨first, hok, hserver⟩ :=
        exists_outcome_submitVote lower agent hkeeps.1 hu (hothers v) vote.category s.db
      generalize submitVote b lower u agent v vote.category (attempts v) s.db = call
        at hok hserver ⊢
      obtain ⟨success, db⟩ := call
      cases success with
      | true =>
        obtain rfl : first = .ok := hok.1 rfl
        obtain ⟨outcome, heq⟩ := ih (s := { s with pending := s.pending.erase v, db }) hnodup.2
          hkeeps.2
        refine ⟨Function.update outcome v .ok, heq.trans ?_⟩
        have hrest : ∀ x ∈ todo, Function.update outcome v .ok x.1 = outcome x.1 := fun x hx ↦
          Function.update_of_ne (fun h ↦ hnodup.1 (List.mem_map.2 ⟨x, hx, h⟩)) _ _
        rw [Votes.flushLoop, if_neg hexpired, Function.update_self, flushLoop_congr hrest,
          submitVote_eq]
        exact congrArg (fun server ↦ UserState.mk
          (Votes.flushLoop now outcome todo ⟨s.pending.erase v, server⟩) _) hserver
      | false =>
        have hne : first ≠ .ok := fun h ↦ Bool.false_ne_true (hok.2 h)
        refine ⟨fun _ ↦ first, ?_⟩
        rw [Votes.flushLoop, if_neg hexpired]
        cases first with
        | ok => exact absurd rfl hne
        | failed | lost =>
          refine Eq.trans ?_ (congrArg (UserState.mk · s.wanted) (submitVote_eq _ _ _ _).symm)
          exact congrArg (fun server ↦ UserState.mk ⟨s.pending, server⟩ s.wanted) hserver

/-- **An event is one of the abstract machine**, or none of this user. -/
theorem exists_step_votes (hu : userIDRule.Allows u) (h : s.Keeps b) {e : DeliveryEvent}
    (he : Proper b u e) : (∃ e', e.Matches e' ∧
        (s.step b lower u agent e).votes u = (s.votes u).step e') ∨
      e.own = false ∧ (s.step b lower u agent e).votes u = s.votes u := by
  cases e with
  | submitVote v category attempts now =>
    obtain ⟨outcome, -, heq⟩ := exists_votes_submitVote he.1 hu he.2 category now
    exact Or.inl ⟨_, .submitVote outcome, heq⟩
  | deleteVote v attempts =>
    obtain ⟨outcome, -, heq⟩ := exists_votes_deleteVote he.1 hu he.2
    exact Or.inl ⟨_, .deleteVote outcome, heq⟩
  | flush now order attempts =>
    have hkeeps : ∀ x ∈ s.pending.rows order fun _ ↦ True, b.KeepsID x.1 := fun x hx ↦
      h x.1 (Option.ne_none_iff_exists'.2 ⟨x.2, (Table.mem_rows.1 hx).1⟩)
    obtain ⟨outcome, heq⟩ := exists_votes_flushLoop hu he Table.nodup_keys_rows hkeeps
    exact Or.inl ⟨_, .flush outcome, heq⟩
  | others ws =>
    exact Or.inr ⟨rfl, congrArg (fun server ↦ UserState.mk ⟨s.pending, server⟩ s.wanted)
      (votesOf_applyAll he)⟩

/-! ### Runs -/

/-- A flush queues nothing. -/
theorem lookup_of_flushLoop {now : ℤ} {attempts : VideoID → List Attempt}
    {todo : List (VideoID × PendingVote)} {v : VideoID}
    (h : (flushLoop b lower u agent now attempts todo s).pending.lookup v ≠ none) :
    s.pending.lookup v ≠ none := by
  have herase {pending : Table VideoID PendingVote} {v' : VideoID}
      (h : (pending.erase v').lookup v ≠ none) : pending.lookup v ≠ none := by
    rw [Table.lookup_erase] at h
    split_ifs at h
    · exact absurd rfl h
    · exact h
  induction todo generalizing s with
  | nil => exact h
  | cons x todo ih =>
    rw [flushLoop] at h
    split_ifs at h
    · exact herase (ih h)
    · split at h
      · exact herase (ih h)
      · exact h

theorem Keeps.step (h : s.Keeps b) {e : DeliveryEvent} (he : Proper b u e) :
    (s.step b lower u agent e).Keeps b := by
  cases e with
  | submitVote v category attempts now =>
    rw [Installation.step]
    split
    · exact h
    · exact Table.forall_lookup_insert he.1 h
  | deleteVote v attempts =>
    rw [Installation.step]
    split <;> exact h
  | flush now order attempts => exact fun v hv ↦ h v (lookup_of_flushLoop hv)
  | others ws => exact h

/-- No vote expires: a flush finds no vote that it drops. -/
def Unexpired (s : Installation) : DeliveryEvent → Prop
  | .flush now _ _ => ∀ v vote, s.pending.lookup v = some vote → ¬Votes.Expired now vote
  | _ => True

section InOrder

variable (b lower u agent)

/-- **No action overtakes a queued vote**: a vote that is sent directly finds none of another
category queued, and a deletion that is made gets its reply and finds none queued. -/
def InOrder (s : Installation) : DeliveryEvent → Prop
  | .submitVote v category attempts _ =>
    (submitVote b lower u agent v category attempts s.db).1 = true →
      ∀ vote ∈ s.pending.lookup v, vote.category = category
  | .deleteVote v attempts =>
    (deleteVote b lower u v attempts s.db).2.votesOf u ≠ s.db.votesOf u →
      (deleteVote b lower u v attempts s.db).1 = true ∧ s.pending.lookup v = none
  | _ => True

end InOrder

/-- **An event keeps the invariant** of the abstract machine. -/
theorem inv_step (hu : userIDRule.Allows u) (hkeeps : s.Keeps b) {e : DeliveryEvent}
    (he : Proper b u e) (hunexpired : s.Unexpired e) (horder : s.InOrder b lower u agent e)
    (h : UserState.Inv s.wanted (s.votes u).toVotes) :
    UserState.Inv (s.step b lower u agent e).wanted
      ((s.step b lower u agent e).votes u).toVotes := by
  suffices hsuff : ((s.step b lower u agent e).votes u = s.votes u) ∨ ∃ e',
      (s.step b lower u agent e).votes u = (s.votes u).step e' ∧ (s.votes u).Unexpired e' ∧
        (s.votes u).InOrder e' by
    show UserState.Inv ((s.step b lower u agent e).votes u).wanted _
    obtain heq | ⟨e', heq, hunexpired', horder'⟩ := hsuff
    · exact heq ▸ h
    · exact heq ▸ UserState.inv_step (s := s.votes u) h hunexpired' horder'
  cases e with
  | submitVote v category attempts now =>
    obtain ⟨outcome, hok, heq⟩ := exists_votes_submitVote he.1 hu he.2 category now
    exact Or.inr ⟨_, heq, trivial, fun houtcome ↦ horder (hok.2 houtcome)⟩
  | deleteVote v attempts =>
    obtain ⟨outcome, houtcome, heq⟩ := exists_votes_deleteVote he.1 hu he.2
    refine Or.inr ⟨_, heq, trivial, fun hsome hfailed ↦ ?_⟩
    obtain ⟨hchanged, hok⟩ := houtcome hsome hfailed
    exact ⟨hok (horder hchanged).1, (horder hchanged).2⟩
  | flush now order attempts =>
    obtain ⟨e', hmatches, heq⟩ | ⟨hown, -⟩ := exists_step_votes hu hkeeps he
    · obtain ⟨⟩ | ⟨⟩ | ⟨outcome⟩ := hmatches
      exact Or.inr ⟨_, heq, fun v _ vote hvote ↦ hunexpired v vote hvote, trivial⟩
    · cases hown
  | others ws =>
    obtain ⟨e', hmatches, -⟩ | ⟨-, heq⟩ := exists_step_votes hu hkeeps he
    · cases hmatches
    · exact Or.inl heq

end Installation

section Main

open Installation

variable (sha256 : List UInt8 → Digest) (id : LocalID) {b : Backend}
  {lower : Backend → Text.LowerCase} {agent : Option Text} {db : DB} {es : List DeliveryEvent}
  {s : Installation}

/-- **The tables refine the map.** In every run of an installation against either backend, beside
any commits that write no vote of its user, with requests and replies lost and sent again and any
database calls failing, the votes of the user in the tables are those of a run of the abstract
machine: the same actions in the same order, each with some outcome. -/
theorem exists_run_votes
    (h : Steps.Run
      (fun s e ↦ some (step b lower (publicUserID (sha256Hex sha256) id) agent s e))
      (fun _ e ↦ Proper b (publicUserID (sha256Hex sha256) id) e)
      (init (publicUserID (sha256Hex sha256) id) db) es s) :
    ∃ es', List.Forall₂ DeliveryEvent.Matches (es.filter DeliveryEvent.own) es' ∧
      Steps.Run (fun s e ↦ some (UserState.step s e)) Steps.Any
        ((init (publicUserID (sha256Hex sha256) id) db).votes (publicUserID (sha256Hex sha256) id))
        es' (s.votes (publicUserID (sha256Hex sha256) id)) := by
  have hu := allows_publicUserID sha256 id
  have hkeeps : s.Keeps b ∧ ∃ es',
      List.Forall₂ DeliveryEvent.Matches (es.filter DeliveryEvent.own) es' ∧
        Steps.Run (fun s e ↦ some (UserState.step s e)) Steps.Any
          ((init (publicUserID (sha256Hex sha256) id) db).votes
            (publicUserID (sha256Hex sha256) id))
          es' (s.votes (publicUserID (sha256Hex sha256) id)) := by
    induction h with
    | nil => exact ⟨fun _ hv ↦ absurd rfl hv, [], .nil, .nil⟩
    | @snoc es e s s' _ he hs ih =>
      obtain rfl := Option.some.inj hs
      obtain ⟨hkeeps, es', hes, hrun⟩ := ih
      refine ⟨hkeeps.step he, ?_⟩
      rw [List.filter_append]
      obtain ⟨e', hmatches, heq⟩ | ⟨hown, heq⟩ := exists_step_votes hu hkeeps he
      · refine ⟨es' ++ [e'], List.rel_append hes ?_, heq ▸ hrun.snoc trivial rfl⟩
        have hown : e.own = true := by
          cases hmatches <;> rfl
        rw [List.filter_cons_of_pos hown]
        exact .cons hmatches .nil
      · refine ⟨es', ?_, heq ▸ hrun⟩
        rw [List.filter_cons_of_neg (by rw [hown]; exact Bool.false_ne_true)]
        exact List.append_nil _ ▸ hes
  exact hkeeps.2

/-- **The last action wins, in the tables.** In every such run in which no queued vote expires or is
overtaken, once the queue is empty the table `votes` has for this user exactly what the last
successful action on each video asked for. -/
theorem votedCategory_eq_wanted
    (h : Steps.Run
      (fun s e ↦ some (step b lower (publicUserID (sha256Hex sha256) id) agent s e))
      (fun s e ↦ Proper b (publicUserID (sha256Hex sha256) id) e ∧ s.Unexpired e ∧
        s.InOrder b lower (publicUserID (sha256Hex sha256) id) agent e)
      (init (publicUserID (sha256Hex sha256) id) db) es s)
    (hempty : s.pending = ∅) (v : VideoID) :
    (s.db.votedCategory v (publicUserID (sha256Hex sha256) id)).map Category.name =
      s.wanted v := by
  have hu := allows_publicUserID sha256 id
  have hinv : s.Keeps b ∧
      UserState.Inv s.wanted (s.votes (publicUserID (sha256Hex sha256) id)).toVotes := by
    refine h.inv (I := fun s ↦ s.Keeps b ∧
      UserState.Inv s.wanted (s.votes (publicUserID (sha256Hex sha256) id)).toVotes)
      ⟨fun _ hv ↦ absurd rfl hv, ⟨fun _ _ hv ↦ (by cases hv), fun _ _ ↦ rfl⟩⟩ ?_
    intro s e s' hs he hstep
    obtain rfl := Option.some.inj hstep
    exact ⟨hs.1.step he.1, inv_step hu hs.1 he.1 he.2.1 he.2.2 hs.2⟩
  refine hinv.2.sent v ?_
  show s.pending.lookup v = none
  rw [hempty]
  rfl

end Main

/-! ### A lost reply -/

/-- A hash that is always 0. -/
def zeroHash (_ : List UInt8) : Digest := ⟨List.replicate 32 (UInt8.ofNat 0), List.length_replicate⟩

theorem publicUserID_zeroHash (id : LocalID) :
    publicUserID (sha256Hex zeroHash) id = String.ofList (List.replicate 64 '0') := by
  rw [publicUserID, iteratedHash, show hashIterations = 4999 + 1 from rfl,
    Function.iterate_succ_apply']
  show String.ofList ((List.replicate 32 0).flatMap fun b ↦
    (Nat.toDigits 16 (UInt8.toNat b)).leftpad 2 '0') = _
  decide +kernel

/-- A vote cannot be sent. The flush sends it, and again because the first reply is lost. -/
def lostReply : List DeliveryEvent :=
  [.submitVote "v" "fully_ai" [⟨[], none⟩] 0,
    .flush 1 (.ascending VideoID) fun _ ↦ [
      ⟨[], some ⟨fun _ ↦ false, 0, fun _ ↦ "127.0.0.1", false⟩⟩,
      ⟨[], some ⟨fun _ ↦ false, 1, fun _ ↦ "127.0.0.1", true⟩⟩]]

/-- The state after it. -/
def afterLostReply (u : UserID) : Installation :=
  lostReply.foldl (Installation.step .go (fun _ ↦ .ascii) u none)
    (Installation.init u (DB.start ∅ ∅))

theorem run_lostReply (u : UserID) : Steps.Run
    (fun s e ↦ some (Installation.step .go (fun _ ↦ .ascii) u none s e))
    (fun s e ↦ Installation.Proper .go u e ∧ s.Unexpired e ∧
      s.InOrder .go (fun _ ↦ .ascii) u none e)
    (Installation.init u (DB.start ∅ ∅)) lostReply (afterLostReply u) := by
  have hkeeps : Backend.go.KeepsID "v" :=
    keepsID_of_allows ⟨by decide, by decide, List.all_iff_forall_prop.1 (by decide +kernel)⟩
  have hforeign : Foreign u [] := fun _ ↦ List.not_mem_nil
  rw [afterLostReply, lostReply, List.foldl_cons, List.foldl_cons, List.foldl_nil]
  refine .cons ⟨⟨hkeeps, ?_⟩, trivial, fun _ vote hvote ↦ nomatch hvote⟩ rfl
    (.cons ⟨fun v attempt hmem ↦ ?_, fun v vote hvote ↦ ?_, trivial⟩ rfl .nil)
  · simpa using hforeign
  · simp only [List.mem_cons, List.not_mem_nil, or_false] at hmem
    obtain rfl | rfl := hmem <;> exact hforeign
  · change (Table.insert ∅ "v" ⟨"fully_ai", 0⟩).lookup v = some vote at hvote
    rw [Table.lookup_insert] at hvote
    split_ifs at hvote
    · obtain rfl := Option.some.inj hvote
      decide
    · cases hvote

/-- The run is one of the abstract machine. -/
theorem exists_run_votes_lostReply :
    ∃ es', List.Forall₂ DeliveryEvent.Matches (lostReply.filter DeliveryEvent.own) es' ∧
      Steps.Run (fun s e ↦ some (UserState.step s e)) Steps.Any
        ((Installation.init (publicUserID (sha256Hex zeroHash) ⟨"a", by decide⟩)
          (DB.start ∅ ∅)).votes (publicUserID (sha256Hex zeroHash) ⟨"a", by decide⟩))
        es' ((afterLostReply (publicUserID (sha256Hex zeroHash) ⟨"a", by decide⟩)).votes
          (publicUserID (sha256Hex zeroHash) ⟨"a", by decide⟩)) :=
  exists_run_votes zeroHash ⟨"a", by decide⟩ ((run_lostReply _).mono fun _ _ _ h ↦ h.1)

/-- The vote is there, once. -/
theorem votedCategory_lostReply :
    ((afterLostReply (publicUserID (sha256Hex zeroHash) ⟨"a", by decide⟩)).db.votedCategory "v"
        (publicUserID (sha256Hex zeroHash) ⟨"a", by decide⟩)).map Category.name =
      (afterLostReply (publicUserID (sha256Hex zeroHash) ⟨"a", by decide⟩)).wanted "v" := by
  have hempty : (afterLostReply
      (publicUserID (sha256Hex zeroHash) ⟨"a", by decide⟩)).pending = ∅ := by
    rw [publicUserID_zeroHash]
    decide +kernel
  exact votedCategory_eq_wanted zeroHash ⟨"a", by decide⟩ (run_lostReply _) hempty "v"

end Extension

end RealTube
