import RealTube.Model.UserService
import RealTube.Votes.Counters

/-!
# The votes of a user

A submission counts its vote in `videos.total_votes` and in `video_categories.vote_count`. There is
a third counter, `users.total_votes`: the user endpoint answers it, and the trust of a user grows
with it. No statement writes it after the row is created with 0 (`UserEvent.inv_step`).

So it is right for the users without votes, and for no others (`userTotals_iff`); and every user has
the volume factor 0 and the default accuracy, however much they vote (`computeTrustScore_runUsers`).
-/

open Tx

namespace RealTube

/-! ### Serial runs -/

/-- A step of a serial run: a vote request, or a user lookup. -/
inductive UserEvent where
  | vote (call : VoteCall)
  | lookup (q : LookupRequest)

/-- The database after a step. -/
def UserEvent.step (db : DB) : UserEvent → DB
  | vote call => (VoteEvent.request call).step db
  | lookup q => ((lookupOrCreate q).run db).2

/-- The database after a run. -/
def DB.runUsers (db : DB) (es : List UserEvent) : DB := es.foldl UserEvent.step db

/-- The step is a vote submission. -/
def UserEvent.Submits : UserEvent → Prop
  | vote (.submit _ _) => True
  | vote (.delete _ _) => False
  | lookup _ => False

@[simp] theorem runUsers_append (db : DB) (es es' : List UserEvent) :
    db.runUsers (es ++ es') = (db.runUsers es).runUsers es' := List.foldl_append

@[simp] theorem runUsers_singleton (db : DB) (e : UserEvent) : db.runUsers [e] = e.step db := rfl

/-- The number of votes of a user. -/
def DB.votesBy (db : DB) (u : UserID) : ℕ := db.votes.count fun k _ ↦ k.2 = u

/-- `users.total_votes` counts the votes of every user. -/
def DB.UserTotalsRight (db : DB) : Prop :=
  ∀ u row, db.users.lookup u = some row → row.totalVotes = db.votesBy u

/-! ### What a step does to the users -/

/-- **Everything a step can do** to the users and the votes. -/
theorem UserEvent.step_cases (db : DB) (e : UserEvent) :
    (∃ b q, e = .vote (.submit b q) ∧ e.step db = db.submit q) ∨
      (¬ e.Submits ∧ ∃ c q, e.step db = db.unvote q c) ∨
      (¬ e.Submits ∧ e.step db = db) ∨
      ∃ q, e = .lookup q ∧ e.step db = { db with
        users := db.users.insert q.userID
          (User.orNew q.createdAt (db.users.lookup q.userID)) } := by
  match e with
  | .vote (.submit b q) => exact Or.inl ⟨b, q, rfl, by rw [step, VoteEvent.step, runTx_submit]⟩
  | .vote (.delete b q) =>
    right
    rw [step, VoteEvent.step, runTx_delete]
    rcases db.votedCategory q.videoID q.userID with - | c
    · exact Or.inr (Or.inl ⟨id, rfl⟩)
    · exact Or.inl ⟨id, c, q, rfl⟩
  | .lookup q => exact Or.inr (Or.inr (Or.inr ⟨q, rfl, by rw [step, run_lookupOrCreate]⟩))

/-- The columns of every user that votes should move are those of a new one, and every voter is a
user. -/
structure DB.Uncounted (db : DB) : Prop where
  totalVotes : ∀ u row, db.users.lookup u = some row → row.totalVotes = 0
  voter : ∀ v u, db.votedCategory v u ≠ none → db.users.lookup u ≠ none

/-- An insertion of a row without votes. -/
theorem DB.Uncounted.insertUser {db : DB} (h : db.Uncounted) {u : UserID} {row : User}
    (hrow : row.totalVotes = 0) : ({ db with users := db.users.insert u row } : DB).Uncounted where
  totalVotes u' row' hlook := by
    change (db.users.insert u row).lookup u' = some row' at hlook
    rw [Table.lookup_insert] at hlook
    split_ifs at hlook with hu
    · rw [← Option.some.inj hlook, hrow]
    · exact h.totalVotes u' row' hlook
  voter v u' hv := by
    change (db.users.insert u row).lookup u' ≠ none
    rw [Table.lookup_insert]
    split_ifs with hu
    · exact Option.some_ne_none row
    · exact h.voter v u' hv

/-- **No step counts a vote for its user.** -/
theorem DB.Uncounted.step {db : DB} (h : db.Uncounted) (e : UserEvent) : (e.step db).Uncounted := by
  obtain ⟨b, q, -, hstep⟩ | ⟨-, c, q, hstep⟩ | ⟨-, hstep⟩ | ⟨q, -, hstep⟩ :=
    UserEvent.step_cases db e <;> rw [hstep]
  · have hseen : (User.seenAt q.now (db.users.lookup q.userID)).totalVotes = 0 := by
      rcases hrow : db.users.lookup q.userID with - | row
      · rfl
      · exact h.totalVotes q.userID row hrow
    have husers := h.insertUser (u := q.userID) hseen
    refine ⟨husers.totalVotes, fun v u hv ↦ ?_⟩
    rw [votedCategory_submit] at hv
    split_ifs at hv with hkey
    · rw [hkey.2, DB.submit, Table.lookup_insert_self]
      exact Option.some_ne_none _
    · exact husers.voter v u hv
  · refine ⟨h.totalVotes, fun v u hv ↦ ?_⟩
    rw [votedCategory_unvote] at hv
    split_ifs at hv
    · exact absurd rfl hv
    · exact h.voter v u hv
  · exact h
  · refine h.insertUser ?_
    rcases hrow : db.users.lookup q.userID with - | row
    · rfl
    · exact h.totalVotes q.userID row hrow

theorem DB.Uncounted.runUsers {db : DB} (h : db.Uncounted) (es : List UserEvent) :
    (db.runUsers es).Uncounted := by
  induction es generalizing db with
  | nil => exact h
  | cons e es ih => exact ih (h.step e)

theorem uncounted_start (channels : Table ChannelID Channel) : (DB.start ∅ channels).Uncounted :=
  ⟨fun _ _ h ↦ absurd h (Option.some_ne_none _).symm, fun _ _ h ↦ absurd rfl h⟩

/-- A user who votes is a user with votes. -/
theorem votesBy_pos {db : DB} {v : VideoID} {u : UserID} (h : db.votedCategory v u ≠ none) :
    0 < db.votesBy u := by
  obtain ⟨c, hc⟩ := Option.ne_none_iff_exists'.1 h
  obtain ⟨row, hrow, -⟩ := Option.map_eq_some_iff.1 hc
  exact Table.count_pos (k := (v, u)) _ hrow rfl

/-- Without submissions there are no votes. -/
theorem votes_runUsers {db : DB} (h : db.votes = ∅) {es : List UserEvent}
    (hes : ∀ e ∈ es, ¬ e.Submits) : (db.runUsers es).votes = ∅ := by
  induction es generalizing db with
  | nil => exact h
  | cons e es ih =>
    obtain ⟨he, hrest⟩ := List.forall_mem_cons.1 hes
    refine ih ?_ hrest
    obtain ⟨b, q, rfl, -⟩ | ⟨-, c, q, hstep⟩ | ⟨-, hstep⟩ | ⟨q, -, hstep⟩ :=
      UserEvent.step_cases db e
    · exact absurd trivial he
    · rw [hstep, DB.unvote, h]
      rfl
    · rw [hstep, h]
    · rw [hstep, h]

/-! ### When the counter is right -/

/-- **The counter of a user is right exactly when the user has no vote**, in every state reached
from empty tables. So it is right for all users throughout a run exactly when the run has no
submission. -/
theorem userTotals_iff (channels : Table ChannelID Channel) (es : List UserEvent) :
    (∀ u row, ((DB.start ∅ channels).runUsers es).users.lookup u = some row →
      (row.totalVotes = ((DB.start ∅ channels).runUsers es).votesBy u ↔
        ((DB.start ∅ channels).runUsers es).votesBy u = 0)) ∧
    ((∀ es₁ es₂, es = es₁ ++ es₂ → ((DB.start ∅ channels).runUsers es₁).UserTotalsRight) ↔
      ∀ e ∈ es, ¬ e.Submits) := by
  have hzero : ∀ es u row, ((DB.start ∅ channels).runUsers es).users.lookup u = some row →
      row.totalVotes = 0 := fun es ↦ ((uncounted_start channels).runUsers es).totalVotes
  refine ⟨fun u row hrow ↦ ?_, fun h e he hsubmits ↦ ?_, fun h es₁ es₂ hes u row hrow ↦ ?_⟩
  · rw [hzero es u row hrow]
    omega
  · -- right after a submission its user has a vote, and a total of 0
    obtain ⟨es₁, es₂, rfl⟩ := List.append_of_mem he
    have hright := h (es₁ ++ [e]) es₂ (by rw [List.append_assoc, List.singleton_append])
    obtain ⟨b, q, rfl, hstep⟩ | ⟨hnot, -⟩ | ⟨hnot, -⟩ | ⟨q, rfl, -⟩ :=
      UserEvent.step_cases ((DB.start ∅ channels).runUsers es₁) e
    · have hafter : (DB.start ∅ channels).runUsers (es₁ ++ [.vote (.submit b q)]) =
          ((DB.start ∅ channels).runUsers es₁).submit q := by
        rw [runUsers_append, runUsers_singleton, hstep]
      have hvote : ((DB.start ∅ channels).runUsers (es₁ ++ [.vote (.submit b q)])).votedCategory
          q.videoID q.userID ≠ none := by
        rw [hafter, votedCategory_submit, if_pos ⟨rfl, rfl⟩]
        exact Option.some_ne_none _
      have huser := ((uncounted_start channels).runUsers (es₁ ++ [.vote (.submit b q)])).voter
        q.videoID q.userID hvote
      obtain ⟨row, hrow⟩ := Option.ne_none_iff_exists'.1 huser
      have hpos := votesBy_pos hvote
      have heq := hright q.userID row hrow
      rw [hzero _ _ row hrow] at heq
      omega
    · exact hnot hsubmits
    · exact hnot hsubmits
    · exact hsubmits
  · have hvotes : ((DB.start ∅ channels).runUsers es₁).votes = ∅ :=
      votes_runUsers rfl fun e he ↦ h e (hes ▸ List.mem_append_left es₂ he)
    rw [hzero es₁ u row hrow, DB.votesBy, hvotes]
    rfl

/-- **Voting earns no trust**: whatever a user has voted, their trust score has no volume, and only
the default accuracy. -/
theorem computeTrustScore_runUsers (channels : Table ChannelID Channel) (es : List UserEvent)
    {u : UserID} {row : User}
    (hrow : ((DB.start ∅ channels).runUsers es).users.lookup u = some row) (now : Time) :
    row.computeTrustScore now =
      min (ageFactor row.firstSeen now * ageWeight + defaultAccuracy * accuracyWeight) 1 := by
  have htotal := ((uncounted_start channels).runUsers es).totalVotes u row hrow
  have haccuracy : accuracyFactor row.accuracyRate 0 = defaultAccuracy :=
    if_pos (by rw [minVotesForAccuracy]; norm_num)
  have hvolume : volumeFactor 0 = 0 := by
    rw [volumeFactor]
    norm_num
  rw [User.computeTrustScore, htotal, haccuracy, hvolume, zero_mul, add_zero]

/-- A user votes. -/
def userVotes : List UserEvent := [.vote (.submit .go
  { videoID := "v", userID := "u", category := .fullyAI, ipHash := "", userAgent := none,
    now := 0 })]

/-- **A user who has voted has a total of 0.** -/
theorem not_userTotalsRight_userVotes :
    ¬ ∀ es : List UserEvent, ((DB.start ∅ ∅).runUsers es).UserTotalsRight := by
  intro h
  have htotal := h userVotes "u" (User.new 0) (by decide +kernel)
  revert htotal
  decide +kernel

end RealTube
