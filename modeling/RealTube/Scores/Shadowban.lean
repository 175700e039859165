import RealTube.Votes.Refinement
import RealTube.Scores.Recalculation
import RealTube.Concurrency.Footprint

/-!
# The votes of shadowbanned users

A shadowban should make the votes of a user inaudible: two runs that differ only in the requests of
banned users should end with the same scores (`Noninterfering`). The abstract machine `Ballots` says
what is left to prove. The entries of the other users are the same in both runs
(`entry_run_filter`), and an entry of a banned user has the trust of that user as its weight
(`weight_run`). So the scores are the same if that trust is 0.

It need not be. A submission records `users.trust_score` as it stands and reads no
`is_shadowbanned`. `noninterfering_iff` says that the ban is inaudible exactly when the moderator
has also set the trust of every banned user to 0.
-/

open Tx

namespace RealTube

/-! ### Banned users -/

/-- The user is shadowbanned. -/
def Banned (users : Table UserID User) (u : UserID) : Bool :=
  (users.lookup u).elim false User.isShadowbanned

/-- The request of a vote comes from a user who is not banned. -/
def VoteCall.audible (users : Table UserID User) (call : VoteCall) : Bool :=
  !Banned users call.userID

/-- The request does not come from a banned user. -/
def Call.audible (users : Table UserID User) : Call → Bool
  | vote call => call.audible users
  | recalculate _ _ => true

namespace Ballots

variable {users : Table UserID User} {m m' : Ballots}

/-- The ballots after requests. -/
def runRequests (m : Ballots) (calls : List VoteCall) : Ballots := m.run (calls.map .request)

@[simp] theorem runRequests_nil (m : Ballots) : m.runRequests [] = m := rfl

@[simp] theorem runRequests_cons (m : Ballots) (call : VoteCall) (calls : List VoteCall) :
    m.runRequests (call :: calls) = (m.step (.request call)).runRequests calls := rfl

/-- Requests change no trust. -/
@[simp] theorem trust_request (m : Ballots) (call : VoteCall) :
    (m.step (.request call)).trust = m.trust := by
  cases call <;> rfl

/-- A request changes the entries of its user only. -/
theorem entry_request_of_ne (m : Ballots) (call : VoteCall) (v : VideoID) {u : UserID}
    (h : u ≠ call.userID) : (m.step (.request call)).entry v u = m.entry v u := by
  cases call <;> exact if_neg fun hkey ↦ h hkey.2

/-- The entry a request makes depends on the trust of its user only. -/
theorem entry_request_congr (call : VoteCall) {v : VideoID} {u : UserID}
    (hentry : m.entry v u = m'.entry v u) (htrust : m.trust = m'.trust) :
    (m.step (.request call)).entry v u = (m'.step (.request call)).entry v u := by
  cases call <;> simp only [step, set, hentry, htrust]

/-- **The requests of banned users leave the entries of the others alone.** -/
theorem entry_run_filter (calls : List VoteCall) (htrust : m.trust = m'.trust)
    (hentry : ∀ v u, Banned users u = false → m.entry v u = m'.entry v u) (v : VideoID)
    {u : UserID} (hu : Banned users u = false) : (m.runRequests calls).entry v u =
      (m'.runRequests (calls.filter (VoteCall.audible users))).entry v u := by
  induction calls generalizing m m' with
  | nil => exact hentry v u hu
  | cons call calls ih =>
    cases hcall : call.audible users with
    | true =>
      rw [List.filter_cons_of_pos hcall, runRequests_cons, runRequests_cons]
      refine ih (by simpa using htrust) fun v u hu ↦ ?_
      exact entry_request_congr call (hentry v u hu) htrust
    | false =>
      have hbanned : Banned users call.userID = true := by
        simpa [VoteCall.audible] using hcall
      rw [List.filter_cons_of_neg (by simp [hcall]), runRequests_cons]
      refine ih (by simpa using htrust) fun v u hu ↦ ?_
      rw [entry_request_of_ne m call v, hentry v u hu]
      rintro rfl
      exact absurd hu (by simp [hbanned])

/-- **The weight of an entry is the trust of its user**, in a run of requests. -/
theorem weight_run (calls : List VoteCall) {m : Ballots}
    (h : ∀ v u c w, m.entry v u = some (c, w) → w = m.trust u) {v : VideoID} {u : UserID}
    {c : Category} {w : ℚ} (hentry : (m.runRequests calls).entry v u = some (c, w)) :
    w = m.trust u := by
  induction calls generalizing m with
  | nil => exact h v u c w hentry
  | cons call calls ih =>
    refine (ih (fun v u c w hentry ↦ ?_) hentry).trans (by rw [trust_request])
    rw [trust_request]
    by_cases hu : u = call.userID
    · -- the entry is the one just set, or an old one of another video
      cases call with
      | submit b q =>
        simp only [step, set] at hentry
        split_ifs at hentry with hkey
        · obtain ⟨-, rfl⟩ := Prod.mk.inj (Option.some.inj hentry)
          rw [hkey.2]
        · exact h v u c w hentry
      | delete b q =>
        simp only [step, set] at hentry
        split_ifs at hentry
        exact h v u c w hentry
    · exact h v u c w (entry_request_of_ne m call v hu ▸ hentry)

end Ballots

/-! ### Runs -/

/-- The event that serves a request. -/
def Call.event : Call → ScoreEvent
  | vote call => .vote (.request call)
  | recalculate b q => .recalculate b q

/-- The vote request that a request is. -/
def Call.voteCall : Call → Option VoteCall
  | vote call => some call
  | recalculate _ _ => none

/-- The database after requests served one at a time. -/
def DB.runCalls (db : DB) (calls : List Call) : DB := db.runScores (calls.map Call.event)

@[simp] theorem runCalls_cons (db : DB) (call : Call) (calls : List Call) :
    db.runCalls (call :: calls) = (call.event.step db).runCalls calls := rfl

/-- The recalculations do not matter to the ballots. -/
theorem ballots_runCalls (db : DB) (calls : List Call) :
    (db.runCalls calls).ballots = db.ballots.runRequests (calls.filterMap Call.voteCall) := by
  induction calls generalizing db with
  | nil => rfl
  | cons call calls ih =>
    rw [runCalls_cons, ih]
    cases call with
    | vote call => exact congrArg (Ballots.runRequests · _) (ballots_step db (.request call))
    | recalculate b q =>
      rw [Call.event, step_recalculate]
      rfl

/-- The requests of the users who are not banned. -/
theorem filterMap_filter_audible (users : Table UserID User) (calls : List Call) :
    (calls.filter (Call.audible users)).filterMap Call.voteCall =
      (calls.filterMap Call.voteCall).filter (VoteCall.audible users) := by
  rw [List.filterMap_filter, List.filter_filterMap]
  refine congrArg (List.filterMap · calls) (funext fun call ↦ ?_)
  cases call with
  | vote call =>
    rw [Call.audible, Call.voteCall, Option.filter_some]
  | recalculate b q => rfl

/-- The weights in a category are those of the ballots. -/
theorem weightIn_congr {db db' : DB} {v : VideoID} (c : Category)
    (h : ∀ u, ((db.ballots.entry v u).elim 0 fun x ↦ if x.1 = c then x.2 else 0) =
      (db'.ballots.entry v u).elim 0 fun x ↦ if x.1 = c then x.2 else 0) :
    db.weightIn v c = db'.weightIn v c := by
  refine Table.sum_congr_lookup fun k ↦ ?_
  obtain ⟨v', u⟩ := k
  by_cases hv : v' = v
  · subst hv
    have hu := h u
    simp only [DB.ballots, Option.elim_map, Function.comp_def] at hu
    simpa only [true_and] using hu
  · cases db.votes.lookup (v', u) <;> cases db'.votes.lookup (v', u) <;> simp [hv]

/-- The score of a video depends on the weights in its categories. -/
theorem videoScore_congr {db db' : DB} {v : VideoID}
    (h : ∀ c, db.weightIn v c = db'.weightIn v c) : db.videoScore v = db'.videoScore v := by
  have hshare : db.categoryScore v = db'.categoryScore v := funext fun c ↦ by
    rw [DB.categoryScore, DB.categoryScore, ← db.sum_weightIn, ← db'.sum_weightIn, h c,
      Finset.sum_congr rfl fun c _ ↦ h c]
  rw [DB.videoScore, hshare, DB.videoScore]

/-! ### The last recalculations -/

/-- Every video of the database is recalculated. -/
def Recalculates (db : DB) (last : List (Backend × RecalculateRequest)) : Prop :=
  ∀ v, db.videos.lookup v ≠ none → ∃ call ∈ last, call.2.videoID = v

/-- The database after the last recalculations. -/
def DB.recalculateLast (db : DB) (last : List (Backend × RecalculateRequest)) : DB :=
  db.runCalls (last.map fun call ↦ .recalculate call.1 call.2)

theorem recalculateLast_cons (db : DB) (call : Backend × RecalculateRequest)
    (last : List (Backend × RecalculateRequest)) :
    db.recalculateLast (call :: last) = (db.recalculate call.2).recalculateLast last := by
  rw [DB.recalculateLast, List.map_cons, runCalls_cons, Call.event, step_recalculate]
  rfl

/-- A video that is recalculated has the score of its votes. -/
theorem score_recalculateLast (db : DB) (last : List (Backend × RecalculateRequest)) (v : VideoID) :
    (db.recalculateLast last).score v =
      if ∃ call ∈ last, call.2.videoID = v then
        (db.videos.lookup v).map fun _ ↦ db.videoScore v
      else db.score v := by
  induction last generalizing db with
  | nil => simp; rfl
  | cons call last ih =>
    have hlook := Table.lookup_modify db.videos call.2.videoID v fun row ↦
      { row with score := db.videoScore call.2.videoID, lastUpdated := call.2.now }
    rw [recalculateLast_cons, ih]
    simp only [List.exists_mem_cons_iff, DB.score, DB.recalculate, hlook]
    change (if _ then Option.map (fun _ ↦ db.videoScore v) _ else _) = _
    by_cases hv : v = call.2.videoID
    · subst hv
      cases db.videos.lookup call.2.videoID <;> simp
    · have hv' : call.2.videoID ≠ v := Ne.symm hv
      simp only [hv, hv', if_false, false_or]

/-- **The score a run ends with** is that of its votes, where there are any. -/
theorem score_last (users : Table UserID User) (channels : Table ChannelID Channel)
    (calls : List Call) {last : List (Backend × RecalculateRequest)}
    (hlast : Recalculates ((DB.start users channels).runCalls calls) last) {v : VideoID}
    (hv : ((DB.start users channels).runCalls calls).votesOn v ≠ 0) :
    (((DB.start users channels).runCalls calls).recalculateLast last).score v =
      some (((DB.start users channels).runCalls calls).videoScore v) := by
  -- a video with votes has a row, which counts them
  have hcons := (consistent_start users channels).runScores (calls.map Call.event)
  change ((DB.start users channels).runCalls calls).Consistent at hcons
  generalize (DB.start users channels).runCalls calls = db at hlast hv hcons ⊢
  rw [score_recalculateLast]
  have htotal := hcons.totalVotes_eq v
  cases hrow : db.videos.lookup v with
  | none =>
    rw [DB.totalVotes, hrow, Option.elim_none] at htotal
    omega
  | some row =>
    rw [if_pos (hlast v (by simp [hrow])), Option.map_some]

/-! ### Noninterference -/

/-- **The banned users are inaudible**: in any two runs that differ in their requests only, and end
with a recalculation of every video, the videos that someone else has voted on have the same score,
and those that only they have voted on have the score 0. -/
def Noninterfering (users : Table UserID User) (channels : Table ChannelID Channel) : Prop :=
  ∀ (calls calls' : List Call) (last last' : List (Backend × RecalculateRequest)),
    let db := (DB.start users channels).runCalls calls
    let db' := (DB.start users channels).runCalls calls'
    calls.filter (Call.audible users) = calls'.filter (Call.audible users) →
    Recalculates db last → Recalculates db' last' →
    (∀ v, (∃ u, db.votedCategory v u ≠ none ∧ Banned users u = false) →
        (db.recalculateLast last).score v = (db'.recalculateLast last').score v) ∧
      ∀ v, (∃ u, db.votedCategory v u ≠ none) →
        (∀ u, db.votedCategory v u ≠ none → Banned users u = true) →
        (db.recalculateLast last).score v = some 0

/-- The ballots of a run from a database without votes. -/
theorem ballots_start (users : Table UserID User) (channels : Table ChannelID Channel)
    (calls : List Call) : ((DB.start users channels).runCalls calls).ballots =
      (Ballots.start users).runRequests (calls.filterMap Call.voteCall) :=
  ballots_runCalls (DB.start users channels) calls

/-- The entries of the others in two runs that differ in the requests of banned users. -/
theorem entry_eq_of_filter_eq {users : Table UserID User} (channels : Table ChannelID Channel)
    {calls calls' : List Call}
    (h : calls.filter (Call.audible users) = calls'.filter (Call.audible users)) (v : VideoID)
    {u : UserID} (hu : Banned users u = false) :
    ((DB.start users channels).runCalls calls).ballots.entry v u =
      ((DB.start users channels).runCalls calls').ballots.entry v u := by
  have hfilter : ∀ calls : List Call,
      ((DB.start users channels).runCalls calls).ballots.entry v u =
        ((Ballots.start users).runRequests
          ((calls.filter (Call.audible users)).filterMap Call.voteCall)).entry v u := by
    intro calls
    rw [ballots_start, filterMap_filter_audible]
    exact Ballots.entry_run_filter _ rfl (fun _ _ _ ↦ rfl) v hu
  rw [hfilter, h, hfilter]

/-- A banned user without trust has no weight. -/
theorem weight_of_banned {users : Table UserID User} {channels : Table ChannelID Channel}
    (htrust : ∀ u row, users.lookup u = some row → row.isShadowbanned = true → row.trustScore = 0)
    (calls : List Call) {v : VideoID} {u : UserID} (hu : Banned users u = true) (c : Category) :
    ((((DB.start users channels).runCalls calls).ballots.entry v u).elim 0
      fun x ↦ if x.1 = c then x.2 else 0) = 0 := by
  rw [ballots_start]
  cases hentry : ((Ballots.start users).runRequests
      (calls.filterMap Call.voteCall)).entry v u with
  | none => rfl
  | some x =>
    have hw : x.2 = Ballots.trustOf users u :=
      Ballots.weight_run _ (m := Ballots.start users) (by simp [Ballots.start]) hentry
    have hzero : Ballots.trustOf users u = 0 := by
      rw [Banned] at hu
      cases hrow : users.lookup u with
      | none => simp [hrow] at hu
      | some row =>
        rw [hrow, Option.elim_some] at hu
        rw [Ballots.trustOf, hrow, Option.elim_some]
        exact htrust u row hrow hu
    rw [Option.elim_some, hw, hzero, ite_self]

/-- **A banned user with any trust is heard**: one vote gives a video a score. -/
theorem not_noninterfering {users : Table UserID User} (channels : Table ChannelID Channel)
    {u : UserID} {row : User} (hrow : users.lookup u = some row)
    (hbanned : row.isShadowbanned = true) (htrust : row.trustScore ≠ 0) :
    ¬ Noninterfering users channels := by
  intro h
  have hu : Banned users u = true := by rw [Banned, hrow, Option.elim_some, hbanned]
  let q : VoteRequest := ⟨"v", u, .fullyAI, "", none, 0⟩
  let calls : List Call := [.vote (.submit .go q)]
  let last : List (Backend × RecalculateRequest) := [(.go, recalculateNow)]
  have hdb : (DB.start users channels).runCalls calls = (DB.start users channels).submit q :=
    congrArg Prod.snd (runTx_submit .go q (DB.start users channels))
  have hvoted : ∀ v u', ((DB.start users channels).submit q).votedCategory v u' ≠ none ↔
      v = "v" ∧ u' = u := by
    intro v u'
    rw [votedCategory_submit]
    split_ifs with hkey
    · simpa using hkey
    · exact iff_of_false (fun hne ↦ hne rfl) hkey
  have hweight : ((DB.start users channels).submit q).weightOn "v" = row.trustScore := by
    have hnone : ((DB.start users channels).votes.erase ("v", u)) = ∅ :=
      Table.erase_eq_self (Table.lookup_empty _)
    rw [DB.weightOn, DB.submit, Table.sum_insert, hnone, Table.sum_empty, add_zero, if_pos rfl]
    exact congrArg (Option.elim · (3 / 10) User.trustScore) hrow
  have hcovers : Recalculates ((DB.start users channels).runCalls calls) last := by
    intro v hv
    refine ⟨_, List.mem_singleton_self _, ?_⟩
    by_contra hne
    refine hv ?_
    rw [hdb]
    exact Table.lookup_insert_of_ne _ _ (Ne.symm hne)
  have hzero := (h calls calls last last rfl hcovers hcovers).2 "v"
    ⟨u, by rw [hdb]; exact (hvoted _ _).2 ⟨rfl, rfl⟩⟩ fun u' hu' ↦ by
      rw [hdb, hvoted] at hu'
      rw [hu'.2, hu]
  rw [score_last users channels calls hcovers, hdb] at hzero
  · -- with a weight, the shares add up to 100
    have hle : ∀ c, ((DB.start users channels).submit q).categoryScore "v" c ≤ 0 := fun c ↦
      (DB.categoryScore_le_videoScore _ "v" c).trans_eq (Option.some.inj hzero)
    have hsum := DB.sum_categoryScore _ "v" (hweight.trans_ne htrust)
    linarith [Finset.sum_nonpos fun c (_ : c ∈ Finset.univ) ↦ hle c]
  · rw [hdb]
    exact (DB.votesOn_pos _ ((hvoted "v" u).2 ⟨rfl, rfl⟩)).ne'

/-- **A shadowban is inaudible exactly when** the moderator has set the trust of every banned user
to 0 as well. -/
theorem noninterfering_iff (users : Table UserID User) (channels : Table ChannelID Channel) :
    Noninterfering users channels ↔
      ∀ u row, users.lookup u = some row → row.isShadowbanned = true → row.trustScore = 0 := by
  constructor
  · intro h u row hrow hbanned
    by_contra htrust
    exact not_noninterfering channels hrow hbanned htrust h
  · intro htrust calls calls' last last' db db' hcalls hlast hlast'
    have hvotes : ∀ {db : DB} {v u}, db.votedCategory v u ≠ none → db.votesOn v ≠ 0 :=
      fun hu ↦ (DB.votesOn_pos _ hu).ne'
    refine ⟨?_, ?_⟩
    · rintro v ⟨u, hvoted, hu⟩
      have hentry := entry_eq_of_filter_eq channels hcalls v hu
      have hvoted' : db'.votedCategory v u ≠ none := by
        rw [ne_eq, ← entry_eq_none_iff, ← hentry, entry_eq_none_iff]
        exact hvoted
      rw [score_last users channels calls hlast (hvotes hvoted),
        score_last users channels calls' hlast' (hvotes hvoted')]
      refine congrArg some (videoScore_congr fun c ↦ weightIn_congr c fun u ↦ ?_)
      cases hbanned : Banned users u with
      | true => rw [weight_of_banned htrust calls hbanned, weight_of_banned htrust calls' hbanned]
      | false => rw [entry_eq_of_filter_eq channels hcalls v hbanned]
    · rintro v ⟨u, hvoted⟩ honly
      rw [score_last users channels calls hlast (hvotes hvoted)]
      have hzero : ∀ c, db.weightIn v c = 0 := by
        intro c
        have hempty : db.weightIn v c = (DB.start users channels).weightIn v c := by
          refine weightIn_congr c fun u ↦ ?_
          change _ = (0 : ℚ)
          cases hbanned : Banned users u with
          | true => exact weight_of_banned htrust calls hbanned c
          | false =>
            have hnone : db.votedCategory v u = none := by
              by_contra hne
              exact absurd (honly u hne) (by simp [hbanned])
            rw [entry_eq_none_iff.2 hnone, Option.elim_none]
        exact hempty.trans (DB.weightIn_eq_zero _ _ _ rfl)
      rw [DB.videoScore_of_weightOn_eq_zero]
      rw [← db.sum_weightIn, Finset.sum_eq_zero fun c _ ↦ hzero c]

/-- A user who was banned before any vote of theirs was evaluated. -/
def bannedUser : Table UserID User :=
  (∅ : Table UserID User).insert "u" { User.new 0 with isShadowbanned := true }

/-- **A shadowban alone does not silence**: the trust of a new user is 0.3. -/
theorem not_noninterfering_bannedUser :
    ¬ ∀ (users : Table UserID User) (channels : Table ChannelID Channel),
      Noninterfering users channels := fun h ↦
  not_noninterfering ∅ (Table.lookup_insert_self ..) rfl (by decide +kernel) (h bannedUser ∅)

end RealTube
