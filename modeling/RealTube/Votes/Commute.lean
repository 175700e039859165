import RealTube.Votes.Refinement
import RealTube.Store.Interleaving

/-!
# Requests of different users commute

Two users vote on the same video at the same time; the counters they both move are kept by
increments and by decrements that are guarded at zero. A guard that failed in one order and not in
the other would make the order visible.

`Tally` is the machine that has no guards: the rows of the tables without their times, where a
request adds its `±1` to the counters of its video. Its steps for different users commute, whatever
the state (`independent_step`). The tables refine it in every state reached from empty ones
(`tally_runTx`), because there a vote keeps its counters positive (`DB.Consistent`).
-/

open Tx

namespace RealTube

/-! ### Rows without their times -/

/-- A row of `users` without its times. -/
def User.untimed (row : User) : User := { row with firstSeen := 0, lastActive := 0 }

/-- A row of `videos` without its time. -/
def Video.untimed (row : Video) : Video := { row with lastUpdated := 0 }

/-- A row of `votes` without its time. -/
def Vote.untimed (row : Vote) : Vote := { row with createdAt := 0 }

/-- A request sent at some time. -/
def VoteCall.sentAt (t : Time) : VoteCall → VoteCall
  | submit b q => submit b { q with now := t }
  | delete b q => delete b { q with now := t }

@[simp] theorem sentAt_userID (t : Time) (call : VoteCall) :
    (call.sentAt t).userID = call.userID := by
  cases call <;> rfl

/-! ### What a request does to one row -/

/-- Add to the total of a video; `none` leaves the row alone. -/
def bumpVideo : Option ℤ → Option Video → Option Video
  | none, row => row
  | some n, row =>
    let row := row.getD (Video.new 0)
    some { row with totalVotes := row.totalVotes + n }

/-- Add to the counter of a category; `none` leaves the row alone. -/
def bumpCategory : Option ℤ → Option VideoCategory → Option VideoCategory
  | none, row => row
  | some n, row =>
    let row := row.getD ⟨0, 0⟩
    some { row with voteCount := row.voteCount + n }

theorem bumpVideo_comm (n n' : Option ℤ) (row : Option Video) :
    bumpVideo n (bumpVideo n' row) = bumpVideo n' (bumpVideo n row) := by
  cases n <;> cases n' <;> simp only [bumpVideo, Option.getD_some, Option.some.injEq]
  rw [add_right_comm]

theorem bumpCategory_comm (n n' : Option ℤ) (row : Option VideoCategory) :
    bumpCategory n (bumpCategory n' row) = bumpCategory n' (bumpCategory n row) := by
  cases n <;> cases n' <;> simp only [bumpCategory, Option.getD_some, Option.some.injEq]
  rw [add_right_comm]

namespace VoteCall

/-- What a request adds to the total of its video, given the category its user has voted for. -/
def videoDelta (own : Option Category) : VoteCall → Option ℤ
  | submit _ _ => some (if own = none then 1 else 0)
  | delete _ _ => own.map fun _ ↦ -1

/-- What it adds to the counter of a category of its video. -/
def categoryDelta (own : Option Category) (c : Category) : VoteCall → Option ℤ
  | submit _ q => if c = q.category then some 1 else if own = some c then some (-1) else none
  | delete _ _ => if own = some c then some (-1) else none

/-- The row of `votes` it leaves, given the trust of its user. -/
def voteAfter (trust : ℚ) (row : Option Vote) : VoteCall → Option Vote
  | submit _ q => some (q.row trust row).untimed
  | delete _ _ => none

/-- The row of `users` it leaves. -/
def userAfter (row : Option User) : VoteCall → Option User
  | submit _ _ => some (row.getD (User.new 0))
  | delete _ _ => row

/-- What it answers. -/
def answer (trust : ℚ) (own : Option Category) : VoteCall → Except VoteError (Option ℚ)
  | submit _ _ => .ok (some trust)
  | delete b _ => if own = none then .error b.notFound else .ok none

end VoteCall

/-! ### The machine without guards -/

/-- The rows of the tables, without their times. -/
@[ext] structure Tally where
  user : UserID → Option User
  video : VideoID → Option Video
  category : VideoID → Category → Option VideoCategory
  vote : VideoID → UserID → Option Vote

namespace Tally

/-- The category a user has voted for. -/
def own (t : Tally) (v : VideoID) (u : UserID) : Option Category := (t.vote v u).map Vote.category

/-- The trust of a user; a user who is not there yet has the default. -/
def trust (t : Tally) (u : UserID) : ℚ := (t.user u).elim (3 / 10) User.trustScore

/-- One request: it writes the rows of its user, and adds to the counters of its video. -/
def step (t : Tally) (call : VoteCall) : Tally where
  user u := if u = call.userID then call.userAfter (t.user u) else t.user u
  video v :=
    if v = call.videoID then bumpVideo (call.videoDelta (t.own v call.userID)) (t.video v)
    else t.video v
  category v c :=
    if v = call.videoID then
      bumpCategory (call.categoryDelta (t.own v call.userID) c) (t.category v c)
    else t.category v c
  vote v u :=
    if v = call.videoID ∧ u = call.userID then call.voteAfter (t.trust u) (t.vote v u)
    else t.vote v u

/-- What a request answers. -/
def answer (t : Tally) (call : VoteCall) : Except VoteError (Option ℚ) :=
  call.answer (t.trust call.userID) (t.own call.videoID call.userID)

section Step

variable (t : Tally) (call : VoteCall) (v : VideoID) (c : Category) (u : UserID)

theorem user_step : (t.step call).user u =
    if u = call.userID then call.userAfter (t.user u) else t.user u := rfl

theorem video_step : (t.step call).video v =
    if v = call.videoID then bumpVideo (call.videoDelta (t.own v call.userID)) (t.video v)
    else t.video v := rfl

theorem category_step : (t.step call).category v c =
    if v = call.videoID then
      bumpCategory (call.categoryDelta (t.own v call.userID) c) (t.category v c)
    else t.category v c := rfl

theorem vote_step : (t.step call).vote v u =
    if v = call.videoID ∧ u = call.userID then call.voteAfter (t.trust u) (t.vote v u)
    else t.vote v u := rfl

variable {t call u}

theorem own_step (h : u ≠ call.userID) : (t.step call).own v u = t.own v u := by
  rw [own, own, vote_step, if_neg (not_and_of_not_right _ h)]

theorem trust_step (h : u ≠ call.userID) : (t.step call).trust u = t.trust u := by
  rw [trust, trust, user_step, if_neg h]

/-- What a request answers does not depend on a request of another user. -/
theorem answer_step {call' : VoteCall} (h : call.userID ≠ call'.userID) :
    (t.step call').answer call = t.answer call := by
  rw [answer, own_step _ h, trust_step h, answer]

end Step

/-- **Requests of different users commute.** -/
theorem independent_step : Interleaving.Independent step VoteCall.userID := by
  intro t call call' hne
  ext1
  · funext u
    simp only [user_step]
    split_ifs with hu hu'
    · exact absurd (hu'.symm.trans hu) hne
    all_goals rfl
  · funext v
    simp only [video_step, own_step v hne, own_step v hne.symm]
    split_ifs
    · exact bumpVideo_comm _ _ _
    all_goals rfl
  · funext v c
    simp only [category_step, own_step v hne, own_step v hne.symm]
    split_ifs
    · exact bumpCategory_comm _ _ _
    all_goals rfl
  · funext v u
    simp only [vote_step]
    split_ifs with hu hu'
    · exact absurd (hu'.2.symm.trans hu.2) hne
    · rw [hu.2, trust_step hne.symm]
    · rename_i hu'
      rw [hu'.2, trust_step hne]
    · rfl

/-- A deletion without a vote changes nothing. -/
theorem step_delete_of_none {t : Tally} (b : Backend) {q : VoteDeleteRequest}
    (h : t.own q.videoID q.userID = none) : t.step (.delete b q) = t := by
  have hvote : t.vote q.videoID q.userID = none := Option.map_eq_none_iff.1 h
  ext1
  · funext u
    exact ite_id _
  · funext v
    rw [video_step]
    split_ifs with hv
    · rw [show v = q.videoID from hv,
        show t.own q.videoID (VoteCall.delete b q).userID = none from h]
      rfl
    · rfl
  · funext v c
    rw [category_step]
    split_ifs with hv
    · rw [show v = q.videoID from hv,
        show t.own q.videoID (VoteCall.delete b q).userID = none from h]
      rfl
    · rfl
  · funext v u
    rw [vote_step]
    split_ifs with hvu
    · rw [show v = q.videoID from hvu.1, show u = q.userID from hvu.2, hvote]
      rfl
    · rfl

/-- The time of a request leaves no trace. -/
theorem step_sentAt (t : Tally) (now : Time) (call : VoteCall) :
    t.step (call.sentAt now) = t.step call := by
  have hrow : ∀ (q : VoteRequest) w row,
      (({ q with now := now } : VoteRequest).row w row).untimed = (q.row w row).untimed := by
    rintro q w (_ | row) <;> rfl
  cases call with
  | submit b q =>
    refine Tally.ext rfl rfl rfl (funext fun v ↦ funext fun u ↦ ?_)
    simp only [vote_step, VoteCall.sentAt, VoteCall.voteAfter, hrow]
    rfl
  | delete b q => rfl

theorem answer_sentAt (t : Tally) (now : Time) (call : VoteCall) :
    t.answer (call.sentAt now) = t.answer call := by
  cases call <;> rfl

end Tally

/-! ### The tables refine it -/

/-- The rows of the tables, without their times. -/
def DB.tally (db : DB) : Tally where
  user u := (db.users.lookup u).map User.untimed
  video v := (db.videos.lookup v).map Video.untimed
  category v c := db.videoCategories.lookup (v, c)
  vote v u := (db.votes.lookup (v, u)).map Vote.untimed

theorem user_tally (db : DB) (u : UserID) :
    db.tally.user u = (db.users.lookup u).map User.untimed := rfl

theorem video_tally (db : DB) (v : VideoID) :
    db.tally.video v = (db.videos.lookup v).map Video.untimed := rfl

theorem category_tally (db : DB) (v : VideoID) (c : Category) :
    db.tally.category v c = db.videoCategories.lookup (v, c) := rfl

theorem vote_tally (db : DB) (v : VideoID) (u : UserID) :
    db.tally.vote v u = (db.votes.lookup (v, u)).map Vote.untimed := rfl

theorem own_tally (db : DB) (v : VideoID) (u : UserID) :
    db.tally.own v u = db.votedCategory v u := by
  rw [Tally.own, vote_tally, Option.map_map]
  rfl

theorem trust_tally (db : DB) (u : UserID) : db.tally.trust u = db.trustScore u := by
  rw [Tally.trust, user_tally, DB.trustScore]
  cases db.users.lookup u <;> rfl

theorem untimed_seenAt (now : Time) (row : Option User) :
    (User.seenAt now row).untimed = (row.map User.untimed).getD (User.new 0) := by
  cases row <;> rfl

theorem untimed_row (q : VoteRequest) (w : ℚ) (row : Option Vote) :
    (q.row w row).untimed = (q.row w (row.map Vote.untimed)).untimed := by
  cases row <;> rfl

theorem untimed_videoOrNew (db : DB) (now : Time) (v : VideoID) :
    (db.videoOrNew now v).untimed = (db.tally.video v).getD (Video.new 0) := by
  rw [DB.videoOrNew, video_tally]
  cases db.videos.lookup v <;> rfl

/-- A submission adjusts categories of its own video only. -/
theorem lookup_countReplaced_of_ne (db : DB) (q : VoteRequest) {v : VideoID} (hv : v ≠ q.videoID)
    (c : Category) : (db.countReplaced q).lookup (v, c) = db.videoCategories.lookup (v, c) := by
  rw [DB.countReplaced]
  split
  · rfl
  · split_ifs
    · exact Table.lookup_modify_of_ne _ _ fun hk ↦ hv (congrArg Prod.fst hk)
    · rfl

section Refine

variable {db : DB} (h : db.Consistent)
include h

/-- The counter of the vote that a submission replaces goes down by one. -/
theorem lookup_countReplaced_eq_bump (q : VoteRequest) {c : Category} (hc : c ≠ q.category) :
    (db.countReplaced q).lookup (q.videoID, c) =
      bumpCategory (if db.votedCategory q.videoID q.userID = some c then some (-1) else none)
        (db.videoCategories.lookup (q.videoID, c)) := by
  rw [DB.countReplaced]
  rcases hv : db.votedCategory q.videoID q.userID with - | c'
  · rfl
  · by_cases hcc : c' = c
    · subst hcc
      have hpos := h.voteCount_pos hv
      rw [DB.voteCount] at hpos
      simp only [if_true, ne_eq, hc, not_false_eq_true, Table.lookup_modify]
      rcases hrow : db.videoCategories.lookup (q.videoID, c') with - | row
      · simp [hrow] at hpos
      · rw [hrow, Option.elim_some] at hpos
        simp [bumpCategory, hpos, sub_eq_add_neg]
    · rw [if_neg fun heq ↦ hcc (Option.some.inj heq)]
      dsimp only
      split_ifs
      · exact Table.lookup_modify_of_ne _ _ fun heq ↦ hcc (congrArg Prod.snd heq).symm
      · rfl

/-- **A submission is a step of the machine without guards.** -/
theorem tally_submit (b : Backend) (q : VoteRequest) :
    (db.submit q).tally = db.tally.step (.submit b q) := by
  ext1
  · funext u
    rw [Tally.user_step, user_tally, user_tally, DB.submit, Table.lookup_insert]
    by_cases hu : u = q.userID
    · rw [if_pos hu, if_pos (show u = (VoteCall.submit b q).userID from hu), Option.map_some,
        untimed_seenAt, hu]
      rfl
    · rw [if_neg hu, if_neg (show ¬ u = (VoteCall.submit b q).userID from hu)]
  · funext v
    rw [Tally.video_step, own_tally, video_tally, DB.submit, Table.lookup_insert]
    by_cases hv : v = q.videoID
    · have hrow := untimed_videoOrNew db q.now v
      rw [if_pos hv, if_pos (show v = (VoteCall.submit b q).videoID from hv),
        VoteCall.videoDelta, bumpVideo, Option.map_some, ← hrow, hv]
      rfl
    · rw [if_neg hv, if_neg (show ¬ v = (VoteCall.submit b q).videoID from hv), video_tally]
  · funext v c
    rw [Tally.category_step, own_tally, category_tally, category_tally, DB.submit,
      Table.lookup_insert, VoteCall.categoryDelta]
    by_cases hv : v = q.videoID
    · rw [if_pos (show v = (VoteCall.submit b q).videoID from hv)]
      by_cases hc : c = q.category
      · rw [if_pos (Prod.ext hv hc), if_pos hc, hv, hc, bumpCategory, DB.voteCount]
        cases db.videoCategories.lookup (q.videoID, q.category) <;> rfl
      · rw [if_neg fun hk ↦ hc (congrArg Prod.snd hk), if_neg hc, hv]
        exact lookup_countReplaced_eq_bump h q hc
    · rw [if_neg fun hk ↦ hv (congrArg Prod.fst hk),
        if_neg (show ¬ v = (VoteCall.submit b q).videoID from hv)]
      exact lookup_countReplaced_of_ne db q hv c
  · funext v u
    rw [Tally.vote_step, trust_tally, vote_tally, vote_tally, DB.submit, Table.lookup_insert]
    by_cases hvu : v = q.videoID ∧ u = q.userID
    · rw [if_pos (Prod.ext hvu.1 hvu.2),
        if_pos (show v = (VoteCall.submit b q).videoID ∧ u = (VoteCall.submit b q).userID from hvu),
        Option.map_some, untimed_row, VoteCall.voteAfter, hvu.1, hvu.2]
    · rw [if_neg fun hk ↦ hvu ⟨congrArg Prod.fst hk, congrArg Prod.snd hk⟩,
        if_neg (show ¬ (v = (VoteCall.submit b q).videoID ∧ u = (VoteCall.submit b q).userID)
          from hvu)]

/-- **A deletion is a step of it**, where there is a vote. -/
theorem tally_unvote (b : Backend) (q : VoteDeleteRequest) {c : Category}
    (hv : db.votedCategory q.videoID q.userID = some c) :
    (db.unvote q c).tally = db.tally.step (.delete b q) := by
  have htotal := h.totalVotes_pos (hv ▸ Option.some_ne_none c)
  have hcount := h.voteCount_pos hv
  rw [DB.totalVotes] at htotal
  rw [DB.voteCount] at hcount
  ext1
  · funext u
    rw [Tally.user_step, VoteCall.userAfter, ite_self]
    rfl
  · funext v
    rw [Tally.video_step, own_tally, video_tally, video_tally, DB.unvote, Table.lookup_modify]
    by_cases hvid : v = q.videoID
    · rw [if_pos hvid, if_pos (show v = (VoteCall.delete b q).videoID from hvid), hvid,
        show db.votedCategory q.videoID (VoteCall.delete b q).userID = some c from hv]
      rcases hrow : db.videos.lookup q.videoID with - | row
      · simp [hrow] at htotal
      · rw [hrow, Option.elim_some] at htotal
        simp [VoteCall.videoDelta, bumpVideo, htotal, sub_eq_add_neg, Video.untimed]
    · rw [if_neg hvid, if_neg (show ¬ v = (VoteCall.delete b q).videoID from hvid)]
  · funext v c'
    rw [Tally.category_step, own_tally, category_tally, category_tally, DB.unvote,
      Table.lookup_modify, VoteCall.categoryDelta]
    by_cases hvid : v = q.videoID
    · rw [if_pos (show v = (VoteCall.delete b q).videoID from hvid), hvid,
        show db.votedCategory q.videoID (VoteCall.delete b q).userID = some c from hv]
      by_cases hc : c' = c
      · subst hc
        rcases hrow : db.videoCategories.lookup (q.videoID, c') with - | row
        · simp [hrow] at hcount
        · rw [hrow, Option.elim_some] at hcount
          simp [bumpCategory, hcount, sub_eq_add_neg]
      · rw [if_neg fun hk ↦ hc (congrArg Prod.snd hk), if_neg fun hk ↦ hc (Option.some.inj hk).symm]
        rfl
    · rw [if_neg fun hk ↦ hvid (congrArg Prod.fst hk),
        if_neg (show ¬ v = (VoteCall.delete b q).videoID from hvid)]
  · funext v u
    rw [Tally.vote_step, vote_tally, vote_tally, DB.unvote, Table.lookup_erase]
    by_cases hvu : v = q.videoID ∧ u = q.userID
    · rw [if_pos (Prod.ext hvu.1 hvu.2),
        if_pos (show v = (VoteCall.delete b q).videoID ∧ u = (VoteCall.delete b q).userID from hvu)]
      rfl
    · rw [if_neg fun hk ↦ hvu ⟨congrArg Prod.fst hk, congrArg Prod.snd hk⟩,
        if_neg (show ¬ (v = (VoteCall.delete b q).videoID ∧ u = (VoteCall.delete b q).userID)
          from hvu)]

/-- **The tables refine the machine without guards**, answers included. -/
theorem tally_runTx (call : VoteCall) :
    (call.code.runTx db).1 = db.tally.answer call ∧
      (call.code.runTx db).2.tally = db.tally.step call := by
  rw [Tally.answer, own_tally, trust_tally]
  cases call with
  | submit b q =>
    rw [runTx_submit]
    exact ⟨rfl, tally_submit h b q⟩
  | delete b q =>
    rw [runTx_delete]
    rcases hv : db.votedCategory q.videoID q.userID with - | c
    · refine ⟨by simp [VoteCall.answer, VoteCall.videoID, VoteCall.userID, hv], ?_⟩
      exact (Tally.step_delete_of_none b ((own_tally db _ _).trans hv)).symm
    · refine ⟨by simp [VoteCall.answer, VoteCall.videoID, VoteCall.userID, hv], ?_⟩
      exact tally_unvote h b q hv

/-- A run of requests is a run of the machine. -/
theorem tally_runVotes (calls : List VoteCall) :
    (db.runVotes (calls.map .request)).tally = calls.foldl Tally.step db.tally := by
  induction calls generalizing db with
  | nil => rfl
  | cons call calls ih =>
    rw [List.map_cons, runVotes_cons, ih (h.step _), List.foldl_cons, ← (tally_runTx h call).2]
    rfl

end Refine

/-! ### Two orders -/

/-- The same votes, their times apart, and the same counters. -/
structure DB.SameCounts (db db' : DB) : Prop where
  votes : ∀ v u, (db.votes.lookup (v, u)).map Vote.untimed =
    (db'.votes.lookup (v, u)).map Vote.untimed
  totalVotes : ∀ v, db.totalVotes v = db'.totalVotes v
  voteCount : ∀ v c, db.voteCount v c = db'.voteCount v c

theorem sameCounts_of_tally {db db' : DB} (h : db.tally = db'.tally) : db.SameCounts db' where
  votes v u := congrArg (fun t : Tally ↦ t.vote v u) h
  totalVotes v := by
    have htotal : ∀ db : DB, db.totalVotes v = (db.tally.video v).elim 0 Video.totalVotes := by
      intro db
      rw [DB.totalVotes, video_tally]
      cases db.videos.lookup v <;> rfl
    rw [htotal, htotal, h]
  voteCount v c := by
    rw [DB.voteCount, DB.voteCount, ← category_tally, ← category_tally, h]

/-- Sequences of requests in which every user does the same, at whatever times. -/
def SameByUser (calls calls' : List VoteCall) : Prop :=
  ∀ u, (calls.filter (·.userID = u)).map (VoteCall.sentAt 0) =
    (calls'.filter (·.userID = u)).map (VoteCall.sentAt 0)

/-- **Requests of different users commute.** In every state reached from a database without votes,
two requests of different users leave the same votes and counters in either order, and each gets the
same answer, whatever the times of the requests.

So the votes and counters after any requests do not depend on how those of different users are
ordered. -/
theorem requests_commute (users : Table UserID User) (channels : Table ChannelID Channel)
    (es : List VoteEvent) :
    let db := (DB.start users channels).runVotes es
    (∀ call₁ call₂ : VoteCall, call₁.userID ≠ call₂.userID → ∀ t₁ t₂ t₁' t₂' : Time,
      let first := (call₁.sentAt t₁).code.runTx db
      let second := (call₂.sentAt t₂).code.runTx first.2
      let second' := (call₂.sentAt t₂').code.runTx db
      let first' := (call₁.sentAt t₁').code.runTx second'.2
      second.2.SameCounts first'.2 ∧ first.1 = first'.1 ∧ second.1 = second'.1) ∧
    ∀ calls calls' : List VoteCall, SameByUser calls calls' →
      (db.runVotes (calls.map .request)).SameCounts (db.runVotes (calls'.map .request)) := by
  intro db
  have hdb : db.Consistent := (consistent_start users channels).runVotes es
  have hkeep : ∀ call : VoteCall, (call.code.runTx db).2.Consistent :=
    fun call ↦ hdb.step (.request call)
  constructor
  · intro call₁ call₂ hne t₁ t₂ t₁' t₂' first second second' first'
    obtain ⟨hanswer₁, htally₁⟩ := tally_runTx hdb (call₁.sentAt t₁)
    obtain ⟨hanswer₂, htally₂⟩ := tally_runTx (hkeep _) (call₂.sentAt t₂)
    obtain ⟨hanswer₂', htally₂'⟩ := tally_runTx hdb (call₂.sentAt t₂')
    obtain ⟨hanswer₁', htally₁'⟩ := tally_runTx (hkeep _) (call₁.sentAt t₁')
    rw [Tally.step_sentAt] at htally₁ htally₂ htally₂' htally₁'
    rw [Tally.answer_sentAt] at hanswer₁ hanswer₂ hanswer₂' hanswer₁'
    refine ⟨sameCounts_of_tally ?_, ?_, ?_⟩
    · rw [htally₂, htally₁, htally₁', htally₂', Tally.independent_step _ _ _ hne]
    · rw [hanswer₁, hanswer₁', htally₂', Tally.answer_step hne]
    · rw [hanswer₂, hanswer₂', htally₁, Tally.answer_step hne.symm]
  · intro calls calls' hsame
    refine sameCounts_of_tally ?_
    have huntimed : ∀ (calls : List VoteCall) (t : Tally),
        calls.foldl Tally.step t = (calls.map (VoteCall.sentAt 0)).foldl Tally.step t := by
      intro calls t
      simp only [List.foldl_map, Tally.step_sentAt]
    rw [tally_runVotes hdb, tally_runVotes hdb, huntimed, huntimed calls']
    refine Interleaving.foldl_eq_of_filter_eq Tally.independent_step (fun u ↦ ?_) _
    have hmap : ∀ calls : List VoteCall,
        (calls.map (VoteCall.sentAt 0)).filter (·.userID = u) =
          (calls.filter (·.userID = u)).map (VoteCall.sentAt 0) := by
      intro calls
      rw [List.filter_map]
      simp only [Function.comp_def, sentAt_userID]
    rw [hmap, hmap]
    exact hsame u

end RealTube
