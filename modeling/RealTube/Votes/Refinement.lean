import RealTube.Votes.Counters

/-!
# The votes table is a map

What the vote requests are for, without tables and transactions: every user has at most one vote on
a video, a submission records it with the trust the user has at that moment, a deletion removes it.
This is the abstract machine `Ballots`. The transactions refine it: the abstraction `DB.ballots`
commutes with every event (`ballots_step`), so it commutes with runs.

`votes_refine` assembles this with the invariant of the counters: the total of a video counts its
votes, a deletion fails exactly where the map has no entry, and no guard `… > 0` ever suppresses a
decrement.
-/

namespace RealTube

/-! ### The abstract machine -/

/-- Who voted what, and with which weight; and the trust of every user. -/
@[ext] structure Ballots where
  /-- The category and the weight of a user's vote on a video. -/
  entry : VideoID → UserID → Option (Category × ℚ)
  /-- The trust the next vote of a user is given. -/
  trust : UserID → ℚ

namespace Ballots

/-- The trust of the users of a table; a user who is not there yet is given the default. -/
def trustOf (users : Table UserID User) (u : UserID) : ℚ :=
  (users.lookup u).elim (3 / 10) User.trustScore

/-- Nobody has voted. -/
def start (users : Table UserID User) : Ballots := ⟨fun _ _ ↦ none, trustOf users⟩

/-- Set or remove one entry. -/
def set (m : Ballots) (v : VideoID) (u : UserID) (x : Option (Category × ℚ)) : Ballots :=
  { m with entry := fun v' u' ↦ if v' = v ∧ u' = u then x else m.entry v' u' }

/-- One event: a submission overwrites, a deletion removes. -/
def step (m : Ballots) : VoteEvent → Ballots
  | .request (.submit _ q) =>
    m.set q.videoID q.userID (some (q.category, m.trust q.userID))
  | .request (.delete _ q) => m.set q.videoID q.userID none
  | .users rows => { m with trust := trustOf rows }

/-- A whole run. -/
def run (m : Ballots) (es : List VoteEvent) : Ballots := es.foldl step m

end Ballots

/-- The ballots in the tables. -/
def DB.ballots (db : DB) : Ballots where
  entry v u := (db.votes.lookup (v, u)).map fun row ↦ (row.category, row.trustWeight)
  trust := Ballots.trustOf db.users

/-! ### The simulation -/

theorem entry_eq_none_iff {db : DB} {v : VideoID} {u : UserID} :
    db.ballots.entry v u = none ↔ db.votedCategory v u = none := by
  simp [DB.ballots, DB.votedCategory]

theorem votedCategory_of_entry {db : DB} {v : VideoID} {u : UserID} {c : Category} {w : ℚ}
    (h : db.ballots.entry v u = some (c, w)) : db.votedCategory v u = some c := by
  obtain ⟨row, hrow, heq⟩ := Option.map_eq_some_iff.1 h
  rw [DB.votedCategory, hrow, Option.map_some, show row.category = c from congrArg Prod.fst heq]

theorem ballots_submit (db : DB) (q : VoteRequest) :
    (db.submit q).ballots =
      db.ballots.set q.videoID q.userID (some (q.category, db.ballots.trust q.userID)) := by
  refine Ballots.ext (funext fun v ↦ funext fun u ↦ ?_) (funext fun u ↦ ?_)
  · have hrow : ∀ w r, ((q.row w r).category, (q.row w r).trustWeight) = (q.category, w) := by
      rintro w (_ | r) <;> rfl
    have hlook := Table.lookup_insert db.votes (q.videoID, q.userID) (v, u)
      (q.row (db.trustScore q.userID) (db.votes.lookup (q.videoID, q.userID)))
    simp only [DB.ballots, Ballots.set, DB.submit, hlook, Prod.mk.injEq]
    split_ifs
    · rw [Option.map_some, hrow]
      rfl
    · rfl
  · -- the trust read is the trust left behind
    have hlook := Table.lookup_insert db.users q.userID u
      (User.seenAt q.now (db.users.lookup q.userID))
    simp only [DB.ballots, Ballots.set, DB.submit, Ballots.trustOf, hlook]
    split_ifs with hu
    · rw [Option.elim_some, selectTrustScore_insertUser, hu, DB.trustScore]
    · rfl

theorem ballots_unvote (db : DB) (q : VoteDeleteRequest) (c : Category) :
    (db.unvote q c).ballots = db.ballots.set q.videoID q.userID none := by
  refine Ballots.ext (funext fun v ↦ funext fun u ↦ ?_) rfl
  have hlook := Table.lookup_erase db.votes (q.videoID, q.userID) (v, u)
  simp only [DB.ballots, Ballots.set, DB.unvote, hlook, Prod.mk.injEq]
  split_ifs <;> rfl

/-- Removing an entry that is not there changes nothing. -/
theorem Ballots.set_none_of_none {m : Ballots} {v : VideoID} {u : UserID}
    (h : m.entry v u = none) : m.set v u none = m := by
  refine Ballots.ext (funext fun v' ↦ funext fun u' ↦ ?_) rfl
  simp only [set]
  split_ifs with hkey
  · rw [hkey.1, hkey.2, h]
  · rfl

/-- **The abstraction commutes with every event.** -/
theorem ballots_step (db : DB) (e : VoteEvent) : (e.step db).ballots = db.ballots.step e := by
  obtain ⟨b, q, rfl, hstep⟩ | ⟨b, q, c, rfl, -, hstep⟩ | ⟨b, q, rfl, hv, hstep⟩ |
    ⟨rows, rfl, hstep⟩ := step_cases db e <;> rw [hstep]
  · exact ballots_submit db q
  · exact ballots_unvote db q c
  · exact (Ballots.set_none_of_none (entry_eq_none_iff.2 hv)).symm
  · rfl

/-- **The abstraction commutes with runs.** -/
theorem ballots_runVotes (db : DB) (es : List VoteEvent) :
    (db.runVotes es).ballots = db.ballots.run es := by
  induction es generalizing db with
  | nil => rfl
  | cons e es ih =>
    rw [runVotes_cons, ih, ballots_step]
    rfl

/-! ### Requests in a reachable state -/

/-- A deletion of a vote takes one from the total and one from the counter of its category. -/
theorem DB.Consistent.unvote_counters {db : DB} (h : db.Consistent) {q : VoteDeleteRequest}
    {c : Category} (hv : db.votedCategory q.videoID q.userID = some c) :
    (db.unvote q c).totalVotes q.videoID = db.totalVotes q.videoID - 1 ∧
      (db.unvote q c).voteCount q.videoID c = db.voteCount q.videoID c - 1 := by
  rw [totalVotes_unvote, voteCount_unvote,
    if_pos ⟨rfl, h.totalVotes_pos (hv ▸ Option.some_ne_none c)⟩,
    if_pos ⟨rfl, rfl, h.voteCount_pos hv⟩]
  exact ⟨rfl, rfl⟩

/-- A submission takes one from the counter of the category its user leaves. -/
theorem DB.Consistent.submit_counter {db : DB} (h : db.Consistent) {q : VoteRequest}
    {c : Category} (hv : db.votedCategory q.videoID q.userID = some c) (hc : c ≠ q.category) :
    (db.submit q).voteCount q.videoID c = db.voteCount q.videoID c - 1 := by
  rw [voteCount_submit, if_neg fun hr ↦ hc hr.2, if_pos (h.lowers_iff.2 ⟨rfl, hv, hc⟩), add_zero]

/-- **The tables are the map**, after any run of vote requests from a database without votes.

* An entry of the votes table is the category and the trust of the last submission of its user on
  its video, unless a deletion came after it.
* The total of every video is the number of its votes.
* A submission answers the trust it records; a deletion fails with not-found exactly where the map
  has no entry, and then leaves the database as it is.
* Where there is a vote, a deletion lowers both counters and a change of category lowers the old
  one: the guards suppress nothing. -/
theorem votes_refine (users : Table UserID User) (channels : Table ChannelID Channel)
    (es : List VoteEvent) :
    let db := (DB.start users channels).runVotes es
    let m := (Ballots.start users).run es
    (∀ v u, (db.votes.lookup (v, u)).map (fun row ↦ (row.category, row.trustWeight)) =
        m.entry v u) ∧
      (∀ v, db.totalVotes v = db.votesOn v) ∧
      (∀ b q, ((VoteCall.submit b q).code.runTx db).1 = .ok (some (m.trust q.userID))) ∧
      (∀ b q, ((∃ e, ((VoteCall.delete b q).code.runTx db).1 = .error e) ↔
          m.entry q.videoID q.userID = none) ∧
        (m.entry q.videoID q.userID = none →
          (VoteCall.delete b q).code.runTx db = (.error b.notFound, db))) ∧
      (∀ b q c w, m.entry q.videoID q.userID = some (c, w) →
        let db' := ((VoteCall.delete b q).code.runTx db).2
        db'.totalVotes q.videoID = db.totalVotes q.videoID - 1 ∧
          db'.voteCount q.videoID c = db.voteCount q.videoID c - 1) ∧
      ∀ b q c w, m.entry q.videoID q.userID = some (c, w) → c ≠ q.category →
        ((VoteCall.submit b q).code.runTx db).2.voteCount q.videoID c =
          db.voteCount q.videoID c - 1 := by
  intro db m
  have hm : db.ballots = m := ballots_runVotes (DB.start users channels) es
  have hcons : db.Consistent := (consistent_start users channels).runVotes es
  rw [← hm]
  refine ⟨fun v u ↦ rfl, hcons.totalVotes_eq, fun b q ↦ ?_, fun b q ↦ ⟨?_, fun hnone ↦ ?_⟩,
    fun b q c w hentry ↦ ?_, fun b q c w hentry hc ↦ ?_⟩
  · rw [runTx_submit]
    rfl
  · rw [runTx_delete, entry_eq_none_iff]
    cases db.votedCategory q.videoID q.userID <;> simp
  · rw [runTx_delete, entry_eq_none_iff.1 hnone]
  · rw [runTx_delete, votedCategory_of_entry hentry]
    exact hcons.unvote_counters (votedCategory_of_entry hentry)
  · rw [runTx_submit]
    exact hcons.submit_counter (votedCategory_of_entry hentry) hc

end RealTube
