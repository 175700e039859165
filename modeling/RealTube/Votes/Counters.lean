import RealTube.Votes.Serial

/-!
# The category counters

`video_categories.vote_count` is kept incrementally, by a statement that adds one for every
submission and one that subtracts one when a user leaves a category. A user who submits the category
they already voted for leaves none, so that submission is counted again: the counter **drifts** from
the number of votes by exactly the resubmissions of the run (`drift_runVotes`), and it is right
precisely as long as there are none (`voteCount_eq_votesIn_iff`).

The drift is never negative. This is the half of the invariant that survives (`DB.Consistent`), and
all that the guards of the decrements rely on.
-/

namespace RealTube

/-! ### Serial runs -/

/-- A step of a serial run: a vote request served to its end, or a change of the `users` table by
someone else, such as a new trust score or a moderator's decision. -/
inductive VoteEvent where
  | request (call : VoteCall)
  | users (rows : Table UserID User)

/-- The database after an event. -/
def VoteEvent.step (db : DB) : VoteEvent → DB
  | request call => (call.code.runTx db).2
  | users rows => { db with users := rows }

/-- The database after a run. -/
def DB.runVotes (db : DB) (es : List VoteEvent) : DB := es.foldl VoteEvent.step db

/-- A database without videos and votes, with any users and channels. -/
def DB.start (users : Table UserID User) (channels : Table ChannelID Channel) : DB where
  users := users
  videos := ∅
  videoCategories := ∅
  votes := ∅
  channels := channels

@[simp] theorem runVotes_nil (db : DB) : db.runVotes [] = db := rfl

@[simp] theorem runVotes_cons (db : DB) (e : VoteEvent) (es : List VoteEvent) :
    db.runVotes (e :: es) = (e.step db).runVotes es := rfl

/-- **Everything an event can do** to the tables the counters are about. -/
theorem step_cases (db : DB) (e : VoteEvent) :
    (∃ b q, e = .request (.submit b q) ∧ e.step db = db.submit q) ∨
      (∃ b q c, e = .request (.delete b q) ∧ db.votedCategory q.videoID q.userID = some c ∧
        e.step db = db.unvote q c) ∨
      (∃ b q, e = .request (.delete b q) ∧ db.votedCategory q.videoID q.userID = none ∧
        e.step db = db) ∨
      ∃ rows, e = .users rows ∧ e.step db = { db with users := rows } := by
  rcases e with (⟨b, q⟩ | ⟨b, q⟩) | rows
  · exact Or.inl ⟨b, q, rfl, by rw [VoteEvent.step, runTx_submit]⟩
  · right
    cases hv : db.votedCategory q.videoID q.userID with
    | none => exact Or.inr (Or.inl ⟨b, q, rfl, hv, by rw [VoteEvent.step, runTx_delete, hv]⟩)
    | some c => exact Or.inl ⟨b, q, c, rfl, hv, by rw [VoteEvent.step, runTx_delete, hv]⟩
  · exact Or.inr (Or.inr (Or.inr ⟨rows, rfl, rfl⟩))

/-! ### The totals -/

/-- Every total counts the votes on its video. -/
def DB.TotalsRight (db : DB) : Prop := ∀ v, db.totalVotes v = db.votesOn v

namespace DB.TotalsRight

variable {db : DB} (h : db.TotalsRight)
include h

/-- A vote that is there keeps the total positive. -/
theorem totalVotes_pos {v : VideoID} {u : UserID} (hv : db.votedCategory v u ≠ none) :
    0 < db.totalVotes v := by
  have hpos := db.votesOn_pos hv
  rw [h v]
  omega

/-- **One event** keeps the totals right: the guard of a deletion's decrement never fails. -/
theorem step (e : VoteEvent) : (e.step db).TotalsRight := by
  intro v
  have htotal := h v
  obtain ⟨b, q, -, hstep⟩ | ⟨b, q, c', -, hv, hstep⟩ | ⟨b, q, -, hv, hstep⟩ | ⟨rows, -, hstep⟩ :=
    step_cases db e <;> rw [hstep]
  · rw [totalVotes_submit, votesOn_submit, htotal]
    split_ifs <;> simp
  · have hvotes := votesOn_unvote v hv
    have hpos : v = q.videoID → 0 < db.totalVotes v := by
      rintro rfl
      exact h.totalVotes_pos (hv ▸ Option.some_ne_none c')
    rw [totalVotes_unvote]
    split_ifs at hvotes ⊢ with h1 h2 h2
    · omega
    · exact absurd h1 (not_and_of_not_left _ h2)
    · exact absurd ⟨h2, hpos h2⟩ h1
    · omega
  · exact htotal
  · exact htotal

end DB.TotalsRight

/-! ### The invariant -/

/-- What is left of the counters' meaning once a user has submitted a category twice: the total is
right, and a category counter is at least the number of votes. -/
structure DB.Consistent (db : DB) : Prop where
  /-- The total counts the votes on the video. -/
  totalVotes_eq : ∀ v, db.totalVotes v = db.votesOn v
  /-- Every vote is counted in its category. -/
  votesIn_le : ∀ v c, (db.votesIn v c : ℤ) ≤ db.voteCount v c

/-- By how much a category counter exceeds the votes. -/
def DB.drift (db : DB) (v : VideoID) (c : Category) : ℤ := db.voteCount v c - db.votesIn v c

/-- The event submits, for a video and a category, the vote that its user already has there. -/
def VoteEvent.Resubmits (db : DB) (v : VideoID) (c : Category) : VoteEvent → Prop
  | request (.submit _ q) => q.Raises v c ∧ db.votedCategory q.videoID q.userID = some c
  | _ => False

instance (db : DB) (v : VideoID) (c : Category) (e : VoteEvent) : Decidable (e.Resubmits db v c) :=
  match e with
  | .request (.submit _ _) => inferInstanceAs (Decidable (_ ∧ _))
  | .request (.delete _ _) => inferInstanceAs (Decidable False)
  | .users _ => inferInstanceAs (Decidable False)

theorem not_resubmits_delete (db : DB) (b : Backend) (q : VoteDeleteRequest) (v : VideoID)
    (c : Category) : ¬ (VoteEvent.request (.delete b q)).Resubmits db v c := id

theorem not_resubmits_users (db : DB) (rows : Table UserID User) (v : VideoID) (c : Category) :
    ¬ (VoteEvent.users rows).Resubmits db v c := id

theorem consistent_start (users : Table UserID User) (channels : Table ChannelID Channel) :
    (DB.start users channels).Consistent :=
  ⟨fun _ ↦ rfl, fun _ _ ↦ le_rfl⟩

namespace DB.Consistent

variable {db : DB} (h : db.Consistent)
include h

/-- A vote that is there keeps its category counter positive. -/
theorem voteCount_pos {v : VideoID} {u : UserID} {c : Category}
    (hv : db.votedCategory v u = some c) : 0 < db.voteCount v c := by
  have hpos := db.votesIn_pos hv
  have hle := h.votesIn_le v c
  omega

/-- A vote that is there keeps the total positive. -/
theorem totalVotes_pos {v : VideoID} {u : UserID} (hv : db.votedCategory v u ≠ none) :
    0 < db.totalVotes v :=
  DB.TotalsRight.totalVotes_pos h.totalVotes_eq hv

/-- The guard of a submission's decrement never fails. -/
theorem lowers_iff {q : VoteRequest} {v : VideoID} {c : Category} :
    q.Lowers db v c ↔
      v = q.videoID ∧ db.votedCategory q.videoID q.userID = some c ∧ c ≠ q.category := by
  constructor
  · rintro ⟨hv, hc, hne, -⟩
    exact ⟨hv, hc, hne⟩
  · rintro ⟨rfl, hc, hne⟩
    exact ⟨rfl, hc, hne, h.voteCount_pos hc⟩

/-- **One event** drifts a counter by one if it resubmits there, and not at all otherwise. -/
theorem drift_step (e : VoteEvent) (v : VideoID) (c : Category) :
    (e.step db).drift v c = db.drift v c + if e.Resubmits db v c then 1 else 0 := by
  obtain ⟨b, q, rfl, hstep⟩ | ⟨b, q, c', rfl, hv, hstep⟩ | ⟨b, q, rfl, hv, hstep⟩ |
    ⟨rows, rfl, hstep⟩ := step_cases db e <;> rw [hstep]
  · have hvotes := votesIn_submit q db v c
    rw [DB.drift, DB.drift, voteCount_submit]
    simp only [VoteEvent.Resubmits, h.lowers_iff]
    by_cases hr : q.Raises v c
    · obtain ⟨rfl, rfl⟩ := hr
      simp only [VoteRequest.Raises, true_and, and_self, ne_eq, not_true_eq_false, and_false,
        if_true, if_false] at hvotes ⊢
      split_ifs at hvotes ⊢ <;> omega
    · have hr' : ¬ (v = q.videoID ∧ c = q.category) := hr
      simp only [hr, hr', false_and, if_false] at hvotes ⊢
      by_cases hl : v = q.videoID ∧ db.votedCategory q.videoID q.userID = some c
      · have hne : c ≠ q.category := fun hc ↦ hr ⟨hl.1, hc⟩
        rw [if_pos hl] at hvotes
        rw [if_pos ⟨hl.1, hl.2, hne⟩]
        omega
      · rw [if_neg hl] at hvotes
        rw [if_neg fun hl' ↦ hl ⟨hl'.1, hl'.2.1⟩]
        omega
  · have hvotes := votesIn_unvote v c hv
    have hiff : (v = q.videoID ∧ c = c' ∧ 0 < db.voteCount v c) ↔ v = q.videoID ∧ c = c' := by
      refine ⟨fun h ↦ ⟨h.1, h.2.1⟩, ?_⟩
      rintro ⟨rfl, rfl⟩
      exact ⟨rfl, rfl, h.voteCount_pos hv⟩
    rw [DB.drift, DB.drift, voteCount_unvote]
    rw [if_neg (not_resubmits_delete db b q v c)]
    simp only [hiff]
    split_ifs at hvotes ⊢ <;> omega
  · rw [if_neg (not_resubmits_delete db b q v c), add_zero]
  · rw [if_neg (not_resubmits_users db rows v c), add_zero]
    rfl

/-- **One event** keeps the invariant. -/
theorem step (e : VoteEvent) : (e.step db).Consistent where
  totalVotes_eq := DB.TotalsRight.step h.totalVotes_eq e
  votesIn_le v c := by
    have hle := h.votesIn_le v c
    have hdrift := h.drift_step e v c
    unfold DB.drift at hdrift
    split_ifs at hdrift <;> omega

/-- **A whole run** keeps the invariant. -/
theorem runVotes (es : List VoteEvent) : (db.runVotes es).Consistent := by
  induction es generalizing db with
  | nil => exact h
  | cons e es ih => exact ih (h.step e)

end DB.Consistent

/-! ### Drift -/

/-- How often a run resubmits a category of a video. -/
def resubmissions (v : VideoID) (c : Category) : DB → List VoteEvent → ℕ
  | _, [] => 0
  | db, e :: es => (if e.Resubmits db v c then 1 else 0) + resubmissions v c (e.step db) es

/-- **The drift of a run** is the number of its resubmissions. -/
theorem drift_runVotes {db : DB} (h : db.Consistent) (es : List VoteEvent) (v : VideoID)
    (c : Category) : (db.runVotes es).drift v c = db.drift v c + resubmissions v c db es := by
  induction es generalizing db with
  | nil => simp [resubmissions]
  | cons e es ih =>
    rw [runVotes_cons, ih (h.step e), h.drift_step, resubmissions]
    push_cast
    ring

theorem resubmissions_eq_zero_iff {v : VideoID} {c : Category} {db : DB} {es : List VoteEvent} :
    resubmissions v c db es = 0 ↔
      ∀ es₁ e es₂, es = es₁ ++ e :: es₂ → ¬ e.Resubmits (db.runVotes es₁) v c := by
  induction es generalizing db with
  | nil => simp [resubmissions]
  | cons e es ih =>
    rw [resubmissions, Nat.add_eq_zero_iff, ih]
    constructor
    · rintro ⟨he, hes⟩ (_ | ⟨e', es₁⟩) e'' es₂ heq
      · obtain ⟨rfl, rfl⟩ := List.cons_eq_cons.1 heq
        exact fun hr ↦ by simp [show e.Resubmits db v c from hr] at he
      · obtain ⟨rfl, rfl⟩ := List.cons_eq_cons.1 heq
        exact hes es₁ e'' es₂ rfl
    · intro h
      refine ⟨if_neg (h [] e es rfl), fun es₁ e' es₂ heq ↦ ?_⟩
      exact h (e :: es₁) e' es₂ (congrArg _ heq)

/-- **The category counters are right as long as nobody resubmits.** After a run from a database
without votes, every `vote_count` is the number of votes in its category exactly when no submission
of the run was for the category its user had voted for already. -/
theorem voteCount_eq_votesIn_iff (users : Table UserID User) (channels : Table ChannelID Channel)
    (es : List VoteEvent) :
    (∀ v c, ((DB.start users channels).runVotes es).voteCount v c =
        ((DB.start users channels).runVotes es).votesIn v c) ↔
      ∀ es₁ b q es₂, es = es₁ ++ .request (.submit b q) :: es₂ →
        ((DB.start users channels).runVotes es₁).votedCategory q.videoID q.userID ≠
          some q.category := by
  have hdrift : ∀ v c, ((DB.start users channels).runVotes es).voteCount v c =
      ((DB.start users channels).runVotes es).votesIn v c ↔
        resubmissions v c (DB.start users channels) es = 0 := by
    intro v c
    have hrun := drift_runVotes (consistent_start users channels) es v c
    have hzero : (DB.start users channels).drift v c = 0 := rfl
    rw [DB.drift, hzero] at hrun
    omega
  simp only [hdrift, resubmissions_eq_zero_iff]
  constructor
  · intro h es₁ b q es₂ heq hv
    exact h q.videoID q.category es₁ _ es₂ heq ⟨⟨rfl, rfl⟩, hv⟩
  · intro h v c es₁ e es₂ heq hr
    match e, hr with
    | .request (.submit b q), ⟨⟨hv, hc⟩, hsome⟩ =>
      exact h es₁ b q es₂ heq (hc ▸ hsome)

/-- One vote on a video. -/
def oneVote : DB := (DB.start ∅ ∅).runVotes [.request (.submit .go
  { videoID := "v", userID := "a", category := .fullyAI, ipHash := "", userAgent := none,
    now := 0 })]

/-- A user votes for the same category twice. -/
def resubmission : List VoteEvent :=
  let q : VoteRequest :=
    { videoID := "v", userID := "u", category := .fullyAI, ipHash := "", userAgent := none,
      now := 0 }
  [.request (.submit .python q), .request (.submit .go q)]

/-- **A resubmission is counted twice**: one vote, and a counter of two. -/
theorem voteCount_resubmission :
    ¬ ∀ (es : List VoteEvent) v c, ((DB.start ∅ ∅).runVotes es).voteCount v c =
      ((DB.start ∅ ∅).runVotes es).votesIn v c := by
  intro h
  have hcount := h resubmission "v" .fullyAI
  revert hcount
  decide +kernel

end RealTube
