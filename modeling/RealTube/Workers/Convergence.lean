import RealTube.Workers.Freshness

/-!
# Scores converge

When the workers have nothing left to do, the scores are those of the votes. A worker **owes** a
video when it has the id still to take up, or has a recalculation of it open that has seen the votes
as they are. The invariant (`Workers.Inv`) has two parts:

* a video whose score is wrong is owed by some worker;
* a worker whose open recalculation has missed a vote owes the video anyway, because the vote has
  put the id in its own queue. So a stale recalculation may overwrite a right score, but not for
  good.
-/

open Tx

namespace RealTube

/-! ### Databases with the same votes -/

theorem DB.SameVotes.of_sameCounters {db db' : DB} (h : db.SameCounters db') (v : VideoID) :
    db.SameVotes v db' := fun u ↦ by rw [h.votes]

theorem Job.Fresh.of_sameVotes {job : Job} {db db' : DB} (h : job.Fresh db)
    (hsame : db.SameVotes job.request.videoID db') : job.Fresh db' :=
  fun s hs u ↦ (h s hs u).trans (hsame u)

/-- A right score stays right while neither the video nor its votes change. -/
theorem DB.ScoreRight.of_same {db db' : DB} {v : VideoID} (h : db.ScoreRight v)
    (hvotes : db.SameVotes v db') (hvideo : db.videos.lookup v = db'.videos.lookup v) :
    db'.ScoreRight v := by
  obtain ⟨row, hrow, hscore⟩ := h
  exact ⟨row, hvideo ▸ hrow, hvotes.videoScore_eq ▸ hscore⟩

/-! ### The invariant -/

/-- The worker has the video still to take up. -/
def ScoreWorker.Waiting (w : ScoreWorker) (v : VideoID) : Prop :=
  v ∈ w.inbox ∨ v ∈ w.pending ∨ v ∈ w.batch

/-- The worker is going to write the score of the votes as they are. -/
def ScoreWorker.Owes (w : ScoreWorker) (db : DB) (v : VideoID) : Prop :=
  w.Waiting v ∨ ∃ job, w.job = some job ∧ job.request.videoID = v ∧ job.Fresh db

/-- The invariant of one worker. -/
structure ScoreWorker.Ok (w : ScoreWorker) (db : DB) : Prop where
  named : "" ∉ w.inbox
  sound : ∀ job, w.job = some job → job.Sound db
  owes : ∀ job, w.job = some job → w.Owes db job.request.videoID

theorem ScoreWorker.Owes.of_sameVotes {w : ScoreWorker} {db db' : DB} {v : VideoID}
    (h : w.Owes db v) (hsame : db.SameVotes v db') : w.Owes db' v := by
  rcases h with h | ⟨job, hjob, rfl, hfresh⟩
  · exact Or.inl h
  · exact Or.inr ⟨job, hjob, rfl, hfresh.of_sameVotes hsame⟩

theorem ScoreWorker.Owes.notify {w : ScoreWorker} {db : DB} {v : VideoID} (h : w.Owes db v)
    (ids : List VideoID) : (w.notify ids).Owes db v :=
  h.imp_left fun h ↦ h.imp_left (List.mem_append_left ids)

/-- A notification is owed. -/
theorem ScoreWorker.owes_notify {w : ScoreWorker} {ids : List VideoID} {v : VideoID} (hv : v ∈ ids)
    (db : DB) : (w.notify ids).Owes db v :=
  Or.inl (Or.inl (List.mem_append_right _ hv))

/-- What a worker holds, it holds through its open recalculation. -/
theorem ScoreWorker.mem_held_iff {w : ScoreWorker} {r : Row} :
    r ∈ w.held ↔ ∃ job, w.job = some job ∧ r ∈ job.held := by
  rw [ScoreWorker.held]
  cases hjob : w.job with
  | none => simp
  | some job => simp

namespace Workers

variable {ι κ : Type} {sys sys' : Workers ι κ}

/-- **The invariant.** -/
structure Inv (sys : Workers ι κ) : Prop where
  consistent : sys.db.Consistent
  ok : ∀ i, (sys.worker i).Ok sys.db
  disjoint : ∀ i j, i ≠ j → ∀ r ∈ (sys.worker i).held, r ∉ (sys.worker j).held
  ticker : ∀ k, (sys.ticker k).Makes Write.Preliminary
  right : ∀ v, 0 < sys.db.votesOn v → sys.db.ScoreRight v ∨ ∃ i, (sys.worker i).Owes sys.db v

theorem inv_init {db : DB} (backend : ι → Backend) (hcons : db.Consistent)
    (hright : ∀ v, 0 < db.votesOn v → db.ScoreRight v) : (init db backend : Workers ι κ).Inv where
  consistent := hcons
  ok _ := ⟨List.not_mem_nil, (fun _ hjob ↦ nomatch hjob), (fun _ hjob ↦ nomatch hjob)⟩
  disjoint _ _ _ _ hr := absurd hr List.not_mem_nil
  ticker _ := trivial
  right v hv := Or.inl (hright v hv)

/-- A commit that is announced to every worker, and leaves the rows they hold alone, keeps the
invariant. -/
theorem Inv.write [Nonempty ι] (h : sys.Inv) {db : DB} {ids : List VideoID} (hcons : db.Consistent)
    (hheld : ∀ i, ∀ r ∈ (sys.worker i).held, sys.db.Same db r) (hnamed : "" ∉ ids)
    (hvideo : ∀ v ∉ ids, sys.db.SameVotes v db ∧
      (0 < sys.db.votesOn v → sys.db.videos.lookup v = db.videos.lookup v)) :
    Inv { sys with db := db, worker := fun i ↦ (sys.worker i).notify ids } where
  consistent := hcons
  ok i := by
    refine ⟨fun hmem ↦ (List.mem_append.1 hmem).elim (h.ok i).named hnamed, fun job hjob ↦ ?_,
      fun job hjob ↦ ?_⟩
    · exact ((h.ok i).sound job hjob).of_same fun r hr ↦
        hheld i r (ScoreWorker.mem_held_iff.2 ⟨job, hjob, hr⟩)
    · by_cases hv : job.request.videoID ∈ ids
      · exact ScoreWorker.owes_notify hv db
      · exact (((h.ok i).owes job hjob).of_sameVotes (hvideo _ hv).1).notify ids
  disjoint := h.disjoint
  ticker := h.ticker
  right v hpos := by
    by_cases hv : v ∈ ids
    · exact Or.inr ⟨Classical.arbitrary ι, ScoreWorker.owes_notify hv db⟩
    · obtain ⟨hvotes, hlookup⟩ := hvideo v hv
      have hpos' : 0 < sys.db.votesOn v := hvotes.votesOn_eq ▸ hpos
      exact (h.right v hpos').imp (fun hright ↦ hright.of_same hvotes (hlookup hpos'))
        fun ⟨i, howes⟩ ↦ ⟨i, (howes.of_sameVotes hvotes).notify ids⟩

variable [DecidableEq ι]

theorem setWorker_worker (i j : ι) (w : ScoreWorker) :
    (sys.setWorker i w).worker j = if j = i then w else sys.worker j :=
  Function.update_apply ..

/-- A step of one worker that keeps what it owes, and takes only rows that are free, keeps the
invariant. -/
theorem Inv.setWorker (h : sys.Inv) {i : ι} {w : ScoreWorker} (hok : w.Ok sys.db)
    (hheld : ∀ r ∈ w.held, r ∈ (sys.worker i).held ∨ ∀ j ≠ i, r ∉ (sys.worker j).held)
    (howes : ∀ v, (sys.worker i).Owes sys.db v → w.Owes sys.db v) : (sys.setWorker i w).Inv where
  consistent := h.consistent
  ok j := by
    rw [setWorker_worker]
    split_ifs
    · exact hok
    · exact h.ok j
  disjoint j k hjk r hr hr' := by
    rw [setWorker_worker] at hr hr'
    by_cases hj : j = i <;> by_cases hk : k = i
    · exact hjk (hj.trans hk.symm)
    · rw [if_pos hj] at hr
      rw [if_neg hk] at hr'
      exact (hheld r hr).elim (fun hmem ↦ h.disjoint i k (Ne.symm hk) r hmem hr') fun hfree ↦
        hfree k hk hr'
    · rw [if_neg hj] at hr
      rw [if_pos hk] at hr'
      exact (hheld r hr').elim (h.disjoint j i hj r hr) fun hfree ↦ hfree j hj hr
    · rw [if_neg hj] at hr
      rw [if_neg hk] at hr'
      exact h.disjoint j k hjk r hr hr'
  ticker := h.ticker
  right v hpos := by
    refine (h.right v hpos).imp_right fun ⟨j, hj⟩ ↦ ⟨j, ?_⟩
    rw [setWorker_worker]
    split_ifs with hji
    · exact howes v (hji ▸ hj)
    · exact hj

/-! ### Steps of a worker -/

/-- A worker receives a notification. -/
theorem Inv.receive (h : sys.Inv) {i : ι} {w : ScoreWorker}
    (hw : (sys.worker i).receive = some w) : (sys.setWorker i w).Inv := by
  have hok := h.ok i
  rw [ScoreWorker.receive] at hw
  split at hw
  · cases hw
  · rename_i videoID inbox hinbox
    obtain ⟨hne, hnamed⟩ : videoID ≠ "" ∧ "" ∉ inbox := by
      have hnamed := hok.named
      rw [hinbox, List.mem_cons, not_or] at hnamed
      exact ⟨Ne.symm hnamed.1, hnamed.2⟩
    rw [if_neg hne] at hw
    cases hw
    have howes : ∀ v, (sys.worker i).Owes sys.db v → ScoreWorker.Owes { sys.worker i with
        inbox := inbox, pending := insert videoID (sys.worker i).pending } sys.db v := by
      refine fun v hv ↦ hv.imp_left ?_
      rintro (hmem | hmem | hmem)
      · rw [hinbox] at hmem
        exact (List.mem_cons.1 hmem).elim (
          fun hv ↦ Or.inr (Or.inl (Finset.mem_insert.2 (Or.inl hv))))
          Or.inl
      · exact Or.inr (Or.inl (Finset.mem_insert_of_mem hmem))
      · exact Or.inr (Or.inr hmem)
    exact h.setWorker ⟨hnamed, hok.sound, fun job hjob ↦ howes _ (hok.owes job hjob)⟩
      (fun r hr ↦ Or.inl hr) howes

/-- A worker swaps its pending set. -/
theorem Inv.flush (h : sys.Inv) {i : ι} {w : ScoreWorker} (hw : (sys.worker i).flush = some w) :
    (sys.setWorker i w).Inv := by
  have hok := h.ok i
  rw [ScoreWorker.flush] at hw
  split_ifs at hw with hidle
  obtain ⟨hbatch, hjob⟩ := hidle
  cases hw
  have howes : ∀ v, (sys.worker i).Owes sys.db v → ScoreWorker.Owes { sys.worker i with
      batch := (sys.worker i).pending, pending := ∅ } sys.db v := by
    refine fun v hv ↦ hv.imp_left ?_
    rintro (hmem | hmem | hmem)
    · exact Or.inl hmem
    · exact Or.inr (Or.inr hmem)
    · rw [hbatch] at hmem
      exact absurd hmem (Finset.notMem_empty v)
  exact h.setWorker ⟨hok.named, hok.sound, fun job hjob ↦ howes _ (hok.owes job hjob)⟩
    (fun r hr ↦ Or.inl hr) howes

/-- A worker begins a recalculation, which has seen nothing yet. -/
theorem Inv.recalculate (h : sys.Inv) {i : ι} {q : RecalculateRequest} {w : ScoreWorker}
    (hw : (sys.worker i).recalculate q = some w) : (sys.setWorker i w).Inv := by
  have hok := h.ok i
  rw [ScoreWorker.recalculate] at hw
  split_ifs at hw with hbegin
  obtain ⟨hbatch, hjob⟩ := hbegin
  cases hw
  have hfresh : Job.Fresh ⟨(sys.worker i).backend, q, []⟩ sys.db :=
    fun s hs ↦ absurd hs List.not_mem_nil
  refine h.setWorker ⟨hok.named, fun job hjob ↦ ?_, fun job hjob ↦ ?_⟩ (fun r hr ↦ ?_) fun v hv ↦ ?_
  · exact Option.some.inj hjob ▸ Job.sound_begin ..
  · exact Or.inr ⟨job, hjob, rfl, Option.some.inj hjob ▸ hfresh⟩
  · obtain ⟨job, hjob, hr⟩ := ScoreWorker.mem_held_iff.1 hr
    cases hjob
    rw [Job.held, Job.log, log_nil] at hr
    exact absurd hr List.not_mem_nil
  · by_cases hvideo : q.videoID = v
    · exact Or.inr ⟨_, rfl, hvideo, hfresh⟩
    · rcases hv with (hmem | hmem | hmem) | ⟨job, hjob', -⟩
      · exact Or.inl (Or.inl hmem)
      · exact Or.inl (Or.inr (Or.inl hmem))
      · exact Or.inl (Or.inr (Or.inr (Finset.mem_erase.2 ⟨Ne.symm hvideo, hmem⟩)))
      · rw [hjob'] at hjob
        cases hjob

/-- A recalculation executes a statement, on rows that are free. It still sees the votes as they
are. -/
theorem Inv.statement (h : sys.Inv) {i : ι} {job : Job} (hjob : (sys.worker i).job = some job)
    {w : DB → List Write} {k : DB → Tx DB Write (Except VoteError (Option ℚ))}
    (hrest : job.rest = stmt w k) (hfree : sys.Free {i} (w (job.view sys.db))) :
    (sys.setWorker i { sys.worker i with
      job := some { job with views := job.views ++ [job.view sys.db] } }).Inv := by
  have hok := h.ok i
  have hsound := hok.sound job hjob
  have howes : ∀ v, (sys.worker i).Owes sys.db v → ScoreWorker.Owes { sys.worker i with
      job := some { job with views := job.views ++ [job.view sys.db] } } sys.db v := by
    rintro v (hv | ⟨job', hjob', rfl, hfresh⟩)
    · exact Or.inl hv
    · cases hjob.symm.trans hjob'
      refine Or.inr ⟨_, rfl, rfl, fun s hs ↦ ?_⟩
      rcases List.mem_append.1 hs with hs | hs
      · exact hfresh s hs
      · rw [List.mem_singleton.1 hs]
        exact hsound.sameVotes _
  refine h.setWorker ⟨hok.named, fun job' hjob' ↦ ?_, fun job' hjob' ↦ ?_⟩ (fun r hr ↦ ?_) howes
  · exact Option.some.inj hjob' ▸ hsound.statement h.consistent hrest
  · exact Option.some.inj hjob' ▸ howes _ (hok.owes job hjob)
  · obtain ⟨job', hjob', hr⟩ := ScoreWorker.mem_held_iff.1 hr
    cases hjob'
    have hlog : Job.log { job with views := job.views ++ [job.view sys.db] } =
        job.log ++ w (job.view sys.db) := by
      rw [Job.log, log_append]
      change job.log ++ job.rest.log [job.view sys.db] = _
      rw [hrest, log_stmt_cons, log_nil, List.append_nil]
    rw [Job.held, hlog, RowStore.rows_append, List.mem_append] at hr
    refine hr.imp (fun hr ↦ ScoreWorker.mem_held_iff.2 ⟨job, hjob, hr⟩) fun hr j hj ↦ ?_
    exact hfree j (fun hji ↦ hj (Finset.mem_singleton.1 hji)) r hr

section Commit

variable (h : sys.Inv) {i : ι} {job : Job} (hjob : (sys.worker i).job = some job)
include h hjob

omit [DecidableEq ι] in
/-- What a commit writes is not held by the other workers. -/
theorem Inv.same_held {j : ι} (hj : j ≠ i) {r : Row} (hr : r ∈ (sys.worker j).held) :
    sys.db.Same (job.view sys.db) r :=
  RowStore.same_applyAll_of_notMem (W := Write) sys.db fun hmem ↦
    h.disjoint i j (Ne.symm hj) r (ScoreWorker.mem_held_iff.2 ⟨job, hjob, hmem⟩) hr

/-- The other videos are owed by the same workers after a commit. -/
theorem Inv.owes_commit {j : ι} {v : VideoID} (hv : v ≠ job.request.videoID)
    (howes : (sys.worker j).Owes sys.db v) :
    ((sys.setWorker i { sys.worker i with job := none }).worker j).Owes (job.view sys.db) v := by
  rw [setWorker_worker]
  split_ifs with hj
  · subst hj
    rcases howes with hwait | ⟨job', hjob', hv', -⟩
    · exact Or.inl hwait
    · cases hjob.symm.trans hjob'
      exact absurd hv'.symm hv
  · exact howes.of_sameVotes (DB.SameVotes.of_sameCounters ((h.ok i).sound job hjob).counters v)

end Commit

/-- **A recalculation commits.** Either it has seen the votes as they are, and the score is right,
or its worker has the video still to take up. -/
theorem Inv.commit (h : sys.Inv) {i : ι} {job : Job} (hjob : (sys.worker i).job = some job)
    {x : Except VoteError (Option ℚ)} (hrest : job.rest = ret x) :
    Inv { sys.setWorker i { sys.worker i with job := none } with db := job.view sys.db } := by
  have hsound := (h.ok i).sound job hjob
  have hvotes := DB.SameVotes.of_sameCounters hsound.counters
  have hworker : ∀ j, j ≠ i → (sys.setWorker i { sys.worker i with job := none }).worker j =
      sys.worker j := fun j hj ↦ by rw [setWorker_worker, if_neg hj]
  have hself : (sys.setWorker i { sys.worker i with job := none }).worker i =
      { sys.worker i with job := none } := by rw [setWorker_worker, if_pos rfl]
  refine ⟨h.consistent.of_sameCounters hsound.counters, fun j ↦ ?_, fun j k hjk r hr hr' ↦ ?_,
    h.ticker, fun v hpos ↦ ?_⟩
  · by_cases hj : j = i
    · subst hj
      change ScoreWorker.Ok ((sys.setWorker j _).worker j) _
      rw [hself]
      exact ⟨(h.ok j).named, (fun _ hnone ↦ nomatch hnone), (fun _ hnone ↦ nomatch hnone)⟩
    · change ScoreWorker.Ok ((sys.setWorker i _).worker j) _
      rw [hworker j hj]
      refine ⟨(h.ok j).named, fun job' hjob' ↦ ?_, fun job' hjob' ↦ ?_⟩
      · exact ((h.ok j).sound job' hjob').of_same fun r hr ↦
          h.same_held hjob hj (ScoreWorker.mem_held_iff.2 ⟨job', hjob', hr⟩)
      · exact ((h.ok j).owes job' hjob').of_sameVotes (hvotes _)
  · change r ∈ ((sys.setWorker i _).worker j).held at hr
    change r ∈ ((sys.setWorker i _).worker k).held at hr'
    have hnone : ScoreWorker.held { sys.worker i with job := none } = [] := rfl
    by_cases hj : j = i
    · rw [hj, hself, hnone] at hr
      exact List.not_mem_nil hr
    · by_cases hk : k = i
      · rw [hk, hself, hnone] at hr'
        exact List.not_mem_nil hr'
      · rw [hworker j hj] at hr
        rw [hworker k hk] at hr'
        exact h.disjoint j k hjk r hr hr'
  · have hpos' : 0 < sys.db.votesOn v := (hvotes v).votesOn_eq ▸ hpos
    by_cases hv : v = job.request.videoID
    · subst hv
      rcases (h.ok i).owes job hjob with hwait | ⟨job', hjob', -, hfresh⟩
      · refine Or.inr ⟨i, ?_⟩
        change ScoreWorker.Owes ((sys.setWorker i _).worker i) _ _
        rw [hself]
        exact Or.inl hwait
      · cases hjob.symm.trans hjob'
        exact Or.inl (hfresh.scoreRight hsound hpos' hrest)
    · refine (h.right v hpos').imp (fun hright ↦ hright.of_same (hvotes v) ?_)
        fun ⟨j, hj⟩ ↦ ⟨j, h.owes_commit hjob hv hj⟩
      exact RowStore.same_applyAll_of_notMem (W := Write) (r := Row.video v) sys.db
        fun hr ↦ hv (owns_of_mem_held hr)

/-! ### Steps of the database -/

omit [DecidableEq ι] in
/-- Rows that are free stay as they are for those who hold others. -/
theorem same_of_free {ws : List Write} (hfree : sys.Free ∅ ws) (i : ι) {r : Row}
    (hr : r ∈ (sys.worker i).held) : sys.db.Same (RowStore.applyAll sys.db ws) r :=
  RowStore.same_applyAll_of_notMem (W := Write) sys.db fun hmem ↦
    hfree i (Finset.notMem_empty i) r hmem hr

omit [DecidableEq ι] in
/-- **A vote request is served.** -/
theorem Inv.vote [Nonempty ι] (h : sys.Inv) {call : VoteCall} (hnamed : call.videoID ≠ "")
    (hfree : sys.Free ∅ (call.code.writes sys.db)) :
    Inv { sys with db := (call.code.runTx sys.db).2, worker := fun i ↦
      (sys.worker i).notify (call.notifications sys.db) } := by
  have hcons : (call.code.runTx sys.db).2.Consistent := h.consistent.step (.request call)
  -- it commits what it writes, or nothing
  have hdb : (call.code.runTx sys.db).2 =
      if (call.code.run sys.db).1.isOk then RowStore.applyAll sys.db (call.code.writes sys.db)
      else sys.db := by
    rw [runTx, ← run_snd]
    cases hrun : call.code.run sys.db with
    | mk answer db => cases answer <;> rfl
  have hsame : ∀ r, r ∉ (RowStore.rows (call.code.writes sys.db) : List Row) →
      sys.db.Same (call.code.runTx sys.db).2 r := fun _ hr ↦ same_runTx call.code sys.db hr
  refine h.write hcons (fun i r hr ↦ hsame r fun hmem ↦ hfree i (Finset.notMem_empty i) r hmem hr)
    ?_ fun v hv ↦ ?_ <;> rw [notifications_eq] at *
  · split_ifs
    · exact fun hmem ↦ hnamed (List.mem_singleton.1 hmem).symm
    · exact List.not_mem_nil
  · split_ifs at hv hdb
    · -- a vote on another video
      have howns : ∀ r ∈ (RowStore.rows (call.code.writes sys.db) : List Row), call.Owns r :=
        (within_code call).writes sys.db
      have hne : v ≠ call.videoID := fun heq ↦ hv (List.mem_singleton.2 heq)
      exact ⟨fun u ↦ hsame (.vote v u) fun hr ↦ hne (howns _ hr).1,
        fun _ ↦ hsame (.video v) fun hr ↦ hne (howns _ hr)⟩
    · rw [hdb]
      exact ⟨fun _ ↦ rfl, fun _ ↦ rfl⟩

omit [DecidableEq ι] in
/-- A commit that nobody is told about. -/
theorem Inv.writeSilently [Nonempty ι] (h : sys.Inv) {db : DB} (hcons : db.Consistent)
    (hheld : ∀ i, ∀ r ∈ (sys.worker i).held, sys.db.Same db r)
    (hvideo : ∀ v, sys.db.SameVotes v db ∧
      (0 < sys.db.votesOn v → sys.db.videos.lookup v = db.videos.lookup v)) :
    Inv { sys with db := db } := by
  have hnotify : ∀ i, (sys.worker i).notify [] = sys.worker i := fun i ↦ by
    rw [ScoreWorker.notify, List.append_nil]
  have hwrite := h.write hcons hheld List.not_mem_nil fun v _ ↦ hvideo v
  simpa only [hnotify] using hwrite

omit [DecidableEq ι] in
/-- Somebody changes the users. -/
theorem Inv.users [Nonempty ι] (h : sys.Inv) (rows : Table UserID User) :
    Inv { sys with db := { sys.db with users := rows } } := by
  refine h.writeSilently (h.consistent.step (.users rows)) (fun i r hr ↦ ?_)
    fun v ↦ ⟨fun _ ↦ rfl, fun _ ↦ rfl⟩
  obtain ⟨job, -, hr⟩ := ScoreWorker.mem_held_iff.1 hr
  have howns := owns_of_mem_held hr
  cases r with
  | video v => rfl
  | videoCategory v c => rfl
  | _ => exact howns.elim

omit [DecidableEq ι] in
/-- **A channel worker executes a statement.** It leaves the videos with votes alone. -/
theorem Inv.channelStatement [Nonempty ι] [DecidableEq κ] (h : sys.Inv) {k : κ}
    {w : DB → List Write} {next : DB → Tx DB Write (Bool × ℕ)}
    (hticker : sys.ticker k = stmt w next)
    (hfree : sys.Free ∅ (w sys.db)) :
    Inv { sys with
      db := RowStore.applyAll sys.db (w sys.db)
      ticker := Function.update sys.ticker k (next sys.db) } := by
  have hmakes := h.ticker k
  rw [hticker] at hmakes
  have hcounters : sys.db.SameCounters (RowStore.applyAll sys.db (w sys.db)) :=
    DB.sameCounters_applyAll fun x hx ↦ ((hmakes sys.db).1 x hx).keepsCounters
  have hinv : Inv { sys with db := RowStore.applyAll sys.db (w sys.db) } := by
    refine h.writeSilently (h.consistent.of_sameCounters hcounters)
      (fun i r hr ↦ same_of_free hfree i hr) fun v ↦ ⟨.of_sameCounters hcounters v, fun hpos ↦ ?_⟩
    refine RowStore.same_applyAll_of_notMem (W := Write) (r := Row.video v) sys.db fun hr ↦ ?_
    obtain ⟨x, hx, hrow⟩ := RowStore.mem_rows.1 hr
    have hpre := (hmakes sys.db).1 x hx
    cases x with
    | video v' row =>
      cases Option.some.inj hrow
      obtain ⟨old, hold, -, hzero⟩ := hpre
      have htotal := h.consistent.totalVotes_eq v
      rw [DB.totalVotes, hold, Option.elim_some, hzero] at htotal
      omega
    | _ => cases hrow
  refine ⟨hinv.consistent, hinv.ok, hinv.disjoint, fun k' ↦ ?_, hinv.right⟩
  change Makes _ (Function.update sys.ticker k (next sys.db) k')
  rw [Function.update_apply]
  split_ifs
  · exact (hmakes sys.db).2
  · exact h.ticker k'

/-! ### Runs -/

variable [Fintype ι] [DecidableEq κ]

/-- **Every step keeps the invariant.** -/
theorem Inv.step [Nonempty ι] (h : sys.Inv) {e : WorkerEvent ι κ} (hs : sys.step e = some sys') :
    sys'.Inv := by
  cases e with
  | vote call =>
    rw [Workers.step] at hs
    split_ifs at hs with hvote
    exact Option.some.inj hs ▸ h.vote hvote.1 hvote.2
  | users rows => exact Option.some.inj hs ▸ h.users rows
  | receive i =>
    obtain ⟨w, hw, rfl⟩ := Option.map_eq_some_iff.1 hs
    exact h.receive hw
  | flush i =>
    obtain ⟨w, hw, rfl⟩ := Option.map_eq_some_iff.1 hs
    exact h.flush hw
  | recalculate i q =>
    obtain ⟨w, hw, rfl⟩ := Option.map_eq_some_iff.1 hs
    exact h.recalculate hw
  | statement i =>
    obtain ⟨job, hjob, hs⟩ := Option.bind_eq_some_iff.1 hs
    cases hrest : job.rest with
    | ret x =>
      rw [hrest] at hs
      cases hs
    | stmt w k =>
      rw [hrest] at hs
      dsimp only at hs
      split_ifs at hs with hfree
      exact Option.some.inj hs ▸ h.statement hjob hrest hfree
  | commit i =>
    obtain ⟨job, hjob, hs⟩ := Option.bind_eq_some_iff.1 hs
    cases hrest : job.rest with
    | ret x =>
      rw [hrest] at hs
      exact Option.some.inj hs ▸ h.commit hjob hrest
    | stmt w k =>
      rw [hrest] at hs
      cases hs
  | channel k b q =>
    cases hs
    refine ⟨h.consistent, h.ok, h.disjoint, fun k' ↦ ?_, h.right⟩
    change Makes _ (Function.update sys.ticker k _ k')
    rw [Function.update_apply]
    split_ifs
    · exact makes_recalculateChannel b q
    · exact h.ticker k'
  | channelStatement k =>
    rw [Workers.step] at hs
    cases hticker : sys.ticker k with
    | ret x =>
      rw [hticker] at hs
      cases hs
    | stmt w next =>
      rw [hticker] at hs
      dsimp only at hs
      split_ifs at hs with hfree
      exact Option.some.inj hs ▸ h.channelStatement hticker hfree

/-- **Every run keeps the invariant.** -/
theorem Inv.run [Nonempty ι] (h : sys.Inv) {es : List (WorkerEvent ι κ)}
    (hs : sys.run es = some sys') : sys'.Inv := by
  induction es generalizing sys with
  | nil => exact Option.some.inj hs ▸ h
  | cons e es ih =>
    obtain ⟨mid, hmid, hrest⟩ := Option.bind_eq_some_iff.1 hs
    exact ih (h.step hmid) hrest

end Workers

/-- **Scores converge.** Let one or more connected workers run beside votes and channel workers,
from a consistent database in which the scores of the videos with votes are right. Whenever no
notification is undelivered, nothing is pending and no batch is being processed, the score of every
video with a vote is that of its current votes. -/
theorem scoreRight_of_quiescent {ι κ : Type} [DecidableEq ι] [Fintype ι] [Nonempty ι]
    [DecidableEq κ] {db : DB} {backend : ι → Backend} {es : List (WorkerEvent ι κ)}
    {sys : Workers ι κ} (hcons : db.Consistent) (hright : ∀ v, 0 < db.votesOn v → db.ScoreRight v)
    (hrun : (Workers.init db backend).run es = some sys) (hquiet : sys.Quiescent) (v : VideoID)
    (hv : 0 < sys.db.votesOn v) : sys.db.ScoreRight v := by
  rcases ((Workers.inv_init backend hcons hright).run hrun).right v hv with h | ⟨i, howes⟩
  · exact h
  · exfalso
    obtain ⟨hinbox, hpending, hbatch, hjob⟩ := hquiet i
    rcases howes with (hmem | hmem | hmem) | ⟨job, hsome, -⟩
    · rw [hinbox] at hmem
      exact List.not_mem_nil hmem
    · rw [hpending] at hmem
      exact Finset.notMem_empty v hmem
    · rw [hbatch] at hmem
      exact Finset.notMem_empty v hmem
    · rw [hsome] at hjob
      cases hjob

instance {ι κ : Type} [Fintype ι] (sys : Workers ι κ) : Decidable sys.Quiescent :=
  inferInstanceAs (Decidable (∀ _, _ ∧ _ ∧ _ ∧ _))

/-- A vote on the video. -/
def voteBy (u : UserID) : WorkerEvent (Fin 2) (Fin 1) := .vote (.submit .go
  { videoID := "v", userID := u, category := .fullyAI, ipHash := "", userAgent := none, now := 0 })

/-- The recalculation of a batch. -/
def recalculateBatch (i : Fin 2) : List (WorkerEvent (Fin 2) (Fin 1)) :=
  [.recalculate i recalculateNow, .statement i, .statement i, .statement i, .statement i, .commit i]

/-- A worker of each backend, and a second vote between the two reads of a recalculation. -/
theorem run_voteDuringRecalculation : ((Workers.init (DB.start ∅ ∅)
    fun i ↦ if i = 0 then .go else .python).run
    ([voteBy "a", .receive 0, .receive 1, .flush 0, .flush 1, .recalculate 0 recalculateNow,
      .statement 0, voteBy "b", .statement 0, .statement 0, .statement 0, .commit 0] ++
    recalculateBatch 1 ++ [.receive 0, .receive 1, .flush 0, .flush 1] ++
    recalculateBatch 0 ++ recalculateBatch 1)).isSome := by
  decide +kernel

/-- The workers have caught up with the second vote. -/
theorem scoreRight_voteDuringRecalculation :
    (Option.get _ run_voteDuringRecalculation).db.ScoreRight "v" :=
  scoreRight_of_quiescent (consistent_start ∅ ∅) (fun _ hv ↦ absurd hv (lt_irrefl 0))
    (Option.some_get run_voteDuringRecalculation).symm (by decide +kernel) "v" (by decide +kernel)

end RealTube
