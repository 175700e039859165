import RealTube.Extension.OfflineQueue

/-!
# What one flush does

`flushPendingVotes` of `background/offline-queue.ts` with all that it returns and sends, as a run
that no other call disturbs and whose cache operations succeed. The loop goes through the queue in
the order of the keys: it drops what has expired, and submits the rest up to the first vote that
fails (`runFlush_spec`). The store afterwards is that of the sequential model (`votes_runFlush`).

The first failure is taken for a sign of being offline, also when it is an answer of the server: a
vote that the server rejects keeps those behind it from being sent, at every flush, until it expires
(`accepted_submitted_iff`).
-/

namespace RealTube.Extension

/-- `FLUSH_RETRY_DELAY_MS`. -/
def flushRetryDelay : ℤ := 30000

/-- The votes, and what a flush has done with them. -/
structure FlushReport where
  votes : Votes
  /-- The calls of `api.submitVote`, in order. -/
  submitted : List (VideoID × PendingVote)
  sent : ℕ
  failed : ℕ
  /-- The delay of the retry it has scheduled. -/
  retry : Option ℤ

namespace FlushReport

/-- Nothing is done yet. -/
def start (votes : Votes) : FlushReport := ⟨votes, [], 0, 0, none⟩

/-- `cache.removePendingVote`. -/
def remove (r : FlushReport) (v : VideoID) : FlushReport :=
  { r with votes := r.votes.removePendingVote v }

/-- `api.submitVote`. -/
def submit (r : FlushReport) (x : VideoID × PendingVote) (outcome : Outcome) : FlushReport :=
  { r with
    votes := r.votes.submitVote x.1 x.2.category outcome
    submitted := r.submitted ++ [x] }

/-- The vote is accepted: it is removed and counted. -/
def accept (r : FlushReport) (v : VideoID) : FlushReport :=
  { r with votes := r.votes.removePendingVote v, sent := r.sent + 1 }

/-- The vote fails. -/
def fail (r : FlushReport) : FlushReport := { r with failed := r.failed + 1 }

/-- `scheduleFlush(FLUSH_RETRY_DELAY_MS)`. -/
def schedule (r : FlushReport) : FlushReport := { r with retry := some flushRetryDelay }

end FlushReport

/-- The loop of `flushPendingVotes`. -/
def flushVotes (now : ℤ) (outcome : VideoID → Outcome) :
    List (VideoID × PendingVote) → FlushReport → FlushReport
  | [], r => r
  | x :: todo, r =>
    if Votes.Expired now x.2 then flushVotes now outcome todo (r.remove x.1)
    else if outcome x.1 = .ok then
      flushVotes now outcome todo ((r.submit x (outcome x.1)).accept x.1)
    else (r.submit x (outcome x.1)).fail

/-- `flushPendingVotes`. -/
def runFlush (now : ℤ) (order : Arrangement VideoID) (outcome : VideoID → Outcome) (votes : Votes) :
    FlushReport :=
  match votes.getPendingVotes order with
  | [] => .start votes
  | x :: todo =>
    let r := flushVotes now outcome (x :: todo) (.start votes)
    if 0 < r.failed then r.schedule else r

section Spec

variable (now : ℤ) (outcome : VideoID → Outcome)

/-- The votes that have not expired. -/
def unexpired (pending : List (VideoID × PendingVote)) : List (VideoID × PendingVote) :=
  pending.filter fun x ↦ ¬ Votes.Expired now x.2

/-- The votes before the first that fails. -/
def accepted (pending : List (VideoID × PendingVote)) : List (VideoID × PendingVote) :=
  (unexpired now pending).takeWhile fun x ↦ outcome x.1 = .ok

/-- The first vote that fails, if there is one. -/
def firstFailure (pending : List (VideoID × PendingVote)) : Option (VideoID × PendingVote) :=
  (unexpired now pending).find? fun x ↦ outcome x.1 ≠ .ok

/-- The queue from the first vote that fails on. -/
def leftOver (pending : List (VideoID × PendingVote)) : List (VideoID × PendingVote) :=
  pending.dropWhile fun x ↦ Votes.Expired now x.2 ∨ outcome x.1 = .ok

variable {now outcome} {x : VideoID × PendingVote} {todo : List (VideoID × PendingVote)}
  {r : FlushReport}

/-! ### The queue, vote by vote -/

theorem unexpired_cons_of_expired (h : Votes.Expired now x.2) :
    unexpired now (x :: todo) = unexpired now todo :=
  List.filter_cons_of_neg (by simpa using h)

theorem unexpired_cons (h : ¬ Votes.Expired now x.2) :
    unexpired now (x :: todo) = x :: unexpired now todo :=
  List.filter_cons_of_pos (by simpa using h)

/-- **What the loop counts and sends**: the votes before the first that fails, and that one. -/
theorem flushVotes_spec (todo : List (VideoID × PendingVote)) (r : FlushReport) :
    (flushVotes now outcome todo r).submitted =
        r.submitted ++ accepted now outcome todo ++ (firstFailure now outcome todo).toList ∧
      (flushVotes now outcome todo r).sent = r.sent + (accepted now outcome todo).length ∧
      (flushVotes now outcome todo r).failed =
        r.failed + (firstFailure now outcome todo).toList.length ∧
      (flushVotes now outcome todo r).retry = r.retry := by
  induction todo generalizing r with
  | nil => simp [flushVotes, accepted, firstFailure, unexpired]
  | cons x todo ih =>
    rw [flushVotes, accepted, firstFailure]
    by_cases hexpired : Votes.Expired now x.2
    · rw [if_pos hexpired, unexpired_cons_of_expired hexpired]
      exact ih _
    · rw [if_neg hexpired, unexpired_cons hexpired]
      by_cases hok : outcome x.1 = .ok
      · rw [if_pos hok, List.takeWhile_cons_of_pos (by simpa using hok),
          List.find?_cons_of_neg (by simpa using hok)]
        obtain ⟨hsubmitted, hsent, hfailed, hretry⟩ := ih ((r.submit x (outcome x.1)).accept x.1)
        refine ⟨hsubmitted.trans ?_, hsent.trans ?_, hfailed, hretry⟩
        · simp [FlushReport.accept, FlushReport.submit, accepted, firstFailure]
        · exact Nat.add_right_comm r.sent 1 _
      · -- the first failure
        rw [if_neg hok, List.takeWhile_cons_of_neg (by simpa using hok),
          List.find?_cons_of_pos (by simpa using hok)]
        exact ⟨by simp [FlushReport.fail, FlushReport.submit], rfl, rfl, rfl⟩

/-- The votes are those of the sequential model. -/
theorem votes_flushVotes (todo : List (VideoID × PendingVote)) (r : FlushReport) :
    (flushVotes now outcome todo r).votes = Votes.flushLoop now outcome todo r.votes := by
  induction todo generalizing r with
  | nil => rfl
  | cons x todo ih =>
    rw [flushVotes, Votes.flushLoop]
    split_ifs with hexpired hok
    · exact ih _
    · rw [ih, hok]
      rfl
    · cases houtcome : outcome x.1 with
      | ok => exact absurd houtcome hok
      | failed => rfl
      | lost => rfl

/-- **What the loop takes out of the store**: everything before the first vote that fails. -/
theorem lookup_flushLoop (todo : List (VideoID × PendingVote)) (votes : Votes) (v : VideoID) :
    (Votes.flushLoop now outcome todo votes).pending.lookup v =
      if v ∈ (todo.takeWhile fun x ↦ Votes.Expired now x.2 ∨ outcome x.1 = .ok).map Prod.fst
        then none
      else votes.pending.lookup v := by
  induction todo generalizing votes with
  | nil => rfl
  | cons x todo ih =>
    have herase : ∀ votes' : Votes, votes'.pending = votes.pending →
        ((Votes.flushLoop now outcome todo (votes'.removePendingVote x.1)).pending.lookup v =
          if v ∈ x.1 ::
            (todo.takeWhile fun x ↦ Votes.Expired now x.2 ∨ outcome x.1 = .ok).map Prod.fst
          then none else votes.pending.lookup v) := by
      intro votes' hsame
      rw [ih, Votes.removePendingVote, hsame, Table.lookup_erase]
      simp only [List.mem_cons]
      split_ifs <;> tauto
    rw [Votes.flushLoop]
    by_cases hexpired : Votes.Expired now x.2
    · rw [if_pos hexpired, List.takeWhile_cons_of_pos (by simpa using Or.inl hexpired),
      List.map_cons]
      exact herase votes rfl
    · rw [if_neg hexpired]
      cases houtcome : outcome x.1 with
      | ok =>
        rw [List.takeWhile_cons_of_pos (by simpa using Or.inr houtcome), List.map_cons]
        exact herase _ (Votes.pending_submitVote ..)
      | failed =>
        rw [List.takeWhile_cons_of_neg (by simp [hexpired, houtcome])]
        exact congrArg (Table.lookup · v) (Votes.pending_submitVote ..)
      | lost =>
        rw [List.takeWhile_cons_of_neg (by simp [hexpired, houtcome])]
        exact congrArg (Table.lookup · v) (Votes.pending_submitVote ..)

/-- What is sent is the front of what has not expired. -/
theorem accepted_append_isPrefix (todo : List (VideoID × PendingVote)) :
    accepted now outcome todo ++ (firstFailure now outcome todo).toList <+: unexpired now todo := by
  rw [accepted, firstFailure]
  induction unexpired now todo with
  | nil => exact List.prefix_rfl
  | cons x live ih =>
    by_cases hok : outcome x.1 = .ok
    · rw [List.takeWhile_cons_of_pos (by simpa using hok),
        List.find?_cons_of_neg (by simpa using hok), List.cons_append]
      exact (List.prefix_cons_inj x).2 ih
    · rw [List.takeWhile_cons_of_neg (by simpa using hok),
        List.find?_cons_of_pos (by simpa using hok)]
      exact (List.prefix_cons_inj x).2 List.nil_prefix

end Spec

section Run

variable (now : ℤ) (order : Arrangement VideoID) (outcome : VideoID → Outcome) (votes : Votes)

/-- A flush is its loop, and perhaps a retry. -/
theorem runFlush_eq : runFlush now order outcome votes =
    if firstFailure now outcome (votes.getPendingVotes order) = none then
      flushVotes now outcome (votes.getPendingVotes order) (.start votes)
    else (flushVotes now outcome (votes.getPendingVotes order) (.start votes)).schedule := by
  obtain ⟨-, -, hfailed, -⟩ :=
    @flushVotes_spec now outcome (votes.getPendingVotes order) (.start votes)
  rw [runFlush]
  rcases hpending : votes.getPendingVotes order with - | ⟨x, todo⟩
  · rfl
  · rw [hpending] at hfailed
    simp only [hfailed]
    rcases firstFailure now outcome (x :: todo) with - | y
    · rw [if_neg (by simp [FlushReport.start]), if_pos rfl]
    · rw [if_pos (by simp), if_neg (by simp)]

/-- The votes after a flush are those of the sequential model. -/
theorem votes_runFlush : (runFlush now order outcome votes).votes =
    votes.flushPendingVotes now order outcome := by
  rw [runFlush_eq]
  split_ifs <;> exact votes_flushVotes _ _

/-- **What a flush does**: it submits the votes that have not expired, in order, up to the first
that fails, none of them twice; what it leaves in the store is that vote and all behind it; it
counts the accepted votes and the failure, and schedules a retry if there is one. -/
theorem runFlush_spec :
    (runFlush now order outcome votes).submitted =
      accepted now outcome (votes.getPendingVotes order) ++
        (firstFailure now outcome (votes.getPendingVotes order)).toList ∧
    ((runFlush now order outcome votes).submitted.map Prod.fst).Nodup ∧
    (∀ x ∈ (runFlush now order outcome votes).submitted, ¬ Votes.Expired now x.2) ∧
    (∀ v vote, (runFlush now order outcome votes).votes.pending.lookup v = some vote ↔
      (v, vote) ∈ leftOver now outcome (votes.getPendingVotes order)) ∧
    (runFlush now order outcome votes).sent =
      (accepted now outcome (votes.getPendingVotes order)).length ∧
    (runFlush now order outcome votes).failed =
      (if firstFailure now outcome (votes.getPendingVotes order) = none then 0 else 1) ∧
    (runFlush now order outcome votes).retry =
      (if firstFailure now outcome (votes.getPendingVotes order) = none then none
        else some flushRetryDelay) := by
  obtain ⟨hsubmitted, hsent, hfailed, hretry⟩ :=
    @flushVotes_spec now outcome (votes.getPendingVotes order) (.start votes)
  have hnodup : ((votes.getPendingVotes order).map Prod.fst).Nodup := Table.nodup_keys_rows
  set pending := votes.getPendingVotes order with hpending
  have hsubmitted' : (runFlush now order outcome votes).submitted =
      accepted now outcome pending ++ (firstFailure now outcome pending).toList := by
    rw [runFlush_eq]
    split_ifs <;> exact hsubmitted
  have hinitial := @accepted_append_isPrefix now outcome pending
  refine ⟨hsubmitted', ?_, fun x hx ↦ ?_, fun v vote ↦ ?_, ?_, ?_, ?_⟩
  · rw [hsubmitted']
    exact hnodup.sublist ((hinitial.sublist.trans List.filter_sublist).map _)
  · rw [hsubmitted'] at hx
    simpa using (List.mem_filter.1 (hinitial.subset hx)).2
  · -- the store loses what comes before the first failure
    set done := pending.takeWhile fun x ↦ Votes.Expired now x.2 ∨ outcome x.1 = .ok with hdone
    have hsplit : done ++ leftOver now outcome pending = pending := List.takeWhile_append_dropWhile
    have hstored : votes.pending.lookup v = some vote ↔
        (v, vote) ∈ done ∨ (v, vote) ∈ leftOver now outcome pending := by
      rw [← List.mem_append, hsplit, hpending, Votes.getPendingVotes, Table.mem_rows,
        and_iff_left trivial]
    rw [votes_runFlush, Votes.flushPendingVotes, ← hpending, lookup_flushLoop, ← hdone]
    rw [← hsplit, List.map_append, List.nodup_append] at hnodup
    split_ifs with hmem
    · refine iff_of_false id fun hleft ↦ ?_
      exact hnodup.2.2 v hmem v (List.mem_map_of_mem hleft) rfl
    · rw [hstored, or_iff_right fun hin ↦ hmem (List.mem_map_of_mem hin)]
  · rw [runFlush_eq]
    split_ifs <;> exact hsent.trans (Nat.zero_add _)
  · rw [runFlush_eq]
    split_ifs with hnone
    · exact hfailed.trans (by rw [hnone]; rfl)
    · obtain ⟨y, hy⟩ := Option.ne_none_iff_exists'.1 hnone
      exact hfailed.trans (by rw [hy]; rfl)
  · rw [runFlush_eq]
    split_ifs
    · exact hretry
    · rfl

end Run

/-! ### Votes that the server rejects -/

/-- The network is up, and the server answers some votes with a 4xx. -/
def rejecting (rejected : VideoID → Bool) (v : VideoID) : Outcome :=
  if rejected v then .failed else .ok

/-- Everything good is in the front of a list exactly when nothing good comes behind anything bad.
-/
theorem forall_mem_front_iff {α : Type} {p : α → Bool} {l : List α} (hnodup : l.Nodup) :
    (∀ x ∈ l, p x → x ∈ l.takeWhile p ++ (l.find? (!p ·)).toList) ↔
      l.Pairwise fun x y ↦ ¬ p x → ¬ p y := by
  induction l with
  | nil => simp
  | cons x l ih =>
    rw [List.nodup_cons] at hnodup
    rw [List.forall_mem_cons, List.pairwise_cons, ← ih hnodup.2]
    by_cases hx : p x
    · rw [List.takeWhile_cons_of_pos hx, List.find?_cons_of_neg (by simpa using hx)]
      refine ⟨fun h ↦ ⟨fun _ _ hbad ↦ absurd hx hbad, fun y hy hgood ↦ ?_⟩, fun h ↦
        ⟨fun _ ↦ List.mem_cons_self, fun y hy hgood ↦ List.mem_cons_of_mem _ (h.2 y hy hgood)⟩⟩
      exact (List.mem_cons.1 (h.2 y hy hgood)).resolve_left fun heq ↦ hnodup.1 (heq ▸ hy)
    · rw [List.takeWhile_cons_of_neg hx, List.find?_cons_of_pos (by simpa using hx)]
      refine ⟨fun h ↦ ⟨fun y hy _ hgood ↦ ?_, fun y hy hgood ↦ ?_⟩, fun h ↦
        ⟨fun hgood ↦ absurd hgood hx, fun y hy hgood ↦ absurd hgood (h.1 y hy hx)⟩⟩
      · exact hnodup.1 (List.mem_singleton.1 (h.2 y hy hgood) ▸ hy)
      · exact absurd (List.mem_singleton.1 (h.2 y hy hgood)) fun heq ↦ hnodup.1 (heq ▸ hy)

/-- **Every vote that the server accepts is submitted** exactly when no such vote is queued behind
one that has not expired and is rejected. -/
theorem accepted_submitted_iff (now : ℤ) (order : Arrangement VideoID) (rejected : VideoID → Bool)
    (votes : Votes) :
    (∀ x ∈ votes.getPendingVotes order, ¬ Votes.Expired now x.2 → ¬ rejected x.1 →
      x ∈ (runFlush now order (rejecting rejected) votes).submitted) ↔
    (votes.getPendingVotes order).Pairwise fun x y ↦ ¬ Votes.Expired now x.2 → rejected x.1 →
      ¬ Votes.Expired now y.2 → rejected y.1 := by
  set pending := votes.getPendingVotes order with hpending
  have hgood : ∀ v, decide (rejecting rejected v = .ok) = !rejected v := fun v ↦ by
    cases h : rejected v <;> simp [rejecting, h]
  have hlive : ∀ x, x ∈ unexpired now pending ↔ x ∈ pending ∧ ¬ Votes.Expired now x.2 := fun x ↦ by
    rw [unexpired, List.mem_filter, decide_eq_true_iff]
  have hkeys : (pending.map Prod.fst).Nodup := Table.nodup_keys_rows
  have hnodup : (unexpired now pending).Nodup := hkeys.of_map.filter _
  have hfront := forall_mem_front_iff (p := fun x ↦ !rejected x.1) hnodup
  simp only [Bool.not_not, hlive, and_imp, Bool.not_eq_true', Bool.not_eq_false] at hfront
  rw [(runFlush_spec now order (rejecting rejected) votes).1, ← hpending, accepted, firstFailure]
  simp only [ne_eq, decide_not, hgood, Bool.not_not, Bool.not_eq_true]
  rw [hfront, unexpired, List.pairwise_filter]
  simp only [decide_eq_true_eq]
  exact ⟨fun h ↦ h.imp fun hxy hx hbad hy ↦ hxy hx hy hbad,
    fun h ↦ h.imp fun hxy hx hy hbad ↦ hxy hx hbad hy⟩

/-- Two votes are queued; the first of them is rejected. -/
def rejectedFirst : Votes where
  pending := (Table.insert ∅ "a" ⟨"fully_ai", 0⟩).insert "b" ⟨"fully_ai", 0⟩
  server _ := none

/-- **The second vote is not sent.** -/
theorem not_accepted_submitted : ¬ ∀ (now : ℤ) (rejected : VideoID → Bool) (votes : Votes),
    ∀ x ∈ votes.getPendingVotes (.ascending VideoID), ¬ Votes.Expired now x.2 → ¬ rejected x.1 →
      x ∈ (runFlush now (.ascending VideoID) (rejecting rejected) votes).submitted := by
  intro h
  have hsent := h 0 (· = "a") rejectedFirst ("b", ⟨"fully_ai", 0⟩) (by decide +kernel)
    (by decide +kernel) (by decide +kernel)
  revert hsent
  decide +kernel

end RealTube.Extension
