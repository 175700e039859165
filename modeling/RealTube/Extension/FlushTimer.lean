import RealTube.Extension.Flush
import RealTube.Extension.FlushRun

/-!
# The timer of the offline queue

`scheduleFlush` and `startOfflineQueueListener` of `background/offline-queue.ts`, around the calls
of `Extension.Flush`, in a browser that is online all the time. There is one timer: it is set by
every call of `enqueueVote`, by every flush that fails, and at startup. When it fires, it calls
`flushPendingVotes`; the call returns at once if a flush is in progress.

A queued vote should always have a timer, a flush or a call behind it. It can lose them in two ways.
A timer that fires during a flush is used up, and the flush may end well without having read the
vote. And a flush that ends by an exception leaves no timer. Without the two, no vote is left behind
(`guarded_of_watched`).
-/

namespace RealTube.Extension

/-- A flush is in progress: `isFlushing`. -/
def FlushPhase.isFlushing : FlushPhase → Bool
  | idle => false
  | reading => true
  | identifying _ => true
  | looping _ _ => true
  | removing _ _ _ => true

/-- It has not read the store yet. -/
def FlushPhase.isReading : FlushPhase → Bool
  | idle => false
  | reading => true
  | identifying _ => false
  | looping _ _ => false
  | removing _ _ _ => false

/-- It removes a vote that the server has accepted. -/
def FlushPhase.isRemoving : FlushPhase → Bool
  | idle => false
  | reading => false
  | identifying _ => false
  | looping _ _ => false
  | removing _ _ _ => true

/-- The delay of the flush that `enqueueVote` and the startup code schedule. -/
def flushSoonDelay : ℤ := 5000

/-- The queue with its timer. -/
structure QueueState extends FlushState where
  /-- `flushTimer`, by the time it is due. -/
  flushTimer : Option ℤ
  /-- The calls of `enqueueVote` that have stored their vote and not scheduled a flush. -/
  scheduling : Finset ℕ
  /-- `startOfflineQueueListener` has been called. -/
  started : Bool

/-- What can happen next. -/
inductive QueueEvent where
  /-- A step of a call, or of the flush. -/
  | queue (e : FlushEvent)
  /-- A call of `enqueueVote` cannot store its vote. -/
  | putRejected (i : ℕ)
  /-- A call of `enqueueVote` that has stored its vote comes to its end. -/
  | schedule (i : ℕ)
  /-- The timer fires. -/
  | fire
  /-- What the flush waits for rejects: `getPendingVotes`, `getPublicUserId` or
  `removePendingVote`. -/
  | reject
  /-- `startOfflineQueueListener`. -/
  | start

namespace QueueState

/-- The worker starts, with the votes of an earlier session. -/
def init (votes : Votes) : QueueState where
  now := 0
  votes := votes
  phase := .idle
  calls := 0
  waiting _ := none
  storedBy _ := 0
  flushTimer := none
  scheduling := ∅
  started := false

/-- `scheduleFlush`. -/
def scheduleFlush (s : QueueState) (delay : ℤ) : QueueState :=
  { s with flushTimer := some (s.now + delay) }

/-- What a step of a call or of the flush does besides. -/
def after (s : QueueState) : FlushEvent → QueueState
  | .put i => { s with scheduling := insert i s.scheduling }
  | .send .failed => s.scheduleFlush flushRetryDelay
  | .send .lost => s.scheduleFlush flushRetryDelay
  | _ => s

/-- The state after an event. -/
def step (s : QueueState) : QueueEvent → Option QueueState
  | .queue e => (s.toFlushState.step e).map fun f ↦ { s with toFlushState := f }.after e
  | .putRejected i => (s.waiting i).map fun _ ↦
      { s with waiting := fun j ↦ if j = i then none else s.waiting j }
  | .schedule i =>
    if i ∈ s.scheduling then
      some ({ s with scheduling := s.scheduling.erase i }.scheduleFlush flushSoonDelay)
    else none
  | .fire =>
    s.flushTimer.bind fun due ↦
      if due ≤ s.now then
        (s.toFlushState.step .flush).map fun f ↦ { s with toFlushState := f, flushTimer := none }
      else none
  | .reject =>
    match s.phase with
    | .idle => none
    | .reading => some { s with phase := .idle }
    | .identifying _ => some { s with phase := .idle }
    | .looping now todo =>
      -- an expired vote is removed outside of the inner `try`
      if todo.head?.any fun x ↦ Votes.Expired now x.2 then some { s with phase := .idle } else none
    | .removing _ _ _ => some ({ s with phase := .idle }.scheduleFlush flushRetryDelay)
  | .start =>
    if s.started then none else some ({ s with started := true }.scheduleFlush flushSoonDelay)

/-- No call of `enqueueVote` and no flush is in progress. -/
structure Quiet (s : QueueState) : Prop where
  waiting : ∀ i, s.waiting i = none
  scheduling : s.scheduling = ∅
  phase : s.phase.isFlushing = false

/-- **A queued vote has a timer**, when nothing is in progress. -/
def Guarded (s : QueueState) : Prop :=
  s.started → s.Quiet → s.votes.pending ≠ ∅ → s.flushTimer ≠ none

end QueueState

namespace FlushState

/-- The flush in progress will deal with every vote that is stored: it has not read the store yet,
or it holds them all. -/
def Deals (s : FlushState) : Prop :=
  s.phase.isReading ∨ ∀ v ∈ s.votes.pending.keys, v ∈ s.phase.held.map Prod.fst

instance (s : FlushState) : Decidable s.Deals := inferInstanceAs (Decidable (_ ∨ _))

variable {s s' : FlushState}

theorem deals_of_held (h : ∀ v ∈ s.votes.pending.keys, v ∈ s.phase.held.map Prod.fst) : s.Deals :=
  Or.inr h

/-- A flush that has read the store holds what is stored. -/
theorem Deals.held (h : s.Deals) (hread : s.phase.isReading = false) :
    ∀ v ∈ s.votes.pending.keys, v ∈ s.phase.held.map Prod.fst :=
  h.resolve_left (Bool.eq_false_iff.1 hread)

/-- The flush removes the first of the votes it holds. -/
theorem Deals.removed (h : s.Deals) (hread : s.phase.isReading = false) {now : ℤ}
    {x : VideoID × PendingVote} {todo : List (VideoID × PendingVote)}
    (hheld : s.phase.held = x :: todo) :
    Deals { s with votes := s.votes.removePendingVote x.1, phase := .next now todo } := by
  refine deals_of_held fun v hv ↦ ?_
  obtain ⟨hne, hv⟩ : v ≠ x.1 ∧ v ∈ s.votes.pending.keys := by
    rw [← Finset.mem_erase, ← Finmap.keys_erase]
    exact hv
  have hmem := h.held hread v hv
  rw [hheld, List.map_cons] at hmem
  rw [FlushPhase.held_next]
  exact (List.mem_cons.1 hmem).resolve_left hne

/-- What the flush reads is what is stored. -/
theorem mem_getPendingVotes_of_mem_keys {votes : Votes} {order : Arrangement VideoID} {v : VideoID}
    (hv : v ∈ votes.pending.keys) : v ∈ (votes.getPendingVotes order).map Prod.fst := by
  obtain ⟨vote, hvote⟩ := Finmap.mem_iff.1 (Finmap.mem_keys.1 hv)
  exact List.mem_map_of_mem (f := Prod.fst) (Table.mem_rows.2 ⟨hvote, trivial⟩)

/-- **A step of the flush** leaves no stored vote behind; only a write, and the failure that ends
the flush, may. -/
theorem Deals.step {e : FlushEvent} (h : s.Deals) (hstep : s.step e = some s')
    (hput : ∀ i, e ≠ .put i) (hsend : ∀ outcome, e = .send outcome → outcome = .ok) : s'.Deals := by
  cases takes_of_step hstep with
  | pass _ => exact h
  | enqueueVote v category => exact h
  | put _ => exact absurd rfl (hput _)
  | flush _ => exact Or.inl rfl
  | flushing _ => exact h
  | @readNothing order _ hread =>
    refine deals_of_held fun v hv ↦ ?_
    have hmem : v ∈ (s.votes.getPendingVotes order).map Prod.fst :=
      mem_getPendingVotes_of_mem_keys hv
    rwa [hread] at hmem
  | @read order x todo _ hread =>
    refine deals_of_held fun v hv ↦ ?_
    have hmem : v ∈ (s.votes.getPendingVotes order).map Prod.fst :=
      mem_getPendingVotes_of_mem_keys hv
    rwa [hread] at hmem
  | identify hphase =>
    have hheld := h.held (by rw [hphase]; rfl)
    rw [hphase] at hheld
    exact deals_of_held hheld
  | drop hphase _ => exact h.removed (by rw [hphase]; rfl) (by rw [hphase]; rfl)
  | accept hphase =>
    have hheld := h.held (by rw [hphase]; rfl)
    rw [hphase] at hheld
    refine deals_of_held fun v hv ↦ hheld v ?_
    rwa [Votes.pending_submitVote] at hv
  | fail _ hfail => exact absurd (hsend _ rfl) hfail
  | remove hphase => exact h.removed (by rw [hphase]; rfl) (by rw [hphase]; rfl)

end FlushState

namespace QueueState

/-- **Neither of the two ways to lose a vote**: a timer that fires during a flush finds only votes
that the flush will deal with, and a flush that ends by an exception leaves a timer or nothing to
send. A call that is about to schedule a flush makes up for either. -/
def Watched (s : QueueState) : QueueEvent → Prop
  | .fire => s.started → s.phase.isFlushing → s.Deals ∨ s.scheduling ≠ ∅
  | .reject => s.started → s.phase.isRemoving ∨ s.votes.pending = ∅ ∨ s.flushTimer ≠ none ∨
      s.scheduling ≠ ∅
  | _ => True

instance (s : QueueState) : (e : QueueEvent) → Decidable (s.Watched e)
  | .fire => inferInstanceAs (Decidable (_ → _ → _))
  | .reject => inferInstanceAs (Decidable (_ → _))
  | .queue _ | .putRejected _ | .schedule _ | .start => inferInstanceAs (Decidable True)

/-- **Something will deal with every stored vote**: the timer, a call, or the flush in progress. -/
def Inv (s : QueueState) : Prop :=
  s.started → s.flushTimer ≠ none ∨ s.scheduling ≠ ∅ ∨ s.Deals

variable {s s' : QueueState}

theorem inv_init (votes : Votes) : (init votes).Inv := fun h ↦ by cases h

theorem inv_scheduleFlush (s : QueueState) (delay : ℤ) : (s.scheduleFlush delay).Inv :=
  fun _ ↦ Or.inl (Option.some_ne_none _)

/-- A step of a call or of the flush. -/
theorem Inv.queue (h : s.Inv) {e : FlushEvent} (hstep : s.step (.queue e) = some s') : s'.Inv := by
  obtain ⟨f, hf, rfl⟩ := Option.map_eq_some_iff.1 hstep
  have hsame : (∀ i, e ≠ .put i) → (∀ outcome, e = .send outcome → outcome = .ok) →
      Inv { s with toFlushState := f } := by
    intro hput hsend hstarted
    exact (h hstarted).imp id (Or.imp id fun hdeals ↦ hdeals.step hf hput hsend)
  cases e with
  | put i => exact fun _ ↦ Or.inr (Or.inl (Finset.insert_ne_empty _ _))
  | send outcome =>
    cases outcome with
    | ok => exact hsame (by simp) (by simp)
    | failed => exact inv_scheduleFlush _ _
    | lost => exact inv_scheduleFlush _ _
  | pass now => exact hsame (by simp) (by simp)
  | enqueueVote v category => exact hsame (by simp) (by simp)
  | flush => exact hsame (by simp) (by simp)
  | read order => exact hsame (by simp) (by simp)
  | identify => exact hsame (by simp) (by simp)
  | drop => exact hsame (by simp) (by simp)
  | remove => exact hsame (by simp) (by simp)

/-- The timer fires. -/
theorem Inv.fire (hwatched : s.Watched .fire) (hstep : s.step .fire = some s') : s'.Inv := by
  obtain ⟨due, -, hfire⟩ := Option.bind_eq_some_iff.1 hstep
  split_ifs at hfire
  obtain ⟨f, hf, rfl⟩ := Option.map_eq_some_iff.1 hfire
  clear hstep hfire
  intro hstarted
  refine Or.inr ?_
  cases FlushState.takes_of_step hf with
  | flush _ => exact Or.inr (Or.inl rfl)
  | flushing hidle =>
    have hflushing : s.phase.isFlushing := by
      cases hphase : s.phase with
      | idle => exact absurd hphase hidle
      | reading => rfl
      | identifying todo => rfl
      | looping now todo => rfl
      | removing now x todo => rfl
    exact (hwatched hstarted hflushing).symm

/-- What the flush waits for rejects. -/
theorem Inv.reject (hwatched : s.Watched .reject) (hstep : s.step .reject = some s') : s'.Inv := by
  have hended : ¬ s.phase.isRemoving → Inv { s with phase := .idle } := by
    intro hremoving hstarted
    obtain hempty | htimer | hcall := (hwatched hstarted).resolve_left hremoving
    · refine Or.inr (Or.inr (FlushState.deals_of_held fun v hv ↦ ?_))
      have hv' : v ∈ (∅ : Table VideoID PendingVote).keys := hempty ▸ hv
      exact absurd hv' (Finset.notMem_empty v)
    · exact Or.inl htimer
    · exact Or.inr (Or.inl hcall)
  rw [QueueState.step] at hstep
  cases hphase : s.phase with
  | idle => rw [hphase] at hstep; cases hstep
  | reading =>
    rw [hphase] at hstep
    obtain rfl := Option.some.inj hstep
    exact hended (by rw [hphase]; exact Bool.false_ne_true)
  | identifying todo =>
    rw [hphase] at hstep
    obtain rfl := Option.some.inj hstep
    exact hended (by rw [hphase]; exact Bool.false_ne_true)
  | looping now todo =>
    rw [hphase] at hstep
    simp only at hstep
    split_ifs at hstep
    obtain rfl := Option.some.inj hstep
    exact hended (by rw [hphase]; exact Bool.false_ne_true)
  | removing now x todo =>
    rw [hphase] at hstep
    obtain rfl := Option.some.inj hstep
    exact inv_scheduleFlush _ _

/-- **One step.** -/
theorem Inv.step {e : QueueEvent} (h : s.Inv) (hwatched : s.Watched e)
    (hstep : s.step e = some s') : s'.Inv := by
  cases e with
  | queue e => exact h.queue hstep
  | putRejected i =>
    obtain ⟨x, -, rfl⟩ := Option.map_eq_some_iff.1 hstep
    exact h
  | schedule i =>
    rw [QueueState.step] at hstep
    split_ifs at hstep
    obtain rfl := Option.some.inj hstep
    exact inv_scheduleFlush _ _
  | fire => exact Inv.fire hwatched hstep
  | reject => exact Inv.reject hwatched hstep
  | start =>
    rw [QueueState.step] at hstep
    split_ifs at hstep
    obtain rfl := Option.some.inj hstep
    exact inv_scheduleFlush _ _

/-- **No vote is left behind**: whenever nothing is in progress, a queue that is not empty has a
timer, if votes are lost in neither of the two ways. -/
theorem guarded_of_watched {votes : Votes} {es : List QueueEvent}
    (h : Steps.Run QueueState.step Watched (init votes) es s) : s.Guarded := by
  intro hstarted hquiet hpending
  obtain htimer | hcall | hdeals := h.inv (inv_init votes) Inv.step hstarted
  · exact htimer
  · exact absurd hquiet.scheduling hcall
  · refine absurd (Table.ext_lookup fun v ↦ ?_) hpending
    have hidle : s.phase.isReading = false ∧ s.phase.held = [] := by
      have hphase := hquiet.phase
      cases hs : s.phase with
      | idle => exact ⟨rfl, rfl⟩
      | reading => rw [hs] at hphase; cases hphase
      | identifying todo => rw [hs] at hphase; cases hphase
      | looping now todo => rw [hs] at hphase; cases hphase
      | removing now x todo => rw [hs] at hphase; cases hphase
    refine Table.lookup_eq_none_of_notMem_keys fun hv ↦ ?_
    have hmem := hdeals.held hidle.1 v hv
    rw [hidle.2] at hmem
    cases hmem

/-! ### A slow flush -/

/-- A vote is queued, the timer fires, and the flush reads the vote. -/
def slowFlush : List QueueEvent :=
  [.start, .queue (.enqueueVote "v" "fully_ai"), .queue (.put 0), .schedule 0, .queue (.pass 5000),
    .fire, .queue (.read (.ascending VideoID)), .queue .identify]

/-- A second vote is queued, and its timer fires before the answer arrives. -/
def timerUsedUp : List QueueEvent :=
  slowFlush ++ [.queue (.enqueueVote "w" "fully_ai"), .queue (.put 1), .schedule 1,
    .queue (.pass 10000), .fire, .queue (.send .ok), .queue .remove]

theorem exec_slowFlush : (Steps.exec step Watched (init ⟨∅, fun _ ↦ none⟩)
    (slowFlush ++ [.queue (.send .failed)])).isSome = true := by
  decide +kernel

/-- A flush that fails leaves a timer. -/
theorem guarded_slowFlush : ∃ s : QueueState, s.votes.pending ≠ ∅ ∧ s.Guarded := by
  refine ⟨Option.get _ exec_slowFlush, by decide +kernel, ?_⟩
  exact guarded_of_watched (Steps.run_of_exec (Option.some_get exec_slowFlush).symm)

/-- **The second vote is left behind**: nothing is in progress, and no timer is set. -/
theorem not_guarded_timerUsedUp : ¬ ∀ (votes : Votes) (es : List QueueEvent) (s : QueueState),
    Steps.Run step Steps.Any (init votes) es s → s.Guarded := by
  intro h
  have hrun : ∃ s, Steps.exec step Steps.Any (init ⟨∅, fun _ ↦ none⟩) timerUsedUp = some s ∧
      s.started = true ∧ s.Quiet ∧ s.votes.pending ≠ ∅ ∧ s.flushTimer = none := by
    refine ⟨_, rfl, rfl, ⟨fun i ↦ ?_, rfl, rfl⟩, by decide +kernel, rfl⟩
    by_cases h1 : i = 1
    · exact if_pos h1
    · refine (if_neg h1).trans ((if_neg h1).trans ?_)
      by_cases h0 : i = 0
      · exact if_pos h0
      · exact (if_neg h0).trans (if_neg h0)
  obtain ⟨s, hrun, hstarted, hquiet, hpending, htimer⟩ := hrun
  exact h _ _ s (Steps.run_of_exec hrun) hstarted hquiet hpending htimer

/-- So is a vote whose flush gets no user id. -/
example : (Steps.exec step Steps.Any (init ⟨∅, fun _ ↦ none⟩)
    (slowFlush.take 7 ++ [.reject])).map
      (fun s ↦ (s.phase.isFlushing, s.flushTimer, s.scheduling, s.votes.pending.keys)) =
        some (false, none, ∅, {"v"}) := by
  decide +kernel

end QueueState

end RealTube.Extension
