import RealTube.Extension.OfflineQueue

/-!
# Votes queued during a flush

`enqueueVote` and `flushPendingVotes` of `background/offline-queue.ts`, step by step between their
`await`s. A flush reads the whole store once, sends the votes it has read one after the other, and
removes each by its video once the server has accepted it. Another flush meanwhile returns at once
(`isFlushing`), an enqueued vote does not: it replaces what is stored under its video, and if the
flush has read the older vote, it is the newer one that the flush then removes.

`accounts_of_untouched` says that a vote leaves the store for a good reason as long as no vote is
written for a video that the flush under way still holds, and as the writes of two calls for one
video land in the order of the calls (`FlushState.Untouched`). A flush that runs alone is the flush
of the sequential model (`exists_run_flush`).
-/

namespace RealTube.Extension

/-- Where the flush under way stands. -/
inductive FlushPhase where
  /-- No flush: `isFlushing` is false. -/
  | idle
  /-- It reads the store. -/
  | reading
  /-- It has read the votes, and asks for the user id. -/
  | identifying (todo : List (VideoID × PendingVote))
  /-- It has taken the time, and comes to the first of the votes. -/
  | looping (now : ℤ) (todo : List (VideoID × PendingVote))
  /-- The server has accepted a vote, which is to be removed. -/
  | removing (now : ℤ) (x : VideoID × PendingVote) (todo : List (VideoID × PendingVote))

namespace FlushPhase

/-- The flush goes on with the next vote, or ends. -/
def next (now : ℤ) : List (VideoID × PendingVote) → FlushPhase
  | [] => idle
  | x :: todo => looping now (x :: todo)

/-- The votes that the flush has read and not dealt with. -/
def held : FlushPhase → List (VideoID × PendingVote)
  | idle => []
  | reading => []
  | identifying todo => todo
  | looping _ todo => todo
  | removing _ x todo => x :: todo

@[simp] theorem held_next (now : ℤ) (todo : List (VideoID × PendingVote)) :
    (next now todo).held = todo := by
  cases todo <;> rfl

end FlushPhase

/-- The votes, the flush, and the calls of `enqueueVote`, which are numbered. -/
structure FlushState where
  now : ℤ
  votes : Votes
  phase : FlushPhase
  calls : ℕ
  /-- The calls whose write has not landed. -/
  waiting : ℕ → Option (VideoID × PendingVote)
  /-- The call that has written the vote stored for a video. -/
  storedBy : VideoID → ℕ

/-- What can happen next. -/
inductive FlushEvent where
  /-- Time passes. -/
  | pass (now : ℤ)
  /-- `enqueueVote` is called. -/
  | enqueueVote (v : VideoID) (category : String)
  /-- Its write lands. -/
  | put (i : ℕ)
  /-- `flushPendingVotes` is called. -/
  | flush
  /-- `getPendingVotes` answers. -/
  | read (order : Arrangement VideoID)
  /-- `getPublicUserId` answers. -/
  | identify
  /-- An expired vote is removed. -/
  | drop
  /-- The next vote is sent. -/
  | send (outcome : Outcome)
  /-- An accepted vote is removed. -/
  | remove

namespace FlushState

/-- An empty queue. -/
def init : FlushState := ⟨0, ⟨∅, fun _ ↦ none⟩, .idle, 0, fun _ ↦ none, fun _ ↦ 0⟩

/-- The state after an event. -/
def step (s : FlushState) : FlushEvent → Option FlushState
  | .pass now => if s.now ≤ now then some { s with now } else none
  | .enqueueVote v category => some { s with
      calls := s.calls + 1
      waiting := fun i ↦
        if i = s.calls then some (v, { category, timestamp := s.now }) else s.waiting i }
  | .put i => (s.waiting i).map fun x ↦ { s with
      votes := s.votes.addPendingVote x.1 x.2
      waiting := fun j ↦ if j = i then none else s.waiting j
      storedBy := fun v ↦ if v = x.1 then i else s.storedBy v }
  | .flush =>
    match s.phase with
    | .idle => some { s with phase := .reading }
    | _ => some s
  | .read order =>
    match s.phase with
    | .reading => some { s with phase :=
        match s.votes.getPendingVotes order with
        | [] => .idle
        | x :: todo => .identifying (x :: todo) }
    | _ => none
  | .identify =>
    match s.phase with
    | .identifying todo => some { s with phase := .looping s.now todo }
    | _ => none
  | .drop =>
    match s.phase with
    | .looping now ((v, vote) :: todo) =>
      if Votes.Expired now vote then
        some { s with votes := s.votes.removePendingVote v, phase := .next now todo }
      else none
    | _ => none
  | .send outcome =>
    match s.phase with
    | .looping now ((v, vote) :: todo) =>
      if Votes.Expired now vote then none
      else some { s with
        votes := s.votes.submitVote v vote.category outcome
        phase := if outcome = .ok then .removing now (v, vote) todo else .idle }
    | _ => none
  | .remove =>
    match s.phase with
    | .removing now (v, _) todo =>
      some { s with votes := s.votes.removePendingVote v, phase := .next now todo }
    | _ => none

/-- **A write touches nothing that a flush holds**, and what it replaces is older. -/
def Untouched (s : FlushState) : FlushEvent → Prop
  | .put i => ∀ x ∈ s.waiting i, x.1 ∉ s.phase.held.map Prod.fst ∧
      (s.votes.pending.lookup x.1 ≠ none → s.storedBy x.1 < i)
  | _ => True

instance (s : FlushState) (e : FlushEvent) : Decidable (s.Untouched e) :=
  match e with
  | .put i => inferInstanceAs (Decidable (∀ x ∈ s.waiting i, _ ∧ _))
  | .pass _ | .enqueueVote _ _ | .flush | .read _ | .identify | .drop | .send _ | .remove =>
    inferInstanceAs (Decidable True)

/-- **A good reason for a vote to leave** the store: the server has accepted it, with its category;
it is older than seven days; or a later call replaces it. -/
inductive Accounts (s : FlushState) (v : VideoID) (vote : PendingVote) : FlushEvent → Prop
  | accepted {now : ℤ} {sent : PendingVote} {todo : List (VideoID × PendingVote)}
      (h : s.phase = .removing now (v, sent) todo) (hcategory : sent.category = vote.category)
      (hserver : s.votes.server v = some vote.category) : Accounts s v vote .remove
  | expired {now : ℤ} {read : PendingVote} {todo : List (VideoID × PendingVote)}
      (h : s.phase = .looping now ((v, read) :: todo)) (hold : Votes.Expired now vote) :
      Accounts s v vote .drop
  | replaced {i : ℕ} {newer : PendingVote} (h : s.waiting i = some (v, newer))
      (hnewer : s.storedBy v < i) : Accounts s v vote (.put i)

/-! ### What a step does -/

/-- The steps, one by one. -/
inductive Takes (s : FlushState) : FlushEvent → FlushState → Prop
  | pass {now : ℤ} (h : s.now ≤ now) : Takes s (.pass now) { s with now }
  | enqueueVote (v : VideoID) (category : String) : Takes s (.enqueueVote v category) { s with
      calls := s.calls + 1
      waiting := fun i ↦
        if i = s.calls then some (v, { category, timestamp := s.now }) else s.waiting i }
  | put {i : ℕ} {x : VideoID × PendingVote} (h : s.waiting i = some x) : Takes s (.put i) { s with
      votes := s.votes.addPendingVote x.1 x.2
      waiting := fun j ↦ if j = i then none else s.waiting j
      storedBy := fun v ↦ if v = x.1 then i else s.storedBy v }
  | flush (h : s.phase = .idle) : Takes s .flush { s with phase := .reading }
  /-- Another flush is in progress. -/
  | flushing (h : s.phase ≠ .idle) : Takes s .flush s
  | readNothing {order : Arrangement VideoID} (h : s.phase = .reading)
      (hread : s.votes.getPendingVotes order = []) :
      Takes s (.read order) { s with phase := .idle }
  | read {order : Arrangement VideoID} {x : VideoID × PendingVote}
      {todo : List (VideoID × PendingVote)} (h : s.phase = .reading)
      (hread : s.votes.getPendingVotes order = x :: todo) :
      Takes s (.read order) { s with phase := .identifying (x :: todo) }
  | identify {todo : List (VideoID × PendingVote)} (h : s.phase = .identifying todo) :
      Takes s .identify { s with phase := .looping s.now todo }
  | drop {now : ℤ} {x : VideoID × PendingVote} {todo : List (VideoID × PendingVote)}
      (h : s.phase = .looping now (x :: todo)) (hexpired : Votes.Expired now x.2) :
      Takes s .drop { s with votes := s.votes.removePendingVote x.1, phase := .next now todo }
  | accept {now : ℤ} {x : VideoID × PendingVote} {todo : List (VideoID × PendingVote)}
      (h : s.phase = .looping now (x :: todo)) : Takes s (.send .ok) { s with
        votes := s.votes.submitVote x.1 x.2.category .ok, phase := .removing now x todo }
  /-- The first failure ends the flush. -/
  | fail {now : ℤ} {x : VideoID × PendingVote} {todo : List (VideoID × PendingVote)}
      {outcome : Outcome} (h : s.phase = .looping now (x :: todo)) (hfail : outcome ≠ .ok) :
      Takes s (.send outcome) { s with
        votes := s.votes.submitVote x.1 x.2.category outcome, phase := .idle }
  | remove {now : ℤ} {x : VideoID × PendingVote} {todo : List (VideoID × PendingVote)}
      (h : s.phase = .removing now x todo) :
      Takes s .remove { s with votes := s.votes.removePendingVote x.1, phase := .next now todo }

variable {s s' : FlushState}

theorem takes_of_step {e : FlushEvent} (hstep : s.step e = some s') : s.Takes e s' := by
  cases e with
  | pass now =>
    rw [FlushState.step] at hstep
    split_ifs at hstep with h
    obtain rfl := Option.some.inj hstep
    exact .pass h
  | enqueueVote v category =>
    obtain rfl := Option.some.inj hstep
    exact .enqueueVote v category
  | put i =>
    obtain ⟨x, hx, rfl⟩ := Option.map_eq_some_iff.1 hstep
    exact .put hx
  | flush =>
    rw [FlushState.step] at hstep
    split at hstep <;> obtain rfl := Option.some.inj hstep
    · exact .flush ‹_›
    · exact .flushing ‹_›
  | read order =>
    rw [FlushState.step] at hstep
    split at hstep
    · rename_i hphase
      obtain rfl := Option.some.inj hstep
      cases hread : s.votes.getPendingVotes order with
      | nil => exact .readNothing hphase hread
      | cons x todo => exact .read hphase hread
    · cases hstep
  | identify =>
    rw [FlushState.step] at hstep
    split at hstep
    · obtain rfl := Option.some.inj hstep
      exact .identify ‹_›
    · cases hstep
  | drop =>
    rw [FlushState.step] at hstep
    split at hstep
    · rename_i now v vote todo hphase
      split_ifs at hstep with hexpired
      obtain rfl := Option.some.inj hstep
      exact .drop (x := (v, vote)) hphase hexpired
    · cases hstep
  | send outcome =>
    rw [FlushState.step] at hstep
    split at hstep
    · rename_i now v vote todo hphase
      split_ifs at hstep with hexpired hok <;> obtain rfl := Option.some.inj hstep
      · subst hok
        exact .accept (x := (v, vote)) hphase
      · exact .fail (x := (v, vote)) hphase hok
    · cases hstep
  | remove =>
    rw [FlushState.step] at hstep
    split at hstep
    · rename_i now v vote todo hphase
      obtain rfl := Option.some.inj hstep
      exact .remove (x := (v, vote)) hphase
    · cases hstep

/-! ### The invariant -/

/-- **What a flush holds is what is stored**, each video once; and a vote to be removed is on the
server. -/
structure Inv (s : FlushState) : Prop where
  stored : ∀ x ∈ s.phase.held, s.votes.pending.lookup x.1 = some x.2
  nodup : (s.phase.held.map Prod.fst).Nodup
  served : ∀ now x todo, s.phase = .removing now x todo →
    s.votes.server x.1 = some x.2.category

theorem inv_init : init.Inv where
  stored _ h := by cases h
  nodup := List.nodup_nil
  served _ _ _ h := by cases h

/-- A phase that holds nothing. -/
theorem inv_of_held_eq_nil (hheld : s.phase.held = []) : s.Inv where
  stored x hx := by rw [hheld] at hx; cases hx
  nodup := by rw [hheld]; exact List.nodup_nil
  served now x todo h := by rw [h] at hheld; cases hheld

/-- The flush has removed the first of the votes it holds. -/
theorem Inv.removed (h : s.Inv) {now : ℤ} {x : VideoID × PendingVote}
    {todo : List (VideoID × PendingVote)} (hheld : s.phase.held = x :: todo) :
    Inv { s with votes := s.votes.removePendingVote x.1, phase := .next now todo } where
  stored y hy := by
    have hnodup := h.nodup
    rw [hheld, List.map_cons, List.nodup_cons] at hnodup
    rw [FlushPhase.held_next] at hy
    have hne : y.1 ≠ x.1 := fun heq ↦ hnodup.1 (List.mem_map.2 ⟨y, hy, heq⟩)
    refine (Table.lookup_erase_of_ne _ hne).trans (h.stored y ?_)
    rw [hheld]
    exact List.mem_cons_of_mem _ hy
  nodup := by
    have hnodup := h.nodup
    rw [hheld, List.map_cons, List.nodup_cons] at hnodup
    rw [FlushPhase.held_next]
    exact hnodup.2
  served now' y todo' hphase := by
    cases todo <;> cases hphase

/-- The flush goes on with what it holds, and waits for no answer of the server. -/
theorem Inv.of_held_eq (h : s.Inv) {phase : FlushPhase} (hheld : phase.held = s.phase.held)
    (hphase : ∀ now x todo, phase ≠ .removing now x todo) : Inv { s with phase } where
  stored x hx := h.stored x (hheld ▸ hx)
  nodup := by
    change (phase.held.map Prod.fst).Nodup
    rw [hheld]
    exact h.nodup
  served now x todo hremoving := absurd hremoving (hphase now x todo)

/-- A vote is written for a video that the flush does not hold. -/
theorem Inv.put (h : s.Inv) {x : VideoID × PendingVote} (hx : x.1 ∉ s.phase.held.map Prod.fst)
    {waiting : ℕ → Option (VideoID × PendingVote)} {storedBy : VideoID → ℕ} :
    Inv { s with votes := s.votes.addPendingVote x.1 x.2, waiting, storedBy } where
  stored y hy := by
    have hne : y.1 ≠ x.1 := fun heq ↦ hx (List.mem_map.2 ⟨y, hy, heq⟩)
    exact (Table.lookup_insert_of_ne _ _ hne).trans (h.stored y hy)
  nodup := h.nodup
  served := h.served

/-- The flush reads the store. -/
theorem inv_read {order : Arrangement VideoID} {x : VideoID × PendingVote}
    {todo : List (VideoID × PendingVote)} (hread : s.votes.getPendingVotes order = x :: todo) :
    Inv { s with phase := .identifying (x :: todo) } where
  stored y hy := by
    have hy' : (y.1, y.2) ∈ s.votes.getPendingVotes order := hread ▸ hy
    exact (Table.mem_rows.1 hy').1
  nodup := by
    change ((x :: todo).map Prod.fst).Nodup
    rw [← hread]
    exact Table.nodup_keys_rows
  served _ _ _ h := by cases h

/-- The server accepts a vote. -/
theorem Inv.accept (h : s.Inv) {now : ℤ} {x : VideoID × PendingVote}
    {todo : List (VideoID × PendingVote)} (hphase : s.phase = .looping now (x :: todo)) :
    Inv { s with
      votes := s.votes.submitVote x.1 x.2.category .ok, phase := .removing now x todo } where
  stored y hy := h.stored y (by rw [hphase]; exact hy)
  nodup := by
    have hnodup := h.nodup
    rwa [hphase] at hnodup
  served now' y todo' hremoving := by
    obtain ⟨rfl, rfl, rfl⟩ := FlushPhase.removing.inj hremoving
    exact if_pos rfl

/-- **An untouched event keeps the invariant.** -/
theorem Inv.step {e : FlushEvent} (h : s.Inv) (he : s.Untouched e) (hstep : s.step e = some s') :
    s'.Inv := by
  cases takes_of_step hstep with
  | pass _ => exact ⟨h.stored, h.nodup, h.served⟩
  | enqueueVote v category => exact ⟨h.stored, h.nodup, h.served⟩
  | put hx => exact h.put (he _ hx).1
  | flush _ => exact inv_of_held_eq_nil rfl
  | flushing _ => exact h
  | readNothing _ _ => exact inv_of_held_eq_nil rfl
  | read _ hread => exact inv_read hread
  | identify hphase => exact h.of_held_eq (by rw [hphase]; rfl) (by simp)
  | drop hphase _ => exact h.removed (by rw [hphase]; rfl)
  | accept hphase => exact h.accept hphase
  | fail _ _ => exact inv_of_held_eq_nil rfl
  | remove hphase => exact h.removed (by rw [hphase]; rfl)

/-! ### What leaves the store -/

/-- **The store changes** when an enqueued vote is written, and when a flush drops or removes one.
-/
theorem pending_step {e : FlushEvent} (hstep : s.step e = some s') :
    s'.votes.pending = s.votes.pending ∨
    (∃ i x, e = .put i ∧ s.waiting i = some x ∧
      s'.votes.pending = s.votes.pending.insert x.1 x.2) ∨
    (∃ now x todo, e = .drop ∧ s.phase = .looping now (x :: todo) ∧ Votes.Expired now x.2 ∧
      s'.votes.pending = s.votes.pending.erase x.1) ∨
    ∃ now x todo, e = .remove ∧ s.phase = .removing now x todo ∧
      s'.votes.pending = s.votes.pending.erase x.1 := by
  cases takes_of_step hstep with
  | put hx => exact Or.inr (Or.inl ⟨_, _, rfl, hx, rfl⟩)
  | drop hphase hexpired => exact Or.inr (Or.inr (Or.inl ⟨_, _, _, rfl, hphase, hexpired, rfl⟩))
  | remove hphase => exact Or.inr (Or.inr (Or.inr ⟨_, _, _, rfl, hphase, rfl⟩))
  | accept _ => exact Or.inl (Votes.pending_submitVote ..)
  | fail _ _ => exact Or.inl (Votes.pending_submitVote ..)
  | pass _ => exact Or.inl rfl
  | enqueueVote v category => exact Or.inl rfl
  | flush _ => exact Or.inl rfl
  | flushing _ => exact Or.inl rfl
  | readNothing _ _ => exact Or.inl rfl
  | read _ _ => exact Or.inl rfl
  | identify _ => exact Or.inl rfl

/-- What a removal takes out, if the flush still holds it, is the vote it has read. -/
theorem Inv.eq_of_erased (h : s.Inv) {x : VideoID × PendingVote} (hx : x ∈ s.phase.held)
    {v : VideoID} {vote : PendingVote} (hin : s.votes.pending.lookup v = some vote)
    (hout : (s.votes.pending.erase x.1).lookup v ≠ some vote) : x = (v, vote) := by
  have hv : v = x.1 := by
    by_contra hne
    exact hout ((Table.lookup_erase_of_ne _ hne).trans hin)
  have hvote : x.2 = vote := by
    rw [hv, h.stored x hx] at hin
    exact Option.some.inj hin
  rw [hv, ← hvote]

/-- **What leaves in one step** leaves for a good reason. -/
theorem Inv.accounts {e : FlushEvent} (h : s.Inv) (he : s.Untouched e)
    (hstep : s.step e = some s') {v : VideoID} {vote : PendingVote}
    (hin : s.votes.pending.lookup v = some vote)
    (hout : s'.votes.pending.lookup v ≠ some vote) : s.Accounts v vote e := by
  obtain hsame | ⟨i, x, rfl, hx, hput⟩ | ⟨now, x, todo, rfl, hphase, hexpired, hdrop⟩ |
    ⟨now, x, todo, rfl, hphase, hremove⟩ := pending_step hstep
  · rw [hsame] at hout
    exact absurd hin hout
  · rw [hput] at hout
    have hv : v = x.1 := by
      by_contra hne
      exact hout ((Table.lookup_insert_of_ne _ _ hne).trans hin)
    subst hv
    exact .replaced hx ((he x hx).2 (by simp [hin]))
  · rw [hdrop] at hout
    obtain rfl := h.eq_of_erased (by rw [hphase]; exact List.mem_cons_self) hin hout
    exact .expired hphase hexpired
  · rw [hremove] at hout
    obtain rfl := h.eq_of_erased (by rw [hphase]; exact List.mem_cons_self) hin hout
    exact .accepted hphase rfl (h.served now _ todo hphase)

/-- **No vote is lost**: in every interleaving in which no write touches what a flush holds, a vote
leaves the store because the server has accepted it, because it is older than seven days, or because
a later call replaces it. -/
theorem accounts_of_untouched {es : List FlushEvent}
    (h : Steps.Run FlushState.step Untouched init es s)
    {e : FlushEvent} (he : s.Untouched e) (hstep : s.step e = some s') {v : VideoID}
    {vote : PendingVote} (hin : s.votes.pending.lookup v = some vote)
    (hout : s'.votes.pending.lookup v ≠ some vote) : s.Accounts v vote e :=
  (h.inv inv_init fun hs he hstep ↦ hs.step he hstep).accounts he hstep hin hout

/-! ### A flush that runs alone -/

/-- The loop of a flush, with nothing in between. -/
theorem exists_run_flushLoop (now : ℤ) (outcome : VideoID → Outcome)
    (todo : List (VideoID × PendingVote)) (s : FlushState) (hs : s.phase = .next now todo) :
    ∃ es s', Steps.Run step Steps.Any s es s' ∧ s'.phase = .idle ∧
      s'.votes = Votes.flushLoop now outcome todo s.votes := by
  induction todo generalizing s with
  | nil => exact ⟨[], s, .nil, hs, rfl⟩
  | cons x todo ih =>
    obtain ⟨v, vote⟩ := x
    have hs' : s.phase = .looping now ((v, vote) :: todo) := hs
    by_cases hexpired : Votes.Expired now vote
    · have hdrop : s.step .drop = some { s with
          votes := s.votes.removePendingVote v, phase := .next now todo } := by
        simp only [step, hs', if_pos hexpired]
      obtain ⟨es, s', hrun, hidle, hvotes⟩ := ih { s with
        votes := s.votes.removePendingVote v, phase := .next now todo } rfl
      refine ⟨_, s', hrun.cons trivial hdrop, hidle, hvotes.trans ?_⟩
      rw [Votes.flushLoop, if_pos hexpired]
    · have hsend : s.step (.send (outcome v)) = some { s with
          votes := s.votes.submitVote v vote.category (outcome v)
          phase := if outcome v = .ok then .removing now (v, vote) todo else .idle } := by
        simp only [step, hs', if_neg hexpired]
      cases houtcome : outcome v with
      | ok =>
        rw [houtcome] at hsend
        obtain ⟨es, s', hrun, hidle, hvotes⟩ := ih { s with
          votes := (s.votes.submitVote v vote.category .ok).removePendingVote v
          phase := .next now todo } rfl
        refine ⟨_, s', (hrun.cons (e := .remove) trivial rfl).cons trivial hsend, hidle,
          hvotes.trans ?_⟩
        rw [Votes.flushLoop, if_neg hexpired, houtcome]
      | failed =>
        rw [houtcome] at hsend
        refine ⟨_, _, Steps.Run.nil.cons trivial hsend, rfl, ?_⟩
        rw [Votes.flushLoop, if_neg hexpired, houtcome]
      | lost =>
        rw [houtcome] at hsend
        refine ⟨_, _, Steps.Run.nil.cons trivial hsend, rfl, ?_⟩
        rw [Votes.flushLoop, if_neg hexpired, houtcome]

/-- **A flush that runs alone** is the flush of the sequential model. -/
theorem exists_run_flush (s : FlushState) (hs : s.phase = .idle) (order : Arrangement VideoID)
    (outcome : VideoID → Outcome) :
    ∃ es s', Steps.Run step Steps.Any s es s' ∧ s'.phase = .idle ∧
      s'.votes = s.votes.flushPendingVotes s.now order outcome := by
  have hflush : s.step .flush = some { s with phase := .reading } := by
    simp only [step, hs]
  cases htodo : s.votes.getPendingVotes order with
  | nil =>
    have hread : ({ s with phase := .reading } : FlushState).step (.read order) =
        some { s with phase := .idle } := by
      simp only [step, htodo]
    refine ⟨_, _, (Steps.Run.nil.cons trivial hread).cons trivial hflush, rfl, ?_⟩
    rw [Votes.flushPendingVotes, htodo]
    rfl
  | cons x todo =>
    have hread : ({ s with phase := .reading } : FlushState).step (.read order) =
        some { s with phase := .identifying (x :: todo) } := by
      simp only [step, htodo]
    obtain ⟨es, s', hrun, hidle, hvotes⟩ := exists_run_flushLoop s.now outcome (x :: todo)
      { s with phase := .looping s.now (x :: todo) } rfl
    refine ⟨_, s', ((hrun.cons (e := .identify) trivial rfl).cons trivial hread).cons trivial
      hflush, hidle, ?_⟩
    rw [hvotes, Votes.flushPendingVotes, htodo]

/-! ### A vote during a flush -/

/-- A queued vote is sent and accepted. -/
def voteSent : List FlushEvent :=
  [.enqueueVote "v" "fully_ai", .put 0, .flush, .read (.ascending VideoID), .identify, .send .ok]

/-- While it is sent, the user queues another category. -/
def voteReplaced : List FlushEvent := voteSent ++ [.enqueueVote "v" "ai_assisted", .put 1]

theorem exec_voteSent : (Steps.exec step Untouched init voteSent).isSome = true := by
  decide +kernel

/-- The vote that was sent leaves because the server has accepted it. -/
theorem accounts_voteSent : Accounts (Option.get _ exec_voteSent) "v" ⟨"fully_ai", 0⟩ .remove :=
  accounts_of_untouched (e := .remove) (Steps.run_of_exec (Option.some_get exec_voteSent).symm)
    trivial rfl (by decide +kernel) (by decide +kernel)

theorem exec_voteReplaced : (Steps.exec step Steps.Any init voteReplaced).isSome = true := by
  decide +kernel

/-- **The newer vote is removed with the older one**, and was never sent. -/
theorem not_accounts_voteReplaced :
    ¬ ∀ (es : List FlushEvent) (s : FlushState), Steps.Run step Steps.Any init es s →
      ∀ (e : FlushEvent) (s' : FlushState), s.step e = some s' → ∀ (v : VideoID)
        (vote : PendingVote),
        s.votes.pending.lookup v = some vote → s'.votes.pending.lookup v ≠ some vote →
          s.Accounts v vote e := by
  intro h
  have haccounts := h voteReplaced _ (Steps.run_of_exec (Option.some_get exec_voteReplaced).symm)
    .remove _ rfl "v" ⟨"ai_assisted", 0⟩ (by decide +kernel) (by decide +kernel)
  have hserver : (Option.get _ exec_voteReplaced).votes.server "v" = some "fully_ai" := by
    decide +kernel
  cases haccounts with
  | accepted hphase hcategory hserver' =>
    rw [hserver] at hserver'
    exact absurd hserver' (by decide)

end FlushState

end RealTube.Extension
