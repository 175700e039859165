import RealTube.Model.Schema
import RealTube.Store.Query
import RealTube.Store.Steps
import Mathlib.Data.String.Basic

/-!
# The offline queue

`SUBMIT_VOTE` and `DELETE_VOTE` of `background/background.ts` and `flushPendingVotes` of
`background/offline-queue.ts`, each run to its end before the next begins. A vote that cannot be
sent is queued under its video, and a flush sends what is queued; the last action of the user should
win.

A queued vote remembers its category, and a later action that reaches the server directly does not
touch the queue. `server_eq_wanted` says when the last action wins all the same: when no vote is
sent directly past a queued one of another category, no vote is deleted past a queued one, and no
deletion is served without its reply (`UserState.InOrder`). Otherwise the next flush brings the old
vote back (`not_server_eq_wanted_secondThoughts`).
-/

namespace RealTube.Extension

/-- `PendingVote`, under its video id. -/
structure PendingVote where
  category : String
  /-- `Date.now()`, in milliseconds. -/
  timestamp : ℤ
  deriving DecidableEq

/-- `MAX_PENDING_AGE_MS`. -/
def maxPendingAge : ℤ := 7 * 24 * 60 * 60 * 1000

/-- How an API call ends: it is served, it fails, or it is served and the reply is lost. -/
inductive Outcome where
  | ok
  | failed
  | lost
  deriving DecidableEq

/-- The server has served the call. -/
def Outcome.served : Outcome → Bool
  | ok => true
  | failed => false
  | lost => true

/-- The store `pendingVotes`, and the votes that the server holds for the user. -/
structure Votes where
  pending : Table VideoID PendingVote
  server : VideoID → Option String

namespace Votes

/-- Set the vote that the server holds on a video. -/
def setServer (s : Votes) (v : VideoID) (vote : Option String) : Votes :=
  { s with server := fun v' ↦ if v' = v then vote else s.server v' }

/-- `api.submitVote`: the server sets the vote when it serves the call. -/
def submitVote (s : Votes) (v : VideoID) (category : String) (outcome : Outcome) : Votes :=
  if outcome.served then s.setServer v (some category) else s

/-- A call to the server changes nothing that is queued. -/
@[simp] theorem pending_submitVote (s : Votes) (v : VideoID) (category : String)
    (outcome : Outcome) : (s.submitVote v category outcome).pending = s.pending := by
  rw [submitVote]
  split_ifs <;> rfl

/-- `addPendingVote`. -/
def addPendingVote (s : Votes) (v : VideoID) (vote : PendingVote) : Votes :=
  { s with pending := s.pending.insert v vote }

/-- `getPendingVotes`. -/
def getPendingVotes (s : Votes) (order : Arrangement VideoID) : List (VideoID × PendingVote) :=
  s.pending.rows order fun _ ↦ True

/-- `removePendingVote`. -/
def removePendingVote (s : Votes) (v : VideoID) : Votes :=
  { s with pending := s.pending.erase v }

/-- The vote is dropped instead of sent. -/
def Expired (now : ℤ) (vote : PendingVote) : Prop := maxPendingAge < now - vote.timestamp

instance (now : ℤ) (vote : PendingVote) : Decidable (Expired now vote) :=
  inferInstanceAs (Decidable (_ < _))

/-- The loop of a flush, which the first failure ends. -/
def flushLoop (now : ℤ) (outcome : VideoID → Outcome) : List (VideoID × PendingVote) → Votes → Votes
  | [], s => s
  | (v, vote) :: todo, s =>
    if Expired now vote then flushLoop now outcome todo (s.removePendingVote v)
    else
      match outcome v with
      | .ok =>
        flushLoop now outcome todo ((s.submitVote v vote.category .ok).removePendingVote v)
      | failure => s.submitVote v vote.category failure

/-- `flushPendingVotes`. -/
def flushPendingVotes (now : ℤ) (order : Arrangement VideoID) (outcome : VideoID → Outcome)
    (s : Votes) : Votes :=
  flushLoop now outcome (s.getPendingVotes order) s

end Votes

/-! ### The actions of a user -/

/-- An action of the user or a flush, with what happens to its calls. -/
inductive UserEvent where
  /-- `SUBMIT_VOTE`. -/
  | submitVote (v : VideoID) (category : String) (outcome : Outcome) (now : ℤ)
  /-- `DELETE_VOTE`. -/
  | deleteVote (v : VideoID) (outcome : Outcome)
  /-- `flushPendingVotes`. -/
  | flush (now : ℤ) (order : Arrangement VideoID) (outcome : VideoID → Outcome)

/-- The votes, and what the last action that was reported successful has asked for. -/
structure UserState extends Votes where
  wanted : VideoID → Option String

namespace UserState

/-- No action yet. -/
def init : UserState := ⟨⟨∅, fun _ ↦ none⟩, fun _ ↦ none⟩

/-- The last successful action on a video is a new one. -/
def want (s : UserState) (votes : Votes) (v : VideoID) (vote : Option String) : UserState where
  toVotes := votes
  wanted v' := if v' = v then vote else s.wanted v'

/-- The state after an event. A submission is always reported successful: if its call does not end
well, the vote is queued. A deletion is, if its call ends well; without a vote on the server it does
not (`NOT_FOUND`). -/
def step (s : UserState) : UserEvent → UserState
  | .submitVote v category outcome now =>
    let sent := s.toVotes.submitVote v category outcome
    if outcome = .ok then s.want sent v (some category)
    else s.want (sent.addPendingVote v { category, timestamp := now }) v (some category)
  | .deleteVote v outcome =>
    if s.server v = none then s
    else
      match outcome with
      | .ok => s.want (s.toVotes.setServer v none) v none
      | .failed => s
      | .lost => { s with toVotes := s.toVotes.setServer v none }
  | .flush now order outcome => { s with toVotes := s.toVotes.flushPendingVotes now order outcome }

/-- No vote expires: a flush finds no vote that it drops. -/
def Unexpired (s : UserState) : UserEvent → Prop
  | .submitVote _ _ _ _ => True
  | .deleteVote _ _ => True
  | .flush now _ _ => ∀ v ∈ s.pending.keys, ∀ vote ∈ s.pending.lookup v, ¬ Votes.Expired now vote

/-- **No action overtakes a queued vote**: a vote is not sent directly while one of another category
is queued, a vote is not deleted while one is queued, and a deletion that is served gets its reply.
-/
def InOrder (s : UserState) : UserEvent → Prop
  | .submitVote v category outcome _ =>
    outcome = .ok → ∀ vote ∈ s.pending.lookup v, vote.category = category
  | .deleteVote v outcome => s.server v ≠ none → outcome ≠ .failed →
      outcome = .ok ∧ s.pending.lookup v = none
  | .flush _ _ _ => True

instance (s : UserState) (e : UserEvent) : Decidable (s.Unexpired e) := by
  cases e <;> rw [Unexpired] <;> infer_instance

instance (s : UserState) (e : UserEvent) : Decidable (s.InOrder e) := by
  cases e <;> rw [InOrder] <;> infer_instance

/-! ### The invariant -/

/-- What is queued is what is wanted; and where nothing is queued, the server has what is wanted. -/
structure Inv (wanted : VideoID → Option String) (s : Votes) : Prop where
  queued : ∀ v vote, s.pending.lookup v = some vote → wanted v = some vote.category
  sent : ∀ v, s.pending.lookup v = none → s.server v = wanted v

variable {wanted : VideoID → Option String} {votes : Votes} {v : VideoID}

/-- A queued vote reaches the server: it stays queued when the reply is lost, -/
theorem Inv.lost (h : Inv wanted votes) {vote : PendingVote}
    (hv : votes.pending.lookup v = some vote) :
    Inv wanted (votes.setServer v (some vote.category)) where
  queued := h.queued
  sent v' hv' := by
    have hne : v' ≠ v := by
      rintro rfl
      rw [show votes.pending.lookup v' = none from hv'] at hv
      cases hv
    exact (if_neg hne).trans (h.sent v' hv')

/-- and is removed when the reply arrives. -/
theorem Inv.ok (h : Inv wanted votes) {vote : PendingVote}
    (hv : votes.pending.lookup v = some vote) :
    Inv wanted ((votes.setServer v (some vote.category)).removePendingVote v) where
  queued v' vote' hv' := by
    change (votes.pending.erase v).lookup v' = some vote' at hv'
    rw [Table.lookup_erase] at hv'
    split_ifs at hv'
    exact h.queued v' vote' hv'
  sent v' hv' := by
    change (votes.pending.erase v).lookup v' = none at hv'
    rw [Table.lookup_erase] at hv'
    change (if v' = v then some vote.category else votes.server v') = wanted v'
    split_ifs at hv' ⊢ with heq
    · rw [heq, h.queued v vote hv]
    · exact h.sent v' hv'

/-- **A flush keeps the invariant**, whatever happens to its calls. -/
theorem Inv.flushLoop (h : Inv wanted votes) {now : ℤ} {outcome : VideoID → Outcome}
    {todo : List (VideoID × PendingVote)} (hnodup : (todo.map Prod.fst).Nodup)
    (htodo : ∀ x ∈ todo, votes.pending.lookup x.1 = some x.2)
    (hfresh : ∀ x ∈ todo, ¬ Votes.Expired now x.2) :
    Inv wanted (Votes.flushLoop now outcome todo votes) := by
  induction todo generalizing votes with
  | nil => exact h
  | cons x todo ih =>
    obtain ⟨v, vote⟩ := x
    rw [List.map_cons, List.nodup_cons] at hnodup
    rw [List.forall_mem_cons] at htodo hfresh
    rw [Votes.flushLoop, if_neg hfresh.1]
    cases outcome v with
    | ok =>
      refine ih (h.ok htodo.1) hnodup.2 (fun x hx ↦ ?_) hfresh.2
      -- the other votes are still queued
      have hne : x.1 ≠ v := fun heq ↦ hnodup.1 (List.mem_map.2 ⟨x, hx, heq⟩)
      exact (Table.lookup_erase_of_ne _ hne).trans (htodo.2 x hx)
    | failed => exact h
    | lost => exact h.lost htodo.1

/-- The vote that is wanted is set on the server, and none is queued of another category. -/
theorem Inv.submit (h : Inv wanted votes) {category : String}
    (hqueued : ∀ vote ∈ votes.pending.lookup v, vote.category = category) :
    Inv (fun v' ↦ if v' = v then some category else wanted v')
      (votes.setServer v (some category)) where
  queued v' vote hv' := by
    change votes.pending.lookup v' = some vote at hv'
    split_ifs with heq
    · rw [hqueued vote (heq ▸ hv')]
    · exact h.queued v' vote hv'
  sent v' hv' := by
    change (if v' = v then some category else votes.server v') = _
    split_ifs
    · rfl
    · exact h.sent v' hv'

/-- The vote that is wanted is queued. -/
theorem Inv.enqueue (h : Inv wanted votes) (vote : PendingVote) {server : VideoID → Option String}
    (hserver : ∀ v' ≠ v, server v' = votes.server v') :
    Inv (fun v' ↦ if v' = v then some vote.category else wanted v')
      { pending := votes.pending.insert v vote, server } where
  queued v' vote' hv' := by
    rw [Table.lookup_insert] at hv'
    split_ifs at hv' ⊢
    · rw [Option.some.inj hv']
    · exact h.queued v' vote' hv'
  sent v' hv' := by
    rw [Table.lookup_insert] at hv'
    split_ifs at hv' ⊢ with heq
    exact (hserver v' heq).trans (h.sent v' hv')

/-- The vote that is not wanted any more is deleted, and none is queued. -/
theorem Inv.delete (h : Inv wanted votes) (hnone : votes.pending.lookup v = none) :
    Inv (fun v' ↦ if v' = v then none else wanted v') (votes.setServer v none) where
  queued v' vote hv' := by
    have hne : v' ≠ v := by
      rintro rfl
      rw [show votes.pending.lookup v' = some vote from hv'] at hnone
      cases hnone
    rw [if_neg hne]
    exact h.queued v' vote hv'
  sent v' hv' := by
    change (if v' = v then none else votes.server v') = _
    split_ifs
    · rfl
    · exact h.sent v' hv'

/-- **An action that overtakes no queued vote keeps the invariant.** -/
theorem inv_step {s : UserState} {e : UserEvent} (h : Inv s.wanted s.toVotes)
    (hunexpired : s.Unexpired e) (he : s.InOrder e) :
    Inv (s.step e).wanted (s.step e).toVotes := by
  cases e with
  | submitVote v category outcome now =>
    cases outcome with
    | ok => exact h.submit (he rfl)
    | failed => exact h.enqueue { category, timestamp := now } fun _ _ ↦ rfl
    | lost => exact h.enqueue { category, timestamp := now } fun _ hne ↦ if_neg hne
  | deleteVote v outcome =>
    by_cases hserver : s.server v = none
    · rwa [show s.step (.deleteVote v outcome) = s from if_pos hserver]
    · cases outcome with
      | ok =>
        rw [show s.step (.deleteVote v .ok) = s.want (s.toVotes.setServer v none) v none from
          if_neg hserver]
        exact h.delete (he hserver (by simp)).2
      | failed => rwa [show s.step (.deleteVote v .failed) = s from if_neg hserver]
      | lost => exact absurd (he hserver (by simp)).1 (by simp)
  | flush now order outcome =>
    refine h.flushLoop ?_ (fun x hx ↦ (Table.mem_rows.1 hx).1) fun x hx ↦ ?_
    · exact Table.nodup_keys_rows
    · have hrow := (Table.mem_rows.1 hx).1
      exact hunexpired x.1 (Finmap.mem_keys.2 (Finmap.mem_of_lookup_eq_some hrow)) x.2 hrow

/-- **The last action wins**, when the queue is empty: through every sequence of actions and flushes
in which no vote expires and none overtakes a queued one, the server holds what the last successful
action asked for. -/
theorem server_eq_wanted {es : List UserEvent} {s : UserState}
    (h : Steps.Run (fun s e ↦ some (step s e)) (fun s e ↦ s.Unexpired e ∧ s.InOrder e) init es s)
    (hempty : s.pending = ∅) (v : VideoID) : s.server v = s.wanted v := by
  have hinv : Inv s.wanted s.toVotes := by
    refine h.inv (I := fun s ↦ Inv s.wanted s.toVotes) ⟨fun _ _ h ↦ (by cases h), fun _ _ ↦ rfl⟩ ?_
    intro s e s' hs he hstep
    obtain rfl := Option.some.inj hstep
    exact inv_step hs he.1 he.2
  exact hinv.sent v (by rw [hempty]; rfl)

/-! ### Second thoughts -/

/-- A vote is queued and sent. -/
def oneThought : List UserEvent :=
  [.submitVote "v" "fully_ai" .failed 0, .flush 1 (.ascending VideoID) fun _ ↦ .ok]

/-- The user changes the category before the queued vote is sent. -/
def secondThoughts : List UserEvent :=
  [.submitVote "v" "fully_ai" .failed 0, .submitVote "v" "ai_assisted" .ok 1,
    .flush 2 (.ascending VideoID) fun _ ↦ .ok]

/-- The queued vote is the last one, and the server gets it. -/
theorem server_oneThought : ∃ s : UserState, s.pending = ∅ ∧ s.wanted "v" = some "fully_ai" ∧
    s.server "v" = s.wanted "v" := by
  have hexec : ∃ s, Steps.exec (fun s e ↦ some (step s e)) (fun s e ↦ s.Unexpired e ∧ s.InOrder e)
      init oneThought = some s ∧ s.pending = ∅ ∧ s.wanted "v" = some "fully_ai" := by
    refine ⟨_, rfl, ?_, rfl⟩
    decide +kernel
  obtain ⟨s, hexec, hempty, hwanted⟩ := hexec
  exact ⟨s, hempty, hwanted, server_eq_wanted (Steps.run_of_exec hexec) hempty "v"⟩

/-- **The older vote comes back**: the flush replaces the category that was sent last. -/
theorem not_server_eq_wanted_secondThoughts :
    ¬ ∀ (es : List UserEvent) (s : UserState),
      Steps.Run (fun s e ↦ some (step s e)) Unexpired init es s → s.pending = ∅ →
        ∀ v, s.server v = s.wanted v := by
  intro h
  have hrun : Steps.Run (fun s e ↦ some (step s e)) Unexpired init secondThoughts _ :=
    Steps.run_of_exec rfl
  have hserver := h secondThoughts _ hrun (by decide +kernel) "v"
  revert hserver
  decide +kernel

end UserState

end RealTube.Extension
