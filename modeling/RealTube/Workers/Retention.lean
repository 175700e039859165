import RealTube.Model.Schema
import Mathlib.Data.Finset.Option

/-!
# Failed recalculations

`Start`, `listenLoop`, `flushLoop` and `flush` of `service/score_worker.go`, and `run`,
`_listen_loop` and `_flush` of `services/score_worker.py`, with listen errors and failing
recalculations. What a recalculation does is left out here; it begins, and it returns with or
without success.

* A Go worker keeps its pending set over reconnections. Every `listenLoop` starts a flush loop; when
  it ends with an error, the context of that loop is cancelled, and the loop runs a final flush
  beside the loops started later.
* The pending set of a Python worker is a local variable of `_listen_loop`, which also flushes.

The **ledger** of a run says which ids the worker owes: received, and not recalculated successfully
since, by a recalculation that began after the last receipt. As long as a recalculation fails only
where the id is still somewhere to be taken up, nothing owed is forgotten (`owed_eq_empty_of_kept`).
Both workers drop the id of a failed recalculation otherwise (`failure_forgets`).
-/

namespace RealTube

/-! ### The pending set and the flushes -/

/-- A flush: what is left of its batch, and the id being recalculated. -/
structure Flush where
  batch : Finset VideoID
  current : Option VideoID
  deriving DecidableEq

/-- No flush is running. -/
def Flush.idle : Flush := ⟨∅, none⟩

/-- The pending set, and the flush of each flush loop. -/
structure Queue where
  pending : Finset VideoID
  flush : ℕ → Flush

namespace Queue

/-- Nothing is pending, and no flush is running. -/
def empty : Queue := ⟨∅, fun _ ↦ .idle⟩

/-- The flush of loop `n` is now `f`. -/
def setFlush (q : Queue) (n : ℕ) (f : Flush) : Queue :=
  { q with flush := Function.update q.flush n f }

theorem setFlush_flush (q : Queue) (n m : ℕ) (f : Flush) :
    (q.setFlush n f).flush m = if m = n then f else q.flush m := Function.update_apply ..

/-- A notification is received. -/
def receive (payload : VideoID) (q : Queue) : Queue :=
  if payload = "" then q else { q with pending := insert payload q.pending }

/-- Flush loop `n`, with no flush running, swaps out the pending set. -/
def swap (n : ℕ) (q : Queue) : Option Queue :=
  if q.flush n = .idle then some ({ q with pending := ∅ }.setFlush n ⟨q.pending, none⟩) else none

/-- The flush of loop `n` takes an id of its batch and begins its recalculation. -/
def recalculate (n : ℕ) (videoID : VideoID) (q : Queue) : Option Queue :=
  if videoID ∈ (q.flush n).batch ∧ (q.flush n).current = none then
    some (q.setFlush n ⟨(q.flush n).batch.erase videoID, some videoID⟩)
  else none

/-- The recalculation of the flush of loop `n` returns. It goes on with the next id, with an error
or without. -/
def recalculated (n : ℕ) (q : Queue) : Option Queue :=
  if (q.flush n).current ≠ none then some (q.setFlush n ⟨(q.flush n).batch, none⟩) else none

/-- The pending set is empty and no flush is running. -/
def Idle (q : Queue) : Prop := q.pending = ∅ ∧ ∀ n, q.flush n = .idle

/-- There has been no flush loop but number 0. -/
def OneLoop (q : Queue) : Prop := ∀ n ≠ 0, q.flush n = .idle

theorem OneLoop.setFlush {q : Queue} (h : q.OneLoop) (f : Flush) : (q.setFlush 0 f).OneLoop := by
  intro n hn
  rw [setFlush_flush, if_neg hn]
  exact h n hn

theorem OneLoop.idle {q : Queue} (h : q.OneLoop) (hpending : q.pending = ∅) :
    (q.setFlush 0 .idle).Idle := by
  refine ⟨hpending, fun n ↦ ?_⟩
  rw [setFlush_flush]
  split_ifs with hn
  · rfl
  · exact h n hn

end Queue

/-! ### The workers -/

/-- What happens to a worker. -/
inductive QueueEvent where
  /-- The worker listens on a connection. -/
  | listen
  /-- The listening, or the attempt to listen, ends with an error. -/
  | listenError
  /-- A notification is received. -/
  | notification (payload : VideoID)
  /-- Flush loop `n` ticks. -/
  | tick (n : ℕ)
  /-- Flush loop `n` finds its context cancelled. -/
  | done (n : ℕ)
  /-- The flush of loop `n` begins a recalculation. -/
  | recalculate (n : ℕ) (videoID : VideoID)
  /-- The recalculation of loop `n` returns. -/
  | recalculated (n : ℕ) (ok : Bool)

namespace Go

/-- Where a flush loop stands. -/
inductive LoopStatus where
  | running
  | cancelled
  | returned
  deriving DecidableEq

/-- `flushCancel`. -/
def LoopStatus.cancel : LoopStatus → LoopStatus
  | running => cancelled
  | status => status

/-- `ScoreWorker`, with its goroutines: whether a `listenLoop` is listening, how many flush loops
there have been, and where each of them stands. -/
structure ScoreWorker where
  queue : Queue
  listening : Bool
  started : ℕ
  status : ℕ → LoopStatus

/-- `NewScoreWorker`. -/
def newScoreWorker : ScoreWorker := ⟨.empty, false, 0, fun _ ↦ .returned⟩

/-- The worker after an event; `none` when the event cannot happen. -/
def ScoreWorker.step (w : ScoreWorker) : QueueEvent → Option ScoreWorker
  | .listen =>
    if w.listening then none
    else some { w with
      listening := true
      started := w.started + 1
      status := Function.update w.status w.started .running }
  | .listenError => some { w with listening := false, status := fun n ↦ (w.status n).cancel }
  | .notification payload =>
    if w.listening then some { w with queue := w.queue.receive payload } else none
  | .tick n =>
    if w.status n ≠ .returned then (w.queue.swap n).map fun queue ↦ { w with queue } else none
  | .done n =>
    -- the final flush, with which the loop returns
    if w.status n = .cancelled then
      (w.queue.swap n).map fun queue ↦
        { w with queue, status := Function.update w.status n .returned }
    else none
  | .recalculate n videoID => (w.queue.recalculate n videoID).map fun queue ↦ { w with queue }
  | .recalculated n _ => (w.queue.recalculated n).map fun queue ↦ { w with queue }

end Go

namespace Python

/-- The score worker: the locals of `_listen_loop` while it is listening. The loop is its own flush
loop, number 0. -/
abbrev ScoreWorker : Type := Option Queue

/-- The worker after an event; `none` when the event cannot happen. The loop listens for errors
between its flushes only, because `_flush` catches those of a recalculation. -/
def ScoreWorker.step : ScoreWorker → QueueEvent → Option ScoreWorker
  | none, .listen => some (some .empty)
  | none, .listenError => some none
  | some q, .listenError => if q.flush 0 = .idle then some none else none
  | some q, .notification payload => some (some (q.receive payload))
  | some q, .tick 0 => (q.swap 0).map some
  | some q, .recalculate 0 videoID => (q.recalculate 0 videoID).map some
  | some q, .recalculated 0 _ => (q.recalculated 0).map some
  | _, _ => none

end Python

/-! ### What a worker owes -/

/-- What a run has come to: the ids owed, and for each loop the id being recalculated, if that began
after its last receipt. -/
structure Ledger where
  owed : Finset VideoID
  fresh : ℕ → Option VideoID

/-- Loop `n` recalculates for the receipts so far, or no more. -/
def Ledger.setFresh (l : Ledger) (n : ℕ) (videoID : Option VideoID) : Ledger :=
  { l with fresh := Function.update l.fresh n videoID }

theorem Ledger.setFresh_fresh (l : Ledger) (n m : ℕ) (videoID : Option VideoID) :
    (l.setFresh n videoID).fresh m = if m = n then videoID else l.fresh m :=
  Function.update_apply ..

/-- The ledger after a notification. -/
def Ledger.receive (payload : VideoID) (l : Ledger) : Ledger :=
  if payload = "" then l
  else
    { owed := insert payload l.owed
      fresh := fun n ↦ if l.fresh n = some payload then none else l.fresh n }

/-- The ledger after an event. -/
def Ledger.step (l : Ledger) : QueueEvent → Ledger
  | .notification payload => l.receive payload
  | .recalculate n videoID => l.setFresh n (some videoID)
  | .recalculated n ok =>
    { l with owed := if ok then l.owed \ (l.fresh n).toFinset else l.owed }.setFresh n none
  | _ => l

/-- The ledger of a history. -/
def ledger (es : List QueueEvent) : Ledger := es.foldl Ledger.step ⟨∅, fun _ ↦ none⟩

theorem ledger_snoc (es : List QueueEvent) (e : QueueEvent) :
    ledger (es ++ [e]) = (ledger es).step e := List.foldl_concat ..

/-- Runs of a worker from `init` with their histories, whose steps all satisfy `P`. -/
inductive QueueRun {S : Type} (step : S → QueueEvent → Option S) (init : S)
    (P : Ledger → S → QueueEvent → Prop) : List QueueEvent → S → Prop
  | init : QueueRun step init P [] init
  | step {es : List QueueEvent} {s s' : S} {e : QueueEvent} : QueueRun step init P es s →
      P (ledger es) s e → step s e = some s' → QueueRun step init P (es ++ [e]) s'

/-! ### Nothing owed is forgotten -/

/-- Everything owed is pending, in a batch, or being recalculated since its last receipt. -/
structure Ledger.Covered (l : Ledger) (q : Queue) : Prop where
  owed : ∀ v ∈ l.owed, v ∈ q.pending ∨ ∃ n, v ∈ (q.flush n).batch ∨ l.fresh n = some v
  fresh : ∀ n v, l.fresh n = some v → (q.flush n).current = some v

/-- A failure that forgets nothing: the id is owed no more, or is pending, in a batch, or being
recalculated by another loop. -/
def Ledger.KeptOnFailure (l : Ledger) (q : Queue) (n : ℕ) : Prop :=
  ∀ v ∈ l.fresh n, v ∉ l.owed ∨ v ∈ q.pending ∨
    ∃ m, v ∈ (q.flush m).batch ∨ m ≠ n ∧ l.fresh m = some v

theorem covered_empty : (ledger []).Covered .empty :=
  ⟨fun _ hv ↦ absurd hv (Finset.notMem_empty _), fun _ _ hv ↦ nomatch hv⟩

theorem Ledger.Covered.owed_eq_empty {l : Ledger} {q : Queue} (h : l.Covered q) (hq : q.Idle) :
    l.owed = ∅ := by
  refine Finset.eq_empty_of_forall_notMem fun v hv ↦ ?_
  rcases h.owed v hv with hmem | ⟨n, hmem | hfresh⟩
  · exact Finset.notMem_empty v (hq.1 ▸ hmem)
  · rw [hq.2 n] at hmem
    exact Finset.notMem_empty v hmem
  · have hcurrent := h.fresh n v hfresh
    rw [hq.2 n] at hcurrent
    cases hcurrent

theorem Ledger.Covered.receive {l : Ledger} {q : Queue} (h : l.Covered q) (payload : VideoID) :
    (l.receive payload).Covered (q.receive payload) := by
  rw [Ledger.receive, Queue.receive]
  split_ifs with hempty
  · exact h
  · refine ⟨fun v hv ↦ ?_, fun n v hfresh ↦ ?_⟩
    · by_cases hpayload : v = payload
      · exact Or.inl (Finset.mem_insert.2 (Or.inl hpayload))
      · rcases h.owed v ((Finset.mem_insert.1 hv).resolve_left hpayload) with hmem | ⟨n, hn⟩
        · exact Or.inl (Finset.mem_insert_of_mem hmem)
        · refine Or.inr ⟨n, hn.imp_right fun hfresh ↦ ?_⟩
          exact (if_neg fun h ↦ hpayload (Option.some.inj (hfresh.symm.trans h))).trans hfresh
    · have hif : (if l.fresh n = some payload then none else l.fresh n) = some v := hfresh
      split_ifs at hif
      exact h.fresh n v hif

theorem Ledger.Covered.swap {l : Ledger} {q q' : Queue} (h : l.Covered q) {n : ℕ}
    (hq : q.swap n = some q') : l.Covered q' := by
  rw [Queue.swap] at hq
  split_ifs at hq with hidle
  cases hq
  refine ⟨fun v hv ↦ ?_, fun m v hfresh ↦ ?_⟩
  · rcases h.owed v hv with hmem | ⟨m, hmem | hfresh⟩
    · refine Or.inr ⟨n, Or.inl ?_⟩
      rwa [Queue.setFlush_flush, if_pos rfl]
    · -- the batch of another loop: that of `n` is empty
      have hmn : m ≠ n := by
        rintro rfl
        rw [hidle] at hmem
        exact Finset.notMem_empty v hmem
      refine Or.inr ⟨m, Or.inl ?_⟩
      rwa [Queue.setFlush_flush, if_neg hmn]
    · exact Or.inr ⟨m, Or.inr hfresh⟩
  · have hcurrent := h.fresh m v hfresh
    have hmn : m ≠ n := by
      rintro rfl
      rw [hidle] at hcurrent
      cases hcurrent
    rwa [Queue.setFlush_flush, if_neg hmn]

theorem Ledger.Covered.recalculate {l : Ledger} {q q' : Queue} (h : l.Covered q) {n : ℕ}
    {videoID : VideoID} (hq : q.recalculate n videoID = some q') :
    (l.step (.recalculate n videoID)).Covered q' := by
  rw [Queue.recalculate] at hq
  split_ifs at hq with hbegin
  obtain ⟨-, hnone⟩ := hbegin
  cases hq
  refine ⟨fun v hv ↦ ?_, fun m v hfresh ↦ ?_⟩ <;> rw [Ledger.step] at *
  · by_cases hvideo : v = videoID
    · exact Or.inr ⟨n, Or.inr (by rw [Ledger.setFresh_fresh, if_pos rfl, hvideo])⟩
    · refine (h.owed v hv).imp_right fun ⟨m, hm⟩ ↦ ⟨m, ?_⟩
      rw [Queue.setFlush_flush, Ledger.setFresh_fresh]
      by_cases hmn : m = n
      · subst hmn
        have hbatch := hm.resolve_right fun hfresh ↦ by
          have hcurrent := h.fresh m v hfresh
          rw [hnone] at hcurrent
          cases hcurrent
        rw [if_pos rfl]
        exact Or.inl (Finset.mem_erase.2 ⟨hvideo, hbatch⟩)
      · rwa [if_neg hmn, if_neg hmn]
  · rw [Queue.setFlush_flush]
    rw [Ledger.setFresh_fresh] at hfresh
    split_ifs at hfresh ⊢
    · exact hfresh
    · exact h.fresh m v hfresh

/-- **A recalculation returns.** A failure that is kept forgets nothing. -/
theorem Ledger.Covered.recalculated {l : Ledger} {q q' : Queue} (h : l.Covered q)
    {n : ℕ} {ok : Bool}
    (hkept : ok = false → l.KeptOnFailure q n) (hq : q.recalculated n = some q') :
    (l.step (.recalculated n ok)).Covered q' := by
  rw [Queue.recalculated] at hq
  split_ifs at hq
  cases hq
  have hbatch : ∀ m, ((q.setFlush n ⟨(q.flush n).batch, none⟩).flush m).batch =
      (q.flush m).batch := fun m ↦ by
    rw [Queue.setFlush_flush]
    split_ifs with hmn
    · rw [hmn]
    · rfl
  refine ⟨fun v hv ↦ ?_, fun m v hfresh ↦ ?_⟩ <;> rw [Ledger.step] at *
  · -- what is still owed is elsewhere
    obtain ⟨howed, helse⟩ : v ∈ l.owed ∧ (l.fresh n = some v → v ∈ q.pending ∨
        ∃ m, v ∈ (q.flush m).batch ∨ m ≠ n ∧ l.fresh m = some v) := by
      cases ok with
      | true =>
        obtain ⟨howed, hnot⟩ := Finset.mem_sdiff.1 hv
        exact ⟨howed, fun hfresh ↦ absurd (Option.mem_toFinset.2 hfresh) hnot⟩
      | false => exact ⟨hv, fun hfresh ↦ (hkept rfl v hfresh).resolve_left fun hnot ↦ hnot hv⟩
    have hkeep : v ∈ q.pending ∨ ∃ m, v ∈ (q.flush m).batch ∨ m ≠ n ∧ l.fresh m = some v := by
      rcases h.owed v howed with hmem | ⟨m, hmem | hfresh⟩
      · exact Or.inl hmem
      · exact Or.inr ⟨m, Or.inl hmem⟩
      · by_cases hmn : m = n
        · exact helse (hmn ▸ hfresh)
        · exact Or.inr ⟨m, Or.inr ⟨hmn, hfresh⟩⟩
    refine hkeep.imp_right fun ⟨m, hm⟩ ↦ ⟨m, ?_⟩
    rw [hbatch, Ledger.setFresh_fresh]
    exact hm.imp_right fun ⟨hmn, hfresh⟩ ↦ (if_neg hmn).trans hfresh
  · rw [Ledger.setFresh_fresh] at hfresh
    by_cases hmn : m = n
    · rw [if_pos hmn] at hfresh
      cases hfresh
    · rw [if_neg hmn] at hfresh
      rw [Queue.setFlush_flush, if_neg hmn]
      exact h.fresh m v hfresh

/-! ### The two workers -/

namespace Go

/-- A recalculation fails only where its id is kept. -/
def ScoreWorker.Kept (l : Ledger) (w : ScoreWorker) (e : QueueEvent) : Prop :=
  ∀ n, e = .recalculated n false → l.KeptOnFailure w.queue n

theorem covered_of_run {es : List QueueEvent} {w : ScoreWorker}
    (h : QueueRun ScoreWorker.step newScoreWorker ScoreWorker.Kept es w) :
    (ledger es).Covered w.queue := by
  induction h with
  | init => exact covered_empty
  | @step es w w' e _ hkept hs ih =>
    rw [ledger_snoc]
    cases e with
    | listen =>
      rw [ScoreWorker.step] at hs
      split_ifs at hs
      exact Option.some.inj hs ▸ ih
    | listenError => exact Option.some.inj hs ▸ ih
    | notification payload =>
      rw [ScoreWorker.step] at hs
      split_ifs at hs
      exact Option.some.inj hs ▸ ih.receive payload
    | tick n =>
      rw [ScoreWorker.step] at hs
      split_ifs at hs
      obtain ⟨q, hq, rfl⟩ := Option.map_eq_some_iff.1 hs
      exact ih.swap hq
    | done n =>
      rw [ScoreWorker.step] at hs
      split_ifs at hs
      obtain ⟨q, hq, rfl⟩ := Option.map_eq_some_iff.1 hs
      exact ih.swap hq
    | recalculate n videoID =>
      obtain ⟨q, hq, rfl⟩ := Option.map_eq_some_iff.1 hs
      exact ih.recalculate hq
    | recalculated n ok =>
      obtain ⟨q, hq, rfl⟩ := Option.map_eq_some_iff.1 hs
      exact ih.recalculated (fun hok ↦ hkept n (hok ▸ rfl)) hq

end Go

namespace Python

/-- A recalculation fails only where its id is kept, and the listening ends with an error only when
nothing pending is owed. -/
def ScoreWorker.Kept (l : Ledger) (w : ScoreWorker) (e : QueueEvent) : Prop :=
  ∀ q, w = some q → (∀ n, e = .recalculated n false → l.KeptOnFailure q n) ∧
    (e = .listenError → ∀ v ∈ q.pending, v ∉ l.owed)

/-- The pending set is empty and no flush is running. -/
def ScoreWorker.Idle : ScoreWorker → Prop
  | none => True
  | some q => q.Idle

/-- What is owed is in the locals of `_listen_loop`; it has one flush loop. -/
def ScoreWorker.Covers (l : Ledger) : ScoreWorker → Prop
  | none => l.Covered .empty
  | some q => l.Covered q ∧ q.OneLoop

/-- When the locals go, nothing is owed. -/
theorem covered_of_listenError {l : Ledger} {q : Queue} (h : ScoreWorker.Covers l (some q))
    (hidle : q.flush 0 = .idle) (hkept : ∀ v ∈ q.pending, v ∉ l.owed) : l.Covered .empty := by
  have hflush : ∀ n, q.flush n = .idle := fun n ↦
    if hn : n = 0 then hn ▸ hidle else h.2 n hn
  refine ⟨fun v hv ↦ ?_, fun n v hfresh ↦ ?_⟩
  · rcases h.1.owed v hv with hmem | ⟨n, hmem | hfresh⟩
    · exact absurd hv (hkept v hmem)
    · rw [hflush n] at hmem
      exact absurd hmem (Finset.notMem_empty v)
    · exact Or.inr ⟨n, Or.inr hfresh⟩
  · have hcurrent := h.1.fresh n v hfresh
    rw [hflush n] at hcurrent
    cases hcurrent

theorem covers_of_run {es : List QueueEvent} {w : ScoreWorker}
    (h : QueueRun ScoreWorker.step none ScoreWorker.Kept es w) : w.Covers (ledger es) := by
  induction h with
  | init => exact covered_empty
  | @step es w w' e _ hkept hs ih =>
    rw [ledger_snoc]
    unfold ScoreWorker.step at hs
    split at hs
    · exact Option.some.inj hs ▸ ⟨ih, fun _ _ ↦ rfl⟩
    · exact Option.some.inj hs ▸ ih
    · split_ifs at hs with hidle
      exact Option.some.inj hs ▸ covered_of_listenError ih hidle ((hkept _ rfl).2 rfl)
    · refine Option.some.inj hs ▸ ⟨ih.1.receive _, fun n hn ↦ ?_⟩
      rw [Queue.receive]
      split_ifs <;> exact ih.2 n hn
    · obtain ⟨q, hq, rfl⟩ := Option.map_eq_some_iff.1 hs
      refine ⟨ih.1.swap hq, ?_⟩
      rw [Queue.swap] at hq
      split_ifs at hq
      exact Option.some.inj hq ▸ ih.2.setFlush _
    · obtain ⟨q, hq, rfl⟩ := Option.map_eq_some_iff.1 hs
      refine ⟨ih.1.recalculate hq, ?_⟩
      rw [Queue.recalculate] at hq
      split_ifs at hq
      exact Option.some.inj hq ▸ ih.2.setFlush _
    · obtain ⟨q', hq, rfl⟩ := Option.map_eq_some_iff.1 hs
      refine ⟨ih.1.recalculated (fun hok ↦ (hkept _ rfl).1 0 (hok ▸ rfl)) hq, ?_⟩
      rw [Queue.recalculated] at hq
      split_ifs at hq
      exact Option.some.inj hq ▸ ih.2.setFlush _
    · cases hs

end Python

/-- **Nothing is forgotten as long as failures are kept.** In every run of a worker of either
backend in which a recalculation fails only where its id is kept, and in which Python's listening
ends with an error only when nothing pending is owed, nothing is owed whenever the pending set is
empty and no flush is running. -/
theorem owed_eq_empty_of_kept (es : List QueueEvent) :
    (∀ w, QueueRun Go.ScoreWorker.step Go.newScoreWorker Go.ScoreWorker.Kept es w →
      w.queue.Idle → (ledger es).owed = ∅) ∧
    ∀ w, QueueRun Python.ScoreWorker.step none Python.ScoreWorker.Kept es w →
      w.Idle → (ledger es).owed = ∅ := by
  refine ⟨fun w h hidle ↦ (Go.covered_of_run h).owed_eq_empty hidle, fun w h hidle ↦ ?_⟩
  have hcovers := Python.covers_of_run h
  cases w with
  | none => exact hcovers.owed_eq_empty ⟨rfl, fun _ ↦ rfl⟩
  | some q => exact hcovers.1.owed_eq_empty hidle

/-- Events that need no condition extend a run. -/
theorem queueRun_append {S : Type} {step : S → QueueEvent → Option S} {init : S}
    {P : Ledger → S → QueueEvent → Prop} (es : List QueueEvent) {es' : List QueueEvent} {s s' : S}
    (hP : ∀ e ∈ es', ∀ l s, P l s e) (h : QueueRun step init P es s)
    (hs : es'.foldlM step s = some s') : QueueRun step init P (es ++ es') s' := by
  induction es' generalizing es s with
  | nil =>
    rw [List.append_nil]
    exact Option.some.inj hs ▸ h
  | cons e es' ih =>
    rw [List.foldlM_cons] at hs
    obtain ⟨mid, hmid, hrest⟩ := Option.bind_eq_some_iff.1 hs
    rw [← List.singleton_append, ← List.append_assoc]
    exact ih _ (fun e he ↦ hP e (List.mem_cons_of_mem _ he))
      (h.step (hP e List.mem_cons_self _ _) hmid)
      hrest

/-- A video is recalculated, with notifications before and during its recalculation. -/
def notifiedTwice : List QueueEvent :=
  [.listen, .notification "v", .tick 0, .recalculate 0 "v", .notification "v"]

/-- The first recalculation fails, and the second does not. -/
def secondSucceeds : List QueueEvent :=
  [.tick 0, .recalculate 0 "v", .recalculated 0 true]

/-- A failure that is made up for, since the video was pending again. The Python worker has failed
to listen before. -/
theorem owed_secondSucceeds :
    (ledger (notifiedTwice ++ [.recalculated 0 false] ++ secondSucceeds)).owed = ∅ ∧
      (ledger ([.listenError] ++ notifiedTwice ++ [.recalculated 0 false] ++
        secondSucceeds)).owed = ∅ := by
  have hevents : ∀ e ∈ notifiedTwice ++ secondSucceeds, e ≠ .listenError ∧
      ∀ n, e ≠ .recalculated n false := by simp [notifiedTwice, secondSucceeds]
  have hfirst : ∀ e ∈ notifiedTwice, _ := fun e he ↦ hevents e (List.mem_append_left _ he)
  have hsecond : ∀ e ∈ secondSucceeds, _ := fun e he ↦ hevents e (List.mem_append_right _ he)
  -- at the failure, the recalculation has missed a receipt
  have hkept : ∀ {l : Ledger} (q : Queue), l.fresh 0 = none → l.KeptOnFailure q 0 :=
    fun q hfresh v hv ↦ absurd hv (hfresh ▸ Option.not_mem_none v)
  have hloop : Queue.OneLoop .empty := fun _ _ ↦ rfl
  constructor
  · refine (owed_eq_empty_of_kept _).1 _ (queueRun_append _ (fun e he _ _ n hn ↦ ?_)
      (.step (queueRun_append [] (fun e he _ _ n hn ↦ ?_) .init rfl) (fun n hn ↦ ?_) rfl) rfl) ?_
    · exact absurd hn ((hsecond e he).2 n)
    · exact absurd hn ((hfirst e he).2 n)
    · cases hn
      exact hkept _ (by decide)
    · exact (((((hloop.setFlush _).setFlush _).setFlush _).setFlush _).setFlush _).idle rfl
  · refine (owed_eq_empty_of_kept _).2 _ (queueRun_append _ (fun e he _ _ q _ ↦ ⟨fun n hn ↦ ?_, ?_⟩)
      (.step (queueRun_append _ (fun e he _ _ q _ ↦ ⟨fun n hn ↦ ?_, ?_⟩)
        (.step .init (fun q hq ↦ nomatch hq) rfl) rfl) (fun q _ ↦ ⟨fun n hn ↦ ?_, ?_⟩) rfl) rfl) ?_
    · exact absurd hn ((hsecond e he).2 n)
    · exact fun hn ↦ absurd hn (hsecond e he).1
    · exact absurd hn ((hfirst e he).2 n)
    · exact fun hn ↦ absurd hn (hfirst e he).1
    · cases hn
      exact hkept q (by decide)
    · exact fun hn ↦ nomatch hn
    · exact (((((hloop.setFlush _).setFlush _).setFlush _).setFlush _).setFlush _).idle rfl

/-- A recalculation fails, and the batch goes on. -/
def failure : List QueueEvent :=
  [.listen, .notification "v", .tick 0, .recalculate 0 "v", .recalculated 0 false]

/-- **A failed recalculation is forgotten**, by both workers: nothing is pending, nothing is
running, and the video is owed. -/
theorem failure_forgets :
    (¬ ∀ es w, QueueRun Go.ScoreWorker.step Go.newScoreWorker (fun _ _ _ ↦ True) es w →
      w.queue.Idle → (ledger es).owed = ∅) ∧
    ¬ ∀ es w, QueueRun Python.ScoreWorker.step none (fun _ _ _ ↦ True) es w →
      w.Idle → (ledger es).owed = ∅ := by
  have howed : (ledger failure).owed ≠ ∅ := by decide
  have hloop : Queue.OneLoop .empty := fun _ _ ↦ rfl
  constructor
  · intro h
    exact howed (h failure _ (queueRun_append [] (fun _ _ _ _ ↦ trivial) .init rfl)
      (((hloop.setFlush _).setFlush _).idle rfl))
  · intro h
    exact howed (h failure _ (queueRun_append [] (fun _ _ _ _ ↦ trivial) .init rfl)
      (((hloop.setFlush _).setFlush _).idle rfl))

end RealTube
