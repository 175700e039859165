import RealTube.Concurrency.Footprint
import RealTube.Model.ChannelWorker

/-!
# Score workers, channel workers and votes over one database

`ScoreWorker` of `service/score_worker.go` and `services/score_worker.py`, any number of them, while
they stay connected. A worker has its own queue of notifications, the ids it has taken off the queue
(`pending`), the batch it has swapped out of `pending` and is working through, and at most one open
recalculation. The order in which it takes the ids of a batch is left open.

* A **vote request** is served in one step, in which its transaction commits. The rows it writes
  must be free then. Nothing is lost by that: until it commits, a vote shows nobody anything, and it
  keeps everybody off the rows it has written. Its notifications join the queue of every worker.
* A **recalculation** is a transaction of its own under READ COMMITTED. Its statements are steps, on
  the view its database has at that moment; it holds the rows it has written until it commits.
* A **channel worker** commits every statement. It begins the recalculation of any channel at any
  time, whether or not the one before has come to its end.
-/

open Tx

namespace RealTube

/-! ### Score workers -/

/-- An open recalculation, and the views its statements were executed on. -/
structure Job where
  backend : Backend
  request : RecalculateRequest
  views : List DB

namespace Job

/-- Its transaction. -/
def code (job : Job) : Tx DB Write (Except VoteError (Option ℚ)) :=
  (Call.recalculate job.backend job.request).code

/-- What is left of it. -/
def rest (job : Job) : Tx DB Write (Except VoteError (Option ℚ)) := job.code.rest job.views

/-- The writes it has made. -/
def log (job : Job) : List Write := job.code.log job.views

/-- The rows it holds. -/
def held (job : Job) : List Row := RowStore.rows job.log

/-- The database as it sees it. -/
def view (job : Job) (db : DB) : DB := RowStore.applyAll db job.log

end Job

/-- A score worker. -/
structure ScoreWorker where
  backend : Backend
  /-- The notifications on their way to the worker. -/
  inbox : List VideoID
  /-- The video ids waiting for recalculation. -/
  pending : Finset VideoID
  /-- What is left of the batch. -/
  batch : Finset VideoID
  /-- The recalculation in progress. -/
  job : Option Job

namespace ScoreWorker

/-- A worker that has just begun to listen. -/
def init (b : Backend) : ScoreWorker := ⟨b, [], ∅, ∅, none⟩

/-- The rows the worker holds. -/
def held (w : ScoreWorker) : List Row := w.job.elim [] Job.held

/-- Notifications are sent. -/
def notify (ids : List VideoID) (w : ScoreWorker) : ScoreWorker :=
  { w with inbox := w.inbox ++ ids }

/-- The body of the loop of `listenLoop`, and `_on_notification`: an empty payload is skipped. -/
def receive (w : ScoreWorker) : Option ScoreWorker :=
  match w.inbox with
  | [] => none
  | videoID :: inbox => some { w with
      inbox, pending := if videoID = "" then w.pending else insert videoID w.pending }

/-- `flush` begins, with no other one in progress: the pending set is swapped out. -/
def flush (w : ScoreWorker) : Option ScoreWorker :=
  if w.batch = ∅ ∧ w.job.isNone then some { w with batch := w.pending, pending := ∅ } else none

/-- The loop of `flush` takes an id of the batch and begins its recalculation. -/
def recalculate (q : RecalculateRequest) (w : ScoreWorker) : Option ScoreWorker :=
  if q.videoID ∈ w.batch ∧ w.job.isNone then
    some { w with batch := w.batch.erase q.videoID, job := some ⟨w.backend, q, []⟩ }
  else none

end ScoreWorker

/-! ### The system -/

/-- The database, the score workers `ι`, and what the channel workers `κ` have still to do. -/
structure Workers (ι κ : Type) where
  db : DB
  worker : ι → ScoreWorker
  ticker : κ → Tx DB Write (Bool × ℕ)

/-- A step of the system. -/
inductive WorkerEvent (ι κ : Type) where
  /-- A vote request is served. -/
  | vote (call : VoteCall)
  /-- Somebody changes the users. -/
  | users (rows : Table UserID User)
  /-- A worker receives a notification. -/
  | receive (i : ι)
  /-- A worker swaps its pending set. -/
  | flush (i : ι)
  /-- A worker begins a recalculation. -/
  | recalculate (i : ι) (q : RecalculateRequest)
  /-- A recalculation executes a statement. -/
  | statement (i : ι)
  /-- A recalculation commits. -/
  | commit (i : ι)
  /-- A channel worker begins with a channel. -/
  | channel (k : κ) (b : Backend) (q : ChannelRequest)
  /-- A channel worker executes a statement. -/
  | channelStatement (k : κ)

/-- What the listeners are told when a vote request commits. -/
def VoteCall.notifications (call : VoteCall) (db : DB) : List VideoID :=
  match (call.code.run db).1 with
  | .ok _ => (call.code.writes db).filterMap Write.notifies
  | .error _ => []

namespace Workers

variable {ι κ : Type} [DecidableEq ι] [Fintype ι] [DecidableEq κ]

/-- Nothing is under way. -/
def init (db : DB) (backend : ι → Backend) : Workers ι κ where
  db := db
  worker i := .init (backend i)
  ticker _ := ret (false, 0)

/-- Worker `i` is now `w`. -/
def setWorker (sys : Workers ι κ) (i : ι) (w : ScoreWorker) : Workers ι κ :=
  { sys with worker := Function.update sys.worker i w }

/-- No worker but those in `mine` holds a row of the writes. -/
def Free (sys : Workers ι κ) (mine : Finset ι) (ws : List Write) : Prop :=
  ∀ i ∉ mine, ∀ r ∈ (RowStore.rows ws : List Row), r ∉ (sys.worker i).held

instance (sys : Workers ι κ) (mine : Finset ι) (ws : List Write) : Decidable (sys.Free mine ws) :=
  inferInstanceAs (Decidable (∀ i, i ∉ mine → ∀ r ∈ _, _))

/-- The system after an event; `none` when the event cannot happen. A video id is never empty:
`ValidateVideoID` has refused it before. -/
def step (sys : Workers ι κ) : WorkerEvent ι κ → Option (Workers ι κ)
  | .vote call =>
    if call.videoID ≠ "" ∧ sys.Free ∅ (call.code.writes sys.db) then
      some { sys with
        db := (call.code.runTx sys.db).2
        worker := fun i ↦ (sys.worker i).notify (call.notifications sys.db) }
    else none
  | .users rows => some { sys with db := { sys.db with users := rows } }
  | .receive i => (sys.worker i).receive.map (sys.setWorker i)
  | .flush i => (sys.worker i).flush.map (sys.setWorker i)
  | .recalculate i q => ((sys.worker i).recalculate q).map (sys.setWorker i)
  | .statement i => (sys.worker i).job.bind fun job ↦
    match job.rest with
    | ret _ => none
    | stmt w _ =>
      if sys.Free {i} (w (job.view sys.db)) then
        some (sys.setWorker i { sys.worker i with
          job := some { job with views := job.views ++ [job.view sys.db] } })
      else none
  | .commit i => (sys.worker i).job.bind fun job ↦
    match job.rest with
    | ret _ => some { sys.setWorker i { sys.worker i with job := none } with db := job.view sys.db }
    | stmt _ _ => none
  | .channel k b q => some { sys with
      ticker := Function.update sys.ticker k (recalculateChannel b q) }
  | .channelStatement k =>
    match sys.ticker k with
    | ret _ => none
    | stmt w next =>
      if sys.Free ∅ (w sys.db) then
        some { sys with
          db := RowStore.applyAll sys.db (w sys.db)
          ticker := Function.update sys.ticker k (next sys.db) }
      else none

/-- The system after a run; `none` when one of the events cannot happen. -/
def run (sys : Workers ι κ) : List (WorkerEvent ι κ) → Option (Workers ι κ)
  | [] => some sys
  | e :: es => (sys.step e).bind fun sys' ↦ sys'.run es

/-- No notification is undelivered, every pending set is empty, and no batch is being processed. -/
def Quiescent (sys : Workers ι κ) : Prop :=
  ∀ i, (sys.worker i).inbox = [] ∧ (sys.worker i).pending = ∅ ∧ (sys.worker i).batch = ∅ ∧
    (sys.worker i).job.isNone

end Workers

end RealTube
