import RealTube.Users.Totals
import RealTube.Model.Handlers
import RealTube.Model.HashPrefix
import RealTube.Concurrency.Footprint
import RealTube.Store.ReadCommitted

/-!
# The identifiers in the database

Every write path of the API goes through a validator, so the ids in the tables are those the
validators accept, whatever strings the requests hold. The argument does not look at what a request
does: it can only write the rows it owns (`within_code`), and its ids are valid
(`allows_of_submitHandler` and its siblings).

So requests may run in any interleaving. `Api.Reachable` lets any write that any statement of any
request can make, on any view, happen at any time. The states of serial runs and of runs under READ
COMMITTED are among its states (`Api.Reachable.serve`, `Api.Reachable.committed`).

With such ids no lookup by hash prefix fails, and with a validated prefix its pattern means what it
says (`identifiers_allowed`).
-/

open Tx

namespace RealTube

/-! ### Requests -/

/-- A request of the API that may write, with its times. -/
inductive ApiRequest where
  | submitVote (b : Backend) (ip : String) (now : Time) (body : Option VoteBody)
  | deleteVote (b : Backend) (now : Time) (body : Option VoteDeleteBody)
  | lookupUser (b : Backend) (createdAt answeredAt : Time) (userID : Text)

/-- What a request does once it has been checked. -/
def ApiRequest.event (lower : Backend → Text.LowerCase) : ApiRequest → Except ApiError UserEvent
  | submitVote b ip now body => do return .vote (.submit b (← b.submitHandler lower ip now body))
  | deleteVote b now body => do return .vote (.delete b (← b.deleteHandler lower now body))
  | lookupUser b createdAt answeredAt userID => do
    return .lookup (← b.userHandler lower createdAt answeredAt userID)

/-- A statement can make the write, on some view, after statements on any views. -/
def UserEvent.CanWrite (w : Write) : UserEvent → Prop
  | vote call => ∃ views, w ∈ call.code.log views
  | lookup q => ∃ views, w ∈ (lookupOrCreate q).log views

/-- **The states the API can reach**: a write of any request may happen at any time. -/
inductive Api.Reachable (lower : Backend → Text.LowerCase) (channels : Table ChannelID Channel) :
    DB → Prop
  | start : Reachable lower channels (DB.start ∅ channels)
  | write {db : DB} (h : Reachable lower channels db) {r : ApiRequest} {e : UserEvent}
      (he : r.event lower = .ok e) {w : Write} (hw : e.CanWrite w) :
      Reachable lower channels (db.write w)

/-! ### The invariant -/

/-- The ids of a row are valid. -/
def Row.Allowed : Row → Prop
  | user u => userIDRule.Allows u
  | video v => videoIDRule.Allows v
  | videoCategory v _ => videoIDRule.Allows v
  | vote v u => videoIDRule.Allows v ∧ userIDRule.Allows u
  | channel _ => True

/-- **The ids in the tables are valid.** -/
structure DB.IdentifiersAllowed (db : DB) : Prop where
  video : ∀ v, db.videos.lookup v ≠ none → videoIDRule.Allows v
  user : ∀ u, db.users.lookup u ≠ none → userIDRule.Allows u
  vote : ∀ v u, db.votes.lookup (v, u) ≠ none → videoIDRule.Allows v ∧ userIDRule.Allows u

/-- A write of a row with valid ids keeps the ids valid. -/
theorem DB.IdentifiersAllowed.write {db : DB} (h : db.IdentifiersAllowed) {w : Write}
    (hw : ∀ r, w.row = some r → r.Allowed) : (db.write w).IdentifiersAllowed := by
  cases w with
  | user u row => exact ⟨h.video, Table.forall_lookup_insert (hw _ rfl) h.user, h.vote⟩
  | video v row => exact ⟨Table.forall_lookup_insert (hw _ rfl) h.video, h.user, h.vote⟩
  | videoCategory v c row => exact ⟨h.video, h.user, h.vote⟩
  | vote v u row =>
    refine ⟨h.video, h.user, fun v' u' hv' ↦ ?_⟩
    rw [DB.write, Table.lookup_insert] at hv'
    split_ifs at hv' with hkey
    · obtain ⟨rfl, rfl⟩ := Prod.mk.inj hkey
      exact hw _ rfl
    · exact h.vote v' u' hv'
  | dropVote v u =>
    refine ⟨h.video, h.user, fun v' u' hv' ↦ h.vote v' u' fun hnone ↦ hv' ?_⟩
    rw [DB.write, Table.lookup_erase, hnone]
    exact ite_self none
  | channel ch row => exact ⟨h.video, h.user, h.vote⟩
  | notify v => exact h

theorem touches_createIfNotExists {now : Time} {u : UserID} :
    Touches (createIfNotExists now u) (.user u) where
  same h := by rw [createIfNotExists, createIfNotExists, show _ = _ from h]
  row {s x} hx := by
    rw [createIfNotExists] at hx
    split at hx <;> simp_all [RowStore.row, Write.row]

/-- The row a lookup can write: that of its user. -/
def LookupRequest.Owns (q : LookupRequest) : Row → Prop
  | .user u => u = q.userID
  | _ => False

/-- A lookup writes nothing else. -/
theorem within_lookupOrCreate (q : LookupRequest) : (lookupOrCreate q).Within q.Owns := by
  have hown : q.Owns (.user q.userID) := rfl
  rw [lookupOrCreate, query_bind]
  refine .read fun s ↦ ?_
  cases findByUserID q.userID s with
  | some row => trivial
  | none =>
    simp only [exec_bind, query_bind]
    exact .write touches_createIfNotExists hown fun _ ↦ .read fun _ ↦ trivial

/-- **A request writes rows with valid ids only.** -/
theorem allowed_of_canWrite {lower : Backend → Text.LowerCase} {r : ApiRequest} {e : UserEvent}
    (he : r.event lower = .ok e) {w : Write} (hw : e.CanWrite w) :
    ∀ row, w.row = some row → row.Allowed := by
  -- a vote request owns rows with its own ids
  have hvote : ∀ call : VoteCall, videoIDRule.Allows call.videoID ∧ userIDRule.Allows call.userID →
      UserEvent.CanWrite w (.vote call) → ∀ row, w.row = some row → row.Allowed := by
    rintro call ⟨hvideo, huser⟩ ⟨views, hmem⟩ row hrow
    have howns := (within_code call).log views row (RowStore.mem_rows.2 ⟨w, hmem, hrow⟩)
    cases row with
    | user u => exact show userIDRule.Allows u from (show u = _ from howns) ▸ huser
    | video v => exact show videoIDRule.Allows v from (show v = _ from howns) ▸ hvideo
    | videoCategory v c => exact show videoIDRule.Allows v from (show v = _ from howns) ▸ hvideo
    | vote v u => exact ⟨howns.1 ▸ hvideo, howns.2 ▸ huser⟩
    | channel ch => trivial
  cases r with
  | submitVote b ip now body =>
    obtain ⟨q, hq, heq⟩ := bind_eq_ok_iff.1 he
    obtain rfl := Except.ok.inj heq
    exact hvote (.submit b q) (allows_of_submitHandler hq) hw
  | deleteVote b now body =>
    obtain ⟨q, hq, heq⟩ := bind_eq_ok_iff.1 he
    obtain rfl := Except.ok.inj heq
    exact hvote (.delete b q) (allows_of_deleteHandler hq) hw
  | lookupUser b createdAt answeredAt userID =>
    obtain ⟨q, hq, heq⟩ := bind_eq_ok_iff.1 he
    obtain rfl := Except.ok.inj heq
    obtain ⟨views, hmem⟩ := hw
    intro row hrow
    have howns := (within_lookupOrCreate q).log views row (RowStore.mem_rows.2 ⟨w, hmem, hrow⟩)
    cases row with
    | user u =>
      obtain rfl : u = _ := howns
      exact allows_of_userHandler hq
    | _ => exact howns.elim

namespace Api.Reachable

variable {lower : Backend → Text.LowerCase} {channels : Table ChannelID Channel} {db : DB}

theorem allowed (h : Reachable lower channels db) : db.IdentifiersAllowed := by
  induction h with
  | start => exact ⟨fun _ h ↦ absurd rfl h, fun _ h ↦ absurd rfl h, fun _ _ h ↦ absurd rfl h⟩
  | write _ he hw ih => exact ih.write (allowed_of_canWrite he hw)

/-! ### Serial and concurrent runs -/

/-- Writes of one request may happen one after another. -/
theorem applyAll (h : Reachable lower channels db) {r : ApiRequest} {e : UserEvent}
    (he : r.event lower = .ok e) {ws : List Write} (hws : ∀ w ∈ ws, e.CanWrite w) :
    Reachable lower channels (RowStore.applyAll db ws) := by
  induction ws generalizing db with
  | nil => exact h
  | cons w ws ih =>
    obtain ⟨hw, hws⟩ := List.forall_mem_cons.1 hws
    exact ih (h.write he hw) hws

/-- **A request that is served alone** ends in a reachable state. -/
theorem serve (h : Reachable lower channels db) {r : ApiRequest} {e : UserEvent}
    (he : r.event lower = .ok e) : Reachable lower channels (e.step db) := by
  cases e with
  | vote call =>
    obtain ⟨views, hviews⟩ := exists_log_eq_writes call.code db
    have hrun : Reachable lower channels (call.code.run db).2 := by
      rw [run_snd]
      exact h.applyAll he fun w hw ↦ ⟨views, hviews.symm ▸ hw⟩
    rw [UserEvent.step, VoteEvent.step, runTx]
    split <;> rename_i heq
    · rwa [heq] at hrun
    · exact h
  | lookup q =>
    obtain ⟨views, hviews⟩ := exists_log_eq_writes (lookupOrCreate q) db
    rw [UserEvent.step, run_snd]
    exact h.applyAll he fun w hw ↦ ⟨views, hviews.symm ▸ hw⟩

/-- **Vote requests under READ COMMITTED** commit reachable states. -/
theorem committed {ι : Type} [DecidableEq ι] [Fintype ι] {calls : ι → VoteCall}
    (hcalls : ∀ i, ∃ r : ApiRequest, r.event lower = .ok (.vote (calls i)))
    (h₀ : Reachable lower channels db) {sys : ReadCommitted.Sys DB ι}
    (h : ReadCommitted.Reachable (fun i ↦ (calls i).code) db sys) :
    Reachable lower channels sys.committed := by
  induction h with
  | init => exact h₀
  | @step sys sys' i _ _ hstep ih =>
    obtain ⟨-, ⟨a, -, rfl⟩ | ⟨e, -, rfl⟩ | ⟨w, k, -, -, rfl⟩⟩ := ReadCommitted.step_cases hstep
    · obtain ⟨r, hr⟩ := hcalls i
      exact ih.applyAll hr fun w hw ↦ ⟨sys.seen i, hw⟩
    · exact ih
    · exact ih

end Api.Reachable

/-! ### What holds in every state -/

/-- **Every id in the database is valid, and no lookup by hash prefix fails**: in every state the
API can reach, all ids are made of the characters of their class and have their length; and for
every prefix a validator accepts, the query has an answer, and its pattern has no special character
besides the `%` at the end. -/
theorem identifiers_allowed (lower : Backend → Text.LowerCase) (channels : Table ChannelID Channel)
    {db : DB} (h : Api.Reachable lower channels db) :
    db.IdentifiersAllowed ∧
      ∀ (sha256 : List UInt8 → Digest) (b : Backend) (p : Text) (q : String),
        b.validateHashPrefix (lower b) p = .ok q →
          ¬ HashPrefixAnswer sha256 q db none ∧ ∀ c ∈ q.toList, c ∉ likeSpecial := by
  refine ⟨h.allowed, fun sha256 b p q hq ↦ ⟨fun hanswer ↦ ?_, ?_⟩⟩
  · cases hanswer with
    | castError hv hcast =>
      rw [castVideoID_of_allows (h.allowed.video _ hv)] at hcast
      exact Option.some_ne_none _ hcast
  · exact notMem_likeSpecial (validateHashPrefix_eq_ok_iff.1 hq).2

/-- A request with spaces and a newline around its ids. -/
def paddedVote : ApiRequest := .submitVote .python "127.0.0.1" 0 (some
  { videoID := Text.ofString " dQw4w9WgXcQ\n", category := Text.ofString "fully_ai",
    userID := Text.ofString "\tAB12 ", userAgent := none })

/-- It is accepted, and its ids are stored without them. -/
theorem event_paddedVote : paddedVote.event (fun _ ↦ .ascii) = .ok (.vote (.submit .python
    { videoID := "dQw4w9WgXcQ", userID := "ab12", category := .fullyAI, ipHash := "127.0.0.1",
      userAgent := none, now := 0 })) := by
  rfl

/-- **After that request** the ids are valid, and no lookup by hash prefix fails. -/
theorem identifiers_allowed_paddedVote :
    ((DB.start ∅ ∅).runUsers [.vote (.submit .python
      { videoID := "dQw4w9WgXcQ", userID := "ab12", category := .fullyAI, ipHash := "127.0.0.1",
        userAgent := none, now := 0 })]).IdentifiersAllowed ∧
      ∀ (sha256 : List UInt8 → Digest) (b : Backend) (p : Text) (q : String),
        b.validateHashPrefix .ascii p = .ok q →
          ¬ HashPrefixAnswer sha256 q ((DB.start ∅ ∅).runUsers [.vote (.submit .python
            { videoID := "dQw4w9WgXcQ", userID := "ab12", category := .fullyAI,
              ipHash := "127.0.0.1", userAgent := none, now := 0 })]) none ∧
            ∀ c ∈ q.toList, c ∉ likeSpecial :=
  identifiers_allowed (fun _ ↦ .ascii) ∅ (Api.Reachable.start.serve event_paddedVote)

end RealTube
