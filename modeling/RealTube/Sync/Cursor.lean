import RealTube.Model.SyncService
import RealTube.Store.ChangeFeed
import RealTube.Store.Steps
import Mathlib.Data.String.Basic

/-!
# The cursor of the delta sync

A client that sends back the `syncTimestamp` of each delta as the next `since` reads `sync_cache`
and `channels` as two change feeds (`Store.ChangeFeed`) with one cursor. The cursor is not read off
the rows: it is the clock at the end of the call, cut to a second, whatever the two queries have
found at their own moments before.

So a change can be behind the cursor without having been answered. `complete_of_timely` says when
none is: both queries are within their limit, and no change stamped at or before the timestamp of a
call becomes visible after the query of that call (`DeltaState.Timely`). The second is a matter of
luck, as soon as a call lasts beyond the end of a second (`not_complete_secondEnds`).
-/

namespace RealTube

/-! ### The calls of a client -/

/-- The clock, the `since` of the next call, and the two tables with what has been read of them. -/
structure DeltaState where
  now : Time
  since : Time
  rows : ChangeFeed ℕ SyncCacheRow
  channels : ChangeFeed ChannelID Channel

/-- What can happen next. -/
inductive DeltaEvent where
  /-- Time passes. -/
  | pass (now : Time)
  /-- A writer adds a row to the feed. -/
  | addRow (id : ℕ) (row : SyncCacheRow)
  /-- A writer inserts or updates a channel. -/
  | updateChannel (ch : ChannelID) (row : Channel)
  /-- The first query of a call. -/
  | queryRows (order : Arrangement ℕ)
  /-- The second query. -/
  | queryChannels (order : Arrangement ChannelID)
  /-- The call reads the clock and responds. -/
  | respond

namespace DeltaState

/-- Before the first call: just after the epoch, which is its `since`. -/
def init : DeltaState := ⟨1, 0, .empty, .empty⟩

/-- The response to a call whose queries are done. -/
def response (s : DeltaState) : Option SyncDeltaResponse :=
  match s.rows.found, s.channels.found with
  | some (_, rows), some (_, channels) => some {
      videos := rows.map fun x ↦ x.2.entry
      channels := channels.map syncChannelEntry
      syncTimestamp := formatRFC3339 s.now }
  | _, _ => none

/-- The state after an event. -/
def step (s : DeltaState) : DeltaEvent → Option DeltaState
  | .pass now => if s.now ≤ now then some { s with now } else none
  | .addRow id row =>
    if s.rows.table.lookup id = none then
      some { s with rows := s.rows.write SyncCacheRow.changedAt id { row with changedAt := s.now } }
    else none
  | .updateChannel ch row => some { s with
      channels := s.channels.write Channel.lastUpdated ch { row with lastUpdated := s.now } }
  | .queryRows order =>
    if s.rows.found = none then
      some { s with rows := s.rows.find (selectChangedRows order s.since s.rows.table) }
    else none
  | .queryChannels order =>
    if s.rows.found ≠ none ∧ s.channels.found = none then
      some { s with
        channels := s.channels.find (selectChangedChannels order s.since s.channels.table) }
    else none
  | .respond => s.response.map fun resp ↦
      { s with since := resp.syncTimestamp, rows := s.rows.answer, channels := s.channels.answer }

/-- A call whose three moments are one is `DeltaSync`. -/
theorem response_eq_deltaSync (s : DeltaState) (db : SyncDB) (rowOrder : Arrangement ℕ)
    (channelOrder : Arrangement ChannelID) (hrows : db.syncCache = s.rows.table)
    (hchannels : db.channels = s.channels.table) :
    response { s with
        rows := s.rows.find (selectChangedRows rowOrder s.since s.rows.table)
        channels := s.channels.find
          (selectChangedChannels channelOrder s.since s.channels.table) } =
      some (deltaSync rowOrder channelOrder s.since s.now db) := by
  rw [deltaSync, hrows, hchannels]
  rfl

/-- The event does not let a change slip behind the cursor: no change is stamped at or before it, a
query finds no more rows than its limit, and when the call responds, the changes up to its timestamp
were there for the queries to see. -/
def Timely (s : DeltaState) : DeltaEvent → Prop
  | .pass _ => True
  | .addRow _ _ => s.since < s.now
  | .updateChannel _ _ => s.since < s.now
  | .queryRows _ => (s.rows.table.count fun _ row ↦ s.since < row.changedAt) ≤ deltaLimit
  | .queryChannels _ =>
    (s.channels.table.count fun _ row ↦ s.since < row.lastUpdated) ≤ deltaLimit
  | .respond => s.rows.SeenUntil s.since (formatRFC3339 s.now) ∧
      s.channels.SeenUntil s.since (formatRFC3339 s.now)

instance (s : DeltaState) (e : DeltaEvent) : Decidable (s.Timely e) := by
  cases e <;> rw [Timely] <;> infer_instance

/-- **Nothing at or before the cursor has been missed**: every row of the feed has been answered,
and every change of a channel, with the score it then had or a newer one. -/
structure Complete (s : DeltaState) : Prop where
  rows : ∀ id row, s.rows.table.lookup id = some row → row.changedAt ≤ s.since →
    (id, row) ∈ s.rows.answered
  channels : ∀ x ∈ s.channels.changes, x.2 ≤ s.since →
    ∃ row, (x.1, row) ∈ s.channels.answered ∧ x.2 ≤ row.lastUpdated

/-! ### The invariant -/

/-- Both tables are read up to the cursor, and the feed only grows. -/
structure Inv (s : DeltaState) : Prop where
  rows : ChangeFeed.Inv SyncCacheRow.changedAt s.now s.since s.rows
  channels : ChangeFeed.Inv Channel.lastUpdated s.now s.since s.channels
  found : ∀ y ∈ s.rows.found, ∀ x ∈ y.2, s.rows.table.lookup x.1 = some x.2
  answered : ∀ x ∈ s.rows.answered, s.rows.table.lookup x.1 = some x.2

theorem inv_init : init.Inv where
  rows := ChangeFeed.inv_empty
  channels := ChangeFeed.inv_empty
  found _ h := by cases h
  answered _ h := by cases h

theorem Inv.complete {s : DeltaState} (h : s.Inv) : s.Complete where
  rows id row hrow hle := by
    obtain ⟨row', hanswered, -⟩ := h.rows.complete _ (h.rows.stamped id row hrow) hle
    have hrow' := h.answered _ hanswered
    rw [hrow] at hrow'
    rwa [Option.some.inj hrow']
  channels x hx hle := h.channels.complete x hx hle

/-- A row that is there stays, whatever row is added. -/
theorem lookup_addRow {s : DeltaState} {id id' : ℕ} {row row' : SyncCacheRow}
    (hnew : s.rows.table.lookup id = none) (hold : s.rows.table.lookup id' = some row') :
    (s.rows.write SyncCacheRow.changedAt id row).table.lookup id' = some row' := by
  rw [ChangeFeed.write, Table.lookup_insert_of_ne]
  · exact hold
  · rintro rfl
    rw [hnew] at hold
    cases hold

/-- A row is added ahead of the cursor. -/
theorem Inv.addRow {s : DeltaState} (h : s.Inv) (hsince : s.since < s.now) {id : ℕ}
    (hnew : s.rows.table.lookup id = none) (row : SyncCacheRow) :
    Inv { s with rows :=
      s.rows.write SyncCacheRow.changedAt id { row with changedAt := s.now } } where
  rows := h.rows.write hsince id rfl
  channels := h.channels
  found y hy x hx := lookup_addRow hnew (h.found y hy x hx)
  answered x hx := lookup_addRow hnew (h.answered x hx)

/-- The first query of a call, within its limit. -/
theorem Inv.queryRows {s : DeltaState} (h : s.Inv) (order : Arrangement ℕ)
    (hlimit : (s.rows.table.count fun _ row ↦ s.since < row.changedAt) ≤ deltaLimit) :
    Inv { s with rows := s.rows.find (selectChangedRows order s.since s.rows.table) } where
  rows := h.rows.find fun _ _ hrow hlt ↦ Table.mem_query hlimit hrow hlt
  channels := h.channels
  found y hy x hx := by
    obtain rfl := Option.some.inj hy
    have hx' : (x.1, x.2) ∈ selectChangedRows order s.since s.rows.table := hx
    exact (Table.of_mem_query hx').1
  answered := h.answered

/-- The response answers what the call has found, and moves the cursor over what it could see. -/
theorem Inv.respond {s : DeltaState} (h : s.Inv) {t : Time} (hrows : s.rows.SeenUntil s.since t)
    (hchannels : s.channels.SeenUntil s.since t) :
    Inv { s with since := t, rows := s.rows.answer, channels := s.channels.answer } where
  rows := h.rows.answer hrows
  channels := h.channels.answer hchannels
  found y hy := by cases hy
  answered x hx := by
    rcases List.mem_append.1 hx with hx | hx
    · exact h.answered x hx
    · cases hfound : s.rows.found with
      | none => rw [hfound] at hx; cases hx
      | some y =>
        rw [hfound] at hx
        exact h.found y hfound x hx

/-- **A timely event keeps the invariant.** -/
theorem Inv.step {s s' : DeltaState} {e : DeltaEvent} (h : s.Inv) (he : s.Timely e)
    (hstep : s.step e = some s') : s'.Inv := by
  cases e with
  | pass now =>
    rw [DeltaState.step] at hstep
    split_ifs at hstep with hnow
    obtain rfl := Option.some.inj hstep
    exact { h with rows := h.rows.pass hnow, channels := h.channels.pass hnow }
  | addRow id row =>
    rw [DeltaState.step] at hstep
    split_ifs at hstep with hnew
    obtain rfl := Option.some.inj hstep
    exact h.addRow he hnew row
  | updateChannel ch row =>
    obtain rfl := Option.some.inj hstep
    exact { h with channels := h.channels.write he ch rfl }
  | queryRows order =>
    rw [DeltaState.step] at hstep
    split_ifs at hstep
    obtain rfl := Option.some.inj hstep
    exact h.queryRows order he
  | queryChannels order =>
    rw [DeltaState.step] at hstep
    split_ifs at hstep
    obtain rfl := Option.some.inj hstep
    exact { h with channels := h.channels.find fun ch row hrow hlt ↦ Table.mem_query he hrow hlt }
  | respond =>
    obtain ⟨resp, hresp, rfl⟩ := Option.map_eq_some_iff.1 hstep
    have htime : resp.syncTimestamp = formatRFC3339 s.now := by
      rw [response] at hresp
      split at hresp
      · rw [← Option.some.inj hresp]
      · cases hresp
    rw [htime]
    exact h.respond he.1 he.2

/-- **No change is missed in a timely run**, however the calls of the client and the writers
interleave. -/
theorem complete_of_timely {es : List DeltaEvent} {s : DeltaState}
    (h : Steps.Run DeltaState.step Timely init es s) : s.Complete :=
  (h.inv inv_init fun hs he hstep ↦ hs.step he hstep).complete

/-! ### Two calls -/

/-- A new row of the feed. -/
def newRow : SyncCacheRow where
  videoID := "v"
  score := 100
  categories := none
  channelID := none
  action := .update
  changedAt := 0

/-- A row is added, and a call ends within the same second. -/
def withinSecond : List DeltaEvent :=
  [.addRow 0 newRow, .pass 1000001, .queryRows (.ascending ℕ),
    .queryChannels (.ascending ChannelID),
    .respond]

/-- A row is added at the end of a second, between the queries of a call and its response. -/
def secondEnds : List DeltaEvent :=
  [.queryRows (.ascending ℕ), .queryChannels (.ascending ChannelID), .pass 1000000,
    .addRow 0 newRow,
    .respond]

theorem exec_withinSecond : (Steps.exec step Timely init withinSecond).isSome = true := by
  decide +kernel

/-- The row is in the response. -/
theorem complete_withinSecond : (Option.get _ exec_withinSecond).Complete :=
  complete_of_timely (Steps.run_of_exec (Option.some_get _).symm)

theorem exec_secondEnds : (Steps.exec step Steps.Any init secondEnds).isSome = true := by
  decide +kernel

/-- **The row is behind the cursor, and was in no response**: no later call will have it. -/
theorem not_complete_secondEnds :
    ¬ ∀ (es : List DeltaEvent) (s : DeltaState), Steps.Run step Steps.Any init es s →
      s.Complete := by
  intro h
  have hmissed := (h secondEnds _ (Steps.run_of_exec (Option.some_get exec_secondEnds).symm)).rows 0
    { newRow with changedAt := 1000000 } (by decide +kernel) (by decide +kernel)
  revert hmissed
  decide +kernel

end DeltaState

end RealTube
