import RealTube.Store.Steps
import RealTube.Store.Table
import Mathlib.Data.Fintype.Basic
import Mathlib.Logic.Function.Basic
import Mathlib.Tactic.Ring

/-!
# The schedule of the syncs

`startSyncSchedule`, `stopSyncSchedule` and `autoSync` of `background/sync.ts`, beside the message
`SYNC_FULL`, in a service worker that the browser may end and start again at any time. A timer fires
at its time or later. `autoSync` asks when the last full sync was, and makes another one if that is
more than a day ago, else a delta sync; a full sync may fail, or store the time its response was
generated at.

The timers that are armed are those in the two variables (`armed_of_run`): no order of starts,
stops and firings leaves one behind, or two of a kind. And the cache does not grow old
(`now_le_of_run`): if timers are on time and syncs take less than half an hour, then since the last
full sync, or since the schedule was started, not much more than a day has passed, and half an hour
for every scheduled sync that has failed since.
-/

open Steps

namespace RealTube.Extension

/-! ### The schedule -/

/-- `DELTA_SYNC_INTERVAL_MS`. -/
def deltaSyncInterval : ℕ := 30 * 60 * 1000

/-- `FULL_SYNC_INTERVAL_MS`. -/
def fullSyncInterval : ℕ := 24 * 60 * 60 * 1000

/-- The delay of the first sync. -/
def startupDelay : ℕ := 5000

/-- A timer of the browser, with the time it is due. -/
inductive SyncTimer where
  | startup (due : ℕ)
  | interval (due : ℕ)
  deriving DecidableEq

/-- When a timer is due. -/
def SyncTimer.due : SyncTimer → ℕ
  | startup due => due
  | interval due => due

/-- Where a sync stands, and when it began. It is scheduled if the interval began it. -/
inductive ScheduledPhase where
  | idle
  /-- `autoSync` has asked for `lastFullSync`. -/
  | asked (scheduled : Bool) (since : ℕ)
  /-- `performFullSync` has not stored `lastFullSync` yet. -/
  | full (scheduled : Bool) (since : ℕ)
  /-- `performDeltaSync`, or what is left of `performFullSync`. -/
  | rest (since : ℕ)
  deriving DecidableEq

namespace ScheduledPhase

/-- When the sync began. -/
def since : ScheduledPhase → Option ℕ
  | idle => none
  | asked _ since => some since
  | full _ since => some since
  | rest since => some since

/-- The interval began it, and it may come to a full sync. -/
def scheduled : ScheduledPhase → Bool
  | asked scheduled _ => scheduled
  | full scheduled _ => scheduled
  | _ => false

end ScheduledPhase

/-- The clock, the timers that are armed, the variables of the module, `lastFullSync` and the syncs.
The last two are for the statements: when the schedule was started, and how many scheduled syncs
have failed since `lastFullSync` was stored. -/
structure Scheduler (ι : Type) where
  now : ℕ
  timers : Table ℕ SyncTimer
  nextTimer : ℕ
  syncTimer : Option ℕ
  startupSyncTimer : Option ℕ
  lastFullSync : Option ℕ
  phase : ι → ScheduledPhase
  startedAt : ℕ
  failures : ℕ

/-- What can happen. -/
inductive ScheduleEvent (ι : Type) where
  | pass (t : ℕ)
  /-- The worker is ended, and starts again. -/
  | restart
  /-- `startSyncSchedule`. -/
  | start
  /-- `stopSyncSchedule`. -/
  | stop
  /-- A timer fires. -/
  | fire (timer : ℕ) (i : ι)
  /-- `SYNC_FULL`. -/
  | message (i : ι)
  /-- `lastFullSync` is read, and compared with the clock. -/
  | decide (i : ι)
  /-- `lastFullSync` is stored. -/
  | store (i : ι) (generatedAt : ℕ)
  /-- A sync has ended, or failed. -/
  | finish (i : ι)

namespace Scheduler

variable {ι : Type}

/-- No schedule yet. -/
def init (now : ℕ) (lastFullSync : Option ℕ) : Scheduler ι where
  now := now
  timers := ∅
  nextTimer := 0
  syncTimer := none
  startupSyncTimer := none
  lastFullSync := lastFullSync
  phase _ := .idle
  startedAt := now
  failures := 0

/-- `needsFullSync`. -/
def needsFullSync (s : Scheduler ι) : Bool :=
  s.lastFullSync.elim true fun lastFull ↦ fullSyncInterval < s.now - lastFull

section Steps

variable [DecidableEq ι]

/-- A sync is now in this phase. -/
def setPhase (s : Scheduler ι) (i : ι) (phase : ScheduledPhase) : Scheduler ι :=
  { s with phase := Function.update s.phase i phase }

/-- `clearTimeout` and `clearInterval` of a variable. -/
def clear (timers : Table ℕ SyncTimer) : Option ℕ → Table ℕ SyncTimer
  | none => timers
  | some timer => timers.erase timer

/-- `startSyncSchedule`, when there is no `syncTimer`. -/
def startSchedule (s : Scheduler ι) : Scheduler ι :=
  { s with
    timers := ((clear s.timers s.startupSyncTimer).insert s.nextTimer
      (.startup (s.now + startupDelay))).insert (s.nextTimer + 1)
      (.interval (s.now + deltaSyncInterval))
    nextTimer := s.nextTimer + 2
    syncTimer := some (s.nextTimer + 1)
    startupSyncTimer := some s.nextTimer
    startedAt := s.now }

/-- The callback of a timer. -/
def fired (s : Scheduler ι) (timer : ℕ) (i : ι) : SyncTimer → Scheduler ι
  | .startup _ => { s with
      timers := s.timers.erase timer
      startupSyncTimer := none
      phase := Function.update s.phase i (.asked false s.now) }
  | .interval _ => { s with
      timers := s.timers.insert timer (.interval (s.now + deltaSyncInterval))
      phase := Function.update s.phase i (.asked true s.now) }

/-- The state after an event; `none` when the event is not possible. -/
def step (s : Scheduler ι) : ScheduleEvent ι → Option (Scheduler ι)
  | .pass t => some { s with now := s.now + t }
  | .restart => some { s with
      timers := ∅, syncTimer := none, startupSyncTimer := none, phase := fun _ ↦ .idle }
  | .start => if s.syncTimer.isSome then some s else some s.startSchedule
  | .stop =>
    if s.syncTimer.isSome then
      some { s with timers := clear s.timers s.syncTimer, syncTimer := none }
    else some s
  | .fire timer i =>
    match s.timers.lookup timer with
    | none => none
    | some t => if t.due ≤ s.now ∧ s.phase i = .idle then some (s.fired timer i t) else none
  | .message i => if s.phase i = .idle then some (s.setPhase i (.full false s.now)) else none
  | .decide i =>
    match s.phase i with
    | .asked scheduled since =>
      some (s.setPhase i (if s.needsFullSync then .full scheduled since else .rest since))
    | _ => none
  | .store i generatedAt =>
    match s.phase i with
    | .full _ since =>
      some { s.setPhase i (.rest since) with lastFullSync := some generatedAt, failures := 0 }
    | _ => none
  | .finish i =>
    if s.phase i = .idle then none
    else some { s.setPhase i .idle with
      failures := s.failures + if (s.phase i).scheduled then 1 else 0 }

end Steps

/-! ### Timers -/

/-- **The timers that are armed are those in the variables.** -/
structure Armed (s : Scheduler ι) : Prop where
  fresh : ∀ timer, s.timers.lookup timer ≠ none → timer < s.nextTimer
  interval : ∀ timer, (∃ due, s.timers.lookup timer = some (.interval due)) ↔
    s.syncTimer = some timer
  startup : ∀ timer, (∃ due, s.timers.lookup timer = some (.startup due)) ↔
    s.startupSyncTimer = some timer

variable {s s' : Scheduler ι}

theorem armed_init (now : ℕ) (lastFullSync : Option ℕ) :
    (init now lastFullSync : Scheduler ι).Armed where
  fresh _ h := absurd rfl h
  interval _ := iff_of_false (by rintro ⟨_, ⟨⟩⟩) nofun
  startup _ := iff_of_false (by rintro ⟨_, ⟨⟩⟩) nofun

/-- Only the timers and their variables matter. -/
theorem Armed.congr (h : s.Armed) (htimers : s'.timers = s.timers)
    (hnext : s'.nextTimer = s.nextTimer) (hsync : s'.syncTimer = s.syncTimer)
    (hstartup : s'.startupSyncTimer = s.startupSyncTimer) : s'.Armed where
  fresh := htimers ▸ hnext ▸ h.fresh
  interval := htimers ▸ hsync ▸ h.interval
  startup := htimers ▸ hstartup ▸ h.startup

/-- A timer is one of a kind. -/
theorem interval_ne_startup {timers : Table ℕ SyncTimer} {timer : ℕ}
    (h : ∃ due, timers.lookup timer = some (.interval due)) :
    ¬∃ due, timers.lookup timer = some (.startup due) := by
  rintro ⟨due, hdue⟩
  obtain ⟨due', hdue'⟩ := h
  cases hdue.symm.trans hdue'

theorem lookup_clear (timers : Table ℕ SyncTimer) (var : Option ℕ) (timer : ℕ) :
    (clear timers var).lookup timer =
      if var = some timer then none else timers.lookup timer := by
  cases var with
  | none => exact (if_neg nofun).symm
  | some timer' =>
    rw [clear, Table.lookup_erase]
    simp only [Option.some.injEq, eq_comm (a := timer)]

/-- **The schedule starts**: an old startup timer is cleared, and two timers are armed. -/
theorem Armed.startSchedule (h : s.Armed) (hsync : s.syncTimer = none) :
    s.startSchedule.Armed := by
  have hlookup (timer : ℕ) : s.startSchedule.timers.lookup timer =
      if timer = s.nextTimer + 1 then some (.interval (s.now + deltaSyncInterval))
      else if timer = s.nextTimer then some (.startup (s.now + startupDelay))
      else if s.startupSyncTimer = some timer then none else s.timers.lookup timer := by
    rw [Scheduler.startSchedule, Table.lookup_insert, Table.lookup_insert, lookup_clear]
  refine ⟨fun timer htimer ↦ ?_, fun timer ↦ ?_, fun timer ↦ ?_⟩
  · show timer < s.nextTimer + 2
    rw [hlookup] at htimer
    split_ifs at htimer with h₁ h₂ h₃
    · omega
    · omega
    · exact absurd rfl htimer
    · exact (h.fresh timer htimer).trans (by omega)
  · show _ ↔ some (s.nextTimer + 1) = some timer
    rw [hlookup, Option.some_inj]
    split_ifs with h₁ h₂ h₃
    · exact iff_of_true ⟨_, rfl⟩ h₁.symm
    · exact iff_of_false (by simp) fun h ↦ h₁ h.symm
    · exact iff_of_false (by simp) fun h ↦ h₁ h.symm
    · refine iff_of_false (fun hdue ↦ ?_) fun h ↦ h₁ h.symm
      cases hsync.symm.trans ((h.interval timer).1 hdue)
  · show _ ↔ some s.nextTimer = some timer
    rw [hlookup, Option.some_inj]
    split_ifs with h₁ h₂ h₃
    · exact iff_of_false (by simp) fun h ↦ by omega
    · exact iff_of_true ⟨_, rfl⟩ h₂.symm
    · exact iff_of_false (by simp) fun h ↦ h₂ h.symm
    · exact iff_of_false (fun hdue ↦ h₃ ((h.startup timer).1 hdue)) fun h ↦ h₂ h.symm

/-- **The schedule stops**: the startup timer stays. -/
theorem Armed.stop (h : s.Armed) :
    Armed { s with timers := clear s.timers s.syncTimer, syncTimer := none } where
  fresh timer htimer := by
    refine h.fresh timer fun hnone ↦ htimer ?_
    rw [lookup_clear, hnone]
    exact ite_self none
  interval timer := by
    refine iff_of_false (fun hdue ↦ ?_) (by simp)
    obtain ⟨due, hdue⟩ := hdue
    rw [lookup_clear] at hdue
    split_ifs at hdue with hsync
    exact hsync ((h.interval timer).1 ⟨due, hdue⟩)
  startup timer := by
    rw [← h.startup timer, lookup_clear]
    split_ifs with hsync
    · exact iff_of_false (by simp)
        (interval_ne_startup ((h.interval timer).2 hsync))
    · rfl

section Fired

variable [DecidableEq ι]

/-- **A timer fires**: the startup timer is gone, the interval is armed again. -/
theorem Armed.fired (h : s.Armed) {timer : ℕ} {t : SyncTimer}
    (htimer : s.timers.lookup timer = some t) (i : ι) : (s.fired timer i t).Armed := by
  cases t with
  | startup due =>
    have hstartup := (h.startup timer).1 ⟨due, htimer⟩
    refine ⟨fun timer' htimer' ↦ h.fresh timer' fun hnone ↦ htimer' ?_, fun timer' ↦ ?_,
      fun timer' ↦ ?_⟩
    · show (s.timers.erase timer).lookup timer' = none
      rw [Table.lookup_erase, hnone]
      exact ite_self none
    · show (∃ due, (s.timers.erase timer).lookup timer' = _) ↔ s.syncTimer = some timer'
      rw [← h.interval timer', Table.lookup_erase]
      split_ifs with heq
      · refine iff_of_false (by simp) fun hdue ↦ ?_
        exact interval_ne_startup hdue ⟨due, heq ▸ htimer⟩
      · rfl
    · show (∃ due, (s.timers.erase timer).lookup timer' = _) ↔ none = some timer'
      refine iff_of_false (fun hdue' ↦ ?_) (by simp)
      obtain ⟨due', hdue'⟩ := hdue'
      rw [Table.lookup_erase] at hdue'
      split_ifs at hdue' with heq
      exact heq (Option.some.inj (((h.startup timer').1 ⟨due', hdue'⟩).symm.trans hstartup))
  | interval due =>
    have hsome : ∃ due, s.timers.lookup timer = some (.interval due) := ⟨due, htimer⟩
    refine ⟨fun timer' htimer' ↦ ?_, fun timer' ↦ ?_, fun timer' ↦ ?_⟩
    · change (s.timers.insert timer _).lookup timer' ≠ none at htimer'
      rw [Table.lookup_insert] at htimer'
      split_ifs at htimer' with heq
      · exact h.fresh timer' (by rw [heq, htimer]; exact Option.some_ne_none _)
      · exact h.fresh timer' htimer'
    · show (∃ due, (s.timers.insert timer _).lookup timer' = _) ↔ s.syncTimer = some timer'
      rw [← h.interval timer', Table.lookup_insert]
      split_ifs with heq
      · exact iff_of_true ⟨_, rfl⟩ (heq ▸ hsome)
      · rfl
    · show (∃ due, (s.timers.insert timer _).lookup timer' = _) ↔ s.startupSyncTimer = some timer'
      rw [← h.startup timer', Table.lookup_insert]
      split_ifs with heq
      · exact iff_of_false (by simp) (heq ▸ interval_ne_startup hsome)
      · rfl

/-- **Every event keeps it.** -/
theorem Armed.step (h : s.Armed) {e : ScheduleEvent ι} (hs : s.step e = some s') : s'.Armed := by
  match e with
  | .pass t => exact Option.some.inj hs ▸ h.congr rfl rfl rfl rfl
  | .restart =>
    obtain rfl := Option.some.inj hs
    exact ⟨fun _ h ↦ absurd rfl h, fun _ ↦ iff_of_false (by simp) nofun,
      fun _ ↦ iff_of_false (by simp) nofun⟩
  | .start =>
    rw [Scheduler.step] at hs
    split_ifs at hs with hsync
    · exact Option.some.inj hs ▸ h
    · exact Option.some.inj hs ▸ h.startSchedule (Option.not_isSome_iff_eq_none.1 hsync)
  | .stop =>
    rw [Scheduler.step] at hs
    split_ifs at hs
    · exact Option.some.inj hs ▸ h.stop
    · exact Option.some.inj hs ▸ h
  | .fire timer i =>
    rw [Scheduler.step] at hs
    split at hs
    · cases hs
    · next htimer =>
      split_ifs at hs
      exact Option.some.inj hs ▸ h.fired htimer i
  | .message i =>
    rw [Scheduler.step] at hs
    split_ifs at hs
    exact Option.some.inj hs ▸ h.congr rfl rfl rfl rfl
  | .finish i =>
    rw [Scheduler.step] at hs
    split at hs
    · cases hs
    · exact Option.some.inj hs ▸ h.congr rfl rfl rfl rfl
  | .decide i | .store i _ =>
    rw [Scheduler.step] at hs
    split at hs
    · exact Option.some.inj hs ▸ h.congr rfl rfl rfl rfl
    · cases hs

/-- **No timer is left behind.** In every run, whatever is started, stopped, fired and ended, an
armed timer is the one in its variable: there are at most one interval and one startup timer. -/
theorem armed_of_run {now : ℕ} {lastFullSync : Option ℕ} {es : List (ScheduleEvent ι)}
    (h : Run step Any (init now lastFullSync) es s) : s.Armed :=
  h.inv (armed_init now lastFullSync) fun h _ hs ↦ h.step hs

end Fired

/-! ### The age of the cache -/

section Age

variable {late long old : ℕ}

/-- Timers fire at most `late` after they are due, a sync takes at most `long`, and the response it
stores was generated at most `old` before the sync began. -/
def Timely (late long old : ℕ) (s : Scheduler ι) : ScheduleEvent ι → Prop
  | .pass t => (∀ timer ∈ s.timers.keys, ∀ x ∈ s.timers.lookup timer, s.now + t ≤ x.due + late) ∧
      ∀ i, ∀ since ∈ (s.phase i).since, s.now + t ≤ since + long
  | .store i generatedAt => ∀ since ∈ (s.phase i).since, since ≤ generatedAt + old
  | _ => True

instance [Fintype ι] (s : Scheduler ι) (e : ScheduleEvent ι) :
    Decidable (Timely late long old s e) :=
  match e with
  | .pass _ => inferInstanceAs (Decidable (_ ∧ _))
  | .store i _ => inferInstanceAs (Decidable (∀ since ∈ (s.phase i).since, _ ≤ _))
  | .restart | .start | .stop | .fire _ _ | .message _ | .decide _ | .finish _ => .isTrue trivial

/-- The time the cache is counted from. -/
def base (s : Scheduler ι) : ℕ := max (s.lastFullSync.getD 0) s.startedAt

/-- The time of the next tick of the interval, after some failures. -/
def bound (late : ℕ) (s : Scheduler ι) (failures : ℕ) : ℕ :=
  s.base + fullSyncInterval + deltaSyncInterval + failures * (deltaSyncInterval + late)

/-- A scheduled sync is on its way since the last tick of the interval. -/
def UnderWay (s : Scheduler ι) (due : ℕ) : Prop :=
  ∃ i since, (s.phase i).since = some since ∧ (s.phase i).scheduled = true ∧
    due = since + deltaSyncInterval

/-- **The invariant**: the next tick comes in time, counted with the sync that is on its way. -/
structure Fresh (late long : ℕ) (s : Scheduler ι) : Prop where
  armed : s.Armed
  due_le : ∀ timer due, s.timers.lookup timer = some (.interval due) →
    due ≤ s.now + deltaSyncInterval
  on_time : ∀ timer x, s.timers.lookup timer = some x → s.now ≤ x.due + late
  syncs : ∀ i since, (s.phase i).since = some since → since ≤ s.now ∧ s.now ≤ since + long
  next : ∀ timer due, s.timers.lookup timer = some (.interval due) →
    due ≤ bound late s s.failures ∨ s.UnderWay due ∧ due ≤ bound late s (s.failures + 1)

theorem fresh_init (now : ℕ) (lastFullSync : Option ℕ) :
    Fresh late long (init now lastFullSync : Scheduler ι) where
  armed := armed_init now lastFullSync
  due_le _ _ h := nomatch h
  on_time _ _ h := nomatch h
  syncs _ _ h := nomatch h
  next _ _ h := nomatch h

theorem bound_mono {s : Scheduler ι} {n m : ℕ} (h : n ≤ m) : bound late s n ≤ bound late s m :=
  Nat.add_le_add_left (Nat.mul_le_mul_right _ h) _

theorem bound_succ (s : Scheduler ι) (n : ℕ) :
    bound late s (n + 1) = bound late s n + (deltaSyncInterval + late) := by
  rw [bound, bound]
  ring

/-- The syncs have not changed, but for one that goes on or begins. -/
structure SameTimers (s s' : Scheduler ι) : Prop where
  now : s'.now = s.now
  timers : s'.timers = s.timers
  nextTimer : s'.nextTimer = s.nextTimer
  syncTimer : s'.syncTimer = s.syncTimer
  startupSyncTimer : s'.startupSyncTimer = s.startupSyncTimer
  syncs : ∀ i since, (s'.phase i).since = some since →
    (s.phase i).since = some since ∨ since = s.now

theorem SameTimers.syncs_of (hsame : SameTimers s s') (h : s.Fresh late long) (i : ι) (since : ℕ)
    (hsince : (s'.phase i).since = some since) : since ≤ s'.now ∧ s'.now ≤ since + long := by
  rw [hsame.now]
  obtain hsince | rfl := hsame.syncs i since hsince
  · exact h.syncs i since hsince
  · exact ⟨le_rfl, Nat.le_add_right _ _⟩

/-- **The timers stay as they are.** -/
theorem Fresh.congr (h : s.Fresh late long) (hsame : SameTimers s s')
    (hnext : ∀ timer due, s.timers.lookup timer = some (.interval due) →
      due ≤ bound late s' s'.failures ∨ s'.UnderWay due ∧ due ≤ bound late s' (s'.failures + 1)) :
    s'.Fresh late long where
  armed := h.armed.congr hsame.timers hsame.nextTimer hsame.syncTimer hsame.startupSyncTimer
  due_le := hsame.now ▸ hsame.timers ▸ h.due_le
  on_time := hsame.now ▸ hsame.timers ▸ h.on_time
  syncs := hsame.syncs_of h
  next := hsame.timers ▸ hnext

/-- Time passes. -/
theorem Fresh.pass (h : s.Fresh late long) {t : ℕ}
    (htimely : ∀ timer ∈ s.timers.keys, ∀ x ∈ s.timers.lookup timer, s.now + t ≤ x.due + late)
    (hsyncs : ∀ i, ∀ since ∈ (s.phase i).since, s.now + t ≤ since + long) :
    Fresh late long { s with now := s.now + t } where
  armed := h.armed.congr rfl rfl rfl rfl
  due_le timer due hdue := (h.due_le timer due hdue).trans (by
    show s.now + deltaSyncInterval ≤ s.now + t + deltaSyncInterval
    omega)
  on_time timer x hx :=
    htimely timer (Finmap.mem_keys.2 (Finmap.mem_of_lookup_eq_some hx)) x hx
  syncs i since hsince := ⟨(h.syncs i since hsince).1.trans (Nat.le_add_right _ _),
    hsyncs i since hsince⟩
  next := h.next

/-- No interval is armed. -/
theorem Fresh.unarmed (harmed : s.Armed) (hsync : s.syncTimer = none)
    (hon_time : ∀ timer x, s.timers.lookup timer = some x → s.now ≤ x.due + late)
    (hsyncs : ∀ i since, (s.phase i).since = some since → since ≤ s.now ∧ s.now ≤ since + long) :
    s.Fresh late long where
  armed := harmed
  due_le timer due hdue := nomatch hsync.symm.trans ((harmed.interval timer).1 ⟨due, hdue⟩)
  on_time := hon_time
  syncs := hsyncs
  next timer due hdue := nomatch hsync.symm.trans ((harmed.interval timer).1 ⟨due, hdue⟩)

/-- **The schedule starts.** -/
theorem Fresh.start (h : s.Fresh late long) (hsync : s.syncTimer = none) :
    s.startSchedule.Fresh late long := by
  have hdue (timer : ℕ) (x : SyncTimer) (hx : s.startSchedule.timers.lookup timer = some x) :
      x = .interval (s.now + deltaSyncInterval) ∨ x = .startup (s.now + startupDelay) ∨
        s.timers.lookup timer = some x := by
    rw [startSchedule, Table.lookup_insert, Table.lookup_insert, lookup_clear] at hx
    split_ifs at hx
    · exact Or.inl (Option.some.inj hx).symm
    · exact Or.inr (Or.inl (Option.some.inj hx).symm)
    · exact Or.inr (Or.inr hx)
  have hinterval (timer due : ℕ) (hx : s.startSchedule.timers.lookup timer = some (.interval due)) :
      due = s.now + deltaSyncInterval := by
    obtain hx | hx | hx := hdue timer _ hx
    · exact SyncTimer.interval.inj hx
    · cases hx
    · cases hsync.symm.trans ((h.armed.interval timer).1 ⟨due, hx⟩)
  refine ⟨h.armed.startSchedule hsync, fun timer due hx ↦ (hinterval timer due hx).le,
    fun timer x hx ↦ ?_, h.syncs, fun timer due hx ↦ Or.inl ?_⟩
  · show s.now ≤ x.due + late
    obtain rfl | rfl | hx := hdue timer x hx
    · show s.now ≤ s.now + deltaSyncInterval + late
      omega
    · show s.now ≤ s.now + startupDelay + late
      omega
    · exact h.on_time timer x hx
  · have hbase : s.now ≤ s.startSchedule.base := le_max_right _ _
    rw [hinterval timer due hx, bound]
    omega

variable [DecidableEq ι]

/-- A sync goes on to a phase that began when the last one did, or begins now. -/
theorem sameTimers_setPhase {i : ι} {phase : ScheduledPhase} (s : Scheduler ι)
    (hphase : ∀ since, phase.since = some since →
      (s.phase i).since = some since ∨ since = s.now) : SameTimers s (s.setPhase i phase) where
  now := rfl
  timers := rfl
  nextTimer := rfl
  syncTimer := rfl
  startupSyncTimer := rfl
  syncs j since hsince := by
    change (Function.update s.phase i phase j).since = some since at hsince
    rw [Function.update_apply] at hsince
    split_ifs at hsince with heq
    · exact heq ▸ hphase since hsince
    · exact Or.inl hsince

/-- Other syncs are on their way still. -/
theorem UnderWay.setPhase {due : ℕ} (h : s.UnderWay due) {i : ι} {phase : ScheduledPhase}
    (hphase : (s.phase i).scheduled = true → phase.scheduled = true ∧
      phase.since = (s.phase i).since) : UnderWay (s.setPhase i phase) due := by
  obtain ⟨j, since, hsince, hscheduled, rfl⟩ := h
  refine ⟨j, since, ?_, ?_, rfl⟩
  · show (Function.update s.phase i phase j).since = some since
    rw [Function.update_apply]
    split_ifs with heq
    · rw [(hphase (heq ▸ hscheduled)).2, ← heq, hsince]
    · exact hsince
  · show (Function.update s.phase i phase j).scheduled = true
    rw [Function.update_apply]
    split_ifs with heq
    · exact (hphase (heq ▸ hscheduled)).1
    · exact hscheduled

/-- A sync that is not scheduled begins. -/
theorem Fresh.message (h : s.Fresh late long) {i : ι} (hidle : s.phase i = .idle)
    (phase : ScheduledPhase) (hphase : ∀ since, phase.since = some since → since = s.now) :
    (s.setPhase i phase).Fresh late long := by
  refine h.congr (sameTimers_setPhase s fun since hsince ↦ Or.inr (hphase since hsince))
    fun timer due hdue ↦ (h.next timer due hdue).imp_right
      fun hnext ↦ ⟨hnext.1.setPhase ?_, hnext.2⟩
  rw [hidle]
  nofun

/-- **The startup timer fires.** -/
theorem Fresh.fired_startup (h : s.Fresh late long) {timer due : ℕ} {i : ι}
    (htimer : s.timers.lookup timer = some (.startup due)) (hidle : s.phase i = .idle) :
    (s.fired timer i (.startup due)).Fresh late long := by
  have hlookup {timer' : ℕ} {x : SyncTimer} (hx : (s.timers.erase timer).lookup timer' = some x) :
      s.timers.lookup timer' = some x := by
    rw [Table.lookup_erase] at hx
    split_ifs at hx
    exact hx
  have hasked := h.message hidle (.asked false s.now) fun _ hsince ↦ (Option.some.inj hsince).symm
  exact ⟨h.armed.fired htimer i, fun timer' due' hx ↦ h.due_le timer' due' (hlookup hx),
    fun timer' x hx ↦ h.on_time timer' x (hlookup hx), hasked.syncs,
    fun timer' due' hx ↦ hasked.next timer' due' (hlookup hx)⟩

/-- **The interval ticks**: the sync of the last tick has ended. -/
theorem Fresh.fired_interval (h : s.Fresh late long) (hlong : long < deltaSyncInterval)
    {timer due : ℕ} {i : ι} (htimer : s.timers.lookup timer = some (.interval due))
    (hdue : due ≤ s.now) : (s.fired timer i (.interval due)).Fresh late long := by
  have hlookup {timer' : ℕ} {x : SyncTimer}
      (hx : (s.fired timer i (.interval due)).timers.lookup timer' = some x) :
      x = .interval (s.now + deltaSyncInterval) ∨
        timer' ≠ timer ∧ s.timers.lookup timer' = some x := by
    change (s.timers.insert timer _).lookup timer' = some x at hx
    rw [Table.lookup_insert] at hx
    split_ifs at hx with heq
    · exact Or.inl (Option.some.inj hx).symm
    · exact Or.inr ⟨heq, hx⟩
  -- the timer is the only interval
  have hinterval {timer' due' : ℕ}
      (hx : (s.fired timer i (.interval due)).timers.lookup timer' = some (.interval due')) :
      due' = s.now + deltaSyncInterval := by
    obtain hx | ⟨hne, hx⟩ := hlookup hx
    · exact SyncTimer.interval.inj hx
    · have hsync := (h.armed.interval timer).1 ⟨due, htimer⟩
      have hsync' := (h.armed.interval timer').1 ⟨due', hx⟩
      exact absurd (Option.some.inj (hsync'.symm.trans hsync)) hne
  refine ⟨h.armed.fired htimer i, fun timer' due' hx ↦ (hinterval hx).le, fun timer' x hx ↦ ?_,
    (sameTimers_setPhase s ?_).syncs_of h, fun timer' due' hx ↦ Or.inr ⟨?_, ?_⟩⟩
  · show s.now ≤ x.due + late
    obtain rfl | ⟨-, hx⟩ := hlookup hx
    · show s.now ≤ s.now + deltaSyncInterval + late
      omega
    · exact h.on_time timer' x hx
  · exact fun since hsince ↦ Or.inr (Option.some.inj hsince).symm
  · have hphase : (s.fired timer i (.interval due)).phase i = .asked true s.now :=
      Function.update_self ..
    exact ⟨i, s.now, by rw [hphase]; rfl, by rw [hphase]; rfl, hinterval hx⟩
  · rw [hinterval hx]
    show _ ≤ bound late s (s.failures + 1)
    have hon_time : s.now ≤ due + late := h.on_time timer _ htimer
    rw [bound_succ]
    obtain hnext | ⟨⟨j, since, hsince, -, heq⟩, -⟩ := h.next timer due htimer
    · omega
    · have hend := (h.syncs j since hsince).2
      omega

/-- **`lastFullSync` is read**: if it is recent, the next tick comes in time by itself. -/
theorem Fresh.decide (h : s.Fresh late long) {i : ι} {scheduled : Bool} {since : ℕ}
    (hphase : s.phase i = .asked scheduled since) :
    (s.setPhase i (if s.needsFullSync then .full scheduled since else .rest since)).Fresh
      late long := by
  have hsince : ∀ since',
      (if s.needsFullSync then ScheduledPhase.full scheduled since else .rest since).since =
        some since' → (s.phase i).since = some since' ∨ since' = s.now := by
    intro since' hsince'
    rw [hphase]
    split_ifs at hsince' <;> exact Or.inl hsince'
  refine h.congr (sameTimers_setPhase s hsince) fun timer due hdue ↦ ?_
  cases hneeds : s.needsFullSync with
  | true =>
    refine (h.next timer due hdue).imp_right fun hnext ↦ ⟨hnext.1.setPhase fun hscheduled ↦ ?_,
      hnext.2⟩
    rw [hphase] at hscheduled ⊢
    exact ⟨hscheduled, rfl⟩
  | false =>
    -- the last full sync was at most a day ago
    refine Or.inl ?_
    have hrecent : s.now ≤ s.base + fullSyncInterval := by
      rw [needsFullSync] at hneeds
      rw [base]
      cases hlast : s.lastFullSync with
      | none =>
        rw [hlast] at hneeds
        cases hneeds
      | some lastFull =>
        rw [hlast] at hneeds
        have hle := of_decide_eq_false hneeds
        show s.now ≤ max lastFull s.startedAt + fullSyncInterval
        omega
    have hle := h.due_le timer due hdue
    show due ≤ bound late s s.failures
    rw [bound]
    omega

/-- **`lastFullSync` is stored**, less than a day after its response was generated. -/
theorem Fresh.store (h : s.Fresh late long) (hold : long + old ≤ fullSyncInterval) {i : ι}
    {since generatedAt : ℕ} (hphase : (s.phase i).since = some since)
    (hgenerated : since ≤ generatedAt + old) :
    Fresh late long { s.setPhase i (.rest since) with
      lastFullSync := some generatedAt, failures := 0 } := by
  have hsame : SameTimers s (s.setPhase i (.rest since)) :=
    sameTimers_setPhase s fun since' hsince' ↦ Or.inl (hphase.trans hsince')
  refine h.congr ⟨rfl, rfl, rfl, rfl, rfl, hsame.syncs⟩ fun timer due hdue ↦ Or.inl ?_
  have hle := h.due_le timer due hdue
  have hend := (h.syncs i since hphase).2
  have hbase : generatedAt ≤ max generatedAt s.startedAt := le_max_left _ _
  show due ≤ max generatedAt s.startedAt + fullSyncInterval + deltaSyncInterval +
    0 * (deltaSyncInterval + late)
  omega

/-- **A sync ends**: if it was the one on its way, it has failed. -/
theorem Fresh.finish (h : s.Fresh late long) (i : ι) :
    Fresh late long { s.setPhase i .idle with
      failures := s.failures + if (s.phase i).scheduled then 1 else 0 } := by
  have hsame : SameTimers s (s.setPhase i .idle) := sameTimers_setPhase s nofun
  refine h.congr ⟨rfl, rfl, rfl, rfl, rfl, hsame.syncs⟩ fun timer due hdue ↦ ?_
  show due ≤ bound late s _ ∨ UnderWay (s.setPhase i .idle) due ∧ due ≤ bound late s _
  obtain hnext | ⟨⟨j, since, hsince, hscheduled, heq⟩, hnext⟩ := h.next timer due hdue
  · exact Or.inl (hnext.trans (bound_mono (Nat.le_add_right _ _)))
  · by_cases hij : j = i
    · rw [if_pos (hij ▸ hscheduled)]
      exact Or.inl hnext
    · have hphase : (s.setPhase i .idle).phase j = s.phase j := Function.update_of_ne hij _ _
      exact Or.inr ⟨⟨j, since, by rw [hphase, hsince], by rw [hphase, hscheduled], heq⟩,
        hnext.trans (bound_mono (Nat.succ_le_succ (Nat.le_add_right _ _)))⟩

/-- **Every event keeps the invariant.** -/
theorem Fresh.step (h : s.Fresh late long) (hlong : long < deltaSyncInterval)
    (hold : long + old ≤ fullSyncInterval) {e : ScheduleEvent ι} (he : Timely late long old s e)
    (hs : s.step e = some s') : s'.Fresh late long := by
  match e with
  | .pass t => exact Option.some.inj hs ▸ h.pass he.1 he.2
  | .restart =>
    have harmed := h.armed.step hs
    obtain rfl := Option.some.inj hs
    exact .unarmed harmed rfl (fun _ _ hx ↦ nomatch hx) fun _ _ hsince ↦ nomatch hsince
  | .start =>
    rw [Scheduler.step] at hs
    split_ifs at hs with hsync
    · exact Option.some.inj hs ▸ h
    · exact Option.some.inj hs ▸ h.start (Option.not_isSome_iff_eq_none.1 hsync)
  | .stop =>
    rw [Scheduler.step] at hs
    split_ifs at hs
    · obtain rfl := Option.some.inj hs
      refine .unarmed h.armed.stop rfl (fun timer x hx ↦ ?_) h.syncs
      rw [lookup_clear] at hx
      split_ifs at hx
      exact h.on_time timer x hx
    · exact Option.some.inj hs ▸ h
  | .fire timer i =>
    rw [Scheduler.step] at hs
    split at hs
    · cases hs
    · next x htimer =>
      split_ifs at hs with hfire
      obtain rfl := Option.some.inj hs
      cases x with
      | startup due => exact h.fired_startup htimer hfire.2
      | interval due => exact h.fired_interval hlong htimer hfire.1
  | .message i =>
    rw [Scheduler.step] at hs
    split_ifs at hs with hidle
    exact Option.some.inj hs ▸ h.message hidle _ fun _ hsince ↦ (Option.some.inj hsince).symm
  | .decide i =>
    rw [Scheduler.step] at hs
    split at hs
    · next hphase => exact Option.some.inj hs ▸ h.decide hphase
    · cases hs
  | .store i generatedAt =>
    rw [Scheduler.step] at hs
    split at hs
    · next hphase =>
      have hsince : (s.phase i).since = some _ := congrArg ScheduledPhase.since hphase
      exact Option.some.inj hs ▸ h.store hold hsince (he _ hsince)
    · cases hs
  | .finish i =>
    rw [Scheduler.step] at hs
    split at hs
    · cases hs
    · exact Option.some.inj hs ▸ h.finish i

/-- **The cache does not grow old.** In every run in which timers fire at most `late` after they are
due, syncs take at most `long`, less than half an hour, and responses are at most `old` older than
their requests, where `long` and `old` are a day at most: at every moment at which the schedule is
on, no more than a day has passed since the last full sync or the start of the schedule, half an
hour and `late` more for every scheduled sync that has failed since and for the one to come, and
`long` for a sync under way. -/
theorem now_le_of_run (hlong : long < deltaSyncInterval) (hold : long + old ≤ fullSyncInterval)
    {now : ℕ} {lastFullSync : Option ℕ} {es : List (ScheduleEvent ι)}
    (h : Run step (Timely late long old) (init now lastFullSync) es s)
    (hsync : s.syncTimer ≠ none) : s.now ≤ max (s.lastFullSync.getD 0) s.startedAt +
      fullSyncInterval + (s.failures + 1) * (deltaSyncInterval + late) + long := by
  have hfresh : s.Fresh late long := h.inv (fresh_init now lastFullSync) fun h he hs ↦
    h.step hlong hold he hs
  obtain ⟨timer, htimer⟩ := Option.ne_none_iff_exists'.1 hsync
  obtain ⟨due, hdue⟩ := (hfresh.armed.interval timer).2 htimer
  have hon_time : s.now ≤ due + late := hfresh.on_time timer _ hdue
  have hsucc : bound late s (s.failures + 1) =
      bound late s s.failures + (deltaSyncInterval + late) := bound_succ s s.failures
  have hbound : bound late s (s.failures + 1) = max (s.lastFullSync.getD 0) s.startedAt +
      fullSyncInterval + deltaSyncInterval + (s.failures + 1) * (deltaSyncInterval + late) := rfl
  obtain hnext | ⟨⟨i, since, hsince, -, heq⟩, hnext⟩ := hfresh.next timer due hdue
  · omega
  · have hend := (hfresh.syncs i since hsince).2
    omega

/-- The first hour of an installation: a full sync, a tick with a delta, and one that fails. -/
def firstHour : List (ScheduleEvent (Fin 1)) :=
  [.start, .pass 5000, .fire 0 0, .decide 0, .pass 2000, .store 0 6000, .finish 0, .pass 1793500,
    .fire 1 0, .decide 0, .pass 100, .finish 0, .pass 1800000, .fire 1 0, .finish 0]

theorem exec_firstHour : (exec step (Timely 1000 60000 60000) (init 0 none) firstHour).any
    (fun s ↦ s.syncTimer.isSome) = true := by
  decide +kernel

/-- There is one interval, and no startup timer any more. -/
theorem armed_firstHour : ∃ s : Scheduler (Fin 1), s.startupSyncTimer = none ∧ s.Armed := by
  obtain ⟨s, hrun, hstartup⟩ := exists_run_of_exec (Q := fun s ↦ s.startupSyncTimer.isNone)
    (show (exec step Any (init 0 none) firstHour).any _ = true by decide +kernel)
  exact ⟨s, Option.isNone_iff_eq_none.1 hstartup, armed_of_run hrun⟩

/-- The cache is young. -/
theorem now_le_firstHour : ∃ s : Scheduler (Fin 1),
    s.now ≤ max (s.lastFullSync.getD 0) s.startedAt + fullSyncInterval +
      (s.failures + 1) * (deltaSyncInterval + 1000) + 60000 := by
  obtain ⟨s, hrun, hsync⟩ := exists_run_of_exec exec_firstHour
  exact ⟨s, now_le_of_run (by decide) (by decide) hrun
    (Option.isSome_iff_ne_none.1 hsync)⟩

end Age

end Scheduler

end RealTube.Extension
