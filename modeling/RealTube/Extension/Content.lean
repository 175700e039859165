import RealTube.Store.Steps

/-!
# The content script

`content/content.ts`, event by event: reading the settings, changes of the settings, navigation,
mutations and timers. The script keeps copies of the two settings and of the type of the page, and
switches its observers by them. What the observers do with the videos they find, and where the vote
button goes, is left out.

The copies are right as long as the script listens, and with them the observers, except in two
places. A script that finds itself disabled returns before it installs its listeners, and enabling
it later has no effect. And the delayed start of the Shorts mode does not look at the settings and
the page again, as the delayed scan does. Without the two, and if the script is not disabled while
it is being set up, the observers are right whenever no timer is pending (`observers_right`).
-/

namespace RealTube.Extension

/-! ### Settings and pages -/

/-- A stored setting, as far as `!== false` tells values apart. -/
inductive Setting where
  | undefined
  | bool (b : Bool)
  | other
  deriving DecidableEq

/-- `value !== false`. -/
def Setting.on (value : Setting) : Bool := value ≠ .bool false

/-- The settings in `chrome.storage.sync` that the script reads. -/
structure Settings where
  enabled : Setting
  shortsFilterEnabled : Setting
  deriving DecidableEq

/-- `changes`: the new values of the settings that change. -/
structure Changes where
  enabled : Option Setting
  shortsFilterEnabled : Option Setting

/-- The settings after a change. -/
def Settings.apply (stored : Settings) (changes : Changes) : Settings where
  enabled := changes.enabled.getD stored.enabled
  shortsFilterEnabled := changes.shortsFilterEnabled.getD stored.shortsFilterEnabled

/-- `PageType`. -/
inductive PageType where
  | home
  | search
  | watch
  | shorts
  | channel
  | unknown
  deriving DecidableEq

/-- `path.startsWith(root)`. -/
def startsWith (path root : String) : Bool := root.toList.isPrefixOf path.toList

/-- `detectPageType`, of a path. -/
def detectPageType (path : String) : PageType :=
  if path = "/" ∨ path = "/feed/trending" ∨ startsWith path "/feed/" then .home
  else if path = "/results" then .search
  else if path = "/watch" then .watch
  else if startsWith path "/shorts/" then .shorts
  else if startsWith path "/@" ∨ startsWith path "/channel/" ∨ startsWith path "/c/" then .channel
  else .unknown

/-! ### The script -/

/-- What a timer runs. -/
inductive TimerTask where
  | scanVisibleVideos
  | injectVoteButton
  | startShortsMode
  /-- The body of `onMutation`. -/
  | debounced
  deriving DecidableEq

/-- A pending timer. -/
structure Timer where
  due : ℕ
  task : TimerTask
  deriving DecidableEq

/-- How far `init` has got. -/
inductive InitPhase where
  /-- It waits for `isEnabled`. -/
  | readingEnabled
  /-- It waits for `isShortsFilteringEnabled`. -/
  | readingShortsFilter
  /-- It has returned early. -/
  | disabled
  /-- It has installed the listeners and started the observer. -/
  | listening
  deriving DecidableEq

/-- The script, with the time in milliseconds, the stored settings and the path of the page. -/
structure Script where
  now : ℕ
  stored : Settings
  path : String
  phase : InitPhase
  enabled : Bool
  shortsFilterEnabled : Bool
  currentPageType : PageType
  /-- The observer is running. -/
  observer : Bool
  /-- The observer of Shorts is running. -/
  shortsObserver : Bool
  /-- The navigation watcher is running. -/
  shortsNavWatch : Bool
  timers : List Timer

/-- `DEBOUNCE_MS`. -/
def debounceMs : ℕ := 100

/-- `INITIAL_SCAN_DELAY_MS`. -/
def initialScanDelayMs : ℕ := 500

/-- The delay after which `injectVoteButton` tries again. -/
def injectRetryMs : ℕ := 800

namespace Script

/-- The script is loaded into a page. -/
def load (stored : Settings) (path : String) : Script where
  now := 0
  stored := stored
  path := path
  phase := .readingEnabled
  enabled := true
  shortsFilterEnabled := true
  currentPageType := .unknown
  observer := false
  shortsObserver := false
  shortsNavWatch := false
  timers := []

/-- `setTimeout`. -/
def setTimeout (task : TimerTask) (ms : ℕ) (s : Script) : Script :=
  { s with timers := s.timers ++ [⟨s.now + ms, task⟩] }

/-- `stopObserver`. -/
def stopObserver (s : Script) : Script := { s with observer := false }

/-- `startObserver`. -/
def startObserver (s : Script) : Script := { s.stopObserver with observer := true }

/-- `stopShortsMode`. -/
def stopShortsMode (s : Script) : Script :=
  { s with shortsObserver := false, shortsNavWatch := false }

/-- `startShortsMode`. -/
def startShortsMode (s : Script) : Script :=
  { s.stopShortsMode with shortsObserver := true, shortsNavWatch := true }

/-- `onMutation`. -/
def onMutation (s : Script) : Script :=
  if s.enabled then
    let s := { s with timers := s.timers.filter fun t ↦ t.task ≠ TimerTask.debounced }
    s.setTimeout .debounced debounceMs
  else s

/-- The vote button is injected on these pages. -/
def hasVoteButton (page : PageType) : Bool := page = .watch || page = .shorts

/-- `onNavigate`. -/
def onNavigate (s : Script) : Script :=
  let s := { s with currentPageType := detectPageType s.path }
  let s :=
    if hasVoteButton s.currentPageType then s.setTimeout .injectVoteButton initialScanDelayMs else s
  let s :=
    if s.currentPageType = .shorts ∧ s.shortsFilterEnabled then
      s.setTimeout .startShortsMode initialScanDelayMs
    else s.stopShortsMode
  s.setTimeout .scanVisibleVideos initialScanDelayMs

/-- The first half of the settings listener. -/
def onEnabledChanged (value : Setting) (s : Script) : Script :=
  let s := { s with enabled := value.on }
  if s.enabled then
    let s := s.startObserver
    if s.currentPageType = .shorts ∧ s.shortsFilterEnabled then s.startShortsMode else s
  else s.stopObserver.stopShortsMode

/-- The second half. -/
def onShortsFilterChanged (value : Setting) (s : Script) : Script :=
  let s := { s with shortsFilterEnabled := value.on }
  if s.enabled ∧ s.currentPageType = .shorts then
    if s.shortsFilterEnabled then s.startShortsMode else s.stopShortsMode
  else s

/-- The settings listener. -/
def onChanged (changes : Changes) (s : Script) : Script :=
  let s := changes.enabled.elim s (onEnabledChanged · s)
  changes.shortsFilterEnabled.elim s (onShortsFilterChanged · s)

/-- `init`, after the first `await`. -/
def initEnabled (s : Script) : Script :=
  let s := { s with enabled := s.stored.enabled.on }
  { s with phase := if s.enabled then .readingShortsFilter else .disabled }

/-- `init`, after the second `await`. -/
def initListening (s : Script) : Script :=
  let s := { s with
    shortsFilterEnabled := s.stored.shortsFilterEnabled.on
    currentPageType := detectPageType s.path
    phase := .listening }
  let s := s.setTimeout .scanVisibleVideos initialScanDelayMs
  let s :=
    if hasVoteButton s.currentPageType then s.setTimeout .injectVoteButton initialScanDelayMs else s
  let s :=
    if s.currentPageType = .shorts ∧ s.shortsFilterEnabled then
      s.setTimeout .startShortsMode initialScanDelayMs
    else s
  s.startObserver

/-- A timer fires. `injectVoteButton` sets it again where there is no place for the button. -/
def run (retry : Bool) (s : Script) : TimerTask → Script
  | .scanVisibleVideos => s
  | .injectVoteButton => if retry then s.setTimeout .injectVoteButton injectRetryMs else s
  | .startShortsMode => s.startShortsMode
  | .debounced => s

end Script

/-- What happens to the script. -/
inductive ScriptEvent where
  /-- Time passes. -/
  | pass (now : ℕ)
  /-- The setting that `init` waits for is read. -/
  | read
  /-- Settings change. -/
  | change (changes : Changes)
  /-- The page changes, and the listeners for that are called. -/
  | navigate (path : String)
  /-- Nodes are added to the page. -/
  | mutation
  /-- A timer fires. -/
  | fire (i : ℕ) (retry : Bool)

namespace Script

/-- The script after an event. A timer fires once it is due, and after those due before it. -/
def step (s : Script) : ScriptEvent → Option Script
  | .pass now => if s.now ≤ now then some { s with now } else none
  | .read =>
    match s.phase with
    | .readingEnabled => some s.initEnabled
    | .readingShortsFilter => some s.initListening
    | _ => none
  | .change changes =>
    let s := { s with stored := s.stored.apply changes }
    if s.phase = .listening then some (s.onChanged changes) else some s
  | .navigate path =>
    let s := { s with path }
    if s.phase = .listening then some s.onNavigate else some s
  | .mutation => if s.observer then some s.onMutation else none
  | .fire i retry =>
    s.timers[i]?.bind fun t ↦
      if t.due ≤ s.now ∧ ∀ t' ∈ s.timers, t.due ≤ t'.due then
        some ({ s with timers := s.timers.eraseIdx i }.run retry t.task)
      else none

/-- The Shorts mode should be on. -/
def WantsShorts (s : Script) : Prop :=
  s.stored.enabled.on ∧ s.stored.shortsFilterEnabled.on ∧ detectPageType s.path = .shorts

instance (s : Script) : Decidable s.WantsShorts := inferInstanceAs (Decidable (_ ∧ _ ∧ _))

/-- The observers run exactly when they should. -/
structure ObserversRight (s : Script) : Prop where
  observer : s.observer ↔ s.stored.enabled.on
  shortsObserver : s.shortsObserver ↔ s.WantsShorts
  shortsNavWatch : s.shortsNavWatch ↔ s.WantsShorts

/-- `init` has come to its end. -/
def Started (s : Script) : Prop := s.phase = .disabled ∨ s.phase = .listening

variable {s s' : Script} {value : Setting} {changes : Changes}

/-! ### The observers follow the copies -/

/-- The Shorts mode should be on, as far as the script knows. -/
def ExpectsShorts (s : Script) : Prop :=
  s.enabled ∧ s.shortsFilterEnabled ∧ s.currentPageType = .shorts

/-- A start of the Shorts mode is pending. -/
def StartPending (s : Script) : Prop := ∃ t ∈ s.timers, t.task = .startShortsMode

/-- **The observers follow the copies**, or will, once the timers have fired. -/
structure Follows (s : Script) : Prop where
  observer : s.observer = s.enabled
  shortsNavWatch : s.shortsNavWatch = s.shortsObserver
  expects : s.shortsObserver → s.ExpectsShorts
  pending : s.ExpectsShorts → s.shortsObserver ∨ s.StartPending

theorem Follows.onEnabledChanged (h : s.Follows) : (s.onEnabledChanged value).Follows := by
  rw [Script.onEnabledChanged]
  simp only
  split_ifs with hon hshorts
  · exact ⟨hon.symm, rfl, fun _ ↦ ⟨hon, hshorts.2, hshorts.1⟩, fun _ ↦ Or.inl rfl⟩
  · refine ⟨hon.symm, h.shortsNavWatch, fun hs ↦ ?_, fun hs ↦ ?_⟩
    · exact absurd ⟨(h.expects hs).2.2, (h.expects hs).2.1⟩ hshorts
    · exact absurd ⟨hs.2.2, hs.2.1⟩ hshorts
  · exact ⟨(Bool.eq_false_iff.2 hon).symm, rfl, fun hs ↦ absurd hs Bool.false_ne_true,
      fun hs ↦ absurd hs.1 hon⟩

theorem Follows.onShortsFilterChanged (h : s.Follows) :
    (s.onShortsFilterChanged value).Follows := by
  rw [Script.onShortsFilterChanged]
  simp only
  split_ifs with hpage hon
  · exact ⟨h.observer, rfl, fun _ ↦ ⟨hpage.1, hon, hpage.2⟩, fun _ ↦ Or.inl rfl⟩
  · exact ⟨h.observer, rfl, fun hs ↦ absurd hs Bool.false_ne_true, fun hs ↦ absurd hs.2.1 hon⟩
  · refine ⟨h.observer, h.shortsNavWatch, fun hs ↦ ?_, fun hs ↦ ?_⟩
    · exact absurd ⟨(h.expects hs).1, (h.expects hs).2.2⟩ hpage
    · exact absurd ⟨hs.1, hs.2.2⟩ hpage

theorem Follows.onChanged (h : s.Follows) : (s.onChanged changes).Follows := by
  have hfirst : (changes.enabled.elim s (Script.onEnabledChanged · s)).Follows := by
    rcases changes.enabled with - | value
    · exact h
    · exact h.onEnabledChanged
  rw [Script.onChanged]
  rcases changes.shortsFilterEnabled with - | value
  · exact hfirst
  · exact hfirst.onShortsFilterChanged

/-- Timers may come and go, besides the last start of the Shorts mode. -/
theorem Follows.of_timers (h : s.Follows) {timers : List Timer}
    (hpending : s.StartPending → { s with timers }.StartPending) : { s with timers }.Follows where
  observer := h.observer
  shortsNavWatch := h.shortsNavWatch
  expects := h.expects
  pending hs := (h.pending hs).imp id hpending

theorem Follows.setTimeout (h : s.Follows) (task : TimerTask) (ms : ℕ) :
    (s.setTimeout task ms).Follows :=
  h.of_timers fun ⟨t, ht, htask⟩ ↦ ⟨t, List.mem_append_left _ ht, htask⟩

/-- Besides a new timer, a page changes nothing until the Shorts mode is managed. -/
theorem Follows.onNavigate (h : s.Follows) : s.onNavigate.Follows := by
  have hmanage : ∀ s₁ : Script, s₁.observer = s₁.enabled → s₁.shortsNavWatch = s₁.shortsObserver →
      (s₁.shortsObserver → s₁.enabled) →
        (if s₁.currentPageType = .shorts ∧ s₁.shortsFilterEnabled then
          s₁.setTimeout .startShortsMode initialScanDelayMs else s₁.stopShortsMode).Follows := by
    intro s₁ hobserver hwatch hon
    split_ifs with hshorts
    · exact ⟨hobserver, hwatch, fun hs ↦ ⟨hon hs, hshorts.2, hshorts.1⟩, fun _ ↦
        Or.inr ⟨_, List.mem_append_right _ List.mem_cons_self, rfl⟩⟩
    · exact ⟨hobserver, rfl, fun hs ↦ absurd hs Bool.false_ne_true,
        fun hs ↦ absurd ⟨hs.2.2, hs.2.1⟩ hshorts⟩
  rw [Script.onNavigate]
  simp only
  refine Follows.setTimeout (hmanage _ ?_ ?_ ?_) _ _
  · split_ifs <;> exact h.observer
  · split_ifs <;> exact h.shortsNavWatch
  · split_ifs <;> exact fun hs ↦ (h.expects hs).1

/-- At the end of `init` the observer is on, and the Shorts mode will be. -/
theorem follows_initListening (henabled : s.enabled) (hshorts : s.shortsObserver = false)
    (hwatch : s.shortsNavWatch = false) : s.initListening.Follows := by
  have hmanage : ∀ s₁ : Script, s₁.enabled → s₁.shortsObserver = false → s₁.shortsNavWatch = false →
      (if s₁.currentPageType = .shorts ∧ s₁.shortsFilterEnabled then
        s₁.setTimeout .startShortsMode initialScanDelayMs else s₁).startObserver.Follows := by
    intro s₁ henabled hshorts hwatch
    have hoff : ¬ s₁.shortsObserver := Bool.eq_false_iff.1 hshorts
    split_ifs with hpage
    · exact ⟨henabled.symm, hwatch.trans hshorts.symm, fun hs ↦ absurd hs hoff, fun _ ↦
        Or.inr ⟨_, List.mem_append_right _ List.mem_cons_self, rfl⟩⟩
    · exact ⟨henabled.symm, hwatch.trans hshorts.symm, fun hs ↦ absurd hs hoff,
        fun hs ↦ absurd ⟨hs.2.2, hs.2.1⟩ hpage⟩
  rw [Script.initListening]
  refine hmanage _ ?_ ?_ ?_
  · split_ifs <;> exact henabled
  · split_ifs <;> exact hshorts
  · split_ifs <;> exact hwatch

theorem Follows.onMutation (h : s.Follows) : s.onMutation.Follows := by
  rw [Script.onMutation]
  split_ifs
  · refine Follows.setTimeout (h.of_timers fun ⟨t, ht, htask⟩ ↦ ⟨t, ?_, htask⟩) _ _
    exact List.mem_filter.2 ⟨ht, by rw [htask]; decide⟩
  · exact h

/-- The time, the stored settings and the path are no part of it. -/
theorem Follows.of_environment (h : s.Follows) (now : ℕ) (stored : Settings) (path : String) :
    { s with now, stored, path }.Follows :=
  ⟨h.observer, h.shortsNavWatch, h.expects, h.pending⟩

/-- **A timer fires**, which may start the Shorts mode only where the script expects it. -/
theorem Follows.fire (h : s.Follows) {i : ℕ} {t : Timer} (ht : s.timers[i]? = some t) (retry : Bool)
    (hstart : t.task = .startShortsMode → s.ExpectsShorts) :
    ({ s with timers := s.timers.eraseIdx i }.run retry t.task).Follows := by
  have herase : t.task ≠ .startShortsMode → Follows { s with timers := s.timers.eraseIdx i } :=
    fun hne ↦ h.of_timers fun ⟨t', ht', htask⟩ ↦ by
      obtain ⟨j, hj⟩ := List.mem_iff_getElem?.1 ht'
      refine ⟨t', List.mem_eraseIdx_iff_getElem?.2 ⟨j, fun hij ↦ ?_, hj⟩, htask⟩
      subst hij
      exact hne (Option.some.inj (ht.symm.trans hj) ▸ htask)
  cases htask : t.task with
  | scanVisibleVideos => exact herase (by rw [htask]; decide)
  | debounced => exact herase (by rw [htask]; decide)
  | startShortsMode => exact ⟨h.observer, rfl, fun _ ↦ hstart htask, fun _ ↦ Or.inl rfl⟩
  | injectVoteButton =>
    have hinject := herase (by rw [htask]; decide)
    rw [Script.run]
    split_ifs
    · exact hinject.setTimeout _ _
    · exact hinject

/-! ### The copies -/

/-- The script listens, and its copies are right. -/
structure Listens (s : Script) : Prop where
  phase : s.phase = .listening
  enabled : s.enabled = s.stored.enabled.on
  shortsFilterEnabled : s.shortsFilterEnabled = s.stored.shortsFilterEnabled.on
  currentPageType : s.currentPageType = detectPageType s.path

theorem Listens.expectsShorts_iff (h : s.Listens) : s.ExpectsShorts ↔ s.WantsShorts := by
  rw [ExpectsShorts, WantsShorts, h.enabled, h.shortsFilterEnabled, h.currentPageType]

theorem Listens.onNavigate (h : s.Listens) (path : String) :
    { s with path }.onNavigate.Listens := by
  rw [Script.onNavigate]
  simp only
  split_ifs <;> exact ⟨h.phase, h.enabled, h.shortsFilterEnabled, rfl⟩

/-- What the first half of the settings listener changes. -/
theorem exists_onEnabledChanged (s : Script) (value : Setting) :
    ∃ observer shortsObserver shortsNavWatch, s.onEnabledChanged value =
      { s with enabled := value.on, observer, shortsObserver, shortsNavWatch } := by
  rw [Script.onEnabledChanged]
  simp only
  split_ifs <;> exact ⟨_, _, _, rfl⟩

/-- What the second half changes. -/
theorem exists_onShortsFilterChanged (s : Script) (value : Setting) :
    ∃ shortsObserver shortsNavWatch, s.onShortsFilterChanged value =
      { s with shortsFilterEnabled := value.on, shortsObserver, shortsNavWatch } := by
  rw [Script.onShortsFilterChanged]
  simp only
  split_ifs <;> exact ⟨_, _, rfl⟩

theorem Listens.onChanged (h : s.Listens) (changes : Changes) :
    ({ s with stored := s.stored.apply changes }.onChanged changes).Listens := by
  obtain ⟨enabled, shortsFilterEnabled⟩ := changes
  rcases enabled with - | value
  · rcases shortsFilterEnabled with - | value
    · exact ⟨h.phase, h.enabled, h.shortsFilterEnabled, h.currentPageType⟩
    · obtain ⟨_, _, heq⟩ := exists_onShortsFilterChanged
        { s with stored := s.stored.apply ⟨none, some value⟩ } value
      rw [Script.onChanged, Option.elim_none, Option.elim_some, heq]
      exact ⟨h.phase, h.enabled, rfl, h.currentPageType⟩
  · obtain ⟨_, _, _, heq⟩ := exists_onEnabledChanged
      { s with stored := s.stored.apply ⟨some value, shortsFilterEnabled⟩ } value
    rw [Script.onChanged, Option.elim_some, heq]
    rcases shortsFilterEnabled with - | value'
    · exact ⟨h.phase, rfl, h.shortsFilterEnabled, h.currentPageType⟩
    · obtain ⟨_, _, heq'⟩ := exists_onShortsFilterChanged _ value'
      rw [Option.elim_some, heq']
      exact ⟨h.phase, rfl, rfl, h.currentPageType⟩

theorem Listens.onMutation (h : s.Listens) : s.onMutation.Listens := by
  rw [Script.onMutation]
  split_ifs <;> exact ⟨h.phase, h.enabled, h.shortsFilterEnabled, h.currentPageType⟩

theorem Listens.fire (h : s.Listens) (i : ℕ) (retry : Bool) (task : TimerTask) :
    ({ s with timers := s.timers.eraseIdx i }.run retry task).Listens := by
  have herase : Listens { s with timers := s.timers.eraseIdx i } :=
    ⟨h.phase, h.enabled, h.shortsFilterEnabled, h.currentPageType⟩
  cases task with
  | scanVisibleVideos => exact herase
  | debounced => exact herase
  | startShortsMode => exact ⟨h.phase, h.enabled, h.shortsFilterEnabled, h.currentPageType⟩
  | injectVoteButton =>
    rw [Script.run]
    split_ifs <;> exact ⟨h.phase, h.enabled, h.shortsFilterEnabled, h.currentPageType⟩

theorem listens_initListening (henabled : s.enabled = s.stored.enabled.on) :
    s.initListening.Listens := by
  rw [Script.initListening]
  split_ifs <;> exact ⟨rfl, henabled, rfl, rfl⟩

/-! ### Runs -/

/-- Nothing is running. -/
structure Idle (s : Script) : Prop where
  observer : s.observer = false
  shortsObserver : s.shortsObserver = false
  shortsNavWatch : s.shortsNavWatch = false
  timers : s.timers = []

/-- The time, the stored settings and the path are no part of it. -/
theorem Idle.of_environment (h : s.Idle) (now : ℕ) (stored : Settings) (path : String) :
    { s with now, stored, path }.Idle :=
  ⟨h.observer, h.shortsObserver, h.shortsNavWatch, h.timers⟩

/-- An event is no place where the script goes wrong. -/
def Tracks (s : Script) : ScriptEvent → Prop
  | .change changes =>
    -- a script that has returned is not enabled, and one that is being set up is not disabled
    (s.phase = .disabled → ¬ (s.stored.apply changes).enabled.on) ∧
      (s.phase = .readingShortsFilter → (s.stored.apply changes).enabled.on)
  | .fire i _ =>
    -- the Shorts mode is started only if it should be on
    ∀ t ∈ s.timers[i]?, t.task = .startShortsMode → s.WantsShorts
  | _ => True

instance (s : Script) : (e : ScriptEvent) → Decidable (s.Tracks e)
  | .pass _ => inferInstanceAs (Decidable True)
  | .read => inferInstanceAs (Decidable True)
  | .change _ => inferInstanceAs (Decidable (_ ∧ _))
  | .navigate _ => inferInstanceAs (Decidable True)
  | .mutation => inferInstanceAs (Decidable True)
  | .fire _ _ => inferInstanceAs (Decidable (∀ t ∈ _, _ → _))

/-- What holds of a script that has gone wrong nowhere. -/
inductive Inv (s : Script) : Prop
  | idle (hidle : s.Idle) (hphase : s.phase ≠ .listening)
      (hreading : s.phase = .readingShortsFilter → s.enabled ∧ s.stored.enabled.on)
      (hdisabled : s.phase = .disabled → ¬ s.stored.enabled.on)
  | listening (hlistens : s.Listens) (hfollows : s.Follows)

theorem Inv.load (stored : Settings) (path : String) : (Script.load stored path).Inv :=
  .idle ⟨rfl, rfl, rfl, rfl⟩ (by rintro ⟨⟩) (by rintro ⟨⟩) (by rintro ⟨⟩)

theorem Inv.pass (h : s.Inv) (now : ℕ) : { s with now }.Inv := by
  obtain ⟨hidle, hphase, hreading, hdisabled⟩ | ⟨hlistens, hfollows⟩ := h
  · exact .idle (hidle.of_environment now s.stored s.path) hphase hreading hdisabled
  · refine .listening ?_ (hfollows.of_environment now s.stored s.path)
    exact ⟨hlistens.phase, hlistens.enabled, hlistens.shortsFilterEnabled, hlistens.currentPageType⟩

theorem Inv.read (h : s.Inv) (hstep : s.step .read = some s') : s'.Inv := by
  rw [Script.step] at hstep
  obtain ⟨hidle, hphase, hreading, hdisabled⟩ | ⟨hlistens, -⟩ := h
  · cases hs : s.phase with
    | readingEnabled =>
      rw [hs] at hstep
      obtain rfl := Option.some.inj hstep
      have hidle' : s.initEnabled.Idle :=
        ⟨hidle.observer, hidle.shortsObserver, hidle.shortsNavWatch, hidle.timers⟩
      by_cases hon : s.stored.enabled.on
      · have hnext : s.initEnabled.phase = .readingShortsFilter := if_pos hon
        exact .idle hidle' (by rw [hnext]; decide) (fun _ ↦ ⟨hon, hon⟩)
          fun hd ↦ absurd (hnext.symm.trans hd) (by decide)
      · have hnext : s.initEnabled.phase = .disabled := if_neg hon
        exact .idle hidle' (by rw [hnext]; decide)
          (fun hr ↦ absurd (hnext.symm.trans hr) (by decide)) fun _ ↦ hon
    | readingShortsFilter =>
      rw [hs] at hstep
      obtain rfl := Option.some.inj hstep
      obtain ⟨henabled, hon⟩ := hreading hs
      exact .listening (listens_initListening (henabled.trans hon.symm))
        (follows_initListening henabled hidle.shortsObserver hidle.shortsNavWatch)
    | disabled =>
      rw [hs] at hstep
      cases hstep
    | listening => exact absurd hs hphase
  · rw [hlistens.phase] at hstep
    cases hstep

theorem Inv.change (h : s.Inv) (htracks : s.Tracks (.change changes))
    (hstep : s.step (.change changes) = some s') : s'.Inv := by
  rw [Script.step] at hstep
  obtain ⟨hidle, hphase, hreading, hdisabled⟩ | ⟨hlistens, hfollows⟩ := h
  · simp only [if_neg hphase] at hstep
    obtain rfl := Option.some.inj hstep
    exact .idle (hidle.of_environment s.now _ s.path) hphase
      (fun hs ↦ ⟨(hreading hs).1, htracks.2 hs⟩) htracks.1
  · simp only [if_pos hlistens.phase] at hstep
    obtain rfl := Option.some.inj hstep
    exact .listening (hlistens.onChanged changes) (hfollows.of_environment s.now _ s.path).onChanged

theorem Inv.navigate (h : s.Inv) {path : String} (hstep : s.step (.navigate path) = some s') :
    s'.Inv := by
  rw [Script.step] at hstep
  obtain ⟨hidle, hphase, hreading, hdisabled⟩ | ⟨hlistens, hfollows⟩ := h
  · simp only [if_neg hphase] at hstep
    obtain rfl := Option.some.inj hstep
    exact .idle (hidle.of_environment s.now s.stored path) hphase hreading hdisabled
  · simp only [if_pos hlistens.phase] at hstep
    obtain rfl := Option.some.inj hstep
    exact .listening (hlistens.onNavigate path)
      (hfollows.of_environment s.now s.stored path).onNavigate

theorem Inv.mutation (h : s.Inv) (hstep : s.step .mutation = some s') : s'.Inv := by
  rw [Script.step] at hstep
  split_ifs at hstep with hobserver
  obtain rfl := Option.some.inj hstep
  obtain ⟨hidle, -, -, -⟩ | ⟨hlistens, hfollows⟩ := h
  · exact absurd (hidle.observer.symm.trans hobserver) Bool.false_ne_true
  · exact .listening hlistens.onMutation hfollows.onMutation

theorem Inv.fire (h : s.Inv) {i : ℕ} {retry : Bool} (htracks : s.Tracks (.fire i retry))
    (hstep : s.step (.fire i retry) = some s') : s'.Inv := by
  rw [Script.step] at hstep
  obtain ⟨t, ht, hstep⟩ := Option.bind_eq_some_iff.1 hstep
  split_ifs at hstep
  obtain rfl := Option.some.inj hstep
  obtain ⟨hidle, -, -, -⟩ | ⟨hlistens, hfollows⟩ := h
  · rw [hidle.timers] at ht
    cases ht
  · exact .listening (hlistens.fire i retry t.task)
      (hfollows.fire ht retry fun hstart ↦ hlistens.expectsShorts_iff.2 (htracks t ht hstart))

/-- **One step.** -/
theorem Inv.step {e : ScriptEvent} (h : s.Inv) (htracks : s.Tracks e) (hstep : s.step e = some s') :
    s'.Inv := by
  cases e with
  | pass now =>
    rw [Script.step] at hstep
    split_ifs at hstep
    obtain rfl := Option.some.inj hstep
    exact h.pass now
  | read => exact h.read hstep
  | change changes => exact h.change htracks hstep
  | navigate path => exact h.navigate hstep
  | mutation => exact h.mutation hstep
  | fire i retry => exact h.fire htracks hstep

/-- **Once the script has started, and whenever no timer is pending, the observers are right**, if
the script has gone wrong nowhere. -/
theorem observers_right {stored : Settings} {path : String} {es : List ScriptEvent}
    (h : Steps.Run Script.step Tracks (load stored path) es s) (hstarted : s.Started)
    (htimers : s.timers = []) : s.ObserversRight := by
  obtain ⟨hidle, hphase, -, hdisabled⟩ | ⟨hlistens, hfollows⟩ :=
    h.inv (Inv.load stored path) Inv.step
  · have hoff := hdisabled (hstarted.resolve_right hphase)
    have hwants : ¬ s.WantsShorts := fun hw ↦ hoff hw.1
    exact ⟨iff_of_false (by simp [hidle.observer]) hoff,
      iff_of_false (by simp [hidle.shortsObserver]) hwants,
      iff_of_false (by simp [hidle.shortsNavWatch]) hwants⟩
  · have hshorts : s.shortsObserver ↔ s.WantsShorts := by
      refine ⟨fun hs ↦ hlistens.expectsShorts_iff.1 (hfollows.expects hs), fun hw ↦ ?_⟩
      refine (hfollows.pending (hlistens.expectsShorts_iff.2 hw)).resolve_right fun ⟨t, ht, _⟩ ↦ ?_
      rw [htimers] at ht
      exact List.not_mem_nil ht
    exact ⟨by rw [hfollows.observer, hlistens.enabled], hshorts,
      by rw [hfollows.shortsNavWatch]; exact hshorts⟩

/-- **On a Shorts page** all observers run after half a second. -/
theorem observers_right_shorts : ∃ s : Script, s.ObserversRight ∧ s.shortsObserver = true := by
  have hrun : (Steps.exec step Tracks (load ⟨.undefined, .bool true⟩ "/shorts/a")
      [.read, .read, .mutation, .pass 100, .fire 3 false, .pass 500, .fire 2 false, .fire 1 false,
        .fire 0 false]).map (fun s ↦ (s.phase, s.timers, s.shortsObserver)) =
          some (.listening, [], true) := by
    decide +kernel
  obtain ⟨s, hs, heq⟩ := Option.map_eq_some_iff.1 hrun
  simp only [Prod.mk.injEq] at heq
  obtain ⟨hphase, htimers, hshorts⟩ := heq
  exact ⟨s, observers_right (Steps.run_of_exec hs) (Or.inr hphase) htimers, hshorts⟩

/-- **A script that is disabled at first stays off** when it is enabled. -/
theorem not_observers_right : ¬ ∀ (stored : Settings) (path : String) (es : List ScriptEvent)
    (s : Script), Steps.Run step Steps.Any (load stored path) es s → s.Started → s.timers = [] →
      s.ObserversRight := by
  intro h
  have hrun : (Steps.exec step Steps.Any (load ⟨.bool false, .undefined⟩ "/")
      [.read, .change ⟨some (.bool true), none⟩]).map
        (fun s ↦ (s.phase, s.timers, s.observer, s.stored.enabled)) =
          some (.disabled, [], false, .bool true) := by
    decide +kernel
  obtain ⟨s, hs, heq⟩ := Option.map_eq_some_iff.1 hrun
  simp only [Prod.mk.injEq] at heq
  obtain ⟨hphase, htimers, hobserver, henabled⟩ := heq
  have hright := (h _ _ _ s (Steps.run_of_exec hs) (Or.inl hphase) htimers).observer
  rw [hobserver, henabled] at hright
  exact absurd (hright.2 rfl) Bool.false_ne_true

/-- A page left within half a second leaves the Shorts mode on. -/
example : (Steps.exec step Steps.Any (load ⟨.undefined, .undefined⟩ "/shorts/a")
    [.read, .read, .navigate "/results", .pass 500, .fire 0 false, .fire 0 false, .fire 0 false,
      .fire 0 false]).map (fun s ↦ (s.currentPageType, s.timers, s.shortsObserver)) =
        some (.search, [], true) := by
  decide +kernel

end Script

end RealTube.Extension
