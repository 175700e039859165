import RealTube.Model.Schema
import RealTube.Store.Steps

/-!
# The options page and the popup

Both write the settings in `chrome.storage.sync`: `options/options.tsx` and the switch of
`popup/popup.tsx`. The options page loads all settings once. A change goes into its copy, and 300 ms
after the last change the whole copy is written, whichever setting was changed. The popup writes
`enabled` alone.

The options page does not listen to the storage. So its copy of `enabled` grows old when the popup
is used, and the next save of any setting writes it back. What is stored is what the user chose last
exactly if no save writes an `enabled` that the user has chosen otherwise since
(`throughout_kept_iff`).
-/

namespace RealTube.Extension.Options

/-! ### Settings -/

/-- `defaultAction`. -/
inductive DefaultAction where
  | hide
  | warn
  | dim
  | ignore
  deriving DecidableEq

/-- `badgeStyle`. -/
inductive BadgeStyle where
  | dot
  | badge
  | none
  deriving DecidableEq

/-- The settings. The threshold of a category is one by itself. -/
inductive SettingKey where
  | enabled
  | shortsFilterEnabled
  | defaultAction
  | hideThreshold
  | categoryThreshold (category : Category)
  | badgeStyle
  | showNotifications
  | hashPrefixMode
  | serverUrl
  | cacheTtlMinutes
  | debugLogging
  deriving DecidableEq

/-- The values of a setting. -/
abbrev SettingKey.Value : SettingKey → Type
  | enabled => Bool
  | shortsFilterEnabled => Bool
  | defaultAction => DefaultAction
  | hideThreshold => ℚ
  | categoryThreshold _ => ℚ
  | badgeStyle => BadgeStyle
  | showNotifications => Bool
  | hashPrefixMode => Bool
  | serverUrl => String
  | cacheTtlMinutes => ℚ
  | debugLogging => Bool

/-- `Settings`. -/
abbrev Settings : Type := ∀ k : SettingKey, k.Value

/-- The items of a storage, or any values for some of the settings. -/
abbrev Items : Type := ∀ k : SettingKey, Option k.Value

/-- `DEFAULT_SETTINGS`. -/
def defaultSettings : Settings
  | .enabled => true
  | .shortsFilterEnabled => true
  | .defaultAction => .hide
  | .hideThreshold => 50
  | .categoryThreshold .fullyAI => 50
  | .categoryThreshold .aiVoiceover => 60
  | .categoryThreshold .aiVisuals => 60
  | .categoryThreshold .aiThumbnails => 70
  | .categoryThreshold .aiAssisted => 70
  | .badgeStyle => .badge
  | .showNotifications => true
  | .hashPrefixMode => true
  | .serverUrl => ""
  | .cacheTtlMinutes => 30
  | .debugLogging => false

/-- `loadSettings`. -/
def loadSettings (items : Items) : Settings := fun k ↦ (items k).getD (defaultSettings k)

/-! ### The pages -/

/-- The storage and the variables of the two pages. -/
structure Pages where
  stored : Items
  /-- `settings` of the options page, once they are loaded. -/
  settings : Option Settings
  /-- `saveTimer`, with what it will write. -/
  saveTimer : Option Settings
  /-- `enabled` of the popup, while it is open. -/
  popup : Option Bool
  /-- What the user has chosen last, of every setting that was changed. -/
  chosen : Items

/-- What can happen. -/
inductive PagesEvent where
  /-- The options page is opened, with no write outstanding, and loads the settings. -/
  | openOptions
  /-- `save`, with one setting changed. -/
  | change (k : SettingKey) (value : k.Value)
  /-- `saveTimer` fires. -/
  | fire
  /-- The popup is opened, and loads `enabled`. -/
  | openPopup
  /-- `handleToggle`. -/
  | toggle

namespace Pages

/-- Nothing is open, and nothing has been chosen yet. -/
def start (stored : Items) : Pages where
  stored := stored
  settings := none
  saveTimer := none
  popup := none
  chosen _ := none

/-- The state after an event. The switch of `hashPrefixMode` is disabled. -/
def step (s : Pages) : PagesEvent → Option Pages
  | .openOptions =>
    match s.saveTimer with
    | none => some { s with settings := some (loadSettings s.stored) }
    | some _ => none
  | .change k value =>
    match s.settings with
    | none => none
    | some prev =>
      if k = .hashPrefixMode then none
      else
        let next : Settings := Function.update prev k value
        some { s with
          settings := some next
          saveTimer := some next
          chosen := Function.update s.chosen k (some value) }
  | .fire =>
    match s.saveTimer with
    | none => none
    | some next => some { s with stored := fun k ↦ some (next k), saveTimer := none }
  | .openPopup => some { s with popup := some (s.stored .enabled ≠ some false) }
  | .toggle =>
    match s.popup with
    | none => none
    | some enabled =>
      let next : Bool := !enabled
      some { s with
        stored := Function.update s.stored .enabled (some next)
        popup := some next
        chosen := Function.update s.chosen .enabled (some next) }

/-- **Once all writes have happened**, every setting is stored as it was chosen last. -/
def Kept (s : Pages) : Prop :=
  s.saveTimer = none → ∀ k value, s.chosen k = some value → s.stored k = some value

/-- **The condition**: what the timer writes has `enabled` as it was chosen last. -/
def WritesChosen (s : Pages) : PagesEvent → Prop
  | .fire => ∀ next ∈ s.saveTimer, ∀ value ∈ s.chosen .enabled, next .enabled = value
  | _ => True

/-! ### What is kept -/

/-- The copy of the settings is up to date but for `enabled`, and the timer writes that copy. -/
structure Inv (s : Pages) : Prop where
  settings : ∀ settings, s.settings = some settings →
    ∀ k ≠ .enabled, ∀ value, s.chosen k = some value → settings k = value
  pending : ∀ next, s.saveTimer = some next → s.settings = some next
  kept : s.Kept

variable {s s' : Pages} {e : PagesEvent}

theorem inv_start (stored : Items) : (start stored).Inv where
  settings _ h := by cases h
  pending _ h := by cases h
  kept _ _ _ h := by cases h

/-- A change brings the copy up to date. -/
theorem Inv.change (h : s.Inv) {prev : Settings} (hprev : s.settings = some prev) (k : SettingKey)
    (value : k.Value) : Inv { s with
      settings := some (Function.update prev k value)
      saveTimer := some (Function.update prev k value)
      chosen := Function.update s.chosen k (some value) } where
  settings settings hsettings k' hk' value' hvalue' := by
    obtain rfl := Option.some.inj hsettings
    change Function.update s.chosen k (some value) k' = some value' at hvalue'
    by_cases hk : k' = k
    · subst hk
      rw [Function.update_self] at hvalue' ⊢
      exact Option.some.inj hvalue'
    · rw [Function.update_of_ne hk] at hvalue' ⊢
      exact h.settings prev hprev k' hk' value' hvalue'
  pending _ hnext := hnext
  kept hnone := by cases hnone

/-- **A save** writes the copy. -/
theorem Inv.fire (h : s.Inv) {next : Settings} (hnext : s.saveTimer = some next)
    (hchosen : ∀ value ∈ s.chosen .enabled, next .enabled = value) :
    Inv { s with stored := fun k ↦ some (next k), saveTimer := none } where
  settings := h.settings
  pending _ hnone := by cases hnone
  kept _ k value hvalue := by
    refine congrArg some ?_
    by_cases hk : k = .enabled
    · subst hk
      exact hchosen value hvalue
    · exact h.settings next (h.pending next hnext) k hk value hvalue

/-- The popup writes what is chosen. -/
theorem Inv.toggle (h : s.Inv) (popup : Option Bool) (next : Bool) : Inv { s with
      stored := Function.update s.stored .enabled (some next)
      popup := popup
      chosen := Function.update s.chosen .enabled (some next) } where
  settings settings hsettings k hk value hvalue := by
    change Function.update s.chosen .enabled (some next) k = some value at hvalue
    rw [Function.update_of_ne hk] at hvalue
    exact h.settings settings hsettings k hk value hvalue
  pending := h.pending
  kept hnone k value hvalue := by
    change Function.update s.chosen .enabled (some next) k = some value at hvalue
    change Function.update s.stored .enabled (some next) k = some value
    by_cases hk : k = .enabled
    · subst hk
      rw [Function.update_self] at hvalue ⊢
      exact hvalue
    · rw [Function.update_of_ne hk] at hvalue ⊢
      exact h.kept hnone k value hvalue

/-- **Every allowed event keeps the invariant.** -/
theorem Inv.step (h : s.Inv) (he : s.WritesChosen e) (hstep : s.step e = some s') : s'.Inv := by
  cases e with
  | openOptions =>
    rw [Pages.step] at hstep
    split at hstep
    · rename_i hnone
      obtain rfl := Option.some.inj hstep
      refine ⟨fun settings hsettings k _ value hvalue ↦ ?_, fun next hnext ↦ ?_, h.kept⟩
      · obtain rfl := Option.some.inj hsettings
        rw [loadSettings, h.kept hnone k value hvalue, Option.getD_some]
      · exact absurd (hnone.symm.trans hnext) (Option.some_ne_none next).symm
    · cases hstep
  | change k value =>
    rw [Pages.step] at hstep
    split at hstep
    · cases hstep
    · rename_i prev hprev
      split_ifs at hstep
      obtain rfl := Option.some.inj hstep
      exact h.change hprev k value
  | fire =>
    rw [Pages.step] at hstep
    split at hstep
    · cases hstep
    · rename_i next hnext
      obtain rfl := Option.some.inj hstep
      exact h.fire hnext (he next hnext)
  | openPopup =>
    obtain rfl := Option.some.inj hstep
    exact ⟨h.settings, h.pending, h.kept⟩
  | toggle =>
    rw [Pages.step] at hstep
    split at hstep
    · cases hstep
    · obtain rfl := Option.some.inj hstep
      exact h.toggle _ _

/-- **Exactly the runs that lose nothing.** In every state of a run all settings are stored as they
were chosen last, once all writes have happened, if and only if every save writes `enabled` as it
was chosen last. -/
theorem throughout_kept_iff (stored : Items) (es : List PagesEvent) (s : Pages)
    (h : Steps.Run step Steps.Any (start stored) es s) :
    Steps.Throughout step Kept (start stored) es ↔
      Steps.Run step WritesChosen (start stored) es s := by
  refine h.throughout_iff (fun {es s} hrun ↦ ?_) fun {es s e s'} hrun hstep hkept ↦ ?_
  · have hinv : s.Inv := hrun.inv (inv_start stored) Inv.step
    exact hinv.kept
  · cases e with
    | fire =>
      intro next hnext value hvalue
      rw [Pages.step, hnext] at hstep
      obtain rfl := Option.some.inj hstep
      exact Option.some.inj (hkept rfl .enabled value hvalue)
    | _ => trivial

/-! ### Two runs -/

instance (s : Pages) (e : PagesEvent) : Decidable (s.WritesChosen e) := by
  cases e with
  | fire => exact inferInstanceAs (Decidable (∀ next ∈ s.saveTimer, _))
  | _ => exact .isTrue trivial

/-- A setting is changed and saved, and then the popup is used. -/
def saveThenToggle : List PagesEvent :=
  [.openOptions, .change .badgeStyle .dot, .fire, .openPopup, .toggle]

theorem exec_saveThenToggle :
    (Steps.exec step WritesChosen (start fun _ ↦ none) saveThenToggle).any (fun _ ↦ true) := by
  decide +kernel

/-- That run loses nothing. -/
theorem throughout_kept_saveThenToggle :
    Steps.Throughout step Kept (start fun _ ↦ none) saveThenToggle := by
  obtain ⟨s, hs, -⟩ := Steps.exists_run_of_exec exec_saveThenToggle
  exact (throughout_kept_iff _ _ s hs.any).2 hs

/-- The popup is used while the options page is open, and then another setting is changed. -/
def toggleThenSave : List PagesEvent :=
  [.openOptions, .openPopup, .toggle, .change .badgeStyle .dot, .fire]

/-- It ends with no write outstanding, and `enabled` stored as it was not chosen. -/
theorem exec_toggleThenSave : (Steps.exec step Steps.Any (start fun _ ↦ none) toggleThenSave).any
    fun s ↦ s.saveTimer.isNone ∧ s.chosen .enabled = some false ∧
      s.stored .enabled = some true := by
  decide +kernel

/-- **That run reverts the popup**: `enabled` was switched off, and is stored as switched on. -/
theorem not_kept_toggleThenSave : ¬∀ (stored : Items) (es : List PagesEvent) (s : Pages),
    Steps.Run step Steps.Any (start stored) es s → s.Kept := by
  intro h
  obtain ⟨s, hs, hend⟩ := Steps.exists_run_of_exec exec_toggleThenSave
  rw [decide_eq_true_eq] at hend
  have hkept := h _ _ s hs (Option.isNone_iff_eq_none.1 hend.1) .enabled false hend.2.1
  exact absurd (hend.2.2.symm.trans hkept) (by decide)

end Pages

end RealTube.Extension.Options
