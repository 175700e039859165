import RealTube.Page.Renderers
import RealTube.Store.Steps

/-!
# The vote dropdown

`content/vote-ui.ts`: the button that opens a dropdown, the choice of a category, the vote, and the
feedback that closes the dropdown after two seconds. Everything is kept in variables of the module.
So the dropdowns of a page, one after the other, share them with the answers and the timers of the
dropdowns before.

`isSubmitting` is meant to keep a second vote away until the first has been answered, also where a
dropdown is opened; but closing a dropdown resets it. An answer shows its feedback in whatever
dropdown there is, and a timer closes whatever dropdown there is. Both go wrong exactly when a
dropdown is opened while something of an earlier one is outstanding (`throughout_orderly_iff`).
-/

namespace RealTube.Page

open Extension

/-- The classes of a feedback. -/
inductive FeedbackType where
  | success
  | error
  deriving DecidableEq

/-- What a dropdown contains. -/
inductive DropdownBody where
  /-- The options, and the Vote button. -/
  | options (selected : Option Category) (voteDisabled spinner : Bool)
  | feedback (type : FeedbackType) (message : String)
  deriving DecidableEq

/-- A dropdown. They are numbered in the order in which they are opened. -/
structure Dropdown where
  number : ℕ
  shorts : Bool
  body : DropdownBody
  deriving DecidableEq

/-- A message `SUBMIT_VOTE`, and the dropdown it is sent from. -/
structure VoteMessage where
  dropdown : ℕ
  videoID : VideoID
  category : Category
  deriving DecidableEq

/-- `MessageResponse`, with the answer to a vote. -/
structure MessageResponse where
  success : Bool
  /-- `data?.queued`. -/
  queued : Bool
  error : Option String

/-- What a call of `sendMessage` comes to. -/
inductive VoteAnswer where
  | resolved (response : Option MessageResponse)
  | rejected

/-- The variables of the module, and what is outstanding. -/
structure VoteUI where
  /-- `containerEl` is set. -/
  container : Bool
  /-- `dropdownEl`. -/
  dropdown : Option Dropdown
  selectedCategory : Option Category
  isSubmitting : Bool
  /-- `onClickOutside` and `onEscape` are registered. -/
  listening : Bool
  /-- How many dropdowns have been opened. -/
  opened : ℕ
  /-- The messages that have not been answered. -/
  unanswered : List VoteMessage
  /-- The timers that will close a dropdown, by the dropdown they were set for. -/
  timers : List ℕ
  deriving DecidableEq

/-- What `injectVoteButton` finds on the page. -/
structure ActionBarPage where
  location : URL
  /-- `document.contains(containerEl)`. -/
  containsContainer : Bool
  actionBar : Bool

/-- What can happen. -/
inductive VoteUIEvent where
  /-- `injectVoteButton` is called. -/
  | inject (page : ActionBarPage)
  | clickButton (location : URL)
  | clickOption (categoryID : Category)
  | clickVote (location : URL)
  | keydown (key : String)
  /-- The mouse is pressed, in the container or elsewhere. -/
  | mousedown (inContainer : Bool)
  /-- `removeVoteButton` is called. -/
  | remove
  /-- A message is answered. -/
  | answer (i : ℕ) (answer : VoteAnswer)
  /-- A timer fires. -/
  | timer (i : ℕ)

/-- `getVideoId`. An empty parameter counts as none. -/
def getVideoID (location : URL) : Option VideoID :=
  ((location.getParam "v").filter (· ≠ "")).or (shortsVideoID location.pathname)

/-- The feedback on an answer. -/
def VoteAnswer.feedback : VoteAnswer → FeedbackType × String
  | resolved (some ⟨true, true, _⟩) => (.success, "\u2713 Vote saved offline")
  | resolved (some ⟨true, false, _⟩) => (.success, "\u2713 Vote submitted")
  | resolved (some ⟨false, _, error⟩) => (.error, (error.filter (· ≠ "")).getD "Vote failed")
  | resolved none => (.error, "Vote failed")
  | rejected => (.error, "Vote failed")

/-- The class `selected` and the Vote button, after the choice of a category. -/
def DropdownBody.select (categoryID : Category) : DropdownBody → DropdownBody
  | .options _ _ spinner => .options (some categoryID) false spinner
  | .feedback type message => .feedback type message

/-- The Vote button, after the vote. -/
def DropdownBody.spin : DropdownBody → DropdownBody
  | .options selected _ _ => .options selected true true
  | .feedback type message => .feedback type message

namespace VoteUI

/-- The page is loaded. -/
def init : VoteUI := ⟨false, none, none, false, false, 0, [], []⟩

/-! ### The steps -/

/-- `openDropdown`. -/
def openDropdown (s : VoteUI) (location : URL) : VoteUI :=
  if s.dropdown.isSome ∨ ¬s.container ∨ s.isSubmitting then s
  else
    { s with
      selectedCategory := none
      dropdown := some ⟨s.opened, startsWith location.pathname "/shorts/", .options none true false⟩
      listening := true
      opened := s.opened + 1 }

/-- `closeDropdown`. -/
def closeDropdown (s : VoteUI) : VoteUI :=
  { s with dropdown := none, selectedCategory := none, isSubmitting := false, listening := false }

/-- `selectCategory`. -/
def selectCategory (s : VoteUI) (categoryID : Category) : VoteUI :=
  match s.isSubmitting, s.dropdown with
  | false, some d =>
    { s with
      selectedCategory := some categoryID
      dropdown := some { d with body := d.body.select categoryID } }
  | _, _ => s

/-- `showFeedback`. -/
def showFeedback (s : VoteUI) (feedback : FeedbackType × String) : VoteUI :=
  match s.dropdown with
  | none => s
  | some d =>
    { s with
      dropdown := some { d with body := .feedback feedback.1 feedback.2 }
      timers := s.timers ++ [d.number] }

/-- `submitVote`, to the message. -/
def submitVote (s : VoteUI) (location : URL) : VoteUI :=
  match s.selectedCategory, s.isSubmitting, s.dropdown with
  | some category, false, some d =>
    match getVideoID location with
    | none => s.showFeedback (.error, "Could not find video ID")
    | some videoID =>
      { s with
        isSubmitting := true
        dropdown := some { d with body := d.body.spin }
        unanswered := s.unanswered ++ [⟨d.number, videoID, category⟩] }
  | _, _, _ => s

/-- `injectVoteButton`. -/
def injectVoteButton (s : VoteUI) (page : ActionBarPage) : VoteUI :=
  if s.container ∧ page.containsContainer then s
  else if (getVideoID page.location).isNone ∨ ¬page.actionBar then s
  else { s with container := true }

/-- `removeVoteButton`. -/
def removeVoteButton (s : VoteUI) : VoteUI :=
  { s.closeDropdown with container := false }

/-- There are options to click on. -/
def showsOptions (s : VoteUI) : Bool :=
  match s.dropdown with
  | some ⟨_, _, .options ..⟩ => true
  | _ => false

/-- There is a Vote button to click on. -/
def voteEnabled (s : VoteUI) : Bool :=
  match s.dropdown with
  | some ⟨_, _, .options _ voteDisabled _⟩ => !voteDisabled
  | _ => false

/-- The state after an event. -/
def step (s : VoteUI) : VoteUIEvent → Option VoteUI
  | .inject page => some (s.injectVoteButton page)
  | .clickButton location =>
    if s.container then
      some (if s.dropdown.isSome then s.closeDropdown else s.openDropdown location)
    else none
  | .clickOption categoryID => if s.showsOptions then some (s.selectCategory categoryID) else none
  | .clickVote location => if s.voteEnabled then some (s.submitVote location) else none
  | .keydown key => some (if s.listening ∧ key = "Escape" then s.closeDropdown else s)
  | .mousedown inContainer =>
    some (if s.listening ∧ s.container ∧ ¬inContainer then s.closeDropdown else s)
  | .remove => some s.removeVoteButton
  | .answer i answer =>
    if i < s.unanswered.length then
      some ({ s with unanswered := s.unanswered.eraseIdx i }.showFeedback answer.feedback)
    else none
  | .timer i =>
    if i < s.timers.length then some { s with timers := s.timers.eraseIdx i }.closeDropdown
    else none

/-! ### What should hold -/

/-- The dropdown that an answer or a timer belongs to. -/
def owner (s : VoteUI) : VoteUIEvent → Option ℕ
  | .answer i _ => (s.unanswered[i]?).map VoteMessage.dropdown
  | .timer i => s.timers[i]?
  | _ => none

/-- **An event keeps to its dropdown**: an answer or a timer leaves another dropdown as it is. -/
def KeepsTo (s : VoteUI) (e : VoteUIEvent) : Prop :=
  ∀ k d s', s.owner e = some k → s.dropdown = some d → d.number ≠ k → s.step e = some s' →
    s'.dropdown = some d ∧ s'.selectedCategory = s.selectedCategory ∧
      s'.isSubmitting = s.isSubmitting

/-- **Dropdowns are orderly**: one message at a time, and none disturbs another one. This is about
all that may happen next, and not only about what does. -/
structure Orderly (s : VoteUI) : Prop where
  unanswered : s.unanswered.length ≤ 1
  keepsTo : ∀ e, s.KeepsTo e

/-- **A dropdown is opened only when nothing is outstanding**: all messages have been answered, and
all timers have fired. -/
def Settled (s : VoteUI) : VoteUIEvent → Prop
  | .clickButton _ => s.dropdown = none → s.unanswered = [] ∧ s.timers = []
  | _ => True

instance (s : VoteUI) (e : VoteUIEvent) : Decidable (s.Settled e) := by
  cases e <;> unfold Settled <;> infer_instance

/-! ### The invariant -/

/-- What is outstanding belongs to the last dropdown, and that has sent at most one message. -/
structure Inv (s : VoteUI) : Prop where
  messages : ∀ m ∈ s.unanswered, m.dropdown + 1 = s.opened
  timers : ∀ k ∈ s.timers, k + 1 = s.opened
  number : ∀ d, s.dropdown = some d → d.number + 1 = s.opened
  unanswered : s.unanswered.length ≤ 1
  unsent : ∀ d, s.dropdown = some d → s.isSubmitting = false → s.unanswered = []
  submitting : s.dropdown = none → s.isSubmitting = false

theorem inv_init : init.Inv where
  messages _ h := by cases h
  timers _ h := by cases h
  number _ h := by cases h
  unanswered := Nat.zero_le 1
  unsent _ _ _ := rfl
  submitting _ := rfl

variable {s s' : VoteUI} {e : VoteUIEvent} {es : List VoteUIEvent}

/-- Some of what is outstanding has happened. -/
theorem Inv.sublist (h : s.Inv) {messages : List VoteMessage} {timers : List ℕ}
    (hmessages : messages.Sublist s.unanswered) (htimers : timers.Sublist s.timers) :
    Inv { s with unanswered := messages, timers := timers } where
  messages m hm := h.messages m (hmessages.subset hm)
  timers k hk := h.timers k (htimers.subset hk)
  number := h.number
  unanswered := hmessages.length_le.trans h.unanswered
  unsent d hd hsubmitting := List.sublist_nil.1 (h.unsent d hd hsubmitting ▸ hmessages)
  submitting := h.submitting

/-- The dropdown looks different. -/
theorem Inv.redraw (h : s.Inv) {d : Dropdown} (hd : s.dropdown = some d) (body : DropdownBody)
    (category : Option Category) :
    Inv { s with selectedCategory := category, dropdown := some { d with body := body } } where
  messages := h.messages
  timers := h.timers
  number := by
    rintro _ ⟨⟩
    exact h.number d hd
  unanswered := h.unanswered
  unsent _ _ := h.unsent d hd
  submitting hnone := by cases hnone

theorem Inv.closeDropdown (h : s.Inv) : s.closeDropdown.Inv where
  messages := h.messages
  timers := h.timers
  number _ hd := by cases hd
  unanswered := h.unanswered
  unsent _ hd := by cases hd
  submitting _ := rfl

/-- The container comes or goes. -/
theorem Inv.setContainer (h : s.Inv) (container : Bool) :
    Inv { s with container := container } where
  messages := h.messages
  timers := h.timers
  number := h.number
  unanswered := h.unanswered
  unsent := h.unsent
  submitting := h.submitting

/-- **Where a dropdown is opened**: that the vote before is answered is not looked at, as
`isSubmitting` is reset. -/
theorem Inv.openDropdown_eq (h : s.Inv) (hcontainer : s.container) (hnone : s.dropdown = none)
    (location : URL) : s.openDropdown location =
      { s with
        selectedCategory := none
        dropdown :=
          some ⟨s.opened, startsWith location.pathname "/shorts/", .options none true false⟩
        listening := true
        opened := s.opened + 1 } := by
  rw [openDropdown, if_neg]
  rw [hnone, hcontainer, h.submitting hnone]
  simp

theorem Inv.openDropdown (h : s.Inv) (hcontainer : s.container) (hnone : s.dropdown = none)
    (hunanswered : s.unanswered = []) (htimers : s.timers = []) (location : URL) :
    (s.openDropdown location).Inv := by
  rw [h.openDropdown_eq hcontainer hnone]
  refine ⟨?_, ?_, ?_, h.unanswered, fun _ _ _ ↦ hunanswered, fun hd ↦ by cases hd⟩
  · simp [hunanswered]
  · simp [htimers]
  · rintro _ ⟨⟩
    rfl

theorem Inv.selectCategory (h : s.Inv) (categoryID : Category) :
    (s.selectCategory categoryID).Inv := by
  unfold VoteUI.selectCategory
  split
  · exact h.redraw ‹_› _ _
  · exact h

theorem Inv.showFeedback (h : s.Inv) (feedback : FeedbackType × String) :
    (s.showFeedback feedback).Inv := by
  unfold VoteUI.showFeedback
  split
  · exact h
  · rename_i d hd
    have hdraw := h.redraw hd (.feedback feedback.1 feedback.2) s.selectedCategory
    refine ⟨hdraw.messages, fun k hk ↦ ?_, hdraw.number, hdraw.unanswered, hdraw.unsent,
      hdraw.submitting⟩
    rcases List.mem_append.1 hk with hk | hk
    · exact h.timers k hk
    · obtain rfl := List.mem_singleton.1 hk
      exact h.number d hd

/-- **A dropdown sends one message**, the first of its own. -/
theorem Inv.submitVote (h : s.Inv) (location : URL) : (s.submitVote location).Inv := by
  unfold VoteUI.submitVote
  split
  · rename_i category d _ hsubmitting hd
    split
    · exact h.showFeedback _
    · rename_i videoID _
      have hnil := h.unsent d hd hsubmitting
      have hdraw := h.redraw hd d.body.spin s.selectedCategory
      refine ⟨fun m hm ↦ ?_, h.timers, hdraw.number, ?_, nofun, nofun⟩
      · rw [hnil] at hm
        obtain rfl := List.mem_singleton.1 hm
        exact h.number d hd
      · show (s.unanswered ++ [_]).length ≤ 1
        rw [hnil]
        exact le_rfl
  · exact h

theorem Inv.injectVoteButton (h : s.Inv) (page : ActionBarPage) :
    (s.injectVoteButton page).Inv := by
  unfold VoteUI.injectVoteButton
  split_ifs
  · exact h
  · exact h
  · exact h.setContainer true

/-- **A step keeps the invariant**, if no dropdown is opened too early. -/
theorem Inv.step (h : s.Inv) (he : s.Settled e) (hstep : s.step e = some s') : s'.Inv := by
  rcases e with page | loc | categoryID | loc | key | inContainer | - | ⟨i, answer⟩ | i <;>
    rw [VoteUI.step] at hstep
  case inject => exact Option.some.inj hstep ▸ h.injectVoteButton page
  case clickButton =>
    split_ifs at hstep with hcontainer hd
    · exact Option.some.inj hstep ▸ h.closeDropdown
    · have hnone : s.dropdown = none := by simpa using hd
      obtain ⟨hunanswered, htimers⟩ := he hnone
      exact Option.some.inj hstep ▸ h.openDropdown hcontainer hnone hunanswered htimers loc
  case clickOption =>
    split_ifs at hstep
    exact Option.some.inj hstep ▸ h.selectCategory categoryID
  case clickVote =>
    split_ifs at hstep
    exact Option.some.inj hstep ▸ h.submitVote loc
  case keydown =>
    split_ifs at hstep
    · exact Option.some.inj hstep ▸ h.closeDropdown
    · exact Option.some.inj hstep ▸ h
  case mousedown =>
    split_ifs at hstep
    · exact Option.some.inj hstep ▸ h.closeDropdown
    · exact Option.some.inj hstep ▸ h
  case remove => exact Option.some.inj hstep ▸ h.closeDropdown.setContainer false
  case answer =>
    split_ifs at hstep
    exact Option.some.inj hstep ▸
      (h.sublist (List.eraseIdx_sublist _ _) (List.Sublist.refl _)).showFeedback _
  case timer =>
    split_ifs at hstep
    exact Option.some.inj hstep ▸
      (h.sublist (List.Sublist.refl _) (List.eraseIdx_sublist _ _)).closeDropdown

/-! ### When dropdowns are orderly -/

/-- What an event belongs to is outstanding. -/
theorem Inv.owner (h : s.Inv) {k : ℕ} (hk : s.owner e = some k) : k + 1 = s.opened := by
  rcases e with page | loc | categoryID | loc | key | inContainer | - | ⟨i, answer⟩ | i <;>
    simp only [VoteUI.owner, reduceCtorEq] at hk
  case answer =>
    obtain ⟨m, hm, rfl⟩ := Option.map_eq_some_iff.1 hk
    exact h.messages m (List.mem_of_getElem? hm)
  case timer => exact h.timers k (List.mem_of_getElem? hk)

theorem Inv.orderly (h : s.Inv) : s.Orderly where
  unanswered := h.unanswered
  keepsTo e k d s' hk hd hne _ := by
    have hlast := h.owner hk
    have hnumber := h.number d hd
    exact absurd (show d.number = k by omega) hne

/-- **An answer disturbs the options of another dropdown**: its feedback takes their place. -/
theorem not_keepsTo_answer {m : VoteMessage} {rest : List VoteMessage}
    (hm : s.unanswered = m :: rest) {d : Dropdown} (hd : s.dropdown = some d)
    (hne : d.number ≠ m.dropdown) (hoptions : s.showsOptions) :
    ¬s.KeepsTo (.answer 0 .rejected) := by
  intro hkeeps
  have howner : s.owner (.answer 0 .rejected) = some m.dropdown := by
    rw [owner, hm]
    rfl
  have hstep : s.step (.answer 0 .rejected) =
      some ({ s with unanswered := s.unanswered.eraseIdx 0 }.showFeedback
        (.error, "Vote failed")) :=
    if_pos (hm ▸ Nat.succ_pos _)
  obtain ⟨hsame, -⟩ := hkeeps _ d _ howner hd hne hstep
  simp only [VoteUI.showFeedback, hd, Option.some.injEq] at hsame
  rw [showsOptions, hd, ← hsame] at hoptions
  cases hoptions

/-- **A timer disturbs another dropdown**: it closes it. -/
theorem not_keepsTo_timer {k : ℕ} {rest : List ℕ} (hk : s.timers = k :: rest) {d : Dropdown}
    (hd : s.dropdown = some d) (hne : d.number ≠ k) : ¬s.KeepsTo (.timer 0) := by
  intro hkeeps
  have howner : s.owner (.timer 0) = some k := by
    rw [owner, hk]
    rfl
  have hstep : s.step (.timer 0) =
      some { s with timers := s.timers.eraseIdx 0 }.closeDropdown :=
    if_pos (hk ▸ Nat.succ_pos _)
  obtain ⟨hsame, -⟩ := hkeeps _ d _ howner hd hne hstep
  cases hsame

/-- **A dropdown that is opened too early is disturbed.** -/
theorem Inv.settled_of_orderly (h : s.Inv) (hstep : s.step e = some s') (horderly : s'.Orderly) :
    s.Settled e := by
  rcases e with page | location | categoryID | location | key | inContainer | - | ⟨i, answer⟩ | i
  case clickButton =>
    intro hnone
    rw [VoteUI.step, hnone] at hstep
    split_ifs at hstep with hcontainer hd
    · cases hd
    rw [h.openDropdown_eq hcontainer hnone] at hstep
    obtain rfl := Option.some.inj hstep
    constructor
    · rcases hm : s.unanswered with - | ⟨m, rest⟩
      · rfl
      · have hlast := h.messages m (hm ▸ List.mem_cons_self)
        exact absurd (horderly.keepsTo _) (not_keepsTo_answer hm rfl (by dsimp only; omega) rfl)
    · rcases hk : s.timers with - | ⟨k, rest⟩
      · rfl
      · have hlast := h.timers k (hk ▸ List.mem_cons_self)
        exact absurd (horderly.keepsTo _) (not_keepsTo_timer hk rfl (by dsimp only; omega))
  all_goals trivial

/-- **When dropdowns are orderly all along**: none is opened while the answer to a vote or a timer
of an earlier one is outstanding. -/
theorem throughout_orderly_iff (h : Steps.Run step Steps.Any init es s) :
    Steps.Throughout step Orderly init es ↔ Steps.Run step Settled init es s :=
  h.throughout_iff (fun hrun ↦ (hrun.inv inv_init fun hs he hstep ↦ hs.step he hstep).orderly)
    fun hrun hstep horderly ↦
      (hrun.inv inv_init fun hs he hstep ↦ hs.step he hstep).settled_of_orderly hstep horderly

/-! ### Two dropdowns -/

/-- A page with a video. -/
def watchPage : URL := ⟨"/watch", [("v", "dQw4w9WgXcQ")]⟩

/-- A dropdown is opened, and its vote is sent. -/
def vote : List VoteUIEvent :=
  [.clickButton watchPage, .clickOption .fullyAI, .clickVote watchPage]

/-- The first vote is answered, and its timer closes the dropdown, before the second vote. -/
def straight : List VoteUIEvent :=
  .inject ⟨watchPage, false, true⟩ :: vote ++
    [.answer 0 (.resolved (some ⟨true, false, none⟩)), .timer 0] ++ vote

/-- The dropdown is closed with the Escape key, before the second vote. -/
def escaped : List VoteUIEvent :=
  .inject ⟨watchPage, false, true⟩ :: vote ++ [.keydown "Escape"] ++ vote

theorem exec_straight : (Steps.exec step Settled init straight).isSome = true := by
  decide +kernel

theorem exec_escaped : (Steps.exec step Steps.Any init escaped).any (fun s ↦
    s.unanswered.map VoteMessage.dropdown = [0, 1] ∧ s.dropdown.any (·.number = 1) ∧
      s.showsOptions) = true := by
  decide +kernel

/-- Two votes in order. -/
theorem throughout_orderly_straight : Steps.Throughout step Orderly init straight := by
  obtain ⟨s, hs⟩ := Option.isSome_iff_exists.1 exec_straight
  have hrun := Steps.run_of_exec hs
  exact (throughout_orderly_iff hrun.any).2 hrun

/-- **After the Escape key** a second message is sent before the first is answered, and the answer
to the first one is shown in the second dropdown. -/
theorem not_orderly_escaped :
    (¬∀ es s, Steps.Run step Steps.Any init es s → s.unanswered.length ≤ 1) ∧
      ¬∀ es s e, Steps.Run step Steps.Any init es s → s.KeepsTo e := by
  obtain ⟨s, hrun, hend⟩ := Steps.exists_run_of_exec exec_escaped
  obtain ⟨hmessages, hnumber, hoptions⟩ := of_decide_eq_true hend
  constructor
  · intro h
    have hlength : s.unanswered.length = 2 := by
      rw [← List.length_map VoteMessage.dropdown, hmessages]
      rfl
    have hle := h _ s hrun
    omega
  · intro h
    obtain ⟨d, hd, hnumber⟩ := (Option.any_eq_true _ _).1 hnumber
    have hnumber : d.number = 1 := of_decide_eq_true hnumber
    obtain ⟨m, rest, hm, hfirst, -⟩ := List.map_eq_cons_iff.1 hmessages
    exact not_keepsTo_answer hm hd (by omega) hoptions (h _ s _ hrun)

end VoteUI

end RealTube.Page
