import RealTube.Page.Hide
import RealTube.Store.Steps
import Mathlib.Data.Finset.Insert

/-!
# Skipping flagged shorts

`content/shorts.ts`: the checks of the short that is shown, step by step between their `await`s,
with the navigation of the page around them. A check reads the id of the short from the address and
looks for its renderer, asks for the video and then for the threshold, and skips if the video is
flagged. It is begun when the Shorts mode starts, and by a watcher that sees that the address has
changed. A renderer that is marked as skipped keeps a check from being begun.

The skip is meant for the short that was shown when the check began. It goes wrong when another one
is shown by then; and a short may be skipped twice when two checks of it are under way at once, or
when the mark is not found again. Without these, skips are right (`skipsRight_of_orderly`).

The page renders and navigates as it likes. How `skipToNextShort` gets to the next short is left to
it.
-/

namespace RealTube.Page

open Extension

/-- `video.videoId === videoId && video.score >= threshold`, for a video of the answer. -/
def isFlagged (threshold : ℚ) (videos : List (VideoID × ℚ)) (v : VideoID) : Bool :=
  videos.any fun video ↦ video.1 = v ∧ threshold ≤ video.2

/-- Where a check stands. -/
inductive CheckPhase where
  /-- It waits for the answer. -/
  | asked
  /-- It waits for the threshold. -/
  | answered (videos : List (VideoID × ℚ))
  | ended (skipped : Bool)
  deriving DecidableEq

/-- A check has ended. -/
def CheckPhase.hasEnded : CheckPhase → Bool
  | asked => false
  | answered _ => false
  | ended _ => true

/-- A call of `checkAndSkipCurrentShort`. -/
structure ShortCheck where
  /-- The stay in which it began. -/
  stay : ℕ
  videoID : VideoID
  /-- `currentRenderer`. -/
  renderer : Option ℕ
  phase : CheckPhase
  deriving DecidableEq

/-- It has ended with a skip. -/
def ShortCheck.hasSkipped (c : ShortCheck) : Prop := c.phase = .ended true

/-- It is about to skip. -/
def ShortCheck.willSkip (c : ShortCheck) (threshold : ℚ) : Bool :=
  match c.phase with
  | .answered videos => isFlagged threshold videos c.videoID
  | _ => false

/-- A call of `skipToNextShort`. -/
structure ShortSkip where
  stay : ℕ
  /-- The short whose id is in the address. -/
  shown : Option VideoID
  deriving DecidableEq

/-- The page, and the checks of its shorts. -/
structure ShortsState where
  url : String
  document : Element
  /-- The renderers with the attribute `data-realtube-skipped`. -/
  skipMarks : Finset ℕ
  /-- `lastUrl` of the watcher, while it is running. -/
  lastURL : Option String
  checks : List ShortCheck
  /-- How often the short has changed. -/
  stay : ℕ
  skips : List ShortSkip

/-- What can happen. -/
inductive ShortsEvent where
  | navigate (url : String)
  | render (document : Element)
  | startShortsMode
  | stopShortsMode
  /-- The watcher looks at the address. -/
  | poll
  /-- The answer to a check arrives. -/
  | answer (i : ℕ) (videos : List (VideoID × ℚ))
  /-- What a check waits for fails. -/
  | fail (i : ℕ)
  /-- The threshold arrives. -/
  | threshold (i : ℕ)

/-! ### The current short -/

section Extract

variable (parse : String → Option URL) (resolve : String → String)

/-- `a[href*="/shorts/"]`. -/
def shortsLinkSelector : Selector := [⟨"a", [.attributeContains "href" "/shorts/"]⟩]

/-- `a[href*="/watch?v="]`. -/
def shareLinkSelector : Selector := [⟨"a", [.attributeContains "href" "/watch?v="]⟩]

/-- The id in `href` of the first link that a selector finds, resolved as an address of the page. -/
def videoIDOfHref (renderer : Element) (selector : Selector) : Option VideoID :=
  ((renderer.querySelector selector).bind fun link ↦
    extractVideoIDFromURL parse (resolve ((link.getAttribute "href").getD ""))).filter (· ≠ "")

/-- `extractVideoIdFromShort`. -/
def extractVideoIDFromShort (renderer : Element) : Option VideoID :=
  (videoIDOfHref parse resolve renderer shortsLinkSelector).or <|
    (videoIDOfHref parse resolve renderer shareLinkSelector).or <|
      ((renderer.getAttribute "video-id").filter (· ≠ "")).or
        ((renderer.getAttribute "data-video-id").filter (· ≠ ""))

/-- `isShortsPage`. -/
def isShortsPage (url : String) : Bool := (parse url).any fun u ↦ startsWith u.pathname "/shorts/"

/-- `getCurrentShortVideoId`. An empty id counts as none. -/
def getCurrentShortVideoID (url : String) : Option VideoID :=
  (extractVideoIDFromURL parse url).filter (· ≠ "")

/-- `findRendererForCurrentShort`. -/
def findRendererForCurrentShort (s : ShortsState) : Option Element :=
  (getCurrentShortVideoID parse s.url).bind fun v ↦
    (s.document.querySelectorAll shorts).find? fun renderer ↦
      extractVideoIDFromShort parse resolve renderer = some v

end Extract

namespace ShortsState

/-- A page is shown. -/
def start (url : String) (document : Element) (skipMarks : Finset ℕ) : ShortsState :=
  ⟨url, document, skipMarks, none, [], 0, []⟩

/-! ### The steps -/

section Step

variable (parse : String → Option URL) (resolve : String → String) (score : VideoID → Option ℚ)
  (hideThreshold : Option ℚ)

/-- `checkAndSkipCurrentShort`, to the first `await`. -/
def checkAndSkipCurrentShort (s : ShortsState) : ShortsState :=
  match getCurrentShortVideoID parse s.url with
  | none => s
  | some v =>
    let currentRenderer := (findRendererForCurrentShort parse resolve s).map Element.ref
    if currentRenderer.any (· ∈ s.skipMarks) then s
    else { s with checks := s.checks ++ [⟨s.stay, v, currentRenderer, .asked⟩] }

/-- Put a check somewhere. -/
def setPhase (s : ShortsState) (i : ℕ) (phase : CheckPhase) : ShortsState :=
  { s with checks := s.checks.modify i fun c ↦ { c with phase } }

/-- The renderer is marked, and the short is skipped. -/
def skip (s : ShortsState) (renderer : Option ℕ) : ShortsState :=
  { s with
    skipMarks := renderer.elim s.skipMarks (insert · s.skipMarks)
    skips := s.skips ++ [⟨s.stay, getCurrentShortVideoID parse s.url⟩] }

/-- The state after an event. Answers tell the scores as they are. -/
def step (s : ShortsState) : ShortsEvent → Option ShortsState
  | .navigate url =>
    let stay :=
      if getCurrentShortVideoID parse url = getCurrentShortVideoID parse s.url then s.stay
      else s.stay + 1
    some { s with url, stay }
  | .render document => some { s with document }
  | .startShortsMode =>
    some { s.checkAndSkipCurrentShort parse resolve with lastURL := some s.url }
  | .stopShortsMode => some { s with lastURL := none }
  | .poll => s.lastURL.map fun lastURL ↦
    if s.url ≠ lastURL then
      let s := { s with lastURL := some s.url }
      if isShortsPage parse s.url then s.checkAndSkipCurrentShort parse resolve else s
    else s
  | .answer i videos => (s.checks[i]?).bind fun c ↦
    match c.phase with
    | .asked =>
      if ∀ video ∈ videos, score video.1 = some video.2 then
        some (s.setPhase i (.answered videos))
      else none
    | _ => none
  | .fail i => (s.checks[i]?).bind fun c ↦
    if c.phase.hasEnded then none else some (s.setPhase i (.ended false))
  | .threshold i => (s.checks[i]?).bind fun c ↦
    match c.phase with
    | .answered videos =>
      if isFlagged (getThreshold hideThreshold) videos c.videoID then
        some ((s.skip parse c.renderer).setPhase i (.ended true))
      else some (s.setPhase i (.ended false))
    | _ => none

end Step

/-! ### When skips are right -/

section Right

variable (score : VideoID → Option ℚ) (hideThreshold : Option ℚ)

/-- A short has a score at or above the threshold. -/
def FlaggedShort (v : VideoID) : Prop := ∃ x ∈ score v, getThreshold hideThreshold ≤ x

/-- **The skips are right**: each skips a flagged short, and none is a second one of its stay. -/
structure SkipsRight (s : ShortsState) : Prop where
  flagged : ∀ skip ∈ s.skips, ∃ v ∈ skip.shown, FlaggedShort score hideThreshold v
  once : (s.skips.map ShortSkip.stay).Nodup

variable (parse : String → Option URL) (resolve : String → String)

/-- No check of this stay is under way, and if one has skipped, the renderer it has marked is the
one that is found. -/
def Settled (s : ShortsState) : Prop :=
  ∀ c ∈ s.checks, c.stay = s.stay → c.phase.hasEnded ∧ (c.hasSkipped → c.renderer.isSome ∧
    (findRendererForCurrentShort parse resolve s).map Element.ref = c.renderer)

/-- What keeps skips right: a check of a flagged short is called for when those before it are
settled, and a check that is about to skip does so in the stay in which it began. -/
def Orderly (s : ShortsState) : ShortsEvent → Prop
  | .startShortsMode => (∃ v ∈ getCurrentShortVideoID parse s.url,
      FlaggedShort score hideThreshold v) → s.Settled parse resolve
  | .poll => s.lastURL ≠ some s.url → (∃ v ∈ getCurrentShortVideoID parse s.url,
      FlaggedShort score hideThreshold v) → s.Settled parse resolve
  | .threshold i => ∀ c ∈ s.checks[i]?, c.willSkip (getThreshold hideThreshold) → c.stay = s.stay
  | _ => True

instance (v : VideoID) : Decidable (FlaggedShort score hideThreshold v) :=
  inferInstanceAs (Decidable (∃ x ∈ score v, getThreshold hideThreshold ≤ x))

instance (c : ShortCheck) : Decidable c.hasSkipped :=
  inferInstanceAs (Decidable (c.phase = .ended true))

instance (s : ShortsState) : Decidable (s.Settled parse resolve) :=
  inferInstanceAs (Decidable (∀ c ∈ s.checks, _ → _ ∧ (_ → _ ∧ _)))

instance (s : ShortsState) (e : ShortsEvent) :
    Decidable (s.Orderly score hideThreshold parse resolve e) :=
  match e with
  | .startShortsMode => inferInstanceAs (Decidable (_ → _))
  | .poll => inferInstanceAs (Decidable (_ → _ → _))
  | .threshold i => inferInstanceAs (Decidable (∀ c ∈ s.checks[i]?, _ → _))
  | .navigate _ | .render _ | .stopShortsMode | .answer _ _ | .fail _ =>
    inferInstanceAs (Decidable True)

end Right

/-! ### The invariant -/

/-- **The invariant of orderly runs.** -/
structure Inv (parse : String → Option URL) (score : VideoID → Option ℚ) (hideThreshold : Option ℚ)
    (s : ShortsState) : Prop extends SkipsRight score hideThreshold s where
  /-- A skip is that of a check of the same stay. -/
  skipped : ∀ skip ∈ s.skips, ∃ c ∈ s.checks, c.stay = skip.stay ∧ c.hasSkipped
  marked : ∀ c ∈ s.checks, c.hasSkipped → ∀ r ∈ c.renderer, r ∈ s.skipMarks
  began : ∀ c ∈ s.checks, c.stay ≤ s.stay
  /-- The short of a check of this stay is still shown. -/
  current : ∀ c ∈ s.checks, c.stay = s.stay → getCurrentShortVideoID parse s.url = some c.videoID
  answered : ∀ c ∈ s.checks, ∀ videos, c.phase = .answered videos →
    ∀ video ∈ videos, score video.1 = some video.2
  /-- While a check of a flagged short is under way in this stay, the others of the stay have ended
  without a skip. -/
  alone : ∀ (i j : ℕ) (c c' : ShortCheck), s.checks[i]? = some c → s.checks[j]? = some c' →
    c.stay = s.stay → c'.stay = s.stay → FlaggedShort score hideThreshold c.videoID →
    c.phase.hasEnded = false → i = j ∨ c'.phase = .ended false

variable {parse : String → Option URL} {resolve : String → String} {score : VideoID → Option ℚ}
  {hideThreshold : Option ℚ} {s s' : ShortsState} {i : ℕ} {c : ShortCheck}

/-- The invariant looks at the checks, the skips and the short that is shown. -/
theorem Inv.congr (h : Inv parse score hideThreshold s) (hchecks : s'.checks = s.checks)
    (hskips : s'.skips = s.skips) (hmarks : s'.skipMarks = s.skipMarks) (hstay : s'.stay = s.stay)
    (hcurrent : getCurrentShortVideoID parse s'.url = getCurrentShortVideoID parse s.url) :
    Inv parse score hideThreshold s' where
  flagged := hskips ▸ h.flagged
  once := hskips ▸ h.once
  skipped := by
    rw [hskips, hchecks]
    exact h.skipped
  marked := by
    rw [hchecks, hmarks]
    exact h.marked
  began := by
    rw [hchecks, hstay]
    exact h.began
  current := by
    rw [hchecks, hstay, hcurrent]
    exact h.current
  answered := by
    rw [hchecks]
    exact h.answered
  alone := by
    rw [hchecks, hstay]
    exact h.alone

/-- Another short is shown. -/
theorem Inv.leave (h : Inv parse score hideThreshold s) (url : String) :
    Inv parse score hideThreshold { s with url, stay := s.stay + 1 } where
  flagged := h.flagged
  once := h.once
  skipped := h.skipped
  marked := h.marked
  began c hc := (h.began c hc).trans (Nat.le_succ _)
  current c hc hstay := absurd (h.began c hc) (hstay ▸ Nat.not_succ_le_self _)
  answered := h.answered
  alone _ _ c _ hc _ hstay :=
    absurd (h.began c (List.mem_of_getElem? hc)) (hstay ▸ Nat.not_succ_le_self _)

/-! ### The phases of the checks -/

theorem getElem?_setPhase (s : ShortsState) (i j : ℕ) (phase : CheckPhase) :
    (s.setPhase i phase).checks[j]? =
      (s.checks[j]?).map fun c ↦ if i = j then { c with phase } else c :=
  List.getElem?_modify _ _ _ _

/-- A check after one of them has gone on. -/
theorem of_getElem?_setPhase {j : ℕ} {phase : CheckPhase} {c' : ShortCheck}
    (h : (s.setPhase i phase).checks[j]? = some c') : ∃ c, s.checks[j]? = some c ∧
      c'.stay = c.stay ∧ c'.videoID = c.videoID ∧ c'.renderer = c.renderer ∧
      c'.phase = if i = j then phase else c.phase := by
  rw [getElem?_setPhase] at h
  obtain ⟨c, hc, rfl⟩ := Option.map_eq_some_iff.1 h
  refine ⟨c, hc, ?_⟩
  split_ifs <;> exact ⟨rfl, rfl, rfl, rfl⟩

/-- The checks that have skipped stay as they are. -/
theorem mem_setPhase_of_hasSkipped {phase : CheckPhase} (hc : s.checks[i]? = some c)
    (hended : c.phase.hasEnded = false) {c' : ShortCheck} (hc' : c' ∈ s.checks)
    (hskipped : c'.hasSkipped) : c' ∈ (s.setPhase i phase).checks := by
  obtain ⟨j, hj⟩ := List.mem_iff_getElem?.1 hc'
  refine List.mem_iff_getElem?.2 ⟨j, ?_⟩
  have hne : i ≠ j := by
    rintro rfl
    obtain rfl := Option.some.inj (hc.symm.trans hj)
    rw [show c.phase = .ended true from hskipped] at hended
    cases hended
  rw [getElem?_setPhase, hj, Option.map_some, if_neg hne]

/-- While one check goes on, the others are as before. -/
theorem Inv.alone_setPhase (h : Inv parse score hideThreshold s) (hc : s.checks[i]? = some c)
    (hended : c.phase.hasEnded = false) (phase : CheckPhase) :
    ∀ (j k : ℕ) (d d' : ShortCheck), (s.setPhase i phase).checks[j]? = some d →
      (s.setPhase i phase).checks[k]? = some d' → d.stay = s.stay → d'.stay = s.stay →
      FlaggedShort score hideThreshold d.videoID → d.phase.hasEnded = false →
      j = k ∨ d'.phase = .ended false := by
  intro j k d d' hd hd' hstay hstay' hflagged hunder
  obtain ⟨e, he, hestay, hevideo, -, hephase⟩ := of_getElem?_setPhase hd
  obtain ⟨e', he', hestay', -, -, hephase'⟩ := of_getElem?_setPhase hd'
  have hewas : e.phase.hasEnded = false := by
    by_cases hij : i = j
    · subst hij
      rwa [Option.some.inj (he.symm.trans hc)]
    · rwa [hephase, if_neg hij] at hunder
  refine (h.alone j k e e' he he' (hestay ▸ hstay) (hestay' ▸ hstay') (hevideo ▸ hflagged)
    hewas).imp_right fun hwas ↦ ?_
  have hik : i ≠ k := by
    rintro rfl
    rw [Option.some.inj (hc.symm.trans he'), hwas] at hended
    cases hended
  rw [hephase', if_neg hik, hwas]

theorem of_mem_setPhase {phase : CheckPhase} (hc : s.checks[i]? = some c) {d : ShortCheck}
    (hd : d ∈ (s.setPhase i phase).checks) : ∃ e ∈ s.checks, d.stay = e.stay ∧
      d.videoID = e.videoID ∧ d.renderer = e.renderer ∧
      (d.phase = e.phase ∨ e = c ∧ d.phase = phase) := by
  obtain ⟨j, hj⟩ := List.mem_iff_getElem?.1 hd
  obtain ⟨e, he, hstay, hvideo, hrenderer, hphase⟩ := of_getElem?_setPhase hj
  refine ⟨e, List.mem_of_getElem? he, hstay, hvideo, hrenderer, ?_⟩
  split_ifs at hphase with hij
  · subst hij
    exact Or.inr ⟨Option.some.inj (he.symm.trans hc), hphase⟩
  · exact Or.inl hphase

theorem Inv.began_setPhase (h : Inv parse score hideThreshold s) (hc : s.checks[i]? = some c)
    {phase : CheckPhase} : ∀ d ∈ (s.setPhase i phase).checks, d.stay ≤ s.stay := by
  intro d hd
  obtain ⟨e, he, hstay, -⟩ := of_mem_setPhase hc hd
  exact hstay ▸ h.began e he

theorem Inv.current_setPhase (h : Inv parse score hideThreshold s) (hc : s.checks[i]? = some c)
    {phase : CheckPhase} : ∀ d ∈ (s.setPhase i phase).checks, d.stay = s.stay →
      getCurrentShortVideoID parse s.url = some d.videoID := by
  intro d hd hstay
  obtain ⟨e, he, hestay, hvideo, -⟩ := of_mem_setPhase hc hd
  exact hvideo ▸ h.current e he (hestay ▸ hstay)

theorem Inv.answered_setPhase (h : Inv parse score hideThreshold s) (hc : s.checks[i]? = some c)
    {phase : CheckPhase} (hanswered : ∀ videos, phase = .answered videos →
      ∀ video ∈ videos, score video.1 = some video.2) :
    ∀ d ∈ (s.setPhase i phase).checks, ∀ videos, d.phase = .answered videos →
      ∀ video ∈ videos, score video.1 = some video.2 := by
  intro d hd videos hvideos
  obtain ⟨e, he, -, -, -, hwas | ⟨-, hwas⟩⟩ := of_mem_setPhase hc hd
  · exact h.answered e he videos (hwas ▸ hvideos)
  · exact hanswered videos (hwas ▸ hvideos)

/-- **A check goes on** without a skip. -/
theorem Inv.setPhase (h : Inv parse score hideThreshold s) (hc : s.checks[i]? = some c)
    (hended : c.phase.hasEnded = false) {phase : CheckPhase} (hphase : phase ≠ .ended true)
    (hanswered : ∀ videos, phase = .answered videos →
      ∀ video ∈ videos, score video.1 = some video.2) :
    Inv parse score hideThreshold (s.setPhase i phase) where
  flagged := h.flagged
  once := h.once
  skipped skip hskip := by
    obtain ⟨c', hc', hstay, hskipped⟩ := h.skipped skip hskip
    exact ⟨c', mem_setPhase_of_hasSkipped hc hended hc' hskipped, hstay, hskipped⟩
  marked d hd hskipped r hr := by
    obtain ⟨e, he, -, -, hrenderer, hwas | ⟨-, hwas⟩⟩ := of_mem_setPhase hc hd
    · exact h.marked e he (hwas.symm.trans hskipped) r (hrenderer ▸ hr)
    · exact absurd (hwas.symm.trans hskipped) hphase
  began := h.began_setPhase hc
  current := h.current_setPhase hc
  answered := h.answered_setPhase hc hanswered
  alone := h.alone_setPhase hc hended phase

/-- Nothing has been skipped in this stay, while a check of its flagged short is under way. -/
theorem Inv.notMem_skips (h : Inv parse score hideThreshold s) (hc : s.checks[i]? = some c)
    (hended : c.phase.hasEnded = false) (hstay : c.stay = s.stay)
    (hflagged : FlaggedShort score hideThreshold c.videoID) :
    s.stay ∉ s.skips.map ShortSkip.stay := by
  intro hmem
  obtain ⟨skip, hskip, hskipstay⟩ := List.mem_map.1 hmem
  obtain ⟨c', hc', hstay', hskipped⟩ := h.skipped skip hskip
  obtain ⟨j, hj⟩ := List.mem_iff_getElem?.1 hc'
  rcases h.alone i j c c' hc hj hstay (hstay'.trans hskipstay) hflagged hended with rfl | hfalse
  · obtain rfl := Option.some.inj (hc.symm.trans hj)
    rw [show c.phase = .ended true from hskipped] at hended
    cases hended
  · cases hfalse.symm.trans hskipped

/-- **A skip** of the short that is shown. -/
theorem Inv.skip (h : Inv parse score hideThreshold s) (hc : s.checks[i]? = some c)
    (hended : c.phase.hasEnded = false) (hstay : c.stay = s.stay)
    (hflagged : FlaggedShort score hideThreshold c.videoID) :
    Inv parse score hideThreshold ((s.skip parse c.renderer).setPhase i (.ended true)) where
  flagged skip hskip := by
    rcases List.mem_append.1 hskip with hskip | hskip
    · exact h.flagged skip hskip
    · obtain rfl := List.mem_singleton.1 hskip
      exact ⟨c.videoID, h.current c (List.mem_of_getElem? hc) hstay, hflagged⟩
  once := by
    change ((s.skips ++ [_]).map ShortSkip.stay).Nodup
    rw [List.map_append, List.map_singleton, List.nodup_append]
    refine ⟨h.once, List.nodup_singleton _, fun a ha b hb ↦ ?_⟩
    rw [List.mem_singleton.1 hb]
    rintro rfl
    exact h.notMem_skips hc hended hstay hflagged ha
  skipped skip hskip := by
    rcases List.mem_append.1 hskip with hskip | hskip
    · obtain ⟨c', hc', hstay', hskipped⟩ := h.skipped skip hskip
      exact ⟨c', mem_setPhase_of_hasSkipped (s := s) hc hended hc' hskipped, hstay', hskipped⟩
    · obtain rfl := List.mem_singleton.1 hskip
      refine ⟨{ c with phase := .ended true }, List.mem_iff_getElem?.2 ⟨i, ?_⟩, hstay, rfl⟩
      rw [getElem?_setPhase]
      change (s.checks[i]?).map _ = _
      rw [hc, Option.map_some, if_pos rfl]
  marked d hd hskipped r hr := by
    obtain ⟨e, he, -, -, hrenderer, hwas⟩ := of_mem_setPhase (s := s) hc hd
    change r ∈ c.renderer.elim s.skipMarks (insert · s.skipMarks)
    rw [hrenderer] at hr
    rcases hwas with hwas | ⟨rfl, -⟩
    · have hmark := h.marked e he (hwas.symm.trans hskipped) r hr
      cases c.renderer with
      | none => exact hmark
      | some r' => exact Finset.mem_insert_of_mem hmark
    · rw [show e.renderer = some r from hr]
      exact Finset.mem_insert_self _ _
  began := h.began_setPhase hc
  current := h.current_setPhase hc
  answered := by
    have hanswered : ∀ videos, CheckPhase.ended true = .answered videos →
      ∀ video ∈ videos, score video.1 = some video.2 := fun _ hphase ↦ by cases hphase
    exact h.answered_setPhase hc hanswered
  alone := h.alone_setPhase hc hended (.ended true)

/-! ### The beginning of a check -/

theorem of_getElem?_concat {l : List ShortCheck} {j : ℕ} {d : ShortCheck}
    (h : (l ++ [c])[j]? = some d) : l[j]? = some d ∨ j = l.length ∧ d = c := by
  rw [List.getElem?_append] at h
  split_ifs at h with hj
  · exact Or.inl h
  · obtain ⟨hlt, rfl⟩ := List.getElem?_eq_some_iff.1 h
    rw [List.length_singleton, Nat.lt_one_iff] at hlt
    exact Or.inr ⟨by omega, by simp [hlt]⟩

/-- **A check begins** when the others of the stay have ended without a skip. -/
theorem Inv.begin (h : Inv parse score hideThreshold s) {v : VideoID} {renderer : Option ℕ}
    (hv : getCurrentShortVideoID parse s.url = some v)
    (hquiet : FlaggedShort score hideThreshold v →
      ∀ c ∈ s.checks, c.stay = s.stay → c.phase = .ended false) :
    Inv parse score hideThreshold
      { s with checks := s.checks ++ [⟨s.stay, v, renderer, .asked⟩] } where
  flagged := h.flagged
  once := h.once
  skipped skip hskip := by
    obtain ⟨c, hc, hstay, hskipped⟩ := h.skipped skip hskip
    exact ⟨c, List.mem_append_left _ hc, hstay, hskipped⟩
  marked d hd hskipped := by
    rcases List.mem_append.1 hd with hd | hd
    · exact h.marked d hd hskipped
    · obtain rfl := List.mem_singleton.1 hd
      cases hskipped
  began d hd := by
    rcases List.mem_append.1 hd with hd | hd
    · exact h.began d hd
    · obtain rfl := List.mem_singleton.1 hd
      exact le_rfl
  current d hd hstay := by
    rcases List.mem_append.1 hd with hd | hd
    · exact h.current d hd hstay
    · obtain rfl := List.mem_singleton.1 hd
      exact hv
  answered d hd videos hvideos := by
    rcases List.mem_append.1 hd with hd | hd
    · exact h.answered d hd videos hvideos
    · obtain rfl := List.mem_singleton.1 hd
      cases hvideos
  alone j k d d' hd hd' hstay hstay' hflagged hunder := by
    rcases of_getElem?_concat hd with hd | ⟨hj, rfl⟩ <;>
      rcases of_getElem?_concat hd' with hd' | ⟨hk, rfl⟩
    · exact h.alone j k d d' hd hd' hstay hstay' hflagged hunder
    · -- the one that is under way would have ended
      have hmem := List.mem_of_getElem? hd
      obtain rfl := Option.some.inj (hv.symm.trans (h.current d hmem hstay))
      rw [hquiet hflagged d hmem hstay] at hunder
      cases hunder
    · exact Or.inr (hquiet hflagged d' (List.mem_of_getElem? hd') hstay')
    · exact Or.inl (hj.trans hk.symm)

/-- **A call of `checkAndSkipCurrentShort`**: where a check has skipped, the mark keeps another from
being begun. -/
theorem Inv.checkAndSkipCurrentShort (h : Inv parse score hideThreshold s)
    (hsettled : (∃ v ∈ getCurrentShortVideoID parse s.url, FlaggedShort score hideThreshold v) →
      s.Settled parse resolve) :
    Inv parse score hideThreshold (s.checkAndSkipCurrentShort parse resolve) := by
  rw [ShortsState.checkAndSkipCurrentShort]
  cases hv : getCurrentShortVideoID parse s.url with
  | none => exact h
  | some v =>
    change Inv parse score hideThreshold (if _ then _ else _)
    split_ifs with hmark
    · exact h
    · refine h.begin hv fun hflagged c hc hstay ↦ ?_
      obtain ⟨hended, hfound⟩ := hsettled ⟨v, hv, hflagged⟩ c hc hstay
      cases hphase : c.phase with
      | asked =>
        rw [hphase] at hended
        cases hended
      | answered videos =>
        rw [hphase] at hended
        cases hended
      | ended skipped =>
        cases skipped with
        | false => rfl
        | true =>
          obtain ⟨hsome, heq⟩ := hfound hphase
          obtain ⟨r, hr⟩ := Option.isSome_iff_exists.1 hsome
          refine absurd ?_ hmark
          rw [heq, hr, Option.any_some, decide_eq_true_iff]
          exact h.marked c hc hphase r hr

/-! ### Whole runs -/

/-- A verdict tells the score. -/
theorem flaggedShort_of_isFlagged {videos : List (VideoID × ℚ)} {v : VideoID}
    (h : isFlagged (getThreshold hideThreshold) videos v)
    (htrue : ∀ video ∈ videos, score video.1 = some video.2) :
    FlaggedShort score hideThreshold v := by
  obtain ⟨⟨w, x⟩, hmem, hflagged⟩ := List.any_eq_true.1 h
  obtain ⟨rfl, hx⟩ := of_decide_eq_true hflagged
  exact ⟨x, htrue _ hmem, hx⟩

/-- **Every orderly step keeps the invariant.** -/
theorem Inv.step {e : ShortsEvent} (h : Inv parse score hideThreshold s)
    (horderly : s.Orderly score hideThreshold parse resolve e)
    (hstep : s.step parse resolve score hideThreshold e = some s') :
    Inv parse score hideThreshold s' := by
  cases e with
  | navigate url =>
    obtain rfl := Option.some.inj hstep
    by_cases hsame : getCurrentShortVideoID parse url = getCurrentShortVideoID parse s.url
    · exact h.congr rfl rfl rfl (if_pos hsame) hsame
    · exact (h.leave url).congr rfl rfl rfl (if_neg hsame) rfl
  | render document =>
    obtain rfl := Option.some.inj hstep
    exact h.congr rfl rfl rfl rfl rfl
  | startShortsMode =>
    obtain rfl := Option.some.inj hstep
    exact (h.checkAndSkipCurrentShort horderly).congr rfl rfl rfl rfl rfl
  | stopShortsMode =>
    obtain rfl := Option.some.inj hstep
    exact h.congr rfl rfl rfl rfl rfl
  | poll =>
    obtain ⟨lastURL, hlast, rfl⟩ := Option.map_eq_some_iff.1 hstep
    split_ifs with hurl
    · have hwatched : Inv parse score hideThreshold { s with lastURL := some s.url } :=
        h.congr rfl rfl rfl rfl rfl
      change Inv parse score hideThreshold (if isShortsPage parse s.url then _ else _)
      split_ifs
      · exact hwatched.checkAndSkipCurrentShort
          (horderly fun heq ↦ hurl (Option.some.inj (heq.symm.trans hlast)))
      · exact hwatched
    · exact h
  | answer i videos =>
    obtain ⟨c, hc, hphase⟩ := Option.bind_eq_some_iff.1 hstep
    split at hphase
    · rename_i hasked
      split_ifs at hphase with htrue
      obtain rfl := Option.some.inj hphase
      refine h.setPhase hc (by rw [hasked]; rfl) (fun heq ↦ by cases heq) fun videos' heq ↦ ?_
      rwa [← CheckPhase.answered.inj heq]
    · cases hphase
  | fail i =>
    obtain ⟨c, hc, hphase⟩ := Option.bind_eq_some_iff.1 hstep
    split_ifs at hphase with hended
    obtain rfl := Option.some.inj hphase
    exact h.setPhase hc (by simpa using hended) (fun heq ↦ by cases heq) fun _ heq ↦ by cases heq
  | threshold i =>
    obtain ⟨c, hc, hphase⟩ := Option.bind_eq_some_iff.1 hstep
    split at hphase
    · rename_i videos hanswered
      have hunder : c.phase.hasEnded = false := by rw [hanswered]; rfl
      split_ifs at hphase with hflagged
      · obtain rfl := Option.some.inj hphase
        have hstay : c.stay = s.stay := horderly c hc (by rwa [ShortCheck.willSkip, hanswered])
        exact h.skip hc hunder hstay (flaggedShort_of_isFlagged hflagged
          (h.answered c (List.mem_of_getElem? hc) videos hanswered))
      · obtain rfl := Option.some.inj hphase
        exact h.setPhase hc hunder (fun heq ↦ by cases heq) fun _ heq ↦ by cases heq
    · cases hphase

theorem inv_start (url : String) (document : Element) (skipMarks : Finset ℕ) :
    Inv parse score hideThreshold (start url document skipMarks) where
  flagged _ hskip := absurd hskip List.not_mem_nil
  once := List.nodup_nil
  skipped _ hskip := absurd hskip List.not_mem_nil
  marked _ hc := absurd hc List.not_mem_nil
  began _ hc := absurd hc List.not_mem_nil
  current _ hc := absurd hc List.not_mem_nil
  answered _ hc := absurd hc List.not_mem_nil
  alone _ _ _ _ hc := absurd (List.mem_of_getElem? hc) List.not_mem_nil

/-- **When skips are right**: in every orderly run. -/
theorem skipsRight_of_orderly {url : String} {document : Element} {skipMarks : Finset ℕ}
    {es : List ShortsEvent}
    (h : Steps.Run (step parse resolve score hideThreshold)
      (Orderly score hideThreshold parse resolve) (start url document skipMarks) es s) :
    s.SkipsRight score hideThreshold :=
  (h.inv (I := Inv parse score hideThreshold) (inv_start url document skipMarks)
    fun hI horderly hstep ↦ hI.step horderly hstep).toSkipsRight

/-- What `URL` makes of the addresses of two shorts. -/
def parsePage (url : String) : Option URL :=
  if url = "https://www.youtube.com/shorts/dQw4w9WgXcQ" then some ⟨"/shorts/dQw4w9WgXcQ", []⟩
  else if url = "https://www.youtube.com/shorts/jNQXAC9IVRw" then
    some ⟨"/shorts/jNQXAC9IVRw", []⟩
  else none

/-- The address of a link to a page. -/
def resolveLink (href : String) : String := "https://www.youtube.com" ++ href

/-- A page with the renderer of a short. -/
def reel (v : VideoID) : Element := .mk 0 "body" []
  [.mk 1 "ytd-reel-video-renderer" [] [.mk 2 "a" [("href", "/shorts/" ++ v)] []]]

/-- One of two shorts is flagged. -/
def oneFlagged (v : VideoID) : Option ℚ := some (if v = "dQw4w9WgXcQ" then 80 else 10)

/-- The answers arrive while the short is shown. -/
def skippedInTime : List ShortsEvent :=
  [.startShortsMode, .answer 0 [("dQw4w9WgXcQ", 80)], .threshold 0, .startShortsMode,
    .navigate "https://www.youtube.com/shorts/jNQXAC9IVRw", .poll]

/-- They arrive when the next one is shown. -/
def skippedLate : List ShortsEvent :=
  [.startShortsMode, .navigate "https://www.youtube.com/shorts/jNQXAC9IVRw",
    .answer 0 [("dQw4w9WgXcQ", 80)], .threshold 0]

theorem exec_skippedInTime : (Steps.exec (step parsePage resolveLink oneFlagged none)
    (Orderly oneFlagged none parsePage resolveLink)
    (start "https://www.youtube.com/shorts/dQw4w9WgXcQ" (reel "dQw4w9WgXcQ") ∅)
    skippedInTime).any (fun s ↦ s.skips = [⟨0, some "dQw4w9WgXcQ"⟩]) = true := by
  decide +kernel

theorem exec_skippedLate : (Steps.exec (step parsePage resolveLink oneFlagged none) Steps.Any
    (start "https://www.youtube.com/shorts/dQw4w9WgXcQ" (reel "dQw4w9WgXcQ") ∅)
    skippedLate).any (fun s ↦ s.skips = [⟨1, some "jNQXAC9IVRw"⟩]) = true := by
  decide +kernel

/-- A flagged short is skipped once. -/
theorem skipsRight_skippedInTime : ∃ s : ShortsState,
    s.skips = [⟨0, some "dQw4w9WgXcQ"⟩] ∧ s.SkipsRight oneFlagged none := by
  obtain ⟨s, hrun, hskips⟩ := Steps.exists_run_of_exec exec_skippedInTime
  exact ⟨s, of_decide_eq_true hskips, skipsRight_of_orderly hrun⟩

/-- **A late answer skips the next short**, which is not flagged. -/
theorem not_skipsRight_skippedLate : ¬ ∀ (parse : String → Option URL) (resolve : String → String)
    (score : VideoID → Option ℚ) (hideThreshold : Option ℚ) (url : String) (document : Element)
    (skipMarks : Finset ℕ) (es : List ShortsEvent) (s : ShortsState),
    Steps.Run (step parse resolve score hideThreshold) Steps.Any (start url document skipMarks)
      es s → s.SkipsRight score hideThreshold := by
  intro h
  obtain ⟨s, hrun, hskips⟩ := Steps.exists_run_of_exec exec_skippedLate
  have hright := h parsePage resolveLink oneFlagged none _ _ _ _ s hrun
  obtain ⟨v, hv, hflagged⟩ := hright.flagged ⟨1, some "jNQXAC9IVRw"⟩ (by
    rw [of_decide_eq_true hskips]
    exact List.mem_cons_self)
  obtain rfl := Option.some.inj hv
  exact absurd hflagged (by decide +kernel)

/-- Two checks at once skip twice. -/
example : (Steps.exec (step parsePage resolveLink oneFlagged none) Steps.Any
    (start "https://www.youtube.com/shorts/dQw4w9WgXcQ" (reel "dQw4w9WgXcQ") ∅)
    [.startShortsMode, .startShortsMode, .answer 0 [("dQw4w9WgXcQ", 80)],
      .answer 1 [("dQw4w9WgXcQ", 80)], .threshold 0, .threshold 1]).map
        (fun s ↦ s.skips.map ShortSkip.stay) = some [0, 0] := by
  decide +kernel

end ShortsState

end RealTube.Page
