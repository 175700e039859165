import RealTube.Page.Renderers
import RealTube.Store.Debounce

/-!
# Videos that are added to a page

`onMutation` of `content/content.ts`, while the extension is enabled and the page stays of one type.
The observer calls it with the nodes that have been added. It waits until nothing has been added for
100 ms, and then scans the batch of the last call and has its videos checked.

The batches before are not kept. So an added video is certain to be checked exactly when no call
comes before the timer of its batch fires, or when another batch that is scanned shows it as well
(`checked_iff`).
-/

namespace RealTube.Page

open Extension

/-- The observer and what it has had checked. -/
structure ObserverState where
  enabled : Bool
  currentPageType : PageType
  /-- `debounceTimer`. -/
  debounce : Debounce.State (List MutationRecord)
  /-- The maps that `checkAndHideVideos` has been called with. -/
  checked : List (OrderedMap VideoID Element)

namespace ObserverState

/-- The observer is started. -/
def start (pageType : PageType) : ObserverState := ⟨true, pageType, Debounce.init, []⟩

section Step

variable (parse : String → Option URL)

/-- What the timer runs. -/
def check (s : ObserverState) (mutations : List MutationRecord) : ObserverState :=
  let newVideos := extractVideoIDsFromMutations parse mutations s.currentPageType
  if 0 < newVideos.size then { s with checked := s.checked ++ [newVideos] } else s

/-- The state after a call of `onMutation`, or after the timer has fired. -/
def step (s : ObserverState) : Debounce.Event (List MutationRecord) → Option ObserverState
  | .call t mutations =>
    if s.enabled then
      (Debounce.step debounceMs s.debounce (.call t mutations)).map fun d ↦ { s with debounce := d }
    else some s
  | .fire t =>
    (Debounce.step debounceMs s.debounce (.fire t)).map fun d ↦
      { s with debounce := d }.check parse (s.debounce.timer.elim [] Prod.snd)

end Step

end ObserverState

/-- Mutations add a renderer that shows the video. -/
def AddsVideo (parse : String → Option URL) (pageType : PageType) (mutations : List MutationRecord)
    (v : VideoID) : Prop :=
  ∃ mutation ∈ mutations, ∃ root e, .element root ∈ mutation.addedNodes ∧ e.Within root ∧
    e.matchesSelector (getVideoRendererSelector pageType) ∧
    extractVideoIDFromRenderer parse e = some v

variable {parse : String → Option URL} {pageType : PageType} {mutations : List MutationRecord}
  {v : VideoID} {s : ObserverState} {es : List (Debounce.Event (List MutationRecord))}

/-- **What is scanned of a batch**: the videos that it adds. -/
theorem mem_keys_iff :
    v ∈ (extractVideoIDsFromMutations parse mutations pageType).keys ↔
      AddsVideo parse pageType mutations v := by
  rw [extractVideoIDsFromMutations_eq, OrderedMap.keys_setAll, List.mem_eraseDups, List.mem_map]
  constructor
  · rintro ⟨⟨v, e⟩, hmem, rfl⟩
    obtain ⟨he, hv⟩ := mem_withVideoIDs.1 hmem
    obtain ⟨mutation, hmutation, root, hroot, hwithin, hmatches⟩ := mem_addedRenderers.1 he
    exact ⟨mutation, hmutation, root, e, hroot, hwithin, hmatches, hv⟩
  · rintro ⟨mutation, hmutation, root, e, hroot, hwithin, hmatches, hv⟩
    have he := mem_addedRenderers.2 ⟨mutation, hmutation, root, hroot, hwithin, hmatches⟩
    exact ⟨(v, e), mem_withVideoIDs.2 ⟨he, hv⟩, rfl⟩

namespace ObserverState

/-- The maps that are checked are those of the batches that are handed on. -/
structure Scans (parse : String → Option URL) (pageType : PageType) (s : ObserverState) : Prop where
  enabled : s.enabled
  currentPageType : s.currentPageType = pageType
  checked : s.checked = (s.debounce.done.map fun mutations ↦
    extractVideoIDsFromMutations parse mutations pageType).filter (0 < ·.size)

/-- **The observer is a debounced scan.** -/
theorem run_debounce (h : Steps.Run (step parse) Steps.Any (start pageType) es s) :
    Steps.Run (Debounce.step debounceMs) Steps.Any Debounce.init es s.debounce ∧
      s.Scans parse pageType := by
  induction h with
  | nil => exact ⟨.nil, rfl, rfl, rfl⟩
  | @snoc es e s s' _ _ hstep ih =>
    obtain ⟨hrun, hscans⟩ := ih
    cases e with
    | call t mutations =>
      rw [step, if_pos hscans.enabled] at hstep
      obtain ⟨d, hd, rfl⟩ := Option.map_eq_some_iff.1 hstep
      refine ⟨hrun.snoc trivial hd, hscans.enabled, hscans.currentPageType, ?_⟩
      rw [Debounce.step] at hd
      split_ifs at hd
      obtain rfl := Option.some.inj hd
      exact hscans.checked
    | fire t =>
      obtain ⟨d, hd, rfl⟩ := Option.map_eq_some_iff.1 hstep
      have hrun' := hrun.snoc trivial hd
      rw [Debounce.step] at hd
      split at hd
      · rename_i due mutations htimer
        split_ifs at hd
        obtain rfl := Option.some.inj hd
        rw [htimer, Option.elim_some, check]
        obtain ⟨henabled, rfl, hchecked⟩ := hscans
        split_ifs with hsize
        · refine ⟨hrun', henabled, rfl, ?_⟩
          change s.checked ++ [_] = _
          rw [hchecked, List.map_append, List.filter_append, List.map_singleton,
            List.filter_cons_of_pos (by simpa using hsize), List.filter_nil]
        · refine ⟨hrun', henabled, rfl, ?_⟩
          change s.checked = _
          rw [hchecked, List.map_append, List.filter_append, List.map_singleton,
            List.filter_cons_of_neg (by simpa using hsize), List.filter_nil, List.append_nil]
      · cases hd

/-- **When every added video is checked**, once the last timer has fired: each video of a batch
whose timer was cleared is also in a batch whose timer has fired. -/
theorem checked_iff (h : Steps.Run (step parse) Steps.Any (start pageType) es s)
    (hnone : s.debounce.timer = none) :
    (∀ mutations v, Debounce.Called es mutations → AddsVideo parse pageType mutations v →
        ∃ videoMap ∈ s.checked, v ∈ videoMap.keys) ↔
      ∀ mutations v, Debounce.Cleared es mutations → AddsVideo parse pageType mutations v →
        ∃ mutations', Debounce.Kept es mutations' ∧ AddsVideo parse pageType mutations' v := by
  obtain ⟨hrun, -, -, hchecked⟩ := run_debounce h
  have hcovered : ∀ v, (∃ videoMap ∈ s.checked, v ∈ videoMap.keys) ↔
      ∃ mutations, Debounce.Kept es mutations ∧ AddsVideo parse pageType mutations v := by
    intro v
    rw [hchecked]
    constructor
    · rintro ⟨videoMap, hmem, hv⟩
      obtain ⟨mutations, hmutations, rfl⟩ := List.mem_map.1 (List.mem_of_mem_filter hmem)
      exact ⟨mutations, (Debounce.mem_done_iff hrun).1 hmutations, mem_keys_iff.1 hv⟩
    · rintro ⟨mutations, hkept, hv⟩
      have hkeys := mem_keys_iff.2 hv
      -- a map with a key is not empty
      have hsize : 0 < (extractVideoIDsFromMutations parse mutations pageType).size := by
        rw [OrderedMap.size, ← List.length_map]
        exact List.length_pos_of_mem hkeys
      exact ⟨_, List.mem_filter.2 ⟨List.mem_map_of_mem ((Debounce.mem_done_iff hrun).2 hkept),
        by simpa using hsize⟩, hkeys⟩
  simp only [hcovered]
  constructor
  · exact fun hall mutations v hcleared ↦ hall mutations v hcleared.called
  · intro hcleared mutations v hcalled hadds
    rcases (Debounce.called_iff hrun hnone).1 hcalled with hkept | hcalled
    · exact ⟨mutations, hkept, hadds⟩
    · exact hcleared mutations v hcalled hadds

/-- A batch with one card. -/
def addedCard (ref : ℕ) (v : VideoID) : List MutationRecord :=
  [⟨[.element (card "ytd-rich-item-renderer" ref v)]⟩]

/-- Two batches within 100 ms. -/
def burst (v v' : VideoID) : List (Debounce.Event (List MutationRecord)) :=
  [.call 0 (addedCard 1 v), .call 50 (addedCard 3 v'), .fire 150]

/-- Both show one video. -/
theorem exec_sameVideo : (Steps.exec (step parseWatch) Steps.Any (start .home)
    (burst "dQw4w9WgXcQ" "dQw4w9WgXcQ")).any (·.debounce.timer.isNone) = true := by
  decide +kernel

/-- They show different videos. -/
theorem exec_twoVideos : (Steps.exec (step parseWatch) Steps.Any (start .home)
    (burst "dQw4w9WgXcQ" "jNQXAC9IVRw")).any (fun s ↦ s.debounce.timer.isNone ∧
      s.checked.all fun videoMap ↦ "dQw4w9WgXcQ" ∉ videoMap.keys) = true := by
  decide +kernel

/-- The first batch of a burst is cleared. -/
theorem eq_of_cleared_burst {v v' : VideoID} (h : Debounce.Cleared (burst v v') mutations) :
    mutations = addedCard 1 v := by
  obtain ⟨t, t', b, before, after, h⟩ := h
  rcases before with - | ⟨e, - | ⟨e', - | ⟨e'', before⟩⟩⟩ <;> simp_all [burst]

/-- One video in both batches is checked. -/
theorem checked_sameVideo : ∃ s : ObserverState, s.debounce.timer = none ∧
    ∀ mutations v, Debounce.Called (burst "dQw4w9WgXcQ" "dQw4w9WgXcQ") mutations →
      AddsVideo parseWatch .home mutations v → ∃ videoMap ∈ s.checked, v ∈ videoMap.keys := by
  obtain ⟨s, hrun, hnone⟩ := Steps.exists_run_of_exec exec_sameVideo
  rw [Option.isNone_iff_eq_none] at hnone
  refine ⟨s, hnone, (checked_iff hrun hnone).2 fun mutations v hcleared hadds ↦ ?_⟩
  rw [eq_of_cleared_burst hcleared, ← mem_keys_iff] at hadds
  refine ⟨addedCard 3 "dQw4w9WgXcQ", ⟨50, 150, ⟨[_], [], rfl⟩⟩, mem_keys_iff.1 ?_⟩
  have hkeys : (extractVideoIDsFromMutations parseWatch (addedCard 1 "dQw4w9WgXcQ") .home).keys =
      (extractVideoIDsFromMutations parseWatch (addedCard 3 "dQw4w9WgXcQ") .home).keys := by
    decide +kernel
  rwa [← hkeys]

/-- **The video of the first batch is not checked.** -/
theorem not_checked_twoVideos : ¬ ∀ (parse : String → Option URL) (pageType : PageType)
    (es : List (Debounce.Event (List MutationRecord))) (s : ObserverState),
    Steps.Run (step parse) Steps.Any (start pageType) es s → s.debounce.timer = none →
    ∀ mutations v, Debounce.Called es mutations → AddsVideo parse pageType mutations v →
      ∃ videoMap ∈ s.checked, v ∈ videoMap.keys := by
  intro h
  obtain ⟨s, hrun, hend⟩ := Steps.exists_run_of_exec exec_twoVideos
  obtain ⟨hnone, hall⟩ := of_decide_eq_true hend
  obtain ⟨videoMap, hmem, hv⟩ := h parseWatch .home _ s hrun
    (Option.isNone_iff_eq_none.1 hnone) (addedCard 1 "dQw4w9WgXcQ") "dQw4w9WgXcQ"
    ⟨0, List.mem_cons_self⟩ (mem_keys_iff.1 (by decide +kernel))
  exact of_decide_eq_true (List.all_eq_true.1 hall videoMap hmem) hv

end ObserverState

end RealTube.Page
