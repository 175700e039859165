import RealTube.Extension.Sync
import RealTube.Page.Renderers

/-!
# Hiding flagged videos

`content/hide.ts`. `checkAndHideVideos` gets a map from videos to elements, asks for the videos, and
hides the element of every video that comes back with a score at or above the threshold. Hidden
elements are marked, and a marked element is left as it is.

The map has one element of each video. Where several renderers of a page, or of a batch of
mutations, show one flagged video, the last of them is hidden and the others stay
(`hidesFlagged_iff`).
-/

namespace RealTube.Page

open Extension

/-- What the extension does to the looks of elements. -/
structure Styles where
  /-- The elements with `style.display = "none"`. -/
  hidden : Finset ℕ
  /-- The elements with the attribute `data-realtube-hidden`. -/
  marked : Finset ℕ
  deriving DecidableEq

/-- `DEFAULT_THRESHOLD`. -/
def defaultThreshold : ℚ := 50

/-- `getThreshold`, of the stored `hideThreshold`. -/
def getThreshold (hideThreshold : Option ℚ) : ℚ := hideThreshold.getD defaultThreshold

/-- `hideElement`. -/
def hideElement (element : Element) (s : Styles) : Styles :=
  if element.ref ∈ s.marked then s
  else { hidden := insert element.ref s.hidden, marked := insert element.ref s.marked }

/-- What the loop does with a video of the answer. -/
def hideVideo (videoElementMap : OrderedMap VideoID Element) (threshold : ℚ) (s : Styles)
    (video : VideoID × CachedVideo) : Styles :=
  if threshold ≤ video.2.score then
    match videoElementMap.get video.1 with
    | some element => hideElement element s
    | none => s
  else s

/-- `checkAndHideVideos`, with the videos of the answer. There are none if the message fails. -/
def checkAndHideVideos (videoElementMap : OrderedMap VideoID Element)
    (response : Option (List (VideoID × CachedVideo))) (hideThreshold : Option ℚ) (s : Styles) :
    Styles :=
  if videoElementMap.size = 0 then s
  else match response with
    | none => s
    | some flaggedVideos =>
      flaggedVideos.foldl (hideVideo videoElementMap (getThreshold hideThreshold)) s

/-- A video comes back with a score at or above the threshold. -/
def Flagged (response : Option (List (VideoID × CachedVideo))) (hideThreshold : Option ℚ)
    (v : VideoID) : Prop :=
  ∃ video, (v, video) ∈ response.getD [] ∧ getThreshold hideThreshold ≤ video.score

variable {videoElementMap : OrderedMap VideoID Element} {hideThreshold : Option ℚ} {threshold : ℚ}
  {response : Option (List (VideoID × CachedVideo))} {videos : List (VideoID × CachedVideo)}
  {s : Styles} {r : ℕ}

/-! ### What is hidden -/

/-- The loop hides an element. -/
def Hides (videoElementMap : OrderedMap VideoID Element) (threshold : ℚ) (r : ℕ)
    (video : VideoID × CachedVideo) : Prop :=
  threshold ≤ video.2.score ∧ ∃ e, videoElementMap.get video.1 = some e ∧ e.ref = r

theorem hideVideo_of_not_hides {video : VideoID × CachedVideo}
    (h : ¬ Hides videoElementMap threshold r video) :
    (r ∈ (hideVideo videoElementMap threshold s video).hidden ↔ r ∈ s.hidden) ∧
      (r ∈ (hideVideo videoElementMap threshold s video).marked ↔ r ∈ s.marked) := by
  rw [hideVideo]
  split_ifs with hscore
  · cases he : videoElementMap.get video.1 with
    | none => exact ⟨Iff.rfl, Iff.rfl⟩
    | some e =>
      have hne : r ≠ e.ref := fun heq ↦ h ⟨hscore, e, he, heq.symm⟩
      change (r ∈ (hideElement e s).hidden ↔ _) ∧ (r ∈ (hideElement e s).marked ↔ _)
      rw [hideElement]
      split_ifs
      · exact ⟨Iff.rfl, Iff.rfl⟩
      · exact ⟨by rw [Finset.mem_insert, or_iff_right hne],
          by rw [Finset.mem_insert, or_iff_right hne]⟩
  · exact ⟨Iff.rfl, Iff.rfl⟩

theorem hideVideo_of_hides {video : VideoID × CachedVideo}
    (h : Hides videoElementMap threshold r video) :
    (r ∈ (hideVideo videoElementMap threshold s video).hidden ↔ r ∈ s.hidden ∨ r ∉ s.marked) ∧
      r ∈ (hideVideo videoElementMap threshold s video).marked := by
  obtain ⟨hscore, e, he, rfl⟩ := h
  rw [hideVideo, if_pos hscore, he]
  change (_ ∈ (hideElement e s).hidden ↔ _) ∧ _ ∈ (hideElement e s).marked
  rw [hideElement]
  split_ifs with hmarked
  · exact ⟨by rw [or_iff_left (not_not_intro hmarked)], hmarked⟩
  · exact ⟨iff_of_true (Finset.mem_insert_self _ _) (Or.inr hmarked), Finset.mem_insert_self _ _⟩

/-- **What the loop hides.** -/
theorem mem_hidden_foldl : r ∈ (videos.foldl (hideVideo videoElementMap threshold) s).hidden ↔
    r ∈ s.hidden ∨ r ∉ s.marked ∧ ∃ video ∈ videos, Hides videoElementMap threshold r video := by
  induction videos generalizing s with
  | nil => simp
  | cons video videos ih =>
    rw [List.foldl_cons, ih, List.exists_mem_cons_iff]
    by_cases hhides : Hides videoElementMap threshold r video
    · -- it is marked from now on
      obtain ⟨hhidden, hmarked⟩ := hideVideo_of_hides (s := s) hhides
      rw [hhidden, or_iff_left fun h ↦ h.1 hmarked, or_iff_left_of_imp (a := Hides _ _ _ _)]
      · simp [hhides]
      · exact fun _ ↦ hhides
    · obtain ⟨hhidden, hmarked⟩ := hideVideo_of_not_hides (s := s) hhides
      rw [hhidden, hmarked, or_iff_right hhides]

/-- **What a check hides**: the elements that the map has for the flagged videos. -/
theorem mem_hidden_checkAndHideVideos :
    r ∈ (checkAndHideVideos videoElementMap response hideThreshold s).hidden ↔
      r ∈ s.hidden ∨ r ∉ s.marked ∧ ∃ v e, Flagged response hideThreshold v ∧
        videoElementMap.get v = some e ∧ e.ref = r := by
  have hflagged : ∀ videos, (∃ video ∈ videos, Hides videoElementMap (getThreshold hideThreshold) r
      video) ↔ ∃ v e, Flagged (some videos) hideThreshold v ∧ videoElementMap.get v = some e ∧
        e.ref = r := by
    intro videos
    constructor
    · rintro ⟨⟨v, video⟩, hvideo, hscore, e, he, rfl⟩
      exact ⟨v, e, ⟨video, hvideo, hscore⟩, he, rfl⟩
    · rintro ⟨v, e, ⟨video, hvideo, hscore⟩, he, rfl⟩
      exact ⟨(v, video), hvideo, hscore, e, he, rfl⟩
  unfold checkAndHideVideos
  split_ifs with hsize
  · rw [or_iff_left]
    rintro ⟨-, v, e, -, he, -⟩
    rw [OrderedMap.size, List.length_eq_zero_iff] at hsize
    rw [OrderedMap.get_eq_some, hsize] at he
    exact absurd he List.not_mem_nil
  · cases response with
    | none =>
      rw [or_iff_left]
      rintro ⟨-, v, e, ⟨video, hvideo, -⟩, -⟩
      exact absurd hvideo List.not_mem_nil
    | some videos => exact mem_hidden_foldl.trans (or_congr_right (and_congr_right fun _ ↦
        hflagged videos))

/-! ### The renderers of a list -/

/-- **The flagged renderers are hidden**, and no others but those that were hidden before. -/
structure HidesFlagged (renderers : List (VideoID × Element)) (flagged : VideoID → Prop)
    (s s' : Styles) : Prop where
  hidden : ∀ x ∈ renderers, flagged x.1 → x.2.ref ∈ s'.hidden
  others : ∀ r ∈ s'.hidden, r ∈ s.hidden ∨ ∃ x ∈ renderers, flagged x.1 ∧ x.2.ref = r

/-- No renderer of the same video comes after this one. -/
def IsLast (renderers : List (VideoID × Element)) (x : VideoID × Element) : Prop :=
  ∃ earlier later, renderers = earlier ++ x :: later ∧ ∀ y ∈ later, y.1 ≠ x.1

/-- Each flagged renderer is hidden already, or is the last of its video and not marked. -/
def FlaggedLast (renderers : List (VideoID × Element)) (flagged : VideoID → Prop) (s : Styles) :
    Prop :=
  ∀ x ∈ renderers, flagged x.1 → x.2.ref ∈ s.hidden ∨
    x.2.ref ∉ s.marked ∧ ∃ y, IsLast renderers y ∧ flagged y.1 ∧ y.2.ref = x.2.ref

/-- **When a check hides all it should.** -/
theorem hidesFlagged_checkAndHideVideos (renderers : List (VideoID × Element))
    (response : Option (List (VideoID × CachedVideo))) (hideThreshold : Option ℚ) (s : Styles) :
    HidesFlagged renderers (Flagged response hideThreshold) s
        (checkAndHideVideos (.setAll renderers) response hideThreshold s) ↔
      FlaggedLast renderers (Flagged response hideThreshold) s := by
  have hget : ∀ r, (∃ v e, Flagged response hideThreshold v ∧
      (OrderedMap.setAll renderers).get v = some e ∧ e.ref = r) ↔
        ∃ y, IsLast renderers y ∧ Flagged response hideThreshold y.1 ∧ y.2.ref = r := by
    intro r
    constructor
    · rintro ⟨v, e, hflagged, he, rfl⟩
      exact ⟨(v, e), OrderedMap.get_setAll_eq_some.1 he, hflagged, rfl⟩
    · rintro ⟨⟨v, e⟩, hlast, hflagged, rfl⟩
      exact ⟨v, e, hflagged, OrderedMap.get_setAll_eq_some.2 hlast, rfl⟩
  constructor
  · intro h x hx hflagged
    have hhidden := h.hidden x hx hflagged
    rwa [mem_hidden_checkAndHideVideos, hget] at hhidden
  · intro h
    refine ⟨fun x hx hflagged ↦ ?_, fun r hr ↦ ?_⟩
    · rw [mem_hidden_checkAndHideVideos, hget]
      exact h x hx hflagged
    · rw [mem_hidden_checkAndHideVideos, hget] at hr
      refine hr.imp_right ?_
      rintro ⟨-, y, ⟨earlier, later, hsplit, -⟩, hflagged, rfl⟩
      exact ⟨y, hsplit ▸ List.mem_append_right _ List.mem_cons_self, hflagged, rfl⟩

/-- The renderers of a page, with the ids of their videos. -/
def pageRenderers (parse : String → Option URL) (document : Element) (pageType : PageType) :
    List (VideoID × Element) :=
  withVideoIDs parse (document.querySelectorAll (getVideoRendererSelector pageType))

/-- **When the scans hide all they should**, of a page and of a batch of mutations. -/
theorem hidesFlagged_iff (parse : String → Option URL) (pageType : PageType) (document : Element)
    (mutations : List MutationRecord) (response : Option (List (VideoID × CachedVideo)))
    (hideThreshold : Option ℚ) (s : Styles) :
    (HidesFlagged (pageRenderers parse document pageType) (Flagged response hideThreshold) s
        (checkAndHideVideos (extractAllVideoIDs parse document pageType) response hideThreshold
          s) ↔
      FlaggedLast (pageRenderers parse document pageType) (Flagged response hideThreshold) s) ∧
    (HidesFlagged (withVideoIDs parse (addedRenderers mutations pageType))
        (Flagged response hideThreshold) s
        (checkAndHideVideos (extractVideoIDsFromMutations parse mutations pageType) response
          hideThreshold s) ↔
      FlaggedLast (withVideoIDs parse (addedRenderers mutations pageType))
        (Flagged response hideThreshold) s) := by
  rw [extractAllVideoIDs_eq, extractVideoIDsFromMutations_eq]
  exact ⟨hidesFlagged_checkAndHideVideos _ _ _ _, hidesFlagged_checkAndHideVideos _ _ _ _⟩

/-- A page with one video on two shelves. -/
def twoShelves : Element := .mk 0 "body" []
  [card "ytd-video-renderer" 1 "dQw4w9WgXcQ", card "ytd-video-renderer" 3 "dQw4w9WgXcQ"]

/-- **The first shelf stays**, although the video is flagged. -/
theorem not_hidesFlagged : ¬ ∀ (parse : String → Option URL) (pageType : PageType)
    (document : Element) (response : Option (List (VideoID × CachedVideo)))
    (hideThreshold : Option ℚ) (s : Styles),
    HidesFlagged (pageRenderers parse document pageType) (Flagged response hideThreshold) s
      (checkAndHideVideos (extractAllVideoIDs parse document pageType) response hideThreshold
        s) := by
  intro h
  have hhidden := (h parseWatch .search twoShelves
    (some [("dQw4w9WgXcQ", ⟨80, fun _ ↦ none, none, 0⟩)]) none ⟨∅, ∅⟩).hidden
      ("dQw4w9WgXcQ", card "ytd-video-renderer" 1 "dQw4w9WgXcQ")
  have hmem : ("dQw4w9WgXcQ", card "ytd-video-renderer" 1 "dQw4w9WgXcQ") ∈
      pageRenderers parseWatch twoShelves .search := by
    rw [pageRenderers, mem_withVideoIDs]
    exact ⟨List.mem_cons_self, by decide +kernel⟩
  have hshown : 1 ∉ (checkAndHideVideos (extractAllVideoIDs parseWatch twoShelves .search)
      (some [("dQw4w9WgXcQ", ⟨80, fun _ ↦ none, none, 0⟩)]) none ⟨∅, ∅⟩).hidden := by
    decide +kernel
  exact hshown (hhidden hmem ⟨_, List.mem_cons_self, by decide +kernel⟩)

end RealTube.Page
