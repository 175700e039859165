import RealTube.Extension.Content
import RealTube.Model.Schema
import RealTube.Page.Dom
import RealTube.Store.OrderedMap

/-!
# The videos of a page

`content/dom-utils.ts`: which elements show a video, and which video an element shows. The scans of
the page (`extractAllVideoIDs`) and of a batch of mutations (`extractVideoIDsFromMutations`) both go
through a list of elements and set, for each that shows a video, the element under the id of the
video. So the map has one element of each video, the last one (`extractAllVideoIDs_eq`,
`extractVideoIDsFromMutations_eq`).

How an address comes apart is a parameter: the browser's `URL`.
-/

namespace RealTube.Page

open Extension

/-! ### Ids in addresses -/

section Extract

variable (parse : String → Option URL)

/-- A character of a video id. -/
def isVideoIDChar (c : Char) : Bool := c.isAlphanum || c = '_' || c = '-'

/-- `/^\/shorts\/([a-zA-Z0-9_-]{11})/`. -/
def shortsVideoID (pathname : String) : Option VideoID :=
  let rest := pathname.toList.drop 8
  if startsWith pathname "/shorts/" ∧ (rest.take 11).length = 11 ∧ (rest.take 11).all isVideoIDChar
  then some (String.ofList (rest.take 11))
  else none

/-- `extractVideoIdFromUrl`. -/
def extractVideoIDFromURL (url : String) : Option VideoID :=
  (parse url).bind fun parsed ↦
    if parsed.pathname = "/watch" then parsed.getParam "v" else shortsVideoID parsed.pathname

/-- `extractVideoIdFromLink`. -/
def extractVideoIDFromLink (anchor : Element) : Option VideoID :=
  ((anchor.getAttribute "href").filter (· ≠ "")).bind (extractVideoIDFromURL parse)

/-- `a#thumbnail, a.ytd-thumbnail, a[href*='/watch?v='], a[href*='/shorts/']`. -/
def thumbLinkSelector : Selector :=
  [⟨"a", [.hasID "thumbnail"]⟩, ⟨"a", [.hasClass "ytd-thumbnail"]⟩,
    ⟨"a", [.attributeContains "href" "/watch?v="]⟩, ⟨"a", [.attributeContains "href" "/shorts/"]⟩]

/-- `a#video-title, a#video-title-link`. -/
def titleLinkSelector : Selector :=
  [⟨"a", [.hasID "video-title"]⟩, ⟨"a", [.hasID "video-title-link"]⟩]

/-- The id in the first link that a selector finds. An empty id counts as none. -/
def videoIDOfLink (element : Element) (selector : Selector) : Option VideoID :=
  ((element.querySelector selector).bind (extractVideoIDFromLink parse)).filter (· ≠ "")

/-- `extractVideoIdFromRenderer`. -/
def extractVideoIDFromRenderer (element : Element) : Option VideoID :=
  (videoIDOfLink parse element thumbLinkSelector).or
    (videoIDOfLink parse element titleLinkSelector)

end Extract

/-! ### Renderers -/

/-- `VIDEO_SELECTORS.feed`. -/
def feed : Selector := [⟨"ytd-rich-item-renderer", []⟩]

/-- `VIDEO_SELECTORS.search`. -/
def search : Selector := [⟨"ytd-video-renderer", []⟩]

/-- `VIDEO_SELECTORS.sidebar`. -/
def sidebar : Selector := [⟨"ytd-compact-video-renderer", []⟩]

/-- `VIDEO_SELECTORS.shorts`. -/
def shorts : Selector := [⟨"ytd-reel-video-renderer", []⟩]

/-- `VIDEO_SELECTORS.channel`. -/
def channel : Selector := [⟨"ytd-grid-video-renderer", []⟩]

/-- `getVideoRendererSelector`. -/
def getVideoRendererSelector : PageType → Selector
  | .home => feed ++ sidebar
  | .search => search
  | .watch => sidebar
  | .shorts => shorts
  | .channel => channel ++ feed
  | .unknown => feed ++ search ++ sidebar ++ shorts ++ channel

/-- A node: an `HTMLElement` or something else. -/
inductive Node where
  | element (e : Element)
  | other

/-- `MutationRecord`, with the nodes that are added. -/
structure MutationRecord where
  addedNodes : List Node

section Maps

variable (parse : String → Option URL)

/-- Set each element under the id of its video. -/
def setVideos (elements : List Element) (videoMap : OrderedMap VideoID Element) :
    OrderedMap VideoID Element :=
  elements.foldl (fun m el ↦ match extractVideoIDFromRenderer parse el with
    | some v => m.set v el
    | none => m) videoMap

/-- `extractAllVideoIds`. -/
def extractAllVideoIDs (document : Element) (pageType : PageType) : OrderedMap VideoID Element :=
  setVideos parse (document.querySelectorAll (getVideoRendererSelector pageType)) .empty

/-- What a node adds to the map: first itself, then what is below it. -/
def setVideosOfNode (selector : Selector) (videoMap : OrderedMap VideoID Element) :
    Node → OrderedMap VideoID Element
  | .other => videoMap
  | .element e =>
    setVideos parse (e.querySelectorAll selector)
      (if e.matchesSelector selector then setVideos parse [e] videoMap else videoMap)

/-- `extractVideoIdsFromMutations`. -/
def extractVideoIDsFromMutations (mutations : List MutationRecord) (pageType : PageType) :
    OrderedMap VideoID Element :=
  mutations.foldl (fun m mutation ↦
    mutation.addedNodes.foldl (setVideosOfNode parse (getVideoRendererSelector pageType)) m) .empty

/-! ### The elements behind the maps -/

/-- The elements that show a video, with the ids. -/
def withVideoIDs (elements : List Element) : List (VideoID × Element) :=
  elements.filterMap fun el ↦ (extractVideoIDFromRenderer parse el).map (·, el)

/-- The renderers among a node and what is below it. -/
def Node.renderers (selector : Selector) : Node → List Element
  | other => []
  | element e => e.subtree.filter (·.matchesSelector selector)

/-- The renderers that mutations add. -/
def addedRenderers (mutations : List MutationRecord) (pageType : PageType) : List Element :=
  mutations.flatMap fun mutation ↦
    mutation.addedNodes.flatMap (Node.renderers (getVideoRendererSelector pageType))

variable {parse} {v : VideoID} {e : Element} {document : Element} {pageType : PageType}
  {mutations : List MutationRecord}

theorem mem_withVideoIDs {elements : List Element} :
    (v, e) ∈ withVideoIDs parse elements ↔
      e ∈ elements ∧ extractVideoIDFromRenderer parse e = some v := by
  rw [withVideoIDs, List.mem_filterMap]
  constructor
  · rintro ⟨el, hel, hv⟩
    obtain ⟨v', hv', heq⟩ := Option.map_eq_some_iff.1 hv
    obtain ⟨rfl, rfl⟩ := Prod.mk.inj heq
    exact ⟨hel, hv'⟩
  · rintro ⟨he, hv⟩
    exact ⟨e, he, by rw [hv, Option.map_some]⟩

theorem withVideoIDs_append (elements elements' : List Element) :
    withVideoIDs parse (elements ++ elements') =
      withVideoIDs parse elements ++ withVideoIDs parse elements' :=
  List.filterMap_append

/-- Setting the elements one after the other sets them all. -/
theorem setVideos_setAll (elements : List Element) (l : List (VideoID × Element)) :
    setVideos parse elements (.setAll l) = .setAll (l ++ withVideoIDs parse elements) := by
  induction elements generalizing l with
  | nil => rw [withVideoIDs, List.filterMap_nil, List.append_nil, setVideos, List.foldl_nil]
  | cons el elements ih =>
    rw [setVideos, List.foldl_cons, withVideoIDs]
    cases hel : extractVideoIDFromRenderer parse el with
    | none =>
      rw [List.filterMap_cons_none (by rw [hel, Option.map_none])]
      exact ih l
    | some v =>
      rw [List.filterMap_cons_some (by rw [hel, Option.map_some])]
      exact (congrArg (setVideos parse elements)
        (OrderedMap.setAll_append_singleton l (v, el)).symm).trans
          ((ih _).trans (by rw [List.append_assoc, List.singleton_append, withVideoIDs]))

/-- **The scan of a page** sets its renderers. -/
theorem extractAllVideoIDs_eq : extractAllVideoIDs parse document pageType =
    .setAll (withVideoIDs parse
      (document.querySelectorAll (getVideoRendererSelector pageType))) :=
  (setVideos_setAll _ []).trans (by rw [List.nil_append])

theorem renderers_element (selector : Selector) (e : Element) :
    (Node.element e).renderers selector =
      (if e.matchesSelector selector then [e] else []) ++ e.querySelectorAll selector := by
  rw [Node.renderers, Element.subtree_eq, List.filter_cons]
  split_ifs <;> rfl

theorem setVideosOfNode_setAll (selector : Selector) (node : Node) (l : List (VideoID × Element)) :
    setVideosOfNode parse selector (.setAll l) node =
      .setAll (l ++ withVideoIDs parse (node.renderers selector)) := by
  cases node with
  | other => exact congrArg OrderedMap.setAll (List.append_nil l).symm
  | element e =>
    rw [setVideosOfNode, renderers_element, withVideoIDs_append, ← List.append_assoc]
    split_ifs
    · rw [setVideos_setAll, setVideos_setAll]
    · rw [setVideos_setAll, withVideoIDs, withVideoIDs, List.filterMap_nil, List.append_nil]

theorem foldl_setVideosOfNode (selector : Selector) (nodes : List Node)
    (l : List (VideoID × Element)) :
    nodes.foldl (setVideosOfNode parse selector) (.setAll l) =
      .setAll (l ++ withVideoIDs parse (nodes.flatMap (Node.renderers selector))) := by
  induction nodes generalizing l with
  | nil => exact congrArg OrderedMap.setAll (List.append_nil l).symm
  | cons node nodes ih =>
    rw [List.foldl_cons, setVideosOfNode_setAll, ih, List.append_assoc, List.flatMap_cons,
      withVideoIDs_append]

/-- **The scan of mutations** sets the renderers they add. -/
theorem extractVideoIDsFromMutations_eq :
    extractVideoIDsFromMutations parse mutations pageType =
      .setAll (withVideoIDs parse (addedRenderers mutations pageType)) := by
  have hfold : ∀ l : List (VideoID × Element), mutations.foldl (fun m mutation ↦
      mutation.addedNodes.foldl (setVideosOfNode parse (getVideoRendererSelector pageType)) m)
        (.setAll l) = .setAll (l ++ withVideoIDs parse (addedRenderers mutations pageType)) := by
    induction mutations with
    | nil => exact fun l ↦ congrArg OrderedMap.setAll (List.append_nil l).symm
    | cons mutation mutations ih =>
      intro l
      rw [List.foldl_cons, foldl_setVideosOfNode, ih, List.append_assoc, ← withVideoIDs_append]
      rfl
  exact (hfold []).trans (by rw [List.nil_append])

/-- The renderers that are added are those inside the added nodes. -/
theorem mem_addedRenderers : e ∈ addedRenderers mutations pageType ↔
    ∃ mutation ∈ mutations, ∃ root, .element root ∈ mutation.addedNodes ∧
      e.Within root ∧ e.matchesSelector (getVideoRendererSelector pageType) := by
  rw [addedRenderers, List.mem_flatMap]
  refine exists_congr fun mutation ↦ and_congr_right fun _ ↦ ?_
  rw [List.mem_flatMap]
  constructor
  · rintro ⟨node, hnode, he⟩
    cases node with
    | other => exact absurd he List.not_mem_nil
    | element root =>
      obtain ⟨he, hmatches⟩ := List.mem_filter.1 he
      exact ⟨root, hnode, Element.mem_subtree.1 he, hmatches⟩
  · rintro ⟨root, hroot, he, hmatches⟩
    exact ⟨.element root, hroot, List.mem_filter.2 ⟨Element.mem_subtree.2 he, hmatches⟩⟩

end Maps

/-! ### Small pages -/

/-- What `URL` makes of `/watch?v=…`. -/
def parseWatch (url : String) : Option URL :=
  if startsWith url "/watch?v=" then
    some ⟨"/watch", [("v", String.ofList (url.toList.drop 9))]⟩
  else none

/-- A renderer with the link of a video. -/
def card (tag : String) (ref : ℕ) (v : VideoID) : Element :=
  .mk ref tag [] [.mk (ref + 1) "a" [("id", "thumbnail"), ("href", "/watch?v=" ++ v)] []]

end RealTube.Page
