import RealTube.Page.VoteDropdown

/-!
# The video of a page

Three functions find the video of a page in its address: `extractVideoIdFromUrl` of
`content/dom-utils.ts`, `getVideoId` of `content/vote-ui.ts` and `getVideoIdFromUrl` of
`popup/popup.tsx`. The first and the last read the parameter `v` on `/watch` only, and otherwise the
path of a short. The dropdown takes `v` wherever there is one, and looks at the path only if there
is none.

So on a page other than `/watch` with a parameter `v` the dropdown votes on that video, whatever the
page shows. They agree exactly on all other pages, and on shorts whose `v` is their own id
(`sameVideoID_iff`).
-/

namespace RealTube.Page

open Extension

/-- `hostname.includes(part)`. -/
def includes (hostname part : String) : Bool := part.toList <:+: hostname.toList

/-- `getVideoIdFromUrl`. An address comes apart into its host name and the rest. -/
def getVideoIDFromURL (parse : String → Option (String × URL)) (url : String) : Option VideoID :=
  (parse url).bind fun (hostname, u) ↦
    if includes hostname "youtube.com" then
      if u.pathname = "/watch" then u.getParam "v" else shortsVideoID u.pathname
    else none

/-- The path is one of the short. -/
def IsShortsOf (v : VideoID) (pathname : String) : Prop :=
  "/shorts/".toList ++ v.toList <+: pathname.toList ∧ v.length = 11 ∧ v.toList.all isVideoIDChar

/-- **All three find the same video**, or none of them finds any. An empty id counts as none. -/
def SameVideoID (parse : String → Option (String × URL)) (href : String) (location : URL) : Prop :=
  (extractVideoIDFromURL (fun url ↦ (parse url).map Prod.snd) href).filter (· ≠ "") =
      (getVideoID location).filter (· ≠ "") ∧
    (getVideoIDFromURL parse href).filter (· ≠ "") = (getVideoID location).filter (· ≠ "")

/-! ### The path of a short -/

variable {pathname : String} {v : VideoID}

theorem shortsVideoID_eq_some_iff : shortsVideoID pathname = some v ↔ IsShortsOf v pathname := by
  rw [shortsVideoID, IsShortsOf]
  constructor
  · intro h
    split_ifs at h with hmatch
    obtain ⟨hstart, hlen, hall⟩ := hmatch
    obtain rfl := Option.some.inj h
    rw [startsWith, List.isPrefixOf_iff_prefix] at hstart
    obtain ⟨rest, hrest⟩ := hstart
    have hdrop : pathname.toList.drop 8 = rest := by rw [← hrest]; rfl
    rw [hdrop] at hlen hall ⊢
    have hlist : (String.ofList (rest.take 11)).toList = rest.take 11 := String.toList_ofList
    rw [hlist, String.length_ofList, ← hrest, List.prefix_append_right_inj]
    exact ⟨List.take_prefix 11 rest, hlen, hall⟩
  · rintro ⟨⟨rest, hrest⟩, hlen, hall⟩
    have hdrop : pathname.toList.drop 8 = v.toList ++ rest := by
      rw [← hrest, List.append_assoc]
      rfl
    have htake : (pathname.toList.drop 8).take 11 = v.toList := by
      rw [hdrop, ← hlen, ← String.length_toList, List.take_left]
    have hstart : startsWith pathname "/shorts/" := by
      rw [startsWith, List.isPrefixOf_iff_prefix, ← hrest, List.append_assoc]
      exact List.prefix_append _ _
    rw [htake, if_pos ⟨hstart, by rw [String.length_toList, hlen], hall⟩, String.ofList_toList]

theorem ne_empty_of_isShortsOf (h : IsShortsOf v pathname) : v ≠ "" := by
  rintro rfl
  exact absurd h.2.1 (by decide)

/-- The id of a short is not empty. -/
theorem filter_shortsVideoID (pathname : String) :
    (shortsVideoID pathname).filter (· ≠ "") = shortsVideoID pathname := by
  cases hv : shortsVideoID pathname with
  | none => rfl
  | some v =>
    have hne : v ≠ "" := ne_empty_of_isShortsOf (shortsVideoID_eq_some_iff.1 hv)
    exact Option.filter_some_pos (decide_eq_true hne)

/-! ### Agreement -/

/-- **Exactly the pages on which they agree**: `/watch`, pages without a parameter `v` or with an
empty one, and shorts whose parameter is the id of the short. -/
theorem sameVideoID_iff (parse : String → Option (String × URL)) (href : String) (location : URL)
    (hparse : parse href = some ("www.youtube.com", location)) :
    SameVideoID parse href location ↔
      location.pathname = "/watch" ∨ location.getParam "v" = none ∨
        location.getParam "v" = some "" ∨
        ∃ v, location.getParam "v" = some v ∧ IsShortsOf v location.pathname := by
  have hextract : extractVideoIDFromURL (fun url ↦ (parse url).map Prod.snd) href =
      if location.pathname = "/watch" then location.getParam "v"
      else shortsVideoID location.pathname := by
    rw [extractVideoIDFromURL, hparse]
    rfl
  have hpopup : getVideoIDFromURL parse href =
      if location.pathname = "/watch" then location.getParam "v"
      else shortsVideoID location.pathname := by
    have hyoutube : includes "www.youtube.com" "youtube.com" := by decide
    rw [getVideoIDFromURL, hparse, Option.bind_some]
    exact if_pos hyoutube
  rw [SameVideoID, hextract, hpopup, and_self_iff, getVideoID]
  by_cases hwatch : location.pathname = "/watch"
  · have hnone : shortsVideoID "/watch" = none := by decide
    rw [if_pos hwatch, hwatch, hnone, Option.or_none, Option.filter_filter]
    simp
  · rw [if_neg hwatch, filter_shortsVideoID]
    cases hparam : location.getParam "v" with
    | none =>
      rw [Option.filter_none, Option.none_or, filter_shortsVideoID]
      exact iff_of_true rfl (Or.inr (Or.inl rfl))
    | some v =>
      by_cases hempty : v = ""
      · have hfilter : (some v).filter (· ≠ "") = none := if_neg (by simp [hempty])
        rw [hfilter, Option.none_or, filter_shortsVideoID, hempty]
        exact iff_of_true rfl (Or.inr (Or.inr (Or.inl rfl)))
      · -- the dropdown takes the parameter
        have hfilter : (some v).filter (· ≠ "") = some v :=
          Option.filter_some_pos (decide_eq_true hempty)
        rw [hfilter, Option.some_or, hfilter, shortsVideoID_eq_some_iff]
        simp [hwatch, hempty]

/-- A page of the site, come apart. -/
def pageAt (pathname : String) (searchParams : List (String × String)) (_ : String) :
    Option (String × URL) :=
  some ("www.youtube.com", ⟨pathname, searchParams⟩)

/-- On a page with a video and a list all three find the video. -/
theorem sameVideoID_watch : SameVideoID (pageAt "/watch" [("list", "PL1"), ("v", "dQw4w9WgXcQ")])
    "https://www.youtube.com/watch?list=PL1&v=dQw4w9WgXcQ"
    ⟨"/watch", [("list", "PL1"), ("v", "dQw4w9WgXcQ")]⟩ :=
  (sameVideoID_iff _ _ _ rfl).2 (Or.inl rfl)

/-- **A short with another video as its parameter**: the page is about the one, and the vote goes to
the other. -/
theorem not_sameVideoID : ¬∀ (parse : String → Option (String × URL)) (href : String)
    (location : URL), parse href = some ("www.youtube.com", location) →
      SameVideoID parse href location := by
  intro h
  have hsame := (h (pageAt "/shorts/dQw4w9WgXcQ" [("v", "jNQXAC9IVRw")])
    "https://www.youtube.com/shorts/dQw4w9WgXcQ?v=jNQXAC9IVRw" _ rfl).2
  exact absurd hsame (by decide +kernel)

end RealTube.Page
