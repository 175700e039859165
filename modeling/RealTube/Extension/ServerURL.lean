import RealTube.Text.Url
import Mathlib.Data.Bool.AllAny

/-!
# The server of the extension

`getConfig` of `background/api-client.ts`: the base URL of all requests, from the stored
`serverUrl`. It is to be `https`, or plain `http` on `localhost` for development.

What is tested is the text of the stored string: it starts with `https://`, or matches a pattern
that starts with `http://localhost` and has no end. Where requests are sent is found by the URL
parser, in whose eyes the host goes on after `localhost`, or is what follows an `@`. So exactly the
strings that start with `http://localhost`, and name another host, send requests somewhere else
(`confined_iff`). With an end to the pattern there would be none
(`not_leavesLocalhost_of_anchored`).
-/

namespace RealTube.Extension

/-- `DEFAULT_BASE_URL`. -/
def defaultBaseURL : String := "http://localhost:8080"

/-- `match(/^http:\/\/localhost(:\d+)?/)`: what is matched, if anything. -/
def matchLocalhost (url : String) : Option String :=
  let digits := (url.toList.drop 17).takeWhile Char.isDigit
  if "http://localhost".toList <+: url.toList then
    some (if (url.toList.drop 16).head? = some ':' ∧ digits ≠ [] then
      String.ofList ("http://localhost:".toList ++ digits) else "http://localhost")
  else none

/-- The stored value, if it is accepted, and the default otherwise. -/
def resolveBaseURL (serverURL : Option String) : String :=
  let url := (serverURL.filter (· ≠ "")).getD defaultBaseURL
  if ¬"https://".toList <+: url.toList ∧ matchLocalhost url = none then defaultBaseURL else url

/-- `getConfig`: the base URL, and what is cached then. The cache is emptied when `serverUrl`
changes. -/
def getConfig (cachedBaseURL serverURL : Option String) : String × Option String :=
  match cachedBaseURL.filter (· ≠ "") with
  | some baseURL => (baseURL, cachedBaseURL)
  | none => (resolveBaseURL serverURL, some (resolveBaseURL serverURL))

/-- A request goes to `https`, or to plain `http` on `localhost`. -/
def IsSafe (u : Url) : Prop := u.scheme = "https" ∨ u.scheme = "http" ∧ u.host = "localhost"

/-- **All requests are safe.** They have a path behind the base URL, and without a URL there is no
request. -/
def SafeBase (H : HostParser) (baseURL : String) : Prop :=
  ∀ (path : String) (u : Url), "/api/".toList <+: path.toList →
    Url.parse H (baseURL ++ path) = some u → IsSafe u

/-- **The base URL for a stored string** is the string or the default, and all requests are safe. -/
def Confined (H : HostParser) (serverURL : String) : Prop :=
  let baseURL := (getConfig none (some serverURL)).1
  (baseURL = serverURL ∨ baseURL = defaultBaseURL) ∧ SafeBase H baseURL

/-- The authority of a string that starts with `http://`: what follows, up to its end, without tabs
and newlines. -/
def authorityText (url : String) : List Char :=
  ((url.toList.drop 7).filter (!Url.isTabOrNewline ·)).takeWhile (!Url.endsAuthority ·)

/-- **A string that starts with `http://localhost`, and names another host.** -/
def LeavesLocalhost (H : HostParser) (url : String) : Prop :=
  "http://localhost".toList <+: url.toList ∧
    ∃ x, Url.parseAuthority H 80 (authorityText url) = some x ∧ x.1 ≠ "localhost"

/-! ### What is accepted -/

variable {H : HostParser} {url serverURL : String}

/-- The pattern matches whatever starts with `http://localhost`. -/
theorem matchLocalhost_eq_none_iff :
    matchLocalhost url = none ↔ ¬"http://localhost".toList <+: url.toList := by
  rw [matchLocalhost]
  split_ifs with h
  · exact iff_of_false id (not_not.2 h)
  · exact iff_of_true rfl h

theorem filter_of_ne_empty (h : url ≠ "") : (some url).filter (· ≠ "") = some url :=
  Option.filter_some_pos (decide_eq_true h)

theorem resolveBaseURL_of_accepted
    (h : "https://".toList <+: serverURL.toList ∨ "http://localhost".toList <+: serverURL.toList) :
    resolveBaseURL (some serverURL) = serverURL := by
  have hne : serverURL ≠ "" := by
    rintro rfl
    exact absurd h (by decide)
  rw [resolveBaseURL, filter_of_ne_empty hne, Option.getD_some]
  exact if_neg fun hnot ↦ h.elim hnot.1 (matchLocalhost_eq_none_iff.1 hnot.2)

theorem resolveBaseURL_of_not_accepted (hhttps : ¬"https://".toList <+: serverURL.toList)
    (hlocal : ¬"http://localhost".toList <+: serverURL.toList) :
    resolveBaseURL (some serverURL) = defaultBaseURL := by
  by_cases hne : serverURL = ""
  · subst hne
    decide
  · rw [resolveBaseURL, filter_of_ne_empty hne, Option.getD_some]
    exact if_pos ⟨hhttps, matchLocalhost_eq_none_iff.2 hlocal⟩

/-- **The cache** gives what was settled on before, whatever is stored. -/
theorem getConfig_cached (stored stored' : Option String) :
    getConfig (getConfig none stored).2 stored' = getConfig none stored := by
  have hne : resolveBaseURL stored ≠ "" := by
    rw [resolveBaseURL]
    split_ifs
    · decide
    · cases hstored : stored.filter (· ≠ "") with
      | none => decide
      | some url => exact of_decide_eq_true (Option.filter_eq_some_iff.1 hstored).2
  rw [getConfig, show (getConfig none stored).2 = some (resolveBaseURL stored) from rfl,
    filter_of_ne_empty hne]
  rfl

/-! ### Where requests are sent -/

/-- **The URL of a request** with a base URL of plain `http` on something that starts with
`localhost`. -/
theorem parse_append_of_localhost {path : String} (hurl : "http://localhost".toList <+: url.toList)
    (hpath : "/api/".toList <+: path.toList) : Url.parse H (url ++ path) =
      (Url.parseAuthority H 80 (authorityText url)).map
        fun (host, port) ↦ ⟨"http", host, port⟩ := by
  obtain ⟨s, hs⟩ := hurl
  obtain ⟨t, ht⟩ := hpath
  have htext : url ++ path = String.ofList ("http".toList ++ "://".toList ++
      ('l' :: "ocalhost".toList ++ s) ++ '/' :: ("api/".toList ++ t)) := by
    rw [← String.ofList_toList (s := url ++ path), String.toList_append, ← hs, ← ht]
    rfl
  have hauthority : authorityText url = (('l' :: "ocalhost".toList ++ s).filter
      (!Url.isTabOrNewline ·)).takeWhile (!Url.endsAuthority ·) := by
    rw [authorityText, ← hs]
    rfl
  rw [htext, hauthority]
  exact Url.parse_append rfl (by decide) (by decide) _ _

/-- So the requests are safe if the host, where there is one, is `localhost`. -/
theorem safeBase_iff_of_localhost (hurl : "http://localhost".toList <+: url.toList) :
    SafeBase H url ↔ ¬LeavesLocalhost H url := by
  constructor
  · rintro h ⟨-, x, hx, hne⟩
    have hparse : Url.parse H (url ++ "/api/votes") = some ⟨"http", x.1, x.2⟩ := by
      rw [parse_append_of_localhost hurl (by decide), hx]
      rfl
    rcases h "/api/votes" _ (by decide) hparse with hscheme | ⟨-, hhost⟩
    · exact absurd (show "http" = "https" from hscheme) (by decide)
    · exact hne hhost
  · intro h path u hpath hu
    rw [parse_append_of_localhost hurl hpath, Option.map_eq_some_iff] at hu
    obtain ⟨x, hx, rfl⟩ := hu
    exact Or.inr ⟨rfl, not_not.1 fun hne ↦ h ⟨hurl, x, hx, hne⟩⟩

/-- Requests with a base URL of `https` are safe. -/
theorem safeBase_of_https (hurl : "https://".toList <+: url.toList) : SafeBase H url := by
  obtain ⟨s, hs⟩ := hurl
  intro path u hpath hu
  have htext : url ++ path =
      String.ofList ("https".toList ++ "://".toList ++ (s ++ path.toList)) := by
    rw [← String.ofList_toList (s := url ++ path), String.toList_append, ← hs]
    rfl
  rw [htext] at hu
  exact Or.inl (Url.scheme_eq_of_parse (show Url.defaultPort "https" = some 443 from rfl) hu)

/-- **A pattern with an end would do**: `localhost` and at most a port, up to the end of the
authority. -/
theorem not_leavesLocalhost_of_anchored (port rest : List Char) (hport : ∀ c ∈ port.head?, c = ':')
    (hkeep : ∀ c ∈ port, c ≠ '@' ∧ ¬Url.isTabOrNewline c ∧ ¬Url.endsAuthority c)
    (hrest : ∀ c ∈ rest.head?, Url.endsAuthority c)
    (hurl : url.toList = "http://localhost".toList ++ port ++ rest) : ¬LeavesLocalhost H url := by
  have hauthority : authorityText url = "localhost".toList ++ port := by
    have hfilter : port.filter (!Url.isTabOrNewline ·) = port :=
      List.filter_eq_self.2 fun c hc ↦ by simpa using (hkeep c hc).2.1
    have hstop : (rest.filter (!Url.isTabOrNewline ·)).takeWhile (!Url.endsAuthority ·) = [] := by
      cases rest with
      | nil => rfl
      | cons c rest =>
        have hends := hrest c rfl
        have hc : ¬Url.isTabOrNewline c := Url.not_isTabOrNewline_of_endsAuthority hends
        rw [List.filter_cons_of_pos (by simpa using hc),
          List.takeWhile_cons_of_neg (by simpa using hends)]
    have hall : ∀ c ∈ "localhost".toList ++ port, (!Url.endsAuthority c) = true := by
      refine List.forall_mem_append.2 ⟨List.all_eq_true.1 (by decide), fun c hc ↦ ?_⟩
      simpa using (hkeep c hc).2.2
    have hdrop : url.toList.drop 7 = "localhost".toList ++ port ++ rest := by
      rw [hurl]
      rfl
    rw [authorityText, hdrop, List.filter_append, List.filter_append, hfilter,
      List.filter_eq_self.2 (List.all_eq_true.1 (by decide)), List.takeWhile_append_of_pos hall,
      hstop,
      List.append_nil]
  rintro ⟨-, x, hx, hne⟩
  rw [hauthority] at hx
  exact hne (Url.fst_eq_of_parseAuthority (by decide) (by decide) hport
    (fun hat ↦ (hkeep _ hat).1 rfl) hx)

/-! ### The base URL -/

theorem safeBase_default : SafeBase H defaultBaseURL := by
  have hkeep : ∀ c ∈ ":8080".toList, c ≠ '@' ∧ ¬Url.isTabOrNewline c ∧ ¬Url.endsAuthority c :=
    List.all_iff_forall_prop.1 (by decide)
  refine (safeBase_iff_of_localhost (by decide)).2
    (not_leavesLocalhost_of_anchored ":8080".toList [] (fun c hc ↦ ?_) hkeep (fun c hc ↦ ?_) rfl)
  · exact (Option.some.inj hc).symm
  · cases hc

/-- **Exactly which stored strings keep the requests on safe URLs**, for every host parser: all but
those that start with `http://localhost` and name another host. -/
theorem confined_iff (H : HostParser) (serverURL : String) :
    Confined H serverURL ↔ ¬LeavesLocalhost H serverURL := by
  by_cases hhttps : "https://".toList <+: serverURL.toList
  · have hbase : (getConfig none (some serverURL)).1 = serverURL :=
      resolveBaseURL_of_accepted (Or.inl hhttps)
    refine iff_of_true ⟨Or.inl hbase, ?_⟩ fun h ↦ ?_
    · rw [hbase]
      exact safeBase_of_https hhttps
    · exact absurd (List.prefix_of_prefix_length_le hhttps h.1 (by decide)) (by decide)
  · by_cases hlocal : "http://localhost".toList <+: serverURL.toList
    · have hbase : (getConfig none (some serverURL)).1 = serverURL :=
        resolveBaseURL_of_accepted (Or.inr hlocal)
      rw [← safeBase_iff_of_localhost hlocal, Confined, hbase]
      exact and_iff_right (Or.inl rfl)
    · have hbase : (getConfig none (some serverURL)).1 = defaultBaseURL :=
        resolveBaseURL_of_not_accepted hhttps hlocal
      refine iff_of_true ⟨Or.inr hbase, ?_⟩ fun h ↦ hlocal h.1
      rw [hbase]
      exact safeBase_default

/-- **The host goes on** after `localhost`. -/
theorem not_confined : ¬Confined Url.lowerHosts "http://localhost.evil.com" := by
  rintro ⟨-, h⟩
  have hurl : Url.parse Url.lowerHosts ("http://localhost.evil.com" ++ "/api/votes") =
      some ⟨"http", "localhost.evil.com", none⟩ := by
    decide +kernel
  rcases h "/api/votes" _ (by decide) hurl with hscheme | ⟨-, hhost⟩
  · exact absurd (show "http" = "https" from hscheme) (by decide)
  · exact absurd (show "localhost.evil.com" = "localhost" from hhost) (by decide)

end RealTube.Extension
