import Mathlib.Data.List.DropRight
import Mathlib.Data.List.Infix

/-!
# Addresses of the web

The parser of URLs, for the schemes `http` and `https` and without a base, as far as it decides
where a request is sent: scheme, host and port. It cleans its input of white space, splits off the
scheme, passes over slashes and backslashes, and takes what follows up to the next of them, a `?` or
a `#` for the authority. The authority may begin with credentials up to the last `@`, and end with a
port.

The host parser, which decodes the host and maps it to ASCII, is a parameter.

A text that starts with scheme and host, and is followed by a path, has the authority that it has
alone (`parse_append`).
-/

namespace Url

/-! ### Characters -/

/-- C0 controls and the space. -/
def isC0ControlOrSpace (c : Char) : Bool := c.toNat ≤ 0x20

/-- Tab and newline, of ASCII. -/
def isTabOrNewline (c : Char) : Bool := c = '\t' || c = '\n' || c = '\r'

/-- A slash, in either direction. -/
def isSlash (c : Char) : Bool := c = '/' || c = '\\'

/-- The end of an authority. -/
def endsAuthority (c : Char) : Bool := isSlash c || c = '?' || c = '#'

/-- A small letter of ASCII, or a dot. -/
def isLowerOrDot (c : Char) : Bool := c.isLower || c = '.'

/-! ### The parser -/

/-- The input without controls and spaces at both ends, and without tabs and newlines anywhere. -/
def clean (input : List Char) : List Char :=
  ((input.dropWhile isC0ControlOrSpace).rdropWhile isC0ControlOrSpace).filter (!isTabOrNewline ·)

/-- The host up to a `:` outside of brackets, and what follows from there. -/
def splitHost (insideBrackets : Bool) : List Char → List Char × List Char
  | [] => ([], [])
  | c :: cs =>
    if c = ':' ∧ ¬insideBrackets then ([], c :: cs)
    else
      let (host, rest) := splitHost (c = '[' || insideBrackets && c ≠ ']') cs
      (c :: host, rest)

/-- The port; the outer `none` is a failure. The default of the scheme is left out, and so is a port
without digits. -/
def parsePort (default : ℕ) (digits : List Char) : Option (Option ℕ) :=
  let port := digits.foldl (fun n c ↦ 10 * n + (c.toNat - 48)) 0
  if digits.all Char.isDigit ∧ port ≤ 65535 then
    some (if digits = [] ∨ port = default then none else some port)
  else none

/-- The default ports. -/
def defaultPort (scheme : String) : Option ℕ :=
  if scheme = "http" then some 80 else if scheme = "https" then some 443 else none

end Url

/-- A URL, as far as it says where a request is sent. -/
structure Url where
  scheme : String
  host : String
  port : Option ℕ
  deriving DecidableEq

/-- A host parser. Small letters and dots are left as they are. -/
structure HostParser where
  /-- The host, if the text has one. -/
  parse : List Char → Option String
  parse_lower : ∀ text : List Char, text ≠ [] → text.all Url.isLowerOrDot →
    parse text = some (String.ofList text)

namespace Url

variable (H : HostParser)

/-- The host parser that knows nothing but small letters and dots. -/
def lowerHosts : HostParser where
  parse text :=
    if text ≠ [] ∧ text.all isLowerOrDot then some (String.ofList text) else none
  parse_lower _ hne hall := if_pos ⟨hne, hall⟩

/-- Host and port of an authority. -/
def parseAuthority (default : ℕ) (authority : List Char) : Option (String × Option ℕ) :=
  -- the credentials end at the last `@`
  let (host, port) := splitHost false (authority.rtakeWhile (· ≠ '@'))
  if host = [] then none
  else (H.parse host).bind fun name ↦ (parsePort default (port.drop 1)).map fun port ↦ (name, port)

/-- The URL of an input, if it has one of the two schemes. -/
def parse (input : String) : Option Url :=
  let cleaned := clean input.toList
  let scheme := String.ofList ((cleaned.takeWhile (· ≠ ':')).map Char.toLower)
  let rest := ((cleaned.dropWhile (· ≠ ':')).drop 1).dropWhile isSlash
  (defaultPort scheme).bind fun default ↦
    (parseAuthority H default (rest.takeWhile (!endsAuthority ·))).map fun (host, port) ↦
      ⟨scheme, host, port⟩

/-! ### A text with a path behind it -/

theorem isC0ControlOrSpace_of_isTabOrNewline {c : Char} (h : isTabOrNewline c) :
    isC0ControlOrSpace c := by
  rw [isTabOrNewline, Bool.or_eq_true, Bool.or_eq_true, decide_eq_true_eq, decide_eq_true_eq,
    decide_eq_true_eq] at h
  obtain (rfl | rfl) | rfl := h <;> decide

theorem not_isTabOrNewline_of_endsAuthority {c : Char} (h : endsAuthority c) :
    ¬isTabOrNewline c := by
  rw [endsAuthority, isSlash, Bool.or_eq_true, Bool.or_eq_true, Bool.or_eq_true, decide_eq_true_eq,
    decide_eq_true_eq, decide_eq_true_eq, decide_eq_true_eq] at h
  obtain ((rfl | rfl) | rfl) | rfl := h <;> decide

theorem takeWhile_append_of_neg {p : Char → Bool} {d : Char} (hd : ¬p d) (s t : List Char) :
    (s ++ d :: t).takeWhile p = s.takeWhile p := by
  induction s with
  | nil => exact List.takeWhile_cons_of_neg hd
  | cons c s ih =>
    rw [List.cons_append, List.takeWhile_cons, List.takeWhile_cons, ih]

theorem rdropWhile_append_of_neg {p : Char → Bool} {d : Char} (hd : ¬p d) (s t : List Char) :
    (s ++ d :: t).rdropWhile p = s ++ d :: t.rdropWhile p := by
  induction t using List.reverseRecOn with
  | nil => rw [List.rdropWhile_nil, List.rdropWhile_concat_neg p s d hd]
  | append_singleton t e ih =>
    rw [← List.cons_append, ← List.append_assoc]
    by_cases he : p e
    · rw [List.rdropWhile_concat_pos p _ e he, List.rdropWhile_concat_pos p _ e he]
      exact ih
    · rw [List.rdropWhile_concat_neg p _ e he, List.rdropWhile_concat_neg p _ e he,
        List.append_assoc]
      rfl

/-- **Cleaning between two characters** that are not white space takes tabs and newlines only. -/
theorem exists_clean_append {c d : Char} (hc : ¬isC0ControlOrSpace c) (hd : ¬isC0ControlOrSpace d)
    (s t : List Char) : ∃ u, clean (c :: s ++ d :: t) =
      (c :: s).filter (!isTabOrNewline ·) ++ d :: u := by
  have hkeep : (!isTabOrNewline d) = true := by
    rw [Bool.not_eq_true']
    exact Bool.eq_false_iff.2 fun htab ↦ hd (isC0ControlOrSpace_of_isTabOrNewline htab)
  refine ⟨(t.rdropWhile isC0ControlOrSpace).filter (!isTabOrNewline ·), ?_⟩
  rw [clean, List.cons_append, List.dropWhile_cons_of_neg hc, ← List.cons_append,
    rdropWhile_append_of_neg hd, List.filter_append]
  exact congrArg _ (List.filter_cons_of_pos hkeep)

/-! ### Scheme and authority -/

variable {H} {scheme : String} {default : ℕ}

theorem eq_of_defaultPort (h : defaultPort scheme = some default) :
    scheme = "http" ∨ scheme = "https" := by
  rw [defaultPort] at h
  split_ifs at h with hhttp hhttps
  · exact Or.inl hhttp
  · exact Or.inr hhttps

/-- **The URL of a text that is cleaned to a scheme and a rest.** -/
theorem parse_eq (hscheme : defaultPort scheme = some default) {input : String} {rest : List Char}
    (hclean : clean input.toList = scheme.toList ++ ':' :: rest) :
    parse H input = (parseAuthority H default
      ((rest.dropWhile isSlash).takeWhile (!endsAuthority ·))).map fun (host, port) ↦
        ⟨scheme, host, port⟩ := by
  have hname : String.ofList ((clean input.toList).takeWhile (· ≠ ':') |>.map Char.toLower) =
      scheme := by
    rw [hclean, takeWhile_append_of_neg (by decide)]
    obtain rfl | rfl := eq_of_defaultPort hscheme <;> decide
  have hrest : ((clean input.toList).dropWhile (· ≠ ':')).drop 1 = rest := by
    rw [hclean]
    obtain rfl | rfl := eq_of_defaultPort hscheme <;> rfl
  rw [parse, hname, hrest, hscheme]
  rfl

theorem exists_clean_scheme_append (hscheme : defaultPort scheme = some default) {d : Char}
    (hd : ¬isC0ControlOrSpace d) (s t : List Char) :
    ∃ u, clean (scheme.toList ++ s ++ d :: t) =
      scheme.toList ++ s.filter (!isTabOrNewline ·) ++ d :: u := by
  obtain rfl | rfl := eq_of_defaultPort hscheme
  · exact exists_clean_append (c := 'h') (by decide) hd ("ttp".toList ++ s) t
  · exact exists_clean_append (c := 'h') (by decide) hd ("ttps".toList ++ s) t

/-- **Whatever follows a scheme and `://`**, the URL has that scheme. -/
theorem scheme_eq_of_parse (hscheme : defaultPort scheme = some default) {s : List Char} {u : Url}
    (h : parse H (String.ofList (scheme.toList ++ "://".toList ++ s)) = some u) :
    u.scheme = scheme := by
  obtain ⟨rest, hrest⟩ :=
    exists_clean_scheme_append hscheme (d := '/') (by decide) ":/".toList s
  have hclean : clean (String.ofList (scheme.toList ++ "://".toList ++ s)).toList =
      scheme.toList ++ ':' :: '/' :: '/' :: rest := by
    rw [List.append_assoc] at hrest ⊢
    rw [String.toList_ofList]
    exact hrest.trans (List.append_assoc _ _ _)
  rw [parse_eq hscheme hclean, Option.map_eq_some_iff] at h
  obtain ⟨x, -, rfl⟩ := h
  rfl

/-- **An authority with a path behind it** is read up to its end, without tabs and newlines. -/
theorem parse_append (hscheme : defaultPort scheme = some default) {c : Char}
    (hc : ¬isTabOrNewline c) (hslash : ¬isSlash c) (s t : List Char) :
    parse H (String.ofList (scheme.toList ++ "://".toList ++ (c :: s) ++ '/' :: t)) =
      (parseAuthority H default
        (((c :: s).filter (!isTabOrNewline ·)).takeWhile (!endsAuthority ·))).map
          fun (host, port) ↦ ⟨scheme, host, port⟩ := by
  obtain ⟨u, hu⟩ := exists_clean_scheme_append hscheme (d := '/') (by decide)
    ("://".toList ++ (c :: s)) t
  have hclean : clean (String.ofList
      (scheme.toList ++ "://".toList ++ (c :: s) ++ '/' :: t)).toList =
        scheme.toList ++ ':' :: '/' :: '/' ::
          ((c :: s).filter (!isTabOrNewline ·) ++ '/' :: u) := by
    rw [String.toList_ofList, List.append_assoc scheme.toList, hu, List.append_assoc]
    rfl
  have hdrop : ('/' :: '/' :: ((c :: s).filter (!isTabOrNewline ·) ++ '/' :: u)).dropWhile isSlash =
      (c :: s).filter (!isTabOrNewline ·) ++ '/' :: u := by
    rw [List.filter_cons_of_pos (by simpa using hc), List.dropWhile_cons_of_pos (by decide),
      List.dropWhile_cons_of_pos (by decide), List.cons_append, List.dropWhile_cons_of_neg hslash]
  rw [parse_eq hscheme hclean, hdrop, takeWhile_append_of_neg (by decide)]

/-! ### Hosts -/

/-- A host without colons and brackets ends at the first colon. -/
theorem splitHost_append {host port : List Char} (hhost : ∀ c ∈ host, c ≠ ':' ∧ c ≠ '[')
    (hport : ∀ c ∈ port.head?, c = ':') : splitHost false (host ++ port) = (host, port) := by
  induction host with
  | nil =>
    cases port with
    | nil => rfl
    | cons c port =>
      obtain rfl : c = ':' := hport c rfl
      rfl
  | cons c host ih =>
    obtain ⟨⟨hcolon, hbracket⟩, hrest⟩ := List.forall_mem_cons.1 hhost
    have hinside : (decide (c = '[') || false && decide (c ≠ ']')) = false := by
      simpa using hbracket
    rw [List.cons_append, splitHost, if_neg fun h ↦ hcolon h.1, hinside, ih hrest]

/-- **A host of small letters and dots** is its own name, whatever the port. -/
theorem fst_eq_of_parseAuthority {host port : List Char} (hne : host ≠ [])
    (hhost : host.all isLowerOrDot) (hport : ∀ c ∈ port.head?, c = ':')
    (hat : '@' ∉ port) {x : String × Option ℕ}
    (h : parseAuthority H default (host ++ port) = some x) : x.1 = String.ofList host := by
  have hnot : ∀ c ∈ host, c ≠ '@' ∧ c ≠ ':' ∧ c ≠ '[' := by
    rintro c hc
    refine ⟨?_, ?_, ?_⟩ <;> rintro rfl <;> exact absurd (List.all_eq_true.1 hhost _ hc) (by decide)
  have hcredentials : (host ++ port).rtakeWhile (· ≠ '@') = host ++ port := by
    refine List.rtakeWhile_eq_self_iff.2 fun c hc ↦ decide_eq_true ?_
    rcases List.mem_append.1 hc with hc | hc
    · exact (hnot c hc).1
    · exact fun heq ↦ hat (heq ▸ hc)
  rw [parseAuthority, hcredentials, splitHost_append (fun c hc ↦ (hnot c hc).2) hport] at h
  dsimp only at h
  rw [if_neg hne, H.parse_lower host hne hhost, Option.bind_some, Option.map_eq_some_iff] at h
  obtain ⟨p, -, rfl⟩ := h
  rfl

end Url
