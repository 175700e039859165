import RealTube.Model.Handlers
import RealTube.Model.SyncService
import RealTube.Store.Steps
import RealTube.Text.Timestamp
import RealTube.Text.UriComponent

/-!
# The text of the cursor

The cursor of the delta sync travels as a text. A backend prints it to the second
(`Format(time.RFC3339)` in Go, `strftime` in Python); the extension stores it as it is and sends it
back as a query parameter, to whichever backend answers next; that one parses it, and rejects it if
it is not a timestamp or more than a minute in the future. A rejected cursor would stay: no delta
sync would succeed until the next full sync.

None is rejected (`accepted_of_run`). As long as no clock is more than a minute behind another one,
every delta request passes the checks of the handler, with the time of some earlier response cut to
the second, or with the epoch. In between there are printing, percent-encoding, decoding and parsing
in three languages, and syncs side by side.
-/

open Steps

namespace RealTube

/-! ### The handlers -/

/-- `time.Parse(time.RFC3339, …)`. It takes some more that no backend prints: an hour of one digit,
and offsets of 24 hours or with 60 minutes. -/
def Go.rfc3339 : Timestamp.Reader where
  minYear := 0
  isSeparator := (· = 'T')
  isPoint c := c = '.' || c = ','
  offset := Timestamp.readOffset

/-- `datetime.fromisoformat`, for a date and a time in the extended format; a time without an offset
is then taken as UTC. It takes some more that no backend prints: dates alone, dates by week, and the
basic format. -/
def Python.isoformat : Timestamp.Reader where
  minYear := 1
  isSeparator _ := true
  isPoint c := c = '.' || c = ','
  offset s := if s = [] then some 0 else Timestamp.readOffset s

/-- The ticks of a fraction of a second. -/
def fractionTicks (digits : List Char) : ℤ := digitsValue ((digits ++ List.replicate 6 '0').take 6)

/-- The time that is read. -/
def readTime (r : Timestamp.Reader) (s : List Char) : Option Time :=
  (r.read s).map fun x ↦ x.1 * ticksPerSecond + fractionTicks x.2

/-- A minute. -/
def minute : Time := 60 * ticksPerSecond

/-- The checks of `since`, with the time that a minute is added to. -/
def checkSince (r : Timestamp.Reader) (now : Time) (since : List Char) : Except ApiError Time :=
  if since = [] then
    .error ⟨400, "MISSING_PARAM", "since query parameter is required (RFC3339 timestamp)"⟩
  else
    match readTime r since with
    | none => .error ⟨400, "INVALID_PARAM", "since must be a valid RFC3339 timestamp"⟩
    | some t =>
      if now + minute < t then .error ⟨400, "INVALID_PARAM", "since must not be in the future"⟩
      else .ok t

/-- `SyncHandler.DeltaSync`, up to its call of the service. -/
def Go.checkSince (now : Time) (since : List Char) : Except ApiError Time :=
  RealTube.checkSince Go.rfc3339 now since

/-- `delta_sync`, up to its queries: `now.replace(microsecond=0)`. -/
def Python.checkSince (now : Time) (since : List Char) : Except ApiError Time :=
  RealTube.checkSince Python.isoformat (now / ticksPerSecond * ticksPerSecond) since

/-- The checks of either backend. -/
def Backend.checkSince : Backend → Time → List Char → Except ApiError Time
  | .go => Go.checkSince
  | .python => Python.checkSince

/-- The text of `syncTimestamp` and of `generatedAt`, in both backends. -/
def printTime (now : Time) : List Char := Timestamp.print (now / ticksPerSecond).toNat

/-- `since` as it arrives: the extension encodes it, and the backend decodes it. -/
def sinceParam (since : List Char) : List Char :=
  UriComponent.ofBytes (UriComponent.decode (UriComponent.encode since))

/-! ### The extension -/

/-- `lastSync || new Date(0).toISOString()`. -/
def sinceText (lastSync : Option (List Char)) : List Char :=
  match lastSync with
  | some (c :: s) => c :: s
  | _ => Timestamp.printMillis 0

/-- Where a sync stands. -/
inductive PollPhase where
  | idle
  /-- A delta sync has sent its request. -/
  | sent (since : List Char)
  /-- A sync has been answered, a delta for the cursor it has sent, with the timestamp that it will
  store. -/
  | answered (since : Option (List Char)) (timestamp : List Char)

/-- The texts that a sync holds. -/
def PollPhase.texts : PollPhase → List (List Char)
  | idle => []
  | sent since => [since]
  | answered since timestamp => timestamp :: since.toList

/-- `lastDeltaSync`, the syncs, the latest time that has been printed, and what the handlers have
made of every delta request. -/
structure Polls (ι : Type) where
  lastDeltaSync : Option (List Char)
  phase : ι → PollPhase
  latest : Time
  log : List (Except ApiError Time)

/-- What can happen. -/
inductive PollEvent (ι : Type) where
  /-- A delta sync reads `lastDeltaSync`. -/
  | start (i : ι)
  /-- A backend checks its request, and responds when it has made its queries. -/
  | delta (i : ι) (b : Backend) (now respondedAt : Time)
  /-- The response is lost, and `fetchWithRetry` sends the same request again. When the request is
  lost, no event is needed for that. -/
  | retry (i : ι)
  /-- There is no response to the last try, and the sync ends. -/
  | lose (i : ι)
  /-- A full sync is answered. -/
  | full (i : ι) (generatedAt : Time)
  /-- The timestamp is stored. -/
  | store (i : ι)

/-- The time that a response prints. -/
def PollEvent.printed {ι : Type} : PollEvent ι → Option Time
  | .delta _ _ _ respondedAt => some respondedAt
  | .full _ generatedAt => some generatedAt
  | _ => none

namespace Polls

variable {ι : Type} [DecidableEq ι]

/-- A new installation. -/
def init : Polls ι := ⟨none, fun _ ↦ .idle, 0, []⟩

/-- Put a sync in a phase. -/
def setPhase (s : Polls ι) (i : ι) (phase : PollPhase) : Polls ι :=
  { s with phase := fun j ↦ if j = i then phase else s.phase j }

/-- A response is printed. -/
def answer (s : Polls ι) (i : ι) (since : Option (List Char)) (t : Time) : Polls ι :=
  { s.setPhase i (.answered since (printTime t)) with latest := max s.latest t }

/-- The state after an event. -/
def step (s : Polls ι) : PollEvent ι → Option (Polls ι)
  | .start i =>
    match s.phase i with
    | .idle => some (s.setPhase i (.sent (sinceText s.lastDeltaSync)))
    | _ => none
  | .delta i b now respondedAt =>
    match s.phase i with
    | .sent since =>
      match b.checkSince now (sinceParam since) with
      | .error e => some { s.setPhase i .idle with log := s.log ++ [.error e] }
      | .ok t => some { s.answer i (some since) respondedAt with log := s.log ++ [.ok t] }
    | _ => none
  | .retry i =>
    match s.phase i with
    | .answered (some since) _ => some (s.setPhase i (.sent since))
    | _ => none
  | .lose i => some (s.setPhase i .idle)
  | .full i generatedAt =>
    match s.phase i with
    | .idle => some (s.answer i none generatedAt)
    | _ => none
  | .store i =>
    match s.phase i with
    | .answered _ timestamp => some { s.setPhase i .idle with lastDeltaSync := some timestamp }
    | _ => none

/-- A time from 1970 to 9999. -/
def InRange (t : Time) : Prop :=
  0 ≤ t ∧ (Timestamp.dateOf (t / ticksPerSecond).toNat).year ≤ 9999

instance (t : Time) : Decidable (InRange t) :=
  inferInstanceAs (Decidable (0 ≤ t ∧ (Timestamp.dateOf (t / ticksPerSecond).toNat).year ≤ 9999))

/-- **Clocks agree** to the minute: a backend that checks a cursor is at most that much behind any
that has printed one. -/
def Agree (s : Polls ι) : PollEvent ι → Prop
  | .delta _ _ now respondedAt => 0 ≤ now ∧ s.latest ≤ now + minute ∧ InRange respondedAt
  | .full _ generatedAt => InRange generatedAt
  | _ => True

instance (s : Polls ι) : ∀ e, Decidable (s.Agree e)
  | .start _ | .retry _ | .lose _ | .store _ => inferInstanceAs (Decidable True)
  | .delta _ _ now respondedAt =>
    inferInstanceAs (Decidable (0 ≤ now ∧ s.latest ≤ now + minute ∧ InRange respondedAt))
  | .full _ generatedAt => inferInstanceAs (Decidable (InRange generatedAt))

/-! ### Cursors -/

/-- The text of a time in the past of `latest`, or of the epoch. -/
def IsCursor (known : Time → Prop) (latest : Time) (since : List Char) : Prop :=
  since = Timestamp.printMillis 0 ∨
    ∃ t, known t ∧ InRange t ∧ t ≤ latest ∧ since = printTime t

theorem isCursor_sinceText {known : Time → Prop} {latest : Time} {lastSync : Option (List Char)}
    (h : ∀ since, lastSync = some since → IsCursor known latest since) :
    IsCursor known latest (sinceText lastSync) := by
  unfold sinceText
  split
  · exact h _ rfl
  · exact Or.inl rfl

theorem IsCursor.mono {known known' : Time → Prop} {latest latest' : Time} {since : List Char}
    (h : IsCursor known latest since) (hknown : ∀ t, known t → known' t)
    (hlatest : latest ≤ latest') : IsCursor known' latest' since := by
  obtain rfl | ⟨t, ht, hrange, hle, rfl⟩ := h
  · exact Or.inl rfl
  · exact Or.inr ⟨t, hknown t ht, hrange, hle.trans hlatest, rfl⟩

/-- **Encoding and decoding** leave a timestamp as it is. -/
theorem sinceParam_eq {known : Time → Prop} {latest : Time} {since : List Char}
    (h : IsCursor known latest since) : sinceParam since = since := by
  refine UriComponent.ofBytes_decode_encode ?_
  obtain rfl | ⟨t, -, -, -, rfl⟩ := h
  · exact List.all_iff_forall_prop.1 (by decide +kernel)
  · have hz : ∀ c ∈ ['Z'], c.toNat < 128 := List.forall_mem_singleton.2 (by decide)
    exact fun c hc ↦ Timestamp.toNat_lt_of_mem_printSeconds hz hc

/-- Both backends read what either of them prints. -/
theorem readTime_printTime {r : Timestamp.Reader} (hsep : r.isSeparator 'T' = true)
    (hz : r.offset ['Z'] = some 0) (hmin : r.minYear ≤ 1970) {t : Time} (ht : InRange t) :
    readTime r (printTime t) = some (formatRFC3339 t) := by
  have hnat : (((t / ticksPerSecond).toNat : ℕ) : ℤ) = t / ticksPerSecond :=
    Int.toNat_of_nonneg (Int.ediv_nonneg ht.1 (by decide))
  rw [readTime, printTime,
    Timestamp.read_print hsep hz (hmin.trans (Timestamp.epoch_le_year _)) ht.2, Option.map_some,
    hnat]
  exact congrArg some (add_zero _)

theorem readTime_epoch {r : Timestamp.Reader} (hsep : r.isSeparator 'T' = true)
    (hz : r.offset ['Z'] = some 0) (hpoint : r.isPoint '.' = true) (hmin : r.minYear ≤ 1970) :
    readTime r (Timestamp.printMillis 0) = some 0 := by
  rw [readTime, Timestamp.read_printMillis hsep hz hpoint
    (hmin.trans (Timestamp.epoch_le_year _)) (by decide), Option.map_some]
  decide

/-! Seconds. -/

theorem formatRFC3339_le (t : Time) : formatRFC3339 t ≤ t :=
  Int.ediv_mul_le t (by decide)

theorem formatRFC3339_mono {t t' : Time} (h : t ≤ t') : formatRFC3339 t ≤ formatRFC3339 t' :=
  Int.mul_le_mul_of_nonneg_right (Int.ediv_le_ediv (by decide) h) (by decide)

theorem formatRFC3339_add_minute (t : Time) :
    formatRFC3339 (t + minute) = formatRFC3339 t + minute := by
  have hdiv : (t + 60 * ticksPerSecond) / ticksPerSecond = t / ticksPerSecond + 60 :=
    Int.add_mul_ediv_right t 60 (by decide)
  rw [formatRFC3339, minute, hdiv, Int.add_mul]
  rfl

theorem checkSince_eq {r : Timestamp.Reader} {now t : Time} {since : List Char}
    (hne : since ≠ []) (hread : readTime r since = some t) (ht : t ≤ now + minute) :
    checkSince r now since = .ok t := by
  rw [checkSince, if_neg hne, hread]
  exact if_neg ht.not_gt

/-- **A cursor passes the checks**, whichever reader a backend has, and if it drops the fraction of
the second from its clock. -/
theorem exists_checkSince {known : Time → Prop} {latest : Time} {since : List Char}
    (h : IsCursor known latest since) {r : Timestamp.Reader} (hsep : r.isSeparator 'T' = true)
    (hz : r.offset ['Z'] = some 0) (hpoint : r.isPoint '.' = true) (hmin : r.minYear ≤ 1970)
    {now clock : Time} (hnow : 0 ≤ now) (hagree : latest ≤ now + minute)
    (hclock : formatRFC3339 now ≤ clock) : ∃ t, checkSince r clock (sinceParam since) = .ok t ∧
      (t = 0 ∨ ∃ t', known t' ∧ t = formatRFC3339 t') := by
  have hclock' : formatRFC3339 (now + minute) ≤ clock + minute := by
    rw [formatRFC3339_add_minute]
    exact Int.add_le_add_right hclock _
  have hcut : 0 ≤ clock + minute :=
    (formatRFC3339_mono (t := 0) (Int.add_nonneg hnow (by decide))).trans hclock'
  rw [sinceParam_eq h]
  obtain rfl | ⟨t, ht, hrange, hle, rfl⟩ := h
  · refine ⟨0, checkSince_eq (by decide) (readTime_epoch hsep hz hpoint hmin) hcut, Or.inl rfl⟩
  · have hne : printTime t ≠ [] := by
      simp [printTime, Timestamp.print, Timestamp.printSeconds, Timestamp.printDate]
    have hcut' : formatRFC3339 t ≤ clock + minute :=
      (formatRFC3339_mono (hle.trans hagree)).trans hclock'
    exact ⟨_, checkSince_eq hne (readTime_printTime hsep hz hmin hrange) hcut',
      Or.inr ⟨t, ht, rfl⟩⟩

/-- **Either backend.** -/
theorem exists_backend_checkSince {known : Time → Prop} {latest : Time} {since : List Char}
    (h : IsCursor known latest since) (b : Backend) {now : Time} (hnow : 0 ≤ now)
    (hagree : latest ≤ now + minute) : ∃ t, b.checkSince now (sinceParam since) = .ok t ∧
      (t = 0 ∨ ∃ t', known t' ∧ t = formatRFC3339 t') := by
  cases b with
  | go => exact exists_checkSince h rfl rfl rfl (by decide) hnow hagree (formatRFC3339_le now)
  | python => exact exists_checkSince h rfl rfl rfl (by decide) hnow hagree le_rfl

/-! ### Runs -/

/-- The events before have printed this time. -/
def Known (es : List (PollEvent ι)) (t : Time) : Prop := ∃ e ∈ es, e.printed = some t

/-- What the syncs hold are cursors, and what has been checked was accepted. -/
structure Accepted (es : List (PollEvent ι)) (s : Polls ι) : Prop where
  stored : ∀ since, s.lastDeltaSync = some since → IsCursor (Known es) s.latest since
  held : ∀ i, ∀ since ∈ (s.phase i).texts, IsCursor (Known es) s.latest since
  log : ∀ x ∈ s.log, ∃ t, x = .ok t ∧ (t = 0 ∨ ∃ t', Known es t' ∧ t = formatRFC3339 t')

omit [DecidableEq ι] in
theorem accepted_init : Accepted [] (init : Polls ι) where
  stored _ h := by cases h
  held _ _ h := by cases h
  log _ h := by cases h

variable {es : List (PollEvent ι)} {s s' : Polls ι} {e : PollEvent ι}

omit [DecidableEq ι] in
theorem known_append {t : Time} (h : Known es t) (e : PollEvent ι) : Known (es ++ [e]) t := by
  obtain ⟨e', he', ht⟩ := h
  exact ⟨e', List.mem_append_left _ he', ht⟩

omit [DecidableEq ι] in
/-- More events, and perhaps a later time. -/
theorem Accepted.mono (h : Accepted es s) (e : PollEvent ι) {latest : Time}
    (hlatest : s.latest ≤ latest) : Accepted (es ++ [e]) { s with latest } where
  stored since hs := (h.stored since hs).mono (fun _ ht ↦ known_append ht e) hlatest
  held i since hs := (h.held i since hs).mono (fun _ ht ↦ known_append ht e) hlatest
  log x hx := by
    obtain ⟨t, rfl, rfl | ⟨t', hknown, heq⟩⟩ := h.log x hx
    · exact ⟨0, rfl, Or.inl rfl⟩
    · exact ⟨t, rfl, Or.inr ⟨t', known_append hknown e, heq⟩⟩

/-- A sync comes to another phase. -/
theorem Accepted.setPhase (h : Accepted es s) (i : ι) {phase : PollPhase}
    (hheld : ∀ since ∈ phase.texts, IsCursor (Known es) s.latest since) :
    Accepted es (s.setPhase i phase) where
  stored := h.stored
  held j since hj := by
    change since ∈ PollPhase.texts (if j = i then phase else s.phase j) at hj
    split_ifs at hj
    · exact hheld since hj
    · exact h.held j since hj
  log := h.log

/-- A sync is over. -/
theorem Accepted.idle (h : Accepted es s) (i : ι) : Accepted es (s.setPhase i .idle) :=
  h.setPhase i fun _ hsince ↦ absurd hsince List.not_mem_nil

/-- A response is printed. -/
theorem Accepted.answer (h : Accepted es s) (i : ι) {since : Option (List Char)}
    (hsince : ∀ x ∈ since, IsCursor (Known es) s.latest x) {t : Time} (ht : InRange t)
    (he : e.printed = some t) : Accepted (es ++ [e]) (s.answer i since t) := by
  have hmono := h.mono e (le_max_left s.latest t)
  refine hmono.setPhase i (List.forall_mem_cons.2 ⟨?_, fun x hx ↦ ?_⟩)
  · exact Or.inr ⟨t, ⟨e, by simp, he⟩, ht, le_max_right _ _, rfl⟩
  · exact (hsince x (Option.mem_toList.1 hx)).mono (fun _ ht ↦ known_append ht e)
      (le_max_left s.latest t)

/-- **One event.** -/
theorem Accepted.step (h : Accepted es s) (he : s.Agree e) (hs : s.step e = some s') :
    Accepted (es ++ [e]) s' := by
  have hmono := h.mono e le_rfl
  cases e with
  | start i =>
    rw [Polls.step] at hs
    split at hs
    · obtain rfl := Option.some.inj hs
      exact hmono.setPhase i (List.forall_mem_singleton.2 (isCursor_sinceText hmono.stored))
    · cases hs
  | delta i b now respondedAt =>
    obtain ⟨hnow, hagree, hrange⟩ := he
    rw [Polls.step] at hs
    split at hs
    · next since hsince =>
      have hcursor : IsCursor (Known es) s.latest since :=
        h.held i since (hsince ▸ List.mem_singleton_self since)
      obtain ⟨t, hcheck, ht⟩ := exists_backend_checkSince hcursor b hnow hagree
      rw [hcheck] at hs
      obtain rfl := Option.some.inj hs
      have hheld : ∀ x ∈ some since, IsCursor (Known es) s.latest x := fun x hx ↦
        Option.some.inj hx ▸ hcursor
      have hanswer := h.answer i (e := .delta i b now respondedAt) hheld hrange rfl
      refine { hanswer with log := fun x hx ↦ ?_ }
      obtain hx | hx := List.mem_append.1 hx
      · exact hanswer.log x hx
      · obtain rfl := List.mem_singleton.1 hx
        obtain rfl | ⟨t', hknown, heq⟩ := ht
        · exact ⟨0, rfl, Or.inl rfl⟩
        · exact ⟨t, rfl, Or.inr ⟨t', known_append hknown _, heq⟩⟩
    · cases hs
  | retry i =>
    rw [Polls.step] at hs
    split at hs
    · next since timestamp hphase =>
      obtain rfl := Option.some.inj hs
      have hmem : since ∈ (s.phase i).texts := by
        rw [hphase]
        exact List.mem_cons_of_mem _ (List.mem_singleton_self since)
      exact hmono.setPhase i (List.forall_mem_singleton.2 (hmono.held i since hmem))
    · cases hs
  | lose i =>
    obtain rfl := Option.some.inj hs
    exact hmono.idle i
  | full i generatedAt =>
    rw [Polls.step] at hs
    split at hs
    · obtain rfl := Option.some.inj hs
      exact h.answer i (fun x hx ↦ by cases hx) he rfl
    · cases hs
  | store i =>
    rw [Polls.step] at hs
    split at hs
    · next since timestamp hphase =>
      obtain rfl := Option.some.inj hs
      refine { hmono.idle i with stored := fun since hsince ↦ ?_ }
      obtain rfl := Option.some.inj hsince
      exact hmono.held i timestamp (hphase ▸ List.mem_cons_self)
    · cases hs

/-- **No cursor is rejected.** In every run of syncs against either backend, with clocks that agree
to the minute, every delta request passes the checks of the handler, and `since` is the epoch or the
time of some earlier response, cut to the second. -/
theorem accepted_of_run (h : Run step Agree init es s) : ∀ x ∈ s.log, ∃ t, x = .ok t ∧
    (t = 0 ∨ ∃ t', Known es t' ∧ t = formatRFC3339 t') := by
  have haccepted : Accepted es s := by
    induction h with
    | nil => exact accepted_init
    | snoc _ he hs ih => exact ih.step he hs
  exact haccepted.log

/-- Two delta syncs: one of Go, and one of Python, whose clock is almost a minute behind, and which
is asked again when its first response is lost. -/
def twoClocks : List (PollEvent Unit) :=
  [.start (), .delta () .go 100500000 100700000, .store (), .start (),
    .delta () .python 41000000 42000000, .retry (), .delta () .python 43000000 44000000]

theorem exec_twoClocks : (exec step Agree init twoClocks).any
    (fun s ↦ s.log = [.ok 0, .ok 100000000, .ok 100000000]) = true := by
  decide +kernel

/-- The second is asked for all since the first, cut to the second. -/
theorem accepted_twoClocks : ∃ s : Polls Unit, s.log = [.ok 0, .ok 100000000, .ok 100000000] ∧
    ∃ t, t = 100000000 ∧ (t = 0 ∨ ∃ t', Known twoClocks t' ∧ t = formatRFC3339 t') := by
  obtain ⟨s, hrun, hlog⟩ := exists_run_of_exec exec_twoClocks
  have hlog' : s.log = [.ok 0, .ok 100000000, .ok 100000000] := of_decide_eq_true hlog
  obtain ⟨t, ht, hknown⟩ := accepted_of_run hrun (.ok 100000000) (by rw [hlog']; simp)
  exact ⟨s, hlog', t, (Except.ok.inj ht).symm, hknown⟩

-- A clock that is more than a minute behind rejects the cursor.
example : ((exec step Any init ([.start (), .delta () .go 100500000 100700000, .store (), .start (),
    .delta () .python 39000000 42000000] : List (PollEvent Unit))).map Polls.log) = some [.ok 0,
      .error ⟨400, "INVALID_PARAM", "since must not be in the future"⟩] := by
  decide +kernel

end Polls

end RealTube
