import RealTube.Cache.Staleness
import RealTube.Model.CacheCodec
import RealTube.Scores.Formula

/-!
# One cache, two writers

Both backends use one Redis under the same keys, so each reads what the other has stored. The texts
differ, and still nothing is lost: whichever backend stores a response, either of them finds it
there, and what it answers stands for the response that was stored (`video_body_of_entry`). This is
what allows a model of the cache to hold responses in place of texts, and it makes a statement about
the bodies of answers: a hit of either backend is the row of the video as it was at most five
minutes ago, whoever has cached it (`video_body_of_hit`).

Numbers of floating point are printed as some decimal that is rounded to them, and nothing else is
assumed of the format.
-/

open Steps CacheAside CacheAside.Service

namespace RealTube

/-! ### Numbers -/

section Numbers

variable (F : FloatFormat) {x : ℚ}

theorem Python.digitsValue_exponentDigits (n : ℕ) :
    digitsValue (Python.exponentDigits n).1 = n := by
  show digitsValue (List.replicate _ '0' ++ (natDigits n).1) = n
  rw [digitsValue_append, digitsValue_replicate, mul_zero, zero_add, digitsValue_natDigits]

/-- **Either way of printing** has the value of the decimal. -/
theorem Go.value_floatLiteral (x : ℚ) : (Go.floatLiteral F x).value = (F.decimal x).value := by
  rw [Go.floatLiteral]
  split_ifs
  · exact Decimal.value_scientific _ digitsValue_natDigits
  · exact Decimal.value_fixed _ _

theorem Python.value_floatLiteral (x : ℚ) :
    (Python.floatLiteral F x).value = (F.decimal x).value := by
  rw [Python.floatLiteral]
  split_ifs
  · exact Decimal.value_fixed _ _
  · exact Decimal.value_scientific _ Python.digitsValue_exponentDigits

/-- Literals that are rounded to the numbers they are written for. -/
def ReadsBack (float : ℚ → Literal) : Prop := ∀ x, F.IsFloat x → F.round (float x).value = x

theorem Go.readsBack : ReadsBack F (Go.floatLiteral F) := fun x hx ↦ by
  rw [Go.value_floatLiteral, F.round_value x hx]

theorem Python.readsBack : ReadsBack F (Python.floatLiteral F) := fun x hx ↦ by
  rw [Python.value_floatLiteral, F.round_value x hx]

/-- An integral literal has an integral value. -/
theorem Literal.value_num {l : Literal} (h : l.isInteger = true) : ((l.value.num : ℤ) : ℚ) =
    l.value := by
  obtain ⟨negative, whole, fraction, exponent, hwhole⟩ := l
  obtain ⟨hfraction, hexponent⟩ := Bool.and_eq_true_iff.1 h
  obtain rfl := Option.isNone_iff_eq_none.1 hfraction
  obtain rfl := Option.isNone_iff_eq_none.1 hexponent
  obtain ⟨n, hn⟩ : ∃ n : ℤ, Literal.value ⟨negative, whole, none, none, hwhole⟩ = n := by
    refine ⟨(if negative then -1 else 1) * digitsValue (whole.1 ++ []), ?_⟩
    show (if negative = true then (-1 : ℚ) else 1) * digitsValue (whole.1 ++ []) *
      10 ^ ((0 : ℤ) - 0) = _
    rw [sub_zero, zpow_zero, mul_one]
    cases negative <;> simp
  rw [hn, Rat.num_intCast]

/-- **Loading and dumping** a number leaves what it is rounded to. -/
theorem Python.readsBack_reprint {float : ℚ → Literal} (h : ReadsBack F float) :
    ReadsBack F fun x ↦ Python.reprint F (float x) := by
  intro x hx
  have hread := h x hx
  show F.round (Python.reprint F (float x)).value = x
  rw [Python.reprint]
  split_ifs with hint
  · rw [Literal.value_ofInt, Literal.value_num hint, hread]
  · rw [hread, Python.readsBack F x hx]

end Numbers

/-! ### Timestamps -/

/-- A fraction is read up to where its digits end. -/
theorem readFraction_digits {isPoint : Char → Bool} (hpoint : isPoint '.' = true)
    {ds s : List Char} (hne : ds ≠ []) (hds : ∀ c ∈ ds, c.isDigit = true)
    (hs : ∀ c ∈ s.head?, c.isDigit = false) :
    Timestamp.readFraction isPoint ('.' :: (ds ++ s)) = (ds, s) := by
  obtain ⟨d, ds, rfl⟩ := List.exists_cons_of_ne_nil hne
  have htake : s.takeWhile Char.isDigit = [] ∧ s.dropWhile Char.isDigit = s := by
    cases s with
    | nil => exact ⟨rfl, rfl⟩
    | cons c s => simp [hs c rfl]
  rw [List.cons_append, Timestamp.readFraction, hpoint, hds d List.mem_cons_self,
    ← List.cons_append, List.takeWhile_append_of_pos hds, List.dropWhile_append_of_pos hds,
    htake.1, htake.2, List.append_nil]
  rfl

/-- The digits of a fraction, with or without the zeros at the end. -/
theorem fractionTicks_eq {ticks k : ℕ} (hticks : ticks < 10 ^ 6) {ds : List Char}
    (h : ds ++ List.replicate k '0' = pad 6 ticks) : fractionTicks ds = ticks := by
  have hlength := congrArg List.length h
  rw [List.length_append, List.length_replicate, length_pad] at hlength
  -- the zeros that were dropped are the first of those that the reader fills in
  have hzeros : List.replicate 6 '0' = List.replicate k '0' ++ List.replicate (6 - k) '0' := by
    rw [← List.replicate_add]
    congr 1
    omega
  have htake : (ds ++ List.replicate 6 '0').take 6 = pad 6 ticks := by
    rw [hzeros, ← List.append_assoc, h]
    exact List.take_left' (length_pad 6 ticks)
  rw [fractionTicks, htake, value_pad, Nat.mod_eq_of_lt hticks]

/-- The zeros at the end are nothing but zeros. -/
theorem exists_append_replicate (s : List Char) :
    ∃ k, s.rdropWhile (· = '0') ++ List.replicate k '0' = s := by
  induction s using List.reverseRecOn with
  | nil => exact ⟨0, rfl⟩
  | append_singleton s c ih =>
    obtain ⟨k, hk⟩ := ih
    rw [List.rdropWhile_concat]
    split_ifs with hc
    · obtain rfl := of_decide_eq_true hc
      refine ⟨k + 1, ?_⟩
      rw [List.replicate_succ', ← List.append_assoc, hk]
    · exact ⟨0, List.append_nil _⟩

variable {t : Time}

/-- A timestamp is read with its fraction. -/
theorem readTime_printSeconds {r : Timestamp.Reader} (hsep : r.isSeparator 'T' = true)
    (hmin : r.minYear ≤ 1970) (ht : Polls.InRange t) {rest fraction s : List Char}
    (hfraction : Timestamp.readFraction r.isPoint rest = (fraction, s))
    (hoffset : r.offset s = some 0) (hticks : fractionTicks fraction = t % ticksPerSecond) :
    readTime r (Timestamp.printSeconds (t / ticksPerSecond).toNat rest) = some t := by
  have hnat : (((t / ticksPerSecond).toNat : ℕ) : ℤ) = t / ticksPerSecond :=
    Int.toNat_of_nonneg (Int.ediv_nonneg ht.1 (by decide))
  rw [readTime, Timestamp.read_printSeconds hsep (hmin.trans (Timestamp.epoch_le_year _)) ht.2
    hfraction hoffset, Option.map_some, hnat, hticks]
  exact congrArg some (Int.ediv_mul_add_emod t ticksPerSecond)

theorem ticks_lt (t : Time) : (t % ticksPerSecond).toNat < 10 ^ 6 ∧
    ((t % ticksPerSecond).toNat : ℤ) = t % ticksPerSecond := by
  have hlt := Int.emod_lt_of_pos t (show (0 : ℤ) < ticksPerSecond by decide)
  have hnonneg := Int.emod_nonneg t (show (ticksPerSecond : ℤ) ≠ 0 by decide)
  unfold ticksPerSecond at hlt hnonneg ⊢
  omega

theorem readTime_of_zero {r : Timestamp.Reader} (hsep : r.isSeparator 'T' = true)
    (hmin : r.minYear ≤ 1970) (ht : Polls.InRange t) {rest : List Char}
    (hrest : Timestamp.readFraction r.isPoint rest = ([], rest)) (hoffset : r.offset rest = some 0)
    (hzero : (t % ticksPerSecond).toNat = 0) :
    readTime r (Timestamp.printSeconds (t / ticksPerSecond).toNat rest) = some t := by
  refine readTime_printSeconds hsep hmin ht hrest hoffset ?_
  have hticks := (ticks_lt t).2
  rw [hzero] at hticks
  exact hticks

/-- **A timestamp of Go is read back.** -/
theorem Go.readTime_timeText (ht : Polls.InRange t) :
    readTime Go.strictRFC3339 (Go.timeText t) = some t := by
  obtain ⟨hlt, hticks⟩ := ticks_lt t
  rw [Go.timeText, Go.fractionText]
  split_ifs with hzero
  · exact readTime_of_zero rfl (by decide) ht rfl rfl hzero
  · obtain ⟨k, hk⟩ := exists_append_replicate (pad 6 (t % ticksPerSecond).toNat)
    have hvalue := fractionTicks_eq hlt hk
    have hne : (pad 6 (t % ticksPerSecond).toNat).rdropWhile (· = '0') ≠ [] := by
      intro hnil
      rw [hnil] at hvalue
      exact hzero (Int.natCast_inj.1 hvalue.symm)
    have hdigits : ∀ c ∈ (pad 6 (t % ticksPerSecond).toNat).rdropWhile (· = '0'),
        c.isDigit = true := fun c hc ↦ isDigit_of_mem_pad ((List.rdropWhile_prefix _ _).subset hc)
    refine readTime_printSeconds rfl (by decide) ht
      (readFraction_digits rfl hne hdigits fun c hc ↦ Option.some.inj hc ▸ rfl) rfl ?_
    exact hvalue.trans hticks

/-- **A timestamp of Python is read back.** -/
theorem Python.readTime_timeText (ht : Polls.InRange t) :
    readTime Go.strictRFC3339 (Python.timeText t) = some t := by
  obtain ⟨hlt, hticks⟩ := ticks_lt t
  rw [Python.timeText, Python.fractionText]
  split_ifs with hzero
  · exact readTime_of_zero rfl (by decide) ht rfl (by decide) hzero
  · have hvalue : fractionTicks (pad 6 (t % ticksPerSecond).toNat) =
        (t % ticksPerSecond).toNat := fractionTicks_eq (k := 0) hlt (List.append_nil _)
    have hne : pad 6 (t % ticksPerSecond).toNat ≠ [] :=
      List.ne_nil_of_length_eq_add_one (length_pad 6 _)
    refine readTime_printSeconds rfl (by decide) ht
      (readFraction_digits rfl hne (fun c hc ↦ isDigit_of_mem_pad hc)
        fun c hc ↦ Option.some.inj hc ▸ rfl) (by decide) ?_
    exact hvalue.trans hticks

/-! ### Documents -/

/-- Numbers and timestamps that both backends can write. -/
structure VideoResponse.Printable (F : FloatFormat) (resp : VideoResponse) : Prop where
  score : F.IsFloat resp.score
  totalVotes : -2 ^ 63 ≤ resp.totalVotes ∧ resp.totalVotes < 2 ^ 63
  categories : ∀ c d, resp.categories c = some d →
    F.IsFloat d.weightedScore ∧ -2 ^ 63 ≤ d.votes ∧ d.votes < 2 ^ 63
  lastUpdated : Polls.InRange resp.lastUpdated

section Documents

variable (F : FloatFormat) {float : ℚ → Literal} {time : Time → List Char}
  {order : List Category}

theorem Go.intOf_ofInt {n : ℤ} (h : -2 ^ 63 ≤ n ∧ n < 2 ^ 63) :
    Go.intOf (some (.num (.ofInt n))) = some n := by
  have hvalue : (Literal.ofInt n).value.num = n := by rw [Literal.value_ofInt, Rat.num_intCast]
  rw [Go.intOf, hvalue]
  exact if_pos ⟨rfl, h⟩

theorem Go.detailOf_doc (hfloat : ReadsBack F float) {d : CategoryDetail}
    (hscore : F.IsFloat d.weightedScore) (hvotes : -2 ^ 63 ≤ d.votes ∧ d.votes < 2 ^ 63) :
    Go.detailOf F (d.doc float) = some d := by
  have hfield : docField "votes" (d.doc float) = some (.num (.ofInt d.votes)) ∧
      docField "weightedScore" (d.doc float) = some (.num (float d.weightedScore)) := by
    constructor <;> simp [docField, CategoryDetail.doc]
  rw [Go.detailOf, hfield.1, hfield.2, Go.intOf_ofInt hvotes]
  simp only [Go.floatOf, hfloat d.weightedScore hscore, Option.bind_eq_bind, Option.bind_some]

/-- **A category is found under its name.** -/
theorem docField_categoryFields (categories : Category → Option CategoryDetail)
    (hnodup : order.Nodup) {c : Category} (hc : c ∈ order) :
    docField c.name (.obj (categoryFields float order categories)) =
      (categories c).map (CategoryDetail.doc float) := by
  -- of the fields with this name the last one counts, and there is no second
  have hnone (cs : List Category) (h : c ∉ cs) :
      (categoryFields float cs categories).filter (fun x ↦ x.1 = c.name) = [] := by
    refine List.filter_eq_nil_iff.2 fun x hx hname ↦ ?_
    obtain ⟨c', hc', hx'⟩ := List.mem_filterMap.1 hx
    obtain ⟨d, -, rfl⟩ := Option.map_eq_some_iff.1 hx'
    exact h (Category.name_injective (of_decide_eq_true hname) ▸ hc')
  obtain ⟨before, after, rfl⟩ := List.append_of_mem hc
  obtain ⟨-, hafter, hdisjoint⟩ := List.nodup_append.1 hnodup
  have hbefore : c ∉ before := fun h ↦ hdisjoint c h c List.mem_cons_self rfl
  have hsplit : categoryFields float (before ++ c :: after) categories =
      categoryFields float before categories ++ (((categories c).map fun d ↦
        (c.name, d.doc float)).toList ++ categoryFields float after categories) := by
    rw [categoryFields, List.filterMap_append, List.filterMap_cons]
    cases categories c <;> rfl
  show (((categoryFields float _ categories).filter fun x ↦ x.1 = c.name).getLast?).map
    Prod.snd = _
  rw [hsplit, List.filter_append, List.filter_append, hnone before hbefore,
    hnone after (List.nodup_cons.1 hafter).1, List.nil_append, List.append_nil]
  cases categories c with
  | none => rfl
  | some d => simp

/-- **The categories are read back.** -/
theorem Go.categoriesOf_fields (hfloat : ReadsBack F float)
    {categories : Category → Option CategoryDetail}
    (hcategories : ∀ c d, categories c = some d →
      F.IsFloat d.weightedScore ∧ -2 ^ 63 ≤ d.votes ∧ d.votes < 2 ^ 63)
    (hnodup : order.Nodup) (horder : ∀ c, c ∈ order) :
    Go.categoriesOf F (some (.obj (categoryFields float order categories))) = some categories := by
  have hread (c : Category) (d : CategoryDetail) (hd : categories c = some d) :
      Go.detailOf F (d.doc float) = some d :=
    Go.detailOf_doc F hfloat (hcategories c d hd).1 (hcategories c d hd).2
  have hall : (categoryFields float order categories).all
      (fun x ↦ (Go.detailOf F x.2).isSome) = true := by
    refine List.all_eq_true.2 fun x hx ↦ ?_
    obtain ⟨c, -, hx'⟩ := List.mem_filterMap.1 hx
    obtain ⟨d, hd, rfl⟩ := Option.map_eq_some_iff.1 hx'
    rw [hread c d hd]
    rfl
  rw [Go.categoriesOf, if_pos hall]
  refine congrArg some (funext fun c ↦ ?_)
  rw [docField_categoryFields categories hnodup (horder c)]
  cases hd : categories c with
  | none => rfl
  | some d => exact hread c d hd

/-- **A response is read back**, whoever has written its numbers and its timestamp. -/
theorem Go.videoOf_doc (hfloat : ReadsBack F float) {resp : VideoResponse}
    (h : resp.Printable F) (htime : readTime Go.strictRFC3339 (time resp.lastUpdated) =
      some resp.lastUpdated) (hnodup : order.Nodup) (horder : ∀ c, c ∈ order) :
    Go.videoOf F (resp.doc float time order) = some resp := by
  obtain ⟨videoID, score, categories, totalVotes, locked, channelID, lastUpdated⟩ := resp
  have hcategories := Go.categoriesOf_fields F hfloat h.categories hnodup horder
  have hvotes := Go.intOf_ofInt h.totalVotes
  have hscore := hfloat score h.score
  simp only [] at hcategories hvotes htime
  cases channelID with
  | none =>
    simp [Go.videoOf, docField, VideoResponse.doc, Go.strOf, Go.floatOf, hscore, hcategories,
      hvotes, Go.boolOf, Go.strPtrOf, Go.timeOf, htime]
  | some ch =>
    simp [Go.videoOf, docField, VideoResponse.doc, Go.strOf, Go.floatOf, hscore, hcategories,
      hvotes, Go.boolOf, Go.strPtrOf, Go.timeOf, htime]

theorem Python.reprint_ofInt (n : ℤ) : Python.reprint F (.ofInt n) = .ofInt n := by
  rw [Python.reprint, if_pos (Literal.isInteger_ofInt n), Literal.value_ofInt, Rat.num_intCast]

theorem Python.reloadFields_categoryFields (categories : Category → Option CategoryDetail) :
    Python.reloadFields F (categoryFields float order categories) =
      categoryFields (fun x ↦ Python.reprint F (float x)) order categories := by
  induction order with
  | nil => rfl
  | cons c order ih =>
    rw [categoryFields, List.filterMap_cons, categoryFields, List.filterMap_cons]
    cases categories c with
    | none => exact ih
    | some d =>
      show (c.name, Python.reload F (d.doc float)) :: Python.reloadFields F _ = _
      have hdoc : Python.reload F (d.doc float) =
          d.doc fun x ↦ Python.reprint F (float x) := by
        simp [CategoryDetail.doc, Python.reload, Python.reloadFields, Python.reprint_ofInt]
      rw [hdoc]
      exact congrArg _ ih

/-- **Loading and dumping** a response prints its numbers once more, and nothing else. -/
theorem Python.reload_doc (resp : VideoResponse) :
    Python.reload F (resp.doc float time order) =
      resp.doc (fun x ↦ Python.reprint F (float x)) time order := by
  cases hch : resp.channelID with
  | none =>
    simp [VideoResponse.doc, hch, Python.reload, Python.reloadFields, Python.reprint_ofInt,
      Python.reloadFields_categoryFields]
  | some ch =>
    simp [VideoResponse.doc, hch, Python.reload, Python.reloadFields, Python.reprint_ofInt,
      Python.reloadFields_categoryFields]

end Documents

/-! ### Entries -/

section Entries

variable (F : FloatFormat) (order : Arrangement Category)

/-- Either backend stores a response with numbers and timestamps that are read back. -/
theorem Backend.exists_videoText (b : Backend) {resp : VideoResponse} (h : resp.Printable F) :
    ∃ (float : ℚ → Literal) (time : Time → List Char) (cs : List Category) (st : JsonDoc.Style),
      ReadsBack F float ∧
      readTime Go.strictRFC3339 (time resp.lastUpdated) = some resp.lastUpdated ∧ cs.Nodup ∧
      (∀ c, c ∈ cs) ∧ b.videoText F order resp = (resp.doc float time cs).write st := by
  cases b with
  | go =>
    refine ⟨Go.floatLiteral F, Go.timeText, Go.categoryOrder, Go.jsonStyle, Go.readsBack F,
      Go.readTime_timeText h.lastUpdated, by decide, fun c ↦ ?_, rfl⟩
    cases c <;> decide
  | python =>
    exact ⟨Python.floatLiteral F, Python.timeText, order.list Finset.univ, Python.dumpsStyle,
      Python.readsBack F, Python.readTime_timeText h.lastUpdated, order.nodup _,
      fun c ↦ order.mem_list.2 (Finset.mem_univ c), rfl⟩

/-- What is stored stands for the response. -/
theorem responseOf_videoText (b : Backend) {resp : VideoResponse} (h : resp.Printable F) :
    responseOf F (b.videoText F order resp) = some resp := by
  obtain ⟨float, time, cs, st, hfloat, htime, hnodup, hcs, htext⟩ := b.exists_videoText F order h
  rw [responseOf, htext, JsonDoc.read_write, Option.bind_some,
    Go.videoOf_doc F hfloat h htime hnodup hcs]

/-- **One cache, two writers.** Whichever backend stores a response, either of them finds it there:
the entry is never taken for a miss, and the body of the answer stands for the response. -/
theorem video_body_of_entry (writer reader : Backend) {resp : VideoResponse}
    (h : resp.Printable F) : ∃ body, reader.hitBody F (writer.videoText F order resp) = some body ∧
      responseOf F body = some resp := by
  cases reader with
  | go =>
    -- Go builds the response again, and prints that
    have hread : (JsonDoc.read (writer.videoText F order resp)).bind (Go.videoOf F) = some resp :=
      responseOf_videoText F order writer h
    refine ⟨Backend.go.videoText F order resp, ?_, responseOf_videoText F order .go h⟩
    rw [Backend.hitBody, hread]
    rfl
  | python =>
    -- Python passes on the document, with its fields in the order of the writer
    obtain ⟨float, time, cs, st, hfloat, htime, hnodup, hcs, htext⟩ :=
      writer.exists_videoText F order h
    refine ⟨(Python.reload F (resp.doc float time cs)).write Python.responseStyle, ?_, ?_⟩
    · rw [Backend.hitBody, htext, JsonDoc.read_write]
      rfl
    · rw [responseOf, JsonDoc.read_write, Option.bind_some, Python.reload_doc,
        Go.videoOf_doc F (Python.readsBack_reprint F hfloat) h htime hnodup hcs]

end Entries

/-- The integers, which any format of floating point has, up to a bound. -/
def wholeNumbers : FloatFormat where
  IsFloat x := ∃ n : ℤ, x = n
  round := id
  decimal x := ⟨x.num < 0, natDigits x.num.natAbs, (natDigits x.num.natAbs).1.length, fun h ↦ by
    rw [head_natDigits h]
    exact ⟨rfl, rfl⟩⟩
  round_value x hx := by
    obtain ⟨n, rfl⟩ := hx
    have hvalue := Literal.value_ofInt n
    rw [Literal.value, Literal.ofInt, Option.elim_none, List.append_nil] at hvalue
    rw [Decimal.value, Rat.num_intCast, sub_self]
    exact hvalue

/-- A response of a video of one category. -/
def someResponse : VideoResponse where
  videoID := "v"
  score := 62
  categories c := if c = .fullyAI then some ⟨2, 1⟩ else none
  totalVotes := 2
  locked := false
  channelID := some "<&>"
  lastUpdated := 100500000

/-- Go stores it, and Python answers with it. -/
theorem video_body_someResponse : ∃ body, Backend.python.hitBody wholeNumbers
    (Backend.go.videoText wholeNumbers Category.arrangement someResponse) = some body ∧
      responseOf wholeNumbers body = some someResponse := by
  refine video_body_of_entry wholeNumbers Category.arrangement .go .python ?_
  refine ⟨⟨62, rfl⟩, by decide, fun c d hd ↦ ?_, by decide +kernel⟩
  change (if c = .fullyAI then some _ else none) = some d at hd
  split_ifs at hd
  obtain rfl := Option.some.inj hd
  exact ⟨⟨1, rfl⟩, by decide⟩

/-! ### Hits -/

section Hits

variable (F : FloatFormat)

/-- `LookupByVideoID` and `get_by_video_id` over a cache of texts, beside commits. A lookup is of
one of the backends, which is left open until it stores its entry, and so is the order of the rows
that Python puts in its dictionary. -/
def videoTextService : Service VideoID (Backend × Arrangement Category) DB (List Write)
    (Option Video) (List Char) :=
  twoQueries findByVideoID
    (fun v row q db ↦ q.1.videoText F q.2 (buildResponse v row (getCategories v db)))
    RowStore.applyAll videoCacheTTL

/-- Numbers and timestamps of a row of `videos`. -/
structure Video.Printable (row : Video) : Prop where
  score : F.IsFloat row.score
  totalVotes : -2 ^ 63 ≤ row.totalVotes ∧ row.totalVotes < 2 ^ 63
  lastUpdated : Polls.InRange row.lastUpdated

/-- Numbers of a row of `video_categories`. -/
structure VideoCategory.Printable (row : VideoCategory) : Prop where
  weightedScore : F.IsFloat row.weightedScore
  voteCount : -2 ^ 63 ≤ row.voteCount ∧ row.voteCount < 2 ^ 63

/-- All of a database. -/
structure DB.Printable (db : DB) : Prop where
  videos : ∀ v row, db.videos.lookup v = some row → row.Printable F
  videoCategories : ∀ k row, db.videoCategories.lookup k = some row → row.Printable F

/-- A write, if it is of one of the two tables. -/
def Write.Printable : Write → Prop
  | .video _ row => row.Printable F
  | .videoCategory _ _ row => row.Printable F
  | _ => True

variable {F}

theorem DB.Printable.write {db : DB} (h : db.Printable F) {w : Write} (hw : w.Printable F) :
    (db.write w).Printable F := by
  cases w with
  | video v row =>
    refine ⟨fun v' row' hrow ↦ ?_, h.videoCategories⟩
    change (db.videos.insert v row).lookup v' = _ at hrow
    rw [Table.lookup_insert] at hrow
    split_ifs at hrow
    · exact Option.some.inj hrow ▸ hw
    · exact h.videos v' row' hrow
  | videoCategory v c row =>
    refine ⟨h.videos, fun k row' hrow ↦ ?_⟩
    change (db.videoCategories.insert (v, c) row).lookup k = _ at hrow
    rw [Table.lookup_insert] at hrow
    split_ifs at hrow
    · exact Option.some.inj hrow ▸ hw
    · exact h.videoCategories k row' hrow
  | user _ _ | vote _ _ _ | dropVote _ _ | channel _ _ | notify _ =>
    exact ⟨h.videos, h.videoCategories⟩

/-- The response that is built from two databases. -/
theorem printable_buildResponse {db₁ db₂ : DB} (h₁ : db₁.Printable F) (h₂ : db₂.Printable F)
    {v : VideoID} {row : Video} (hrow : findByVideoID v db₁ = some row) :
    (buildResponse v row (getCategories v db₂)).Printable F := by
  have hvideo := h₁.videos v row (Option.filter_eq_some_iff.1 hrow).1
  refine ⟨hvideo.score, hvideo.totalVotes, fun c d hd ↦ ?_, hvideo.lastUpdated⟩
  obtain ⟨cat, hcat, rfl⟩ := Option.map_eq_some_iff.1 hd
  have hcategory := h₂.videoCategories (v, c) cat hcat
  exact ⟨hcategory.weightedScore, hcategory.voteCount⟩

variable {ι : Type} [DecidableEq ι] {db : DB} {D : ℕ}

/-- **Hits of either backend.** In every run of lookups by both backends over one cache of texts,
beside commits, losses and failures, an entry that is found was built from the row of the video as
it was at most five minutes and `D` ago, with its categories as they were at some later moment; and
whichever backend finds it can read it, and answers with a body that stands for that response. -/
theorem video_body_of_hit
    {es : List (Event ι VideoID (Backend × Arrangement Category) (List Write))}
    {sys : Sys ι VideoID DB (Option Video) (List Char)}
    (h : Run (videoTextService F).step (Within D) (Sys.init db) es sys) (hdb : db.Printable F)
    (hwrites : ∀ ws, Event.write ws ∈ es → ∀ w ∈ ws, w.Printable F) {i : ι} {v v' : VideoID}
    {up : Bool} {entry : List Char}
    (hanswer : (videoTextService F).answer sys (.begin i v' up) = some (v, some entry))
    (reader : Backend) :
    ∃ t₁ db₁ t₂ db₂ resp, t₁ ≤ t₂ ∧ t₂ ≤ sys.now ∧ sys.now ≤ t₁ + D + videoCacheTTL ∧
      (videoTextService F).Was (Sys.init db) es t₁ db₁ ∧
      (videoTextService F).Was (Sys.init db) es t₂ db₂ ∧
      lookupByVideoID none v db₁ db₂ = some resp ∧
      ∃ body, reader.hitBody F entry = some body ∧ responseOf F body = some resp := by
  obtain ⟨t₁, db₁, t₂, db₂, ⟨writer, order⟩, hle, hnow, hage, hwas₁, hwas₂, hentry⟩ :=
    twoQueries_answer h (e := .begin i v' up) trivial hanswer
  -- all that was committed in the run is printable, and so is all that the lookup has read
  have hkept {t : ℕ} {db' : DB} (hwas : (videoTextService F).Was (Sys.init db) es t db') :
      db'.Printable F :=
    hwas.kept (I := DB.Printable F) hdb fun ws db'' hws h'' ↦
      Tx.applyAll_inv (I := DB.Printable F) (P := Write.Printable F)
        (fun hdb hw ↦ DB.Printable.write hdb hw) h'' (hwrites ws hws)
  obtain ⟨row, hrow, hentry'⟩ := Option.map_eq_some_iff.1 hentry.symm
  have hprintable := printable_buildResponse (hkept hwas₁) (hkept hwas₂) hrow
  obtain ⟨body, hbody, hresp⟩ := video_body_of_entry F order writer reader hprintable
  refine ⟨t₁, db₁, t₂, db₂, _, hle, hnow, hage, hwas₁, hwas₂, ?_, body, ?_, hresp⟩
  · rw [lookupByVideoID, Option.none_or, hrow, Option.map_some]
  · exact hentry' ▸ hbody

end Hits

/-- A row of `videos`. -/
def scoredRow : Video := { Video.new 0 with score := 62, lastUpdated := 100500000 }

/-- One video. -/
def oneScored : DB where
  users := ∅
  videos := (∅ : Table VideoID Video).insert "v" scoredRow
  videoCategories := ∅
  votes := ∅
  channels := ∅

theorem printable_oneScored : oneScored.Printable wholeNumbers := by
  refine ⟨fun v row hrow ↦ ?_, fun k row hrow ↦ by cases hrow⟩
  change ((∅ : Table VideoID Video).insert "v" scoredRow).lookup v = _ at hrow
  rw [Table.lookup_insert] at hrow
  split_ifs at hrow
  · exact Option.some.inj hrow ▸ ⟨⟨62, rfl⟩, by decide, by decide +kernel⟩
  · cases hrow

/-- Go looks it up, and caches it. -/
def cachedByGo : List (Event Backend VideoID (Backend × Arrangement Category) (List Write)) :=
  [.begin .go "v" true, .read .go (.go, Category.arrangement),
    .read .go (.go, Category.arrangement), .set .go true, .pass 1000]

theorem run_cachedByGo : (exec (videoTextService wholeNumbers).step (Within 1000)
    (Sys.init oneScored) cachedByGo).isSome := by
  decide +kernel

/-- Python finds it. -/
theorem video_body_cachedByGo :
    ∃ t₁ db₁ t₂ db₂ resp, t₁ ≤ t₂ ∧ t₂ ≤ (Option.get _ run_cachedByGo).now ∧
      (Option.get _ run_cachedByGo).now ≤ t₁ + 1000 + videoCacheTTL ∧
      (videoTextService wholeNumbers).Was (Sys.init oneScored) cachedByGo t₁ db₁ ∧
      (videoTextService wholeNumbers).Was (Sys.init oneScored) cachedByGo t₂ db₂ ∧
      lookupByVideoID none "v" db₁ db₂ = some resp ∧
      ∃ body, Backend.python.hitBody wholeNumbers (Backend.go.videoText wholeNumbers
        Category.arrangement (buildResponse "v" scoredRow (getCategories "v" oneScored))) =
          some body ∧ responseOf wholeNumbers body = some resp :=
  have hanswer : (videoTextService wholeNumbers).answer (Option.get _ run_cachedByGo)
      (.begin .python "v" true) = some ("v", some (Backend.go.videoText wholeNumbers
        Category.arrangement (buildResponse "v" scoredRow (getCategories "v" oneScored)))) := by
    decide +kernel
  video_body_of_hit (run_of_exec (Option.some_get run_cachedByGo).symm) printable_oneScored
    (fun ws hws ↦ by simp [cachedByGo] at hws) hanswer .python

end RealTube
