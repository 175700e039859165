import RealTube.Model.Validation

/-!
# The validators of the two backends

The validators of `middleware/validation.go` and `middleware/validation.py`, compared text by text.
What they do to the text first is the same up to what counts as a space: whether it is trimmed or
lowered first, and what becomes of characters outside of ASCII, makes no difference to what is
accepted (`stripLower_eq_ofString_iff`). Nor do lengths in bytes and the end anchor.

`str.strip` also removes the four separators of ASCII, which are no white space to
`strings.TrimSpace`. So an identifier with such a character around it is accepted by Python and
rejected by Go, and that is the only disagreement (`validators_agree_iff`).
-/

namespace RealTube

/-! ### Lower case, piece by piece -/

/-- What a piece of a text can become in lower case. White space stays as it is. What is neither
ASCII nor white space may become several characters, but not only digits and spaces. -/
inductive LowersTo : Option Char → Text → Prop
  | ascii {c : Char} (h : c.toNat < 128) : LowersTo (some c) [some c.toLower]
  | space {c : Char} (h : Go.isSpace c) : LowersTo (some c) [some c]
  | other {x : Option Char} {t : Text} (hx : ∀ c ∈ x, 128 ≤ c.toNat ∧ Go.isSpace c = false)
      (ht : ∃ y ∈ t, ∀ c ∈ y, Python.isSpace c = false ∧ c ∉ hexDigits) : LowersTo x t

/-- A way to put texts in lower case, in which every piece of the text becomes a part of the
result. What it becomes may depend on the pieces around it. -/
structure PiecewiseLower extends Text.LowerCase where
  pieces : ∀ s, ∃ ts, List.Forall₂ LowersTo s ts ∧ apply s = ts.flatten

/-- Hexadecimal digits, in either case. -/
def anyHexDigits : List Char := "0123456789abcdefABCDEF".toList

/-- ASCII or white space. -/
def IsPlain (s : Text) : Prop := ∀ x ∈ s, ∃ c, x = some c ∧ (c.toNat < 128 ∨ Go.isSpace c)

/-- Lower case in ASCII. -/
def asciiLower (s : Text) : Text := s.map (Option.map Char.toLower)

theorem toNat_toLower (c : Char) :
    c.toLower.toNat = if 65 ≤ c.toNat ∧ c.toNat ≤ 90 then c.toNat + 32 else c.toNat := by
  have hiff : (65 ≤ c.toNat ∧ c.toNat ≤ 90) ↔ (c.val ≥ 'A'.val ∧ c.val ≤ 'Z'.val) := Iff.rfl
  delta Char.toLower
  rw [if_congr hiff rfl rfl]
  split_ifs with hupper
  · have hle : c.val.toNat ≤ 90 := hupper.2
    change (c.val + 32).toNat = c.val.toNat + 32
    rw [UInt32.toNat_add, show (32 : UInt32).toNat = 32 from rfl]
    omega
  · rfl

theorem toLower_eq_self {c : Char} (h : ¬(65 ≤ c.toNat ∧ c.toNat ≤ 90)) : c.toLower = c :=
  Char.toNat_inj.1 ((toNat_toLower c).trans (if_neg h))

/-- A character is a space to Python if it is one to Go, or a separator. -/
theorem Python.isSpace_of_go {c : Char} (h : Go.isSpace c) : Python.isSpace c := by
  rw [Python.isSpace, h, Bool.true_or]

/-- What is a space to either is ASCII, or one to both. -/
theorem lt_or_isSpace_of_isSpace {b : Backend} {c : Char} (h : b.isSpace c) :
    c.toNat < 128 ∨ Go.isSpace c := by
  cases b with
  | go => exact Or.inr h
  | python =>
    rw [Backend.isSpace, Python.isSpace, Bool.or_eq_true, Bool.and_eq_true, decide_eq_true_eq,
      decide_eq_true_eq] at h
    rcases h with h | h
    · exact Or.inr h
    · exact Or.inl (by omega)

/-- The letters of ASCII are no spaces. -/
theorem isSpace_eq_false {c : Char} (h : 65 ≤ c.toNat ∧ c.toNat ≤ 122) (b : Backend) :
    b.isSpace c = false := by
  have hgo : Go.isSpace c = false := by
    simp only [Go.isSpace, List.mem_cons, List.not_mem_nil, or_false, Bool.or_eq_false_iff,
      Bool.and_eq_false_iff, decide_eq_false_iff_not]
    omega
  cases b with
  | go => exact hgo
  | python =>
    rw [Backend.isSpace, Python.isSpace, hgo, Bool.false_or, Bool.and_eq_false_iff]
    simp only [decide_eq_false_iff_not]
    omega

/-- **A space in lower case** is a space, and nothing else is. -/
theorem isSpace_toLower (b : Backend) (c : Char) : b.isSpace c.toLower = b.isSpace c := by
  by_cases hupper : 65 ≤ c.toNat ∧ c.toNat ≤ 90
  · have hlower : c.toLower.toNat = c.toNat + 32 := (toNat_toLower c).trans (if_pos hupper)
    rw [isSpace_eq_false (by omega) b, isSpace_eq_false (by omega) b]
  · rw [toLower_eq_self hupper]

theorem toLower_of_isSpace {c : Char} (h : Go.isSpace c) : c.toLower = c := by
  refine toLower_eq_self fun hupper ↦ ?_
  have hfalse := isSpace_eq_false ⟨hupper.1, hupper.2.trans (by omega)⟩ .go
  exact Bool.false_ne_true (hfalse.symm.trans h)

theorem isAsciiClass_anyHexDigits : IsAsciiClass anyHexDigits :=
  List.all_iff_forall_prop.1 (by decide +kernel)

/-- **The digits** are what becomes a small digit. -/
theorem toLower_mem_hexDigits {c : Char} : c.toLower ∈ hexDigits ↔ c ∈ anyHexDigits := by
  have hall : ∀ n < 128, (Char.ofNat n).toLower ∈ hexDigits ↔ Char.ofNat n ∈ anyHexDigits := by
    decide +kernel
  by_cases hascii : c.toNat < 128
  · have hc := hall c.toNat hascii
    rwa [Char.ofNat_toNat] at hc
  · rw [toLower_eq_self (by omega)]
    exact iff_of_false (fun h ↦ hascii (isAsciiClass_hexDigits c h))
      fun h ↦ hascii (isAsciiClass_anyHexDigits c h)

theorem isSpace_of_hexDigits {c : Char} (h : c ∈ anyHexDigits) : Python.isSpace c = false := by
  have hall : ∀ c ∈ anyHexDigits, Python.isSpace c = false :=
    List.all_iff_forall_prop.1 (by decide +kernel)
  exact hall c h

section StripLower

variable {lower : PiecewiseLower} {s : Text} {v : String}

/-- **Plain texts** have one lower case. -/
theorem PiecewiseLower.apply_of_plain (lower : PiecewiseLower) (hs : IsPlain s) :
    lower.apply s = asciiLower s := by
  obtain ⟨ts, hpieces, heq⟩ := lower.pieces s
  rw [heq]
  clear heq
  induction hpieces with
  | nil => rfl
  | cons hx _ ih =>
    obtain ⟨⟨c, rfl, hc⟩, hplain⟩ := List.forall_mem_cons.1 hs
    rw [List.flatten_cons, ih hplain]
    cases hx with
    | ascii _ => rfl
    | space hspace =>
      rw [asciiLower, asciiLower, List.map_cons, Option.map_some, toLower_of_isSpace hspace]
      rfl
    | other hx _ =>
      obtain ⟨hge, hnospace⟩ := hx c rfl
      rcases hc with hlt | hspace
      · omega
      · rw [hnospace] at hspace
        cases hspace

/-- **Only plain texts** become spaces and digits. -/
theorem PiecewiseLower.plain_of_apply (lower : PiecewiseLower)
    (hs : ∀ y ∈ lower.apply s, ∃ c, y = some c ∧ (Python.isSpace c ∨ c ∈ hexDigits)) :
    IsPlain s := by
  obtain ⟨ts, hpieces, heq⟩ := lower.pieces s
  rw [heq] at hs
  clear heq
  induction hpieces with
  | nil => exact fun x hx ↦ absurd hx List.not_mem_nil
  | @cons x t _ _ hx hrest ih =>
    rw [List.flatten_cons, List.forall_mem_append] at hs
    refine List.forall_mem_cons.2 ⟨?_, ih hs.2⟩
    cases hx with
    | ascii hlt => exact ⟨_, rfl, Or.inl hlt⟩
    | space hspace => exact ⟨_, rfl, Or.inr hspace⟩
    | other _ ht =>
      obtain ⟨y, hy, hother⟩ := ht
      obtain ⟨c, rfl, hc⟩ := hs.1 y hy
      obtain ⟨hnospace, hnothex⟩ := hother c rfl
      rcases hc with hspace | hhex
      · rw [hnospace] at hspace
        cases hspace
      · exact absurd hhex hnothex

/-- Digits in lower case come from digits. -/
theorem in_anyHexDigits_of_toLower (hv : ∀ c ∈ v.toList, c ∈ hexDigits)
    (h : asciiLower s = Text.ofString v) : Text.In anyHexDigits s := by
  have hin : Text.In hexDigits (asciiLower s) := by
    rw [h]
    exact Text.in_ofString.2 hv
  intro x hx
  obtain ⟨c', hc', heq⟩ := hin _ (List.mem_map_of_mem hx)
  obtain ⟨c, rfl, rfl⟩ := Option.map_eq_some_iff.1 heq
  exact ⟨c, toLower_mem_hexDigits.1 hc', rfl⟩

/-- A text of digits with spaces around it is plain. -/
theorem plain_of_strip {b : Backend} (hin : Text.In anyHexDigits (b.strip s)) : IsPlain s := by
  intro x hx
  rcases Text.mem_trim_or_space b.isSpace hx with hx | ⟨c, rfl, hc⟩
  · obtain ⟨c, hc, rfl⟩ := hin x hx
    exact ⟨c, rfl, Or.inl (isAsciiClass_anyHexDigits c hc)⟩
  · exact ⟨c, rfl, lt_or_isSpace_of_isSpace hc⟩

/-- **Trimming and lowering** come to the same in either order, as far as digits are concerned. -/
theorem stripLower_eq_ofString_iff (lower : PiecewiseLower) (b : Backend)
    (hv : ∀ c ∈ v.toList, c ∈ hexDigits) :
    b.stripLower lower.toLowerCase s = Text.ofString v ↔
      asciiLower (b.strip s) = Text.ofString v := by
  have hspace : ∀ b' : Backend, ∀ x, (Option.map Char.toLower x).any b'.isSpace =
      x.any b'.isSpace := by
    rintro b' (- | c)
    · rfl
    · exact isSpace_toLower b' c
  have hstrip : ∀ b' : Backend, b'.strip (asciiLower s) = asciiLower (b'.strip s) :=
    fun b' ↦ Text.trim_map (hspace b') s
  have hdigit : ∀ y ∈ Text.ofString v, ∃ c, y = some c ∧ (Python.isSpace c ∨ c ∈ hexDigits) := by
    intro y hy
    obtain ⟨c, hc, rfl⟩ := List.mem_map.1 hy
    exact ⟨c, rfl, Or.inr (hv c hc)⟩
  cases b with
  | go =>
    rw [Backend.stripLower]
    constructor
    · intro h
      -- what is not trimmed away are digits, and the rest are spaces
      have hplain : IsPlain s := lower.plain_of_apply fun y hy ↦ by
        rcases Text.mem_trim_or_space Go.isSpace hy with hy | ⟨c, rfl, hc⟩
        · exact hdigit y (h ▸ hy)
        · exact ⟨c, rfl, Or.inl (Python.isSpace_of_go hc)⟩
      rwa [lower.apply_of_plain hplain, hstrip] at h
    · intro h
      rw [lower.apply_of_plain (plain_of_strip (in_anyHexDigits_of_toLower hv h)), hstrip, h]
  | python =>
    rw [Backend.stripLower]
    have hplain : Text.In anyHexDigits (Backend.python.strip s) →
        IsPlain (Backend.python.strip s) := by
      intro hin x hx
      obtain ⟨c, hc, rfl⟩ := hin x hx
      exact ⟨c, rfl, Or.inl (isAsciiClass_anyHexDigits c hc)⟩
    constructor
    · intro h
      have hs := lower.plain_of_apply fun y hy ↦ hdigit y (h ▸ hy)
      rwa [lower.apply_of_plain hs] at h
    · intro h
      rw [lower.apply_of_plain (hplain (in_anyHexDigits_of_toLower hv h)), h]

end StripLower

/-! ### Agreement -/

/-- One of the four separators of ASCII. -/
def isSeparator (c : Char) : Bool := 0x1c ≤ c.toNat && c.toNat ≤ 0x1f

/-- The text is an identifier with white space of Python around it, among it a separator. -/
def SeparatorPadded (cls : List Char) (minLen maxLen : ℕ) (s : Text) : Prop :=
  ∃ u t w : Text, s = u ++ t ++ w ∧ Text.In cls t ∧ minLen ≤ t.length ∧ t.length ≤ maxLen ∧
    (∀ x ∈ u ++ w, x.any Python.isSpace) ∧ ∃ x ∈ u ++ w, x.any isSeparator

/-- Both backends accept with the same value, or both reject. -/
def Agree {α : Type} (validate : Backend → Except String α) : Prop :=
  (validate .go).toOption = (validate .python).toOption

instance {α : Type} [DecidableEq α] (validate : Backend → Except String α) :
    Decidable (Agree validate) := inferInstanceAs (Decidable (_ = _))

theorem agree_iff {α : Type} {validate : Backend → Except String α} :
    Agree validate ↔ ∀ v, validate .go = .ok v ↔ validate .python = .ok v := by
  rw [Agree, Option.ext_iff]
  refine forall_congr' fun v ↦ ?_
  rcases validate .go with - | a <;> rcases validate .python with - | a' <;>
    simp [Except.toOption]

theorem not_isSpace_of_isSeparator {c : Char} (h : isSeparator c) : Go.isSpace c = false := by
  rw [isSeparator, Bool.and_eq_true, decide_eq_true_eq, decide_eq_true_eq] at h
  simp only [Go.isSpace, List.mem_cons, List.not_mem_nil, or_false, Bool.or_eq_false_iff,
    Bool.and_eq_false_iff, decide_eq_false_iff_not]
  omega

/-- A space of Python that is no separator is one of Go. -/
theorem isSpace_or_isSeparator {c : Char} (h : Python.isSpace c) :
    Go.isSpace c ∨ isSeparator c := by
  rwa [Python.isSpace, Bool.or_eq_true] at h

section Agreement

variable {cls cls' : List Char} {minLen maxLen : ℕ} {s : Text} {f : Char → Char}
  {validate : Backend → Except String String}

/-- Where Go leaves no space of Python, the two leave the same. -/
theorem strip_python_eq (h : ∀ x ∈ Backend.go.strip s, x.any Python.isSpace = false) :
    Backend.python.strip s = Backend.go.strip s := by
  obtain ⟨u, w, heq, huw⟩ := Text.exists_trim Go.isSpace s
  have htrim : Text.trim Python.isSpace (u ++ Backend.go.strip s ++ w) = Backend.go.strip s := by
    refine Text.trim_append (fun x hx ↦ ?_) h
    obtain ⟨c, rfl, hc⟩ := (Option.any_eq_true _ _).1 (huw x hx)
    exact Python.isSpace_of_go hc
  calc Backend.python.strip s
      = Text.trim Python.isSpace (u ++ Backend.go.strip s ++ w) :=
        congrArg (Text.trim Python.isSpace) heq
    _ = Backend.go.strip s := htrim

/-- **Where Python leaves no space**, Go leaves the same if and only if no separator has been
removed. -/
theorem strip_go_eq_iff {u t w : Text} (hs : s = u ++ t ++ w)
    (huw : ∀ x ∈ u ++ w, x.any Python.isSpace) (ht : ∀ x ∈ t, x.any Python.isSpace = false) :
    Backend.go.strip s = t ↔ ∀ x ∈ u ++ w, x.any isSeparator = false := by
  constructor
  · intro h x hx
    have hxs : x ∈ s := by
      rw [hs, List.append_assoc, List.mem_append, List.mem_append]
      exact (List.mem_append.1 hx).imp_right Or.inr
    obtain ⟨c, rfl, hc⟩ := (Option.any_eq_true _ _).1 (huw x hx)
    rcases Text.mem_trim_or_space Go.isSpace hxs with hmem | ⟨c', hc', hgo⟩
    · rw [Backend.strip] at h
      have hspace : (some c).any Python.isSpace = false := ht _ (h ▸ hmem)
      exact absurd hc (Bool.eq_false_iff.1 hspace)
    · obtain rfl := Option.some.inj hc'
      by_contra hsep
      rw [not_isSpace_of_isSeparator (Bool.of_not_eq_false hsep)] at hgo
      cases hgo
  · intro h
    rw [Backend.strip, hs]
    refine Text.trim_append (fun x hx ↦ ?_) fun x hx ↦ ?_
    · obtain ⟨c, rfl, hc⟩ := (Option.any_eq_true _ _).1 (huw x hx)
      exact (isSpace_or_isSeparator hc).resolve_right (Bool.eq_false_iff.1 (h _ hx))
    · cases x with
      | none => rfl
      | some c =>
        refine Bool.eq_false_iff.2 fun hgo ↦ ?_
        exact Bool.eq_false_iff.1 (ht _ hx) (Python.isSpace_of_go hgo)

/-- What becomes a text of a class piece by piece is a text of a class. -/
theorem in_of_map_eq {t : Text} {v : String} (hcls : ∀ c, f c ∈ cls ↔ c ∈ cls')
    (h : t.map (Option.map f) = Text.ofString v) (hv : ∀ c ∈ v.toList, c ∈ cls) :
    Text.In cls' t ∧ t.length = v.length := by
  refine ⟨fun x hx ↦ ?_, by rw [← Text.length_ofString, ← h, List.length_map]⟩
  obtain ⟨c', hc', hxc⟩ := Text.in_ofString.2 hv _ (h ▸ List.mem_map_of_mem hx)
  obtain ⟨c, rfl, rfl⟩ := Option.map_eq_some_iff.1 hxc
  exact ⟨c, (hcls c).1 hc', rfl⟩

/-- And every text of that class becomes one. -/
theorem exists_map_eq {t : Text} (hcls : ∀ c, f c ∈ cls ↔ c ∈ cls') (ht : Text.In cls' t) :
    ∃ v, t.map (Option.map f) = Text.ofString v ∧ v.length = t.length ∧
      ∀ c ∈ v.toList, c ∈ cls := by
  have hmapped : Text.In cls (t.map (Option.map f)) := by
    intro y hy
    obtain ⟨x, hx, rfl⟩ := List.mem_map.1 hy
    obtain ⟨c, hc, rfl⟩ := ht x hx
    exact ⟨f c, (hcls c).2 hc, rfl⟩
  refine ⟨_, hmapped.eq_ofString.symm, ?_, Text.in_ofString.1 (hmapped.eq_ofString.symm ▸ hmapped)⟩
  rw [hmapped.length_toString, List.length_map]

/-- **Where validators agree** that accept the texts of a class after trimming: everywhere but on
texts with a separator around what Python accepts. -/
theorem agree_iff_not_separatorPadded (hcls : ∀ c, f c ∈ cls ↔ c ∈ cls')
    (hspace : ∀ c ∈ cls', Python.isSpace c = false)
    (hvalidate : ∀ b v, validate b = .ok v ↔ (b.strip s).map (Option.map f) = Text.ofString v ∧
      minLen ≤ v.length ∧ v.length ≤ maxLen ∧ ∀ c ∈ v.toList, c ∈ cls) :
    Agree validate ↔ ¬SeparatorPadded cls' minLen maxLen s := by
  have hnospace : ∀ {t : Text}, Text.In cls' t → ∀ x ∈ t, x.any Python.isSpace = false := by
    intro t ht x hx
    obtain ⟨c, hc, rfl⟩ := ht x hx
    exact hspace c hc
  -- what is accepted is a text in the class
  have hin : ∀ {b v}, validate b = .ok v → Text.In cls' (b.strip s) ∧
      minLen ≤ (b.strip s).length ∧ (b.strip s).length ≤ maxLen := by
    intro b v h
    obtain ⟨heq, hmin, hmax, hmem⟩ := (hvalidate b v).1 h
    obtain ⟨ht, hlen⟩ := in_of_map_eq hcls heq hmem
    exact ⟨ht, hlen ▸ hmin, hlen ▸ hmax⟩
  have hsame : ∀ v, Backend.python.strip s = Backend.go.strip s →
      (validate .go = .ok v ↔ validate .python = .ok v) := by
    intro v heq
    rw [hvalidate, hvalidate, heq]
  rw [agree_iff]
  constructor
  · rintro hagree ⟨u, t, w, heq, ht, hmin, hmax, huw, x, hx, hsep⟩
    have hpython : Backend.python.strip s = t := by
      rw [Backend.strip, heq]
      exact Text.trim_append huw (hnospace ht)
    obtain ⟨v, hv, hlen, hmem⟩ := exists_map_eq hcls ht
    have haccepts : validate .python = .ok v :=
      (hvalidate .python v).2 ⟨hpython ▸ hv, hlen ▸ hmin, hlen ▸ hmax, hmem⟩
    have hgo := (hagree v).2 haccepts
    have hstrip := strip_python_eq (hnospace (hin hgo).1)
    have hfalse := (strip_go_eq_iff heq huw (hnospace ht)).1 (hstrip.symm.trans hpython) x hx
    exact Bool.eq_false_iff.1 hfalse hsep
  · intro hpadded v
    refine ⟨fun h ↦ (hsame v (strip_python_eq (hnospace (hin h).1))).1 h,
      fun h ↦ (hsame v (Eq.symm ?_)).2 h⟩
    obtain ⟨u, w, heq, huw⟩ := Text.exists_trim Python.isSpace s
    obtain ⟨ht, hmin, hmax⟩ := hin h
    refine (strip_go_eq_iff heq huw (hnospace ht)).2 fun x hx ↦ ?_
    refine Bool.eq_false_iff.2 fun hsep ↦ ?_
    exact hpadded ⟨u, _, w, heq, ht, hmin, hmax, huw, x, hx, hsep⟩

theorem agree_id_iff (hspace : ∀ c ∈ cls, Python.isSpace c = false)
    (hvalidate : ∀ b v, validate b = .ok v ↔ b.strip s = Text.ofString v ∧
      minLen ≤ v.length ∧ v.length ≤ maxLen ∧ ∀ c ∈ v.toList, c ∈ cls) :
    Agree validate ↔ ¬SeparatorPadded cls minLen maxLen s := by
  refine agree_iff_not_separatorPadded (f := id) (fun _ ↦ Iff.rfl) hspace fun b v ↦ ?_
  rw [Option.map_id, List.map_id]
  exact hvalidate b v

theorem agree_hex_iff (lower : Backend → PiecewiseLower)
    (hvalidate : ∀ b v, validate b = .ok v ↔
      b.stripLower (lower b).toLowerCase s = Text.ofString v ∧
        minLen ≤ v.length ∧ v.length ≤ maxLen ∧ ∀ c ∈ v.toList, c ∈ hexDigits) :
    Agree validate ↔ ¬SeparatorPadded anyHexDigits minLen maxLen s := by
  refine agree_iff_not_separatorPadded (fun _ ↦ toLower_mem_hexDigits)
    (fun _ ↦ isSpace_of_hexDigits) fun b v ↦ ?_
  rw [hvalidate]
  exact and_congr_left fun h ↦ stripLower_eq_ofString_iff (lower b) b h.2.2

end Agreement

/-- **Exactly when the backends agree.** A text is accepted with the same value, or rejected, by
both validators of a kind, unless it is an identifier of that kind with a separator of ASCII among
the white space around it. -/
theorem validators_agree_iff (lower : Backend → PiecewiseLower) (s : Text) :
    (Agree (·.validateVideoID s) ↔ ¬SeparatorPadded videoIDRule.cls 1 16 s) ∧
      (Agree (fun b ↦ b.validateUserID (lower b).toLowerCase s) ↔
        ¬SeparatorPadded anyHexDigits 1 64 s) ∧
      (Agree (·.validateChannelID s) ↔ ¬SeparatorPadded channelIDRule.cls 1 32 s) ∧
      (Agree (fun b ↦ b.validateHashPrefix (lower b).toLowerCase s) ↔
        ¬SeparatorPadded anyHexDigits 4 8 s) := by
  have hcls : ∀ c ∈ videoIDRule.cls, Python.isSpace c = false :=
    List.all_iff_forall_prop.1 (by decide +kernel)
  exact ⟨agree_id_iff hcls fun _ _ ↦ validateVideoID_eq_ok_iff,
    agree_hex_iff lower fun _ _ ↦ validateUserID_eq_ok_iff,
    agree_id_iff hcls fun _ _ ↦ validateChannelID_eq_ok_iff,
    agree_hex_iff lower fun _ _ ↦ validateHashPrefix_eq_ok_iff⟩

/-- The letters of ASCII only, piece by piece. -/
def PiecewiseLower.ascii : PiecewiseLower where
  toLowerCase := .ascii
  pieces s := by
    refine ⟨s.map fun x ↦ [x.map Char.toLower], ?_, ?_⟩
    · rw [List.forall₂_map_right_iff, List.forall₂_same]
      rintro (- | c) -
      · exact .other (fun c hc ↦ by cases hc)
          ⟨none, List.mem_singleton_self _, fun c hc ↦ by cases hc⟩
      · by_cases hascii : c.toNat < 128
        · exact .ascii hascii
        · rw [Option.map_some, toLower_eq_self (by omega)]
          cases hspace : Go.isSpace c with
          | true => exact .space hspace
          | false =>
            refine .other (fun c' hc' ↦ ?_) ⟨some c, List.mem_singleton_self _, fun c' hc' ↦ ?_⟩
            · obtain rfl := Option.some.inj hc'
              exact ⟨Nat.le_of_not_lt hascii, hspace⟩
            · obtain rfl := Option.some.inj hc'
              refine ⟨?_, fun hhex ↦ hascii (isAsciiClass_hexDigits c hhex)⟩
              rw [Python.isSpace, hspace, Bool.false_or, Bool.and_eq_false_iff]
              simp only [decide_eq_false_iff_not]
              omega
    · induction s with
      | nil => rfl
      | cons x s ih => exact congrArg (x.map Char.toLower :: ·) ih

/-- **A video id after a file separator** is accepted by Python only. -/
theorem not_agree_separator : ¬∀ (lower : Backend → PiecewiseLower) (s : Text),
    Agree (·.validateVideoID s) ∧ Agree (fun b ↦ b.validateUserID (lower b).toLowerCase s) ∧
      Agree (·.validateChannelID s) ∧
      Agree (fun b ↦ b.validateHashPrefix (lower b).toLowerCase s) := by
  intro h
  have hvideo := (h (fun _ ↦ .ascii) (Text.ofString "\x1cdQw4w9WgXcQ")).1
  exact absurd hvideo (by decide +kernel)

end RealTube
