import RealTube.Text.Decimal
import Mathlib.Data.String.Basic

/-!
# JSON as text

A document (`JsonDoc`) keeps its numbers as they are written. Writers differ in which characters of
a string they escape, and in what they put after a comma and a colon (`Style`); a reader takes any
of it, and blanks between any two tokens. What is written in any style is read back as it is
(`read_write`).
-/

/-- A JSON document. -/
inductive JsonDoc where
  | null
  | bool (b : Bool)
  | num (l : Literal)
  | str (s : String)
  | arr (items : List JsonDoc)
  | obj (fields : List (String × JsonDoc))

namespace JsonDoc

/-! ### Characters of a string -/

/-- The value of a hexadecimal digit, in either case. -/
def hexDigit (c : Char) : Option ℕ :=
  if '0' ≤ c ∧ c ≤ '9' then some (c.toNat - 48)
  else if 'a' ≤ c ∧ c ≤ 'f' then some (c.toNat - 87)
  else if 'A' ≤ c ∧ c ≤ 'F' then some (c.toNat - 55)
  else none

/-- Four hexadecimal digits, and what follows. -/
def readUnit : List Char → Option (ℕ × List Char)
  | a :: b :: c :: d :: s => do
    let a ← hexDigit a
    let b ← hexDigit b
    let c ← hexDigit c
    let d ← hexDigit d
    some (4096 * a + 256 * b + 16 * c + d, s)
  | _ => none

/-- The escapes of two characters. -/
def shortEscapes : List (Char × Char) :=
  [('"', '"'), ('\\', '\\'), ('b', '\x08'), ('f', '\x0c'), ('n', '\n'), ('r', '\r'), ('t', '\t'),
    ('/', '/')]

/-- The low half of a pair of surrogates, after the high one. -/
def readLow (high : ℕ) : List Char → Option (Char × List Char)
  | '\\' :: 'u' :: s => do
    let low ← readUnit s
    if 0xDC00 ≤ low.1 ∧ low.1 < 0xE000 then
      some (Char.ofNat (0x10000 + (high - 0xD800) * 0x400 + (low.1 - 0xDC00)), low.2)
    else none
  | _ => none

/-- What follows a backslash. -/
def readEscape : List Char → Option (Char × List Char)
  | [] => none
  | c :: s =>
    if c = 'u' then do
      let unit ← readUnit s
      if 0xD800 ≤ unit.1 ∧ unit.1 < 0xDC00 then readLow unit.1 unit.2
      else if 0xDC00 ≤ unit.1 ∧ unit.1 < 0xE000 then none
      else some (Char.ofNat unit.1, unit.2)
    else (shortEscapes.lookup c).map fun c' ↦ (c', s)

/-- A character of a string. Control characters are escaped, and so is the quote that ends it. -/
def readChar : List Char → Option (Char × List Char)
  | [] => none
  | c :: s =>
    if c = '\\' then readEscape s
    else if c = '"' ∨ c.toNat < 32 then none
    else some (c, s)

/-- Four hexadecimal digits. -/
def unitDigits (n : ℕ) : List Char :=
  [Nat.digitChar (n / 4096), Nat.digitChar (n / 256 % 16), Nat.digitChar (n / 16 % 16),
    Nat.digitChar (n % 16)]

/-- `\uXXXX`. -/
def writeUnit (n : ℕ) : List Char := '\\' :: 'u' :: unitDigits n

/-- A character as one unit of UTF-16, or as two. -/
def writeUnits (c : Char) : List Char :=
  if c.toNat < 0x10000 then writeUnit c.toNat
  else writeUnit (0xD800 + (c.toNat - 0x10000) / 0x400) ++
    writeUnit (0xDC00 + (c.toNat - 0x10000) % 0x400)

/-- How documents are written: which characters stand for themselves, and what follows commas and
colons. -/
structure Style where
  plain : Char → Bool
  gap : List Char
  le_of_plain : ∀ c, plain c = true → 32 ≤ c.toNat
  gap_blank : ∀ c ∈ gap, c = ' '

/-- The escapes that are written. -/
def shortEscape (c : Char) : Option Char :=
  if c = '"' then some '"' else if c = '\\' then some '\\' else if c = '\x08' then some 'b'
  else if c = '\x0c' then some 'f' else if c = '\n' then some 'n' else if c = '\r' then some 'r'
  else if c = '\t' then some 't' else none

/-- A character of a string. -/
def Style.escape (st : Style) (c : Char) : List Char :=
  match shortEscape c with
  | some c' => ['\\', c']
  | none => if st.plain c then [c] else writeUnits c

theorem hexDigit_digitChar {n : ℕ} (h : n < 16) : hexDigit (Nat.digitChar n) = some n := by
  have hall : ∀ n < 16, hexDigit (Nat.digitChar n) = some n := by decide
  exact hall n h

/-- A unit is read back. -/
theorem readUnit_unitDigits {n : ℕ} (h : n < 0x10000) (s : List Char) :
    readUnit (unitDigits n ++ s) = some (n, s) := by
  show readUnit (Nat.digitChar (n / 4096) :: Nat.digitChar (n / 256 % 16) ::
    Nat.digitChar (n / 16 % 16) :: Nat.digitChar (n % 16) :: s) = _
  simp only [readUnit, hexDigit_digitChar (show n / 4096 < 16 by omega),
    hexDigit_digitChar (Nat.mod_lt _ (by decide : 0 < 16)), Option.bind_eq_bind, Option.bind_some]
  refine congrArg (fun m ↦ some (m, s)) ?_
  omega

/-- A unit that is not half of a pair. -/
theorem readEscape_unit {n : ℕ} (h : n < 0x10000) (hsurrogate : n < 0xD800 ∨ 0xE000 ≤ n)
    (s : List Char) : readEscape ('u' :: (unitDigits n ++ s)) = some (Char.ofNat n, s) := by
  have hhigh : ¬(0xD800 ≤ n ∧ n < 0xDC00) := by omega
  have hlow : ¬(0xDC00 ≤ n ∧ n < 0xE000) := by omega
  simp only [readEscape, if_true, readUnit_unitDigits h, Option.bind_eq_bind, Option.bind_some,
    if_neg hhigh, if_neg hlow]

/-- A pair of units. -/
theorem readEscape_pair {m n : ℕ} (hm : m < 0x400) (hn : n < 0x400) (s : List Char) :
    readEscape ('u' :: (unitDigits (0xD800 + m) ++ (writeUnit (0xDC00 + n) ++ s))) =
      some (Char.ofNat (0x10000 + m * 0x400 + n), s) := by
  have hhigh : 0xD800 ≤ 0xD800 + m ∧ 0xD800 + m < 0xDC00 := by omega
  have hlow : 0xDC00 ≤ 0xDC00 + n ∧ 0xDC00 + n < 0xE000 := by omega
  have hread : readUnit (unitDigits (0xD800 + m) ++ (writeUnit (0xDC00 + n) ++ s)) =
      some (0xD800 + m, writeUnit (0xDC00 + n) ++ s) := readUnit_unitDigits (by omega) _
  have hreadLow : readUnit (unitDigits (0xDC00 + n) ++ s) = some (0xDC00 + n, s) :=
    readUnit_unitDigits (by omega) _
  simp only [readEscape, if_true, hread, Option.bind_eq_bind, Option.bind_some, if_pos hhigh]
  simp only [writeUnit, List.cons_append, readLow, hreadLow, Option.bind_eq_bind,
    Option.bind_some, if_pos hlow, Nat.add_sub_cancel_left]

/-- **A character in units is read back**, also as a pair of surrogates. -/
theorem readChar_writeUnits (c : Char) (s : List Char) :
    readChar (writeUnits c ++ s) = some (c, s) := by
  have hvalid : c.toNat < 0xD800 ∨ 0xDFFF < c.toNat ∧ c.toNat < 0x110000 := c.valid
  rw [writeUnits]
  split_ifs with h
  -- a character of the basic plane is one unit, and no surrogate
  · have hread := readEscape_unit h (by omega) s
    rw [Char.ofNat_toNat] at hread
    exact hread
  -- any other is a pair, which the reader puts together again
  · have hread := readEscape_pair (m := (c.toNat - 0x10000) / 0x400)
      (n := (c.toNat - 0x10000) % 0x400) (by omega) (by omega) s
    have hsum : 0x10000 + (c.toNat - 0x10000) / 0x400 * 0x400 + (c.toNat - 0x10000) % 0x400 =
        c.toNat := by omega
    rw [hsum, Char.ofNat_toNat] at hread
    rw [List.append_assoc]
    exact hread

theorem lookup_shortEscape {c c' : Char} (h : shortEscape c = some c') :
    c' ≠ 'u' ∧ shortEscapes.lookup c' = some c := by
  rw [shortEscape] at h
  split_ifs at h with h₁ h₂ h₃ h₄ h₅ h₆ h₇
  all_goals
    obtain rfl := Option.some.inj h
    subst c
    decide

theorem shortEscape_ne {c : Char} (h : shortEscape c = none) : c ≠ '"' ∧ c ≠ '\\' := by
  rw [shortEscape] at h
  split_ifs at h with hquote hslash
  exact ⟨hquote, hslash⟩

/-- **Whatever style a character is written in, it is read back.** -/
theorem readChar_escape (st : Style) (c : Char) (s : List Char) :
    readChar (st.escape c ++ s) = some (c, s) := by
  rw [Style.escape]
  split
  · next c' hc' =>
    obtain ⟨hu, hlookup⟩ := lookup_shortEscape hc'
    show readEscape (c' :: s) = _
    rw [readEscape, if_neg hu, hlookup]
    rfl
  · next hc =>
    obtain ⟨hquote, hslash⟩ := shortEscape_ne hc
    split_ifs with hplain
    · have hge := st.le_of_plain c hplain
      show readChar (c :: s) = _
      rw [readChar, if_neg hslash, if_neg fun h ↦ h.elim hquote fun hlt ↦ by omega]
    · exact readChar_writeUnits c s

/-! ### Writing -/

/-- The text of a string. -/
def Style.writeString (st : Style) (s : String) : List Char :=
  '"' :: (s.toList.flatMap st.escape ++ ['"'])

mutual

/-- The text of a document. -/
def write (st : Style) : JsonDoc → List Char
  | null => ['n', 'u', 'l', 'l']
  | bool true => ['t', 'r', 'u', 'e']
  | bool false => ['f', 'a', 'l', 's', 'e']
  | num l => l.write
  | str s => st.writeString s
  | arr [] => ['[', ']']
  | arr (x :: xs) => '[' :: (write st x ++ writeItems st xs)
  | obj [] => ['{', '}']
  | obj ((key, x) :: fields) =>
    '{' :: (st.writeString key ++ (':' :: (st.gap ++ write st x)) ++ writeFields st fields)

/-- The items after the first. -/
def writeItems (st : Style) : List JsonDoc → List Char
  | [] => [']']
  | x :: xs => ',' :: (st.gap ++ write st x ++ writeItems st xs)

/-- The fields after the first. -/
def writeFields (st : Style) : List (String × JsonDoc) → List Char
  | [] => ['}']
  | (key, x) :: fields =>
    ',' :: (st.gap ++ (st.writeString key ++ (':' :: (st.gap ++ write st x))) ++
      writeFields st fields)

end

/-! ### Reading -/

/-- Blanks between tokens. -/
def isBlank (c : Char) : Bool := c = ' ' || c = '\t' || c = '\n' || c = '\r'

/-- The text after blanks. -/
def skip (s : List Char) : List Char := s.dropWhile isBlank

/-- The characters of a string up to the quote, and what follows it. -/
def readChars : ℕ → List Char → Option (List Char × List Char)
  | 0, _ => none
  | fuel + 1, s =>
    if s.head? = some '"' then some ([], s.tail)
    else do
      let c ← readChar s
      let cs ← readChars fuel c.2
      some (c.1 :: cs.1, cs.2)

/-- A key, and the colon. -/
def readKey (fuel : ℕ) : List Char → Option (String × List Char)
  | '"' :: s => do
    let key ← readChars fuel s
    match skip key.2 with
    | ':' :: s => some (String.ofList key.1, skip s)
    | _ => none
  | _ => none

mutual

/-- The document at the front of a text, and what follows. -/
def readValue : ℕ → List Char → Option (JsonDoc × List Char)
  | 0, _ => none
  | fuel + 1, s =>
    match s with
    | 'n' :: 'u' :: 'l' :: 'l' :: s => some (null, s)
    | 't' :: 'r' :: 'u' :: 'e' :: s => some (bool true, s)
    | 'f' :: 'a' :: 'l' :: 's' :: 'e' :: s => some (bool false, s)
    | '"' :: s => (readChars fuel s).map fun x ↦ (str (String.ofList x.1), x.2)
    | '[' :: s =>
      match skip s with
      | ']' :: s => some (arr [], s)
      | s => do
        let x ← readValue fuel s
        let xs ← readItems fuel (skip x.2)
        some (arr (x.1 :: xs.1), xs.2)
    | '{' :: s =>
      match skip s with
      | '}' :: s => some (obj [], s)
      | s => do
        let key ← readKey fuel s
        let x ← readValue fuel key.2
        let fields ← readFields fuel (skip x.2)
        some (obj ((key.1, x.1) :: fields.1), fields.2)
    | s => (Literal.read s).map fun x ↦ (num x.1, x.2)

/-- The items after the first, and what follows the array. -/
def readItems : ℕ → List Char → Option (List JsonDoc × List Char)
  | 0, _ => none
  | fuel + 1, s =>
    match s with
    | ']' :: s => some ([], s)
    | ',' :: s => do
      let x ← readValue fuel (skip s)
      let xs ← readItems fuel (skip x.2)
      some (x.1 :: xs.1, xs.2)
    | _ => none

/-- The fields after the first, and what follows the object. -/
def readFields : ℕ → List Char → Option (List (String × JsonDoc) × List Char)
  | 0, _ => none
  | fuel + 1, s =>
    match s with
    | '}' :: s => some ([], s)
    | ',' :: s => do
      let key ← readKey fuel (skip s)
      let x ← readValue fuel key.2
      let fields ← readFields fuel (skip x.2)
      some ((key.1, x.1) :: fields.1, fields.2)
    | _ => none

end

/-- The document that a text is, with blanks around it. -/
def read (s : List Char) : Option JsonDoc := do
  let x ← readValue (s.length + 1) (skip s)
  if skip x.2 = [] then some x.1 else none

/-! ### Round trips -/

variable {st : Style} {s : List Char}

/-- No blank is in front. -/
theorem skip_eq (h : ∀ c ∈ s.head?, isBlank c = false) : skip s = s := by
  cases s with
  | nil => rfl
  | cons c s => exact List.dropWhile_cons_of_neg (by rw [h c rfl]; decide)

theorem skip_gap (h : ∀ c ∈ s.head?, isBlank c = false) : skip (st.gap ++ s) = s := by
  rw [skip, List.dropWhile_append_of_pos fun c hc ↦ st.gap_blank c hc ▸ rfl]
  exact skip_eq h

/-- A quote is no character of a string. -/
theorem head_escape (st : Style) (c : Char) (s : List Char) :
    (st.escape c ++ s).head? ≠ some '"' := by
  intro h
  obtain ⟨t, ht⟩ := List.head?_eq_some_iff.1 h
  have hread := readChar_escape st c s
  rw [ht] at hread
  cases hread

theorem length_escape (st : Style) (c : Char) : 1 ≤ (st.escape c).length := by
  refine List.length_pos_of_ne_nil fun h ↦ ?_
  have hread := readChar_escape st c []
  rw [h] at hread
  cases hread

/-- **The characters of a string are read back.** -/
theorem readChars_write (st : Style) (cs : List Char) {fuel : ℕ}
    (hfuel : (cs.flatMap st.escape ++ '"' :: s).length ≤ fuel) :
    readChars fuel (cs.flatMap st.escape ++ '"' :: s) = some (cs, s) := by
  induction cs generalizing fuel with
  | nil =>
    obtain ⟨fuel, rfl⟩ : ∃ n, fuel = n + 1 := Nat.exists_eq_add_of_le' ((Nat.le_add_left ..).trans
      hfuel)
    rfl
  | cons c cs ih =>
    have hlength := length_escape st c
    rw [List.flatMap_cons, List.append_assoc, List.length_append] at hfuel
    obtain ⟨fuel, rfl⟩ : ∃ n, fuel = n + 1 := Nat.exists_eq_add_of_le' (by omega)
    rw [List.flatMap_cons, List.append_assoc, readChars, if_neg (head_escape st c _),
      readChar_escape, Option.bind_eq_bind, Option.bind_some, ih (by omega), Option.bind_eq_bind,
      Option.bind_some]

theorem writeString_append (st : Style) (key : String) (s : List Char) :
    st.writeString key ++ s = '"' :: (key.toList.flatMap st.escape ++ '"' :: s) := by
  rw [Style.writeString, List.cons_append, List.append_assoc, List.singleton_append]

/-- A key is read back, with the colon. -/
theorem readKey_write (key : String) (hs : ∀ c ∈ s.head?, isBlank c = false) {fuel : ℕ}
    (hfuel : (st.writeString key ++ ':' :: (st.gap ++ s)).length ≤ fuel) :
    readKey fuel (st.writeString key ++ ':' :: (st.gap ++ s)) = some (key, s) := by
  rw [writeString_append] at hfuel ⊢
  have hchars := readChars_write st key.toList ((Nat.le_add_right ..).trans hfuel)
  have hskip : skip (':' :: (st.gap ++ s)) = ':' :: (st.gap ++ s) :=
    skip_eq fun c hc ↦ Option.some.inj hc ▸ rfl
  simp only [readKey, hchars, Option.bind_eq_bind, Option.bind_some, hskip, skip_gap hs,
    String.ofList_toList]

/-- What a document begins with. -/
theorem exists_write_eq (st : Style) (d : JsonDoc) : ∃ c s, write st d = c :: s ∧
    isBlank c = false ∧ c ≠ ']' ∧ c ≠ '}' := by
  have hdigit {c : Char} (h : c.isDigit = true) : isBlank c = false ∧ c ≠ ']' ∧ c ≠ '}' := by
    refine ⟨?_, ?_, ?_⟩
    · simp only [isBlank, Bool.or_eq_false_iff, decide_eq_false_iff_not]
      refine ⟨⟨⟨?_, ?_⟩, ?_⟩, ?_⟩ <;> rintro rfl <;> revert h <;> decide
    · rintro rfl
      revert h
      decide
    · rintro rfl
      revert h
      decide
  match d with
  | null => exact ⟨_, _, rfl, by decide⟩
  | bool true => exact ⟨_, _, rfl, by decide⟩
  | bool false => exact ⟨_, _, rfl, by decide⟩
  | num l =>
    obtain ⟨c, ds, hds⟩ := List.exists_cons_of_ne_nil l.whole.2.1
    have hc : c.isDigit = true := l.whole.2.2 c (hds ▸ List.mem_cons_self)
    rw [write, Literal.write, hds]
    split_ifs
    · exact ⟨_, _, rfl, by decide⟩
    · exact ⟨_, _, rfl, hdigit hc⟩
  | str s => exact ⟨_, _, rfl, by decide⟩
  | arr [] => exact ⟨_, _, rfl, by decide⟩
  | arr (x :: xs) => exact ⟨_, _, rfl, by decide⟩
  | obj [] => exact ⟨_, _, rfl, by decide⟩
  | obj ((key, x) :: fields) => exact ⟨_, _, rfl, by decide⟩

theorem head_write (st : Style) (d : JsonDoc) (s : List Char) :
    ∀ c ∈ (write st d ++ s).head?, isBlank c = false := by
  obtain ⟨c, t, ht, hblank, -⟩ := exists_write_eq st d
  rw [ht]
  exact fun c' hc' ↦ Option.some.inj hc' ▸ hblank

/-- A number is tried when nothing else fits. -/
theorem readValue_num (l : Literal) (hs : Literal.Ends s) (fuel : ℕ) :
    readValue (fuel + 1) (l.write ++ s) = some (num l, s) := by
  have hread := Literal.read_write l hs
  obtain ⟨c, ds, hds⟩ := List.exists_cons_of_ne_nil l.whole.2.1
  have hc : c.isDigit = true := l.whole.2.2 c (hds ▸ List.mem_cons_self)
  obtain ⟨c', t, ht, hc'⟩ : ∃ c' t, l.write ++ s = c' :: t ∧ (c' = '-' ∨ c'.isDigit = true) := by
    rw [Literal.write, hds]
    split_ifs
    · exact ⟨_, _, rfl, Or.inl rfl⟩
    · exact ⟨_, _, rfl, Or.inr hc⟩
  have hne {c'' : Char} (h : c' = c'') : c'' = '-' ∨ c''.isDigit = true := h ▸ hc'
  rw [ht] at hread ⊢
  unfold readValue
  -- a sign or a digit is none of the characters that other documents begin with
  split
  all_goals first
    | next heq => exact absurd (hne (List.cons.inj heq).1) (by decide)
    | rw [hread, Option.map_some]

theorem ends_writeItems (st : Style) (xs : List JsonDoc) (s : List Char) :
    Literal.Ends (writeItems st xs ++ s) ∧
      ∀ c ∈ (writeItems st xs ++ s).head?, isBlank c = false := by
  cases xs with
  | nil => exact ⟨fun c hc ↦ Option.some.inj hc ▸ by decide, fun c hc ↦ Option.some.inj hc ▸ rfl⟩
  | cons x xs =>
    exact ⟨fun c hc ↦ Option.some.inj hc ▸ by decide, fun c hc ↦ Option.some.inj hc ▸ rfl⟩

theorem ends_writeFields (st : Style) (fields : List (String × JsonDoc)) (s : List Char) :
    Literal.Ends (writeFields st fields ++ s) ∧
      ∀ c ∈ (writeFields st fields ++ s).head?, isBlank c = false := by
  obtain - | ⟨⟨key, x⟩, fields⟩ := fields
  · exact ⟨fun c hc ↦ Option.some.inj hc ▸ by decide, fun c hc ↦ Option.some.inj hc ▸ rfl⟩
  · exact ⟨fun c hc ↦ Option.some.inj hc ▸ by decide, fun c hc ↦ Option.some.inj hc ▸ rfl⟩

/-- An array is read item by item. -/
theorem readValue_bracket (fuel : ℕ) (hhead : ∀ c ∈ s.head?, isBlank c = false ∧ c ≠ ']') :
    readValue (fuel + 1) ('[' :: s) = (do
      let x ← readValue fuel s
      let xs ← readItems fuel (skip x.2)
      some (arr (x.1 :: xs.1), xs.2)) := by
  show (match skip s with
    | ']' :: s => some (arr [], s)
    | s => _ : Option (JsonDoc × List Char)) = _
  rw [skip_eq fun c hc ↦ (hhead c hc).1]
  split
  · exact absurd rfl (hhead ']' rfl).2
  · rfl

/-- An object is read field by field. -/
theorem readValue_brace (fuel : ℕ) (hhead : ∀ c ∈ s.head?, isBlank c = false ∧ c ≠ '}') :
    readValue (fuel + 1) ('{' :: s) = (do
      let key ← readKey fuel s
      let x ← readValue fuel key.2
      let fields ← readFields fuel (skip x.2)
      some (obj ((key.1, x.1) :: fields.1), fields.2)) := by
  show (match skip s with
    | '}' :: s => some (obj [], s)
    | s => _ : Option (JsonDoc × List Char)) = _
  rw [skip_eq fun c hc ↦ (hhead c hc).1]
  split
  · exact absurd rfl (hhead '}' rfl).2
  · rfl

mutual

/-- **A document is read back**, from enough fuel. -/
theorem readValue_write (st : Style) : ∀ (d : JsonDoc) {fuel : ℕ} {s : List Char},
    Literal.Ends s → (write st d ++ s).length ≤ fuel →
      readValue fuel (write st d ++ s) = some (d, s)
  | d, 0, s, _, hfuel => by
    obtain ⟨c, t, ht, -⟩ := exists_write_eq st d
    rw [ht] at hfuel
    exact absurd hfuel (Nat.not_succ_le_zero _)
  | null, _ + 1, _, _, _ => rfl
  | bool true, _ + 1, _, _, _ => rfl
  | bool false, _ + 1, _, _, _ => rfl
  | num l, fuel + 1, _, hs, _ => readValue_num l hs fuel
  | str t, fuel + 1, s, _, hfuel => by
    rw [write, writeString_append] at hfuel ⊢
    have hchars := readChars_write st t.toList (Nat.le_of_succ_le_succ hfuel)
    show Option.map _ (readChars fuel _) = _
    rw [hchars, Option.map_some, String.ofList_toList]
  | arr [], _ + 1, _, _, _ => rfl
  | arr (x :: xs), fuel + 1, s, _, hfuel => by
    obtain ⟨c, t, ht, hblank, hne, -⟩ := exists_write_eq st x
    have htext : write st (arr (x :: xs)) ++ s =
        '[' :: (write st x ++ (writeItems st xs ++ s)) := by
      rw [write, List.cons_append, List.append_assoc]
    rw [htext] at hfuel ⊢
    have hfuel' := Nat.le_of_succ_le_succ hfuel
    -- the first item is not taken for the end of the array
    have hhead : ∀ c ∈ (write st x ++ (writeItems st xs ++ s)).head?,
        isBlank c = false ∧ c ≠ ']' := by
      rw [ht]
      exact fun c' hc' ↦ Option.some.inj hc' ▸ ⟨hblank, hne⟩
    have hitems := ends_writeItems st xs s
    rw [readValue_bracket fuel hhead, readValue_write st x hitems.1 hfuel', Option.bind_eq_bind,
      Option.bind_some, skip_eq hitems.2,
      readItems_write st xs ((List.length_append ▸ Nat.le_add_left ..).trans hfuel'),
      Option.bind_eq_bind, Option.bind_some]
  | obj [], _ + 1, _, _, _ => rfl
  | obj ((key, x) :: fields), fuel + 1, s, _, hfuel => by
    have htext : write st (obj ((key, x) :: fields)) ++ s = '{' :: (st.writeString key ++
        ':' :: (st.gap ++ (write st x ++ (writeFields st fields ++ s)))) := by
      simp only [write, List.cons_append, List.append_assoc]
    rw [htext] at hfuel ⊢
    have hfuel' := Nat.le_of_succ_le_succ hfuel
    have hhead : ∀ c ∈ (st.writeString key ++ ':' :: (st.gap ++ (write st x ++
        (writeFields st fields ++ s)))).head?, isBlank c = false ∧ c ≠ '}' :=
      fun c hc ↦ Option.some.inj hc ▸ by decide
    have hfields := ends_writeFields st fields s
    have hlen : (write st x ++ (writeFields st fields ++ s)).length ≤ fuel := by
      simp only [List.length_append, List.length_cons] at hfuel' ⊢
      omega
    rw [readValue_brace fuel hhead, readKey_write key (head_write st x _) hfuel',
      Option.bind_eq_bind, Option.bind_some, readValue_write st x hfields.1 hlen,
      Option.bind_eq_bind, Option.bind_some, skip_eq hfields.2,
      readFields_write st fields ((List.length_append ▸ Nat.le_add_left ..).trans hlen),
      Option.bind_eq_bind, Option.bind_some]

theorem readItems_write (st : Style) : ∀ (xs : List JsonDoc) {fuel : ℕ} {s : List Char},
    (writeItems st xs ++ s).length ≤ fuel →
      readItems fuel (writeItems st xs ++ s) = some (xs, s)
  | [], 0, _, hfuel => absurd hfuel (Nat.not_succ_le_zero _)
  | _ :: _, 0, _, hfuel => absurd hfuel (Nat.not_succ_le_zero _)
  | [], _ + 1, _, _ => rfl
  | x :: xs, fuel + 1, s, hfuel => by
    have htext : writeItems st (x :: xs) ++ s =
        ',' :: (st.gap ++ (write st x ++ (writeItems st xs ++ s))) := by
      simp only [writeItems, List.cons_append, List.append_assoc]
    rw [htext] at hfuel ⊢
    have hlen : (write st x ++ (writeItems st xs ++ s)).length ≤ fuel := by
      simp only [List.length_append, List.length_cons] at hfuel ⊢
      omega
    have hitems := ends_writeItems st xs s
    show (do
      let x ← readValue fuel (skip _)
      let xs ← readItems fuel (skip x.2)
      some (x.1 :: xs.1, xs.2)) = _
    rw [skip_gap (head_write st x _), readValue_write st x hitems.1 hlen, Option.bind_eq_bind,
      Option.bind_some, skip_eq hitems.2,
      readItems_write st xs ((List.length_append ▸ Nat.le_add_left ..).trans hlen),
      Option.bind_eq_bind, Option.bind_some]

theorem readFields_write (st : Style) : ∀ (fields : List (String × JsonDoc)) {fuel : ℕ}
    {s : List Char}, (writeFields st fields ++ s).length ≤ fuel →
      readFields fuel (writeFields st fields ++ s) = some (fields, s)
  | [], 0, _, hfuel => absurd hfuel (Nat.not_succ_le_zero _)
  | (_, _) :: _, 0, _, hfuel => absurd hfuel (Nat.not_succ_le_zero _)
  | [], _ + 1, _, _ => rfl
  | (key, x) :: fields, fuel + 1, s, hfuel => by
    have htext : writeFields st ((key, x) :: fields) ++ s = ',' :: (st.gap ++ (st.writeString key ++
        ':' :: (st.gap ++ (write st x ++ (writeFields st fields ++ s))))) := by
      simp only [writeFields, List.cons_append, List.append_assoc]
    rw [htext] at hfuel ⊢
    have hlenKey : (st.writeString key ++ ':' :: (st.gap ++ (write st x ++
        (writeFields st fields ++ s)))).length ≤ fuel := by
      simp only [List.length_append, List.length_cons] at hfuel ⊢
      omega
    have hlen : (write st x ++ (writeFields st fields ++ s)).length ≤ fuel := by
      simp only [List.length_append, List.length_cons] at hlenKey ⊢
      omega
    have hhead : ∀ c ∈ (st.writeString key ++ ':' :: (st.gap ++ (write st x ++
        (writeFields st fields ++ s)))).head?, isBlank c = false :=
      fun c hc ↦ Option.some.inj hc ▸ rfl
    have hfields := ends_writeFields st fields s
    show (do
      let key ← readKey fuel (skip _)
      let x ← readValue fuel key.2
      let fields ← readFields fuel (skip x.2)
      some ((key.1, x.1) :: fields.1, fields.2)) = _
    rw [skip_gap hhead, readKey_write key (head_write st x _) hlenKey, Option.bind_eq_bind,
      Option.bind_some, readValue_write st x hfields.1 hlen, Option.bind_eq_bind,
      Option.bind_some, skip_eq hfields.2,
      readFields_write st fields ((List.length_append ▸ Nat.le_add_left ..).trans hlen),
      Option.bind_eq_bind, Option.bind_some]

end

/-- **What is written is read back**, in whatever style. -/
theorem read_write (st : Style) (d : JsonDoc) : read (write st d) = some d := by
  have hfuel : (write st d ++ []).length ≤ (write st d).length + 1 := by
    rw [List.append_nil]
    exact Nat.le_succ _
  have hvalue := readValue_write st d (fun c hc ↦ by cases hc) hfuel
  have hskip := skip_eq (head_write st d [])
  rw [List.append_nil] at hvalue hskip
  rw [read, hskip, hvalue]
  rfl

end JsonDoc
