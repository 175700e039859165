import RealTube.Text.Calendar
import Mathlib.Algebra.Order.Field.Rat
import Mathlib.Algebra.Order.Group.Int
import Mathlib.Data.List.TakeWhile
import Mathlib.Tactic.FieldSimp

/-!
# Numbers as decimals

A `Literal` is a number as JSON writes it: an optional minus, digits without a zero in front,
perhaps a fraction, perhaps an exponent. It carries the proof that it is one, and is read back as it
is (`Literal.read_write`).

A `Decimal` is digits and the place of the point. It is laid out as a literal in two ways, in full
(`Decimal.fixed`) or with an exponent (`Decimal.scientific`), and either has its value.

A `FloatFormat` is a set of numbers with a decimal for each of them that is rounded back to it: a
format of floating point, as far as printing and reading go.
-/

/-! ### Digits -/

/-- Some digits. -/
abbrev Digits : Type := { s : List Char // s ≠ [] ∧ ∀ c ∈ s, c.isDigit = true }

/-- The digits at the front, and what follows. -/
def readDigits (s : List Char) : Option (Digits × List Char) :=
  if h : s.takeWhile Char.isDigit ≠ [] then
    some (⟨s.takeWhile Char.isDigit, h, fun _ hc ↦ List.mem_takeWhile_imp hc⟩,
      s.dropWhile Char.isDigit)
  else none

/-- Digits are read up to where they end. -/
theorem readDigits_append (ds : Digits) {s : List Char}
    (hs : ∀ c ∈ s.head?, c.isDigit = false) : readDigits (ds.1 ++ s) = some (ds, s) := by
  have htail : s.takeWhile Char.isDigit = [] ∧ s.dropWhile Char.isDigit = s := by
    cases s with
    | nil => exact ⟨rfl, rfl⟩
    | cons c s => simp [hs c rfl]
  have htake : (ds.1 ++ s).takeWhile Char.isDigit = ds.1 := by
    rw [List.takeWhile_append_of_pos ds.2.2, htail.1, List.append_nil]
  have hdrop : (ds.1 ++ s).dropWhile Char.isDigit = s := by
    rw [List.dropWhile_append_of_pos ds.2.2, htail.2]
  simp only [readDigits, htake, hdrop]
  rw [dif_pos ds.2.1]

/-- The digits of a number. -/
def natDigits (n : ℕ) : Digits :=
  ⟨Nat.toDigits 10 n, Nat.toDigits_ne_nil, fun _ hc ↦
    Nat.isDigit_of_mem_toDigits (by decide) (by decide) hc⟩

theorem digitsValue_natDigits (n : ℕ) : digitsValue (natDigits n).1 = n :=
  Nat.ofDigitChars_ten_toDigits

theorem digitsValue_append (s t : List Char) :
    digitsValue (s ++ t) = 10 ^ t.length * digitsValue s + digitsValue t :=
  (Nat.ofDigitChars_append 0).trans Nat.ofDigitChars_eq_ofDigitChars_zero

theorem digitsValue_replicate (n : ℕ) : digitsValue (List.replicate n '0') = 0 :=
  Nat.ofDigitChars_replicate_zero

/-- A number has no zero in front, unless it is zero. -/
theorem head_natDigits {n : ℕ} (h : (natDigits n).1.head? = some '0') : n = 0 := by
  induction n using Nat.strong_induction_on with
  | _ n ih =>
    change (Nat.toDigits 10 n).head? = _ at h
    obtain hlt | hge := Nat.lt_or_ge n 10
    · have hall : ∀ n < 10, (Nat.toDigits 10 n).head? = some '0' → n = 0 := by decide
      exact hall n hlt h
    · rw [Nat.toDigits_of_base_le (by decide) hge,
        List.head?_append_of_ne_nil _ Nat.toDigits_ne_nil] at h
      have := ih (n / 10) (Nat.div_lt_self (by omega) (by decide)) h
      omega

/-- The digit of zero. -/
def zeroDigit : Digits := ⟨['0'], List.cons_ne_nil _ _, List.forall_mem_singleton.2 rfl⟩

/-! ### Literals -/

/-- A number, as JSON writes it. -/
structure Literal where
  negative : Bool
  whole : Digits
  fraction : Option Digits
  exponent : Option (Bool × Digits)
  whole_eq : whole.1.head? = some '0' → whole.1 = ['0']

namespace Literal

/-- The text of a literal. -/
def write (l : Literal) : List Char :=
  (if l.negative then ['-'] else []) ++ (l.whole.1 ++
    ((l.fraction.elim [] fun ds ↦ '.' :: ds.1) ++
      l.exponent.elim [] fun e ↦ 'e' :: (if e.1 then '-' else '+') :: e.2.1))

/-- The fraction, if there is one. -/
def readFraction : List Char → Option (Option Digits × List Char)
  | '.' :: s => (readDigits s).map fun x ↦ (some x.1, x.2)
  | s => some (none, s)

/-- The sign of an exponent, and what follows. -/
def readSign : List Char → Bool × List Char
  | '-' :: s => (true, s)
  | '+' :: s => (false, s)
  | s => (false, s)

/-- The exponent, if there is one. -/
def readExponent : List Char → Option (Option (Bool × Digits) × List Char)
  | [] => some (none, [])
  | c :: s =>
    if c = 'e' ∨ c = 'E' then
      (readDigits (readSign s).2).map fun x ↦ (some ((readSign s).1, x.1), x.2)
    else some (none, c :: s)

/-- The minus, if there is one. -/
def readMinus : List Char → Bool × List Char
  | '-' :: s => (true, s)
  | s => (false, s)

/-- The literal at the front of a text, and what follows. -/
def read (s : List Char) : Option (Literal × List Char) := do
  let whole ← readDigits (readMinus s).2
  let fraction ← readFraction whole.2
  let exponent ← readExponent fraction.2
  if h : whole.1.1.head? = some '0' → whole.1.1 = ['0'] then
    some (⟨(readMinus s).1, whole.1, fraction.1, exponent.1, h⟩, exponent.2)
  else none

/-- The number that is written. -/
def value (l : Literal) : ℚ :=
  (if l.negative then -1 else 1) *
    digitsValue (l.whole.1 ++ l.fraction.elim [] Subtype.val) *
    10 ^ (l.exponent.elim 0 (fun e ↦ (if e.1 then -1 else 1) * (digitsValue e.2.1 : ℤ)) -
      (l.fraction.elim 0 fun ds ↦ (ds.1.length : ℤ)))

/-- The literal has neither a fraction nor an exponent. -/
def isInteger (l : Literal) : Bool := l.fraction.isNone && l.exponent.isNone

/-- An integer. -/
def ofInt (n : ℤ) : Literal where
  negative := n < 0
  whole := natDigits n.natAbs
  fraction := none
  exponent := none
  whole_eq h := by rw [head_natDigits h]; rfl

/-- What follows a literal does not go on with it. -/
def Ends (s : List Char) : Prop := ∀ c ∈ s.head?, c.isDigit = false ∧ c ≠ '.' ∧ c ≠ 'e' ∧ c ≠ 'E'

theorem readMinus_write (negative : Bool) (ds : Digits) (s : List Char) :
    readMinus ((if negative then ['-'] else []) ++ (ds.1 ++ s)) = (negative, ds.1 ++ s) := by
  cases negative with
  | true => rfl
  | false =>
    obtain ⟨_ | ⟨c, cs⟩, hne, hdigits⟩ := ds
    · exact absurd rfl hne
    · have hc : c ≠ '-' := by
        rintro rfl
        exact absurd (hdigits '-' (List.mem_cons_self ..)) (by decide)
      show readMinus (c :: (cs ++ s)) = _
      rw [readMinus]
      · rfl
      · exact fun _ h ↦ hc (List.cons.inj h).1

theorem readExponent_write (exponent : Option (Bool × Digits)) {s : List Char} (hs : Ends s) :
    readExponent ((exponent.elim [] fun e ↦ 'e' :: (if e.1 then '-' else '+') :: e.2.1) ++ s) =
      some (exponent, s) := by
  cases exponent with
  | none =>
    cases s with
    | nil => rfl
    | cons c s => exact if_neg fun h ↦ h.elim (hs c rfl).2.2.1 (hs c rfl).2.2.2
  | some e =>
    obtain ⟨negative, ds⟩ := e
    have hdigits := readDigits_append ds fun c hc ↦ (hs c hc).1
    cases negative <;> simp [readExponent, readSign, hdigits]

theorem readFraction_write (fraction : Option Digits) {s : List Char}
    (hs : ∀ c ∈ s.head?, c.isDigit = false ∧ c ≠ '.') :
    readFraction ((fraction.elim [] fun ds ↦ '.' :: ds.1) ++ s) = some (fraction, s) := by
  cases fraction with
  | none =>
    cases s with
    | nil => rfl
    | cons c s =>
      show readFraction (c :: s) = _
      rw [readFraction]
      exact fun _ h ↦ (hs c rfl).2 (List.cons.inj h).1
  | some ds =>
    show Option.map _ (readDigits (ds.1 ++ s)) = _
    rw [readDigits_append ds fun c hc ↦ (hs c hc).1]
    rfl

/-- **A literal is read back.** -/
theorem read_write (l : Literal) {s : List Char} (hs : Ends s) :
    read (l.write ++ s) = some (l, s) := by
  obtain ⟨negative, whole, fraction, exponent, hwhole⟩ := l
  have hexponent := readExponent_write exponent hs
  have hafterWhole : ∀ c ∈ ((exponent.elim [] fun e ↦
      'e' :: (if e.1 then '-' else '+') :: e.2.1) ++ s).head?, c.isDigit = false ∧ c ≠ '.' := by
    cases exponent with
    | none => exact fun c hc ↦ ⟨(hs c hc).1, (hs c hc).2.1⟩
    | some e =>
      intro c hc
      obtain rfl := Option.some.inj hc
      decide
  have hfraction := readFraction_write fraction hafterWhole
  have hdigits := readDigits_append whole (s := (fraction.elim [] fun ds ↦ '.' :: ds.1) ++
      ((exponent.elim [] fun e ↦ 'e' :: (if e.1 then '-' else '+') :: e.2.1) ++ s)) (by
    cases fraction with
    | none => exact fun c hc ↦ (hafterWhole c hc).1
    | some ds =>
      intro c hc
      obtain rfl := Option.some.inj hc
      decide)
  simp only [write, List.append_assoc]
  simp only [read, readMinus_write, hdigits, hfraction, hexponent, Option.bind_eq_bind,
    Option.bind_some]
  exact dif_pos hwhole

theorem isInteger_ofInt (n : ℤ) : (ofInt n).isInteger = true := rfl

theorem value_ofInt (n : ℤ) : (ofInt n).value = n := by
  have hvalue : digitsValue ((ofInt n).whole.1 ++ []) = n.natAbs := by
    rw [List.append_nil]
    exact digitsValue_natDigits _
  show (if (decide (n < 0)) = true then (-1 : ℚ) else 1) * digitsValue ((ofInt n).whole.1 ++ []) *
    10 ^ ((0 : ℤ) - 0) = n
  rw [hvalue, sub_zero, zpow_zero, mul_one]
  split_ifs with h
  · have hneg : (n.natAbs : ℤ) = -n := Int.ofNat_natAbs_of_nonpos (of_decide_eq_true h).le
    rw [neg_one_mul, ← Int.cast_natCast, hneg, Int.cast_neg, neg_neg]
  · have hpos : (n.natAbs : ℤ) = n :=
      Int.natAbs_of_nonneg (not_lt.1 fun hlt ↦ h (decide_eq_true hlt))
    rw [one_mul, ← Int.cast_natCast, hpos]

end Literal

/-! ### Decimals -/

/-- Digits, and where the point is: `0.d₁d₂… × 10 ^ point`. -/
structure Decimal where
  negative : Bool
  digits : Digits
  point : ℤ
  normal : digits.1.head? = some '0' → digits.1 = ['0'] ∧ point = 1

/-- Digits, if there are any. -/
def someDigits (s : List Char) (h : ∀ c ∈ s, c.isDigit = true) : Option Digits :=
  if hne : s ≠ [] then some ⟨s, hne, h⟩ else none

theorem elim_someDigits {s : List Char} (h : ∀ c ∈ s, c.isDigit = true) :
    (someDigits s h).elim [] Subtype.val = s := by
  rw [someDigits]
  split_ifs with hne
  · rfl
  · exact (not_not.1 hne).symm

theorem elim_length_someDigits {s : List Char} (h : ∀ c ∈ s, c.isDigit = true) :
    ((someDigits s h).elim 0 fun ds ↦ (ds.1.length : ℤ)) = s.length := by
  rw [someDigits]
  split_ifs with hne
  · rfl
  · rw [not_not.1 hne]
    rfl

namespace Decimal

variable (d : Decimal)

/-- The number. -/
def value : ℚ :=
  (if d.negative then -1 else 1) * digitsValue d.digits.1 * 10 ^ (d.point - d.digits.1.length)

/-- The digits before the point, in full. -/
def wholeDigits : List Char :=
  if d.point ≤ 0 then ['0']
  else d.digits.1.take d.point.toNat ++
    List.replicate (d.point.toNat - d.digits.1.length) '0'

/-- The digits after the point, in full. -/
def fractionDigits : List Char :=
  if d.point ≤ 0 then List.replicate (-d.point).toNat '0' ++ d.digits.1
  else d.digits.1.drop d.point.toNat

theorem isDigit_wholeDigits : d.wholeDigits ≠ [] ∧ ∀ c ∈ d.wholeDigits, c.isDigit = true := by
  obtain ⟨hne, hdigits⟩ := d.digits.2
  rw [wholeDigits]
  split_ifs with h
  · exact zeroDigit.2
  · refine ⟨fun hnil ↦ ?_, fun c hc ↦ ?_⟩
    · have htake := (List.append_eq_nil_iff.1 hnil).1
      obtain hzero | hnil := List.take_eq_nil_iff.1 htake
      · omega
      · exact hne hnil
    · obtain hc | hc := List.mem_append.1 hc
      · exact hdigits c (List.mem_of_mem_take hc)
      · rw [List.eq_of_mem_replicate hc]
        rfl

theorem isDigit_fractionDigits : ∀ c ∈ d.fractionDigits, c.isDigit = true := by
  rw [fractionDigits]
  intro c hc
  split_ifs at hc
  · obtain hc | hc := List.mem_append.1 hc
    · rw [List.eq_of_mem_replicate hc]
      rfl
    · exact d.digits.2.2 c hc
  · exact d.digits.2.2 c (List.mem_of_mem_drop hc)

theorem wholeDigits_eq (h : d.wholeDigits.head? = some '0') : d.wholeDigits = ['0'] := by
  rw [wholeDigits] at h ⊢
  split_ifs with hpoint
  · rfl
  · rw [if_neg hpoint] at h
    obtain ⟨c, s, hds⟩ := List.exists_cons_of_ne_nil d.digits.2.1
    obtain ⟨n, hn⟩ : ∃ n, d.point.toNat = n + 1 := ⟨d.point.toNat - 1, by omega⟩
    have hhead : d.digits.1.head? = some '0' := by
      rw [hds, hn] at h
      rw [hds]
      exact h
    obtain ⟨hdigits, hone⟩ := d.normal hhead
    rw [hdigits, hone]
    rfl

/-- The digits in full. -/
theorem value_digits : (digitsValue (d.wholeDigits ++ d.fractionDigits) : ℚ) *
    10 ^ (-(d.fractionDigits.length : ℤ)) =
      digitsValue d.digits.1 * 10 ^ (d.point - d.digits.1.length) := by
  rw [wholeDigits, fractionDigits]
  split_ifs with hpoint
  · have hvalue : digitsValue (['0'] ++ (List.replicate (-d.point).toNat '0' ++ d.digits.1)) =
        digitsValue d.digits.1 := by
      rw [digitsValue_append, digitsValue_append, digitsValue_replicate,
        show digitsValue ['0'] = 0 from rfl, mul_zero, zero_add, mul_zero, zero_add]
    have hexponent : -((List.replicate (-d.point).toNat '0' ++ d.digits.1).length : ℤ) =
        d.point - d.digits.1.length := by
      rw [List.length_append, List.length_replicate]
      omega
    rw [hvalue, hexponent]
  · obtain hlt | hge := Nat.lt_or_ge d.point.toNat d.digits.1.length
    · have hexponent : -((d.digits.1.drop d.point.toNat).length : ℤ) =
          d.point - d.digits.1.length := by
        rw [List.length_drop]
        omega
      rw [Nat.sub_eq_zero_of_le hlt.le, List.replicate_zero, List.append_nil,
        List.take_append_drop, hexponent]
    · have hexponent : d.point - (d.digits.1.length : ℤ) =
          (d.point.toNat - d.digits.1.length : ℕ) := by omega
      rw [List.take_of_length_le hge, List.drop_of_length_le hge, List.append_nil,
        digitsValue_append, digitsValue_replicate, List.length_replicate, add_zero, hexponent,
        zpow_natCast, List.length_nil, Nat.cast_zero, neg_zero, zpow_zero, mul_one, Nat.cast_mul,
        Nat.cast_pow, Nat.cast_ofNat, mul_comm]

/-- In full. Where there is no fraction, `dot` says whether to write `.0`. -/
def fixed (dot : Bool) : Literal where
  negative := d.negative
  whole := ⟨d.wholeDigits, d.isDigit_wholeDigits⟩
  fraction :=
    if d.fractionDigits = [] ∧ dot then some zeroDigit
    else someDigits d.fractionDigits d.isDigit_fractionDigits
  exponent := none
  whole_eq := d.wholeDigits_eq

/-- With an exponent, whose digits are written by `exponentDigits`. -/
def scientific (exponentDigits : ℕ → Digits) : Literal where
  negative := d.negative
  whole := ⟨[d.digits.1.head d.digits.2.1], List.cons_ne_nil _ _, fun _ hc ↦
    List.mem_singleton.1 hc ▸ d.digits.2.2 _ (List.head_mem _)⟩
  fraction := someDigits d.digits.1.tail fun c hc ↦ d.digits.2.2 c (List.mem_of_mem_tail hc)
  exponent := some (d.point - 1 < 0, exponentDigits (d.point - 1).natAbs)
  whole_eq h := congrArg ([·]) (Option.some.inj h)

/-- **Laid out in full**, a decimal has its value. -/
theorem value_fixed (dot : Bool) : (d.fixed dot).value = d.value := by
  have hvalue := d.value_digits
  rw [Literal.value, value, mul_assoc, mul_assoc, ← hvalue]
  refine congrArg _ ?_
  by_cases hdot : d.fractionDigits = [] ∧ dot
  · have hfraction : (d.fixed dot).fraction = some zeroDigit := if_pos hdot
    rw [hfraction, hdot.1, List.append_nil]
    show (digitsValue (d.wholeDigits ++ ['0']) : ℚ) * 10 ^ ((0 : ℤ) - 1) =
      digitsValue d.wholeDigits * 10 ^ (-(0 : ℤ))
    rw [digitsValue_append]
    show ((10 ^ 1 * digitsValue d.wholeDigits + 0 : ℕ) : ℚ) * _ = _
    push_cast
    rw [zpow_neg_one]
    ring
  · have hfraction : (d.fixed dot).fraction =
        someDigits d.fractionDigits d.isDigit_fractionDigits := if_neg hdot
    rw [hfraction, elim_someDigits, elim_length_someDigits]
    show _ * (10 : ℚ) ^ ((0 : ℤ) - _) = _
    rw [zero_sub]
    rfl

/-- **With an exponent**, a decimal has its value. -/
theorem value_scientific {exponentDigits : ℕ → Digits}
    (h : ∀ n, digitsValue (exponentDigits n).1 = n) :
    (d.scientific exponentDigits).value = d.value := by
  have hdigits : [d.digits.1.head d.digits.2.1] ++ d.digits.1.tail = d.digits.1 :=
    List.cons_head_tail d.digits.2.1
  have hlength : (d.digits.1.tail.length : ℤ) = d.digits.1.length - 1 := by
    have := List.length_pos_of_ne_nil d.digits.2.1
    rw [List.length_tail]
    omega
  have hexponent : (if d.point - 1 < 0 then -1 else 1) * ((d.point - 1).natAbs : ℤ) =
      d.point - 1 := by
    split_ifs <;> omega
  have hpoint : d.point - 1 - ((d.digits.1.length : ℤ) - 1) = d.point - d.digits.1.length := by
    omega
  simp only [Literal.value, scientific, value, Option.elim_some, elim_someDigits,
    elim_length_someDigits, hdigits, hlength, h, decide_eq_true_eq, hexponent, hpoint]
  rfl

end Decimal

/-! ### Formats -/

/-- A format of floating-point numbers: which numbers it has, the one that a number is rounded to,
and the decimal that one of them is printed as. -/
structure FloatFormat where
  IsFloat : ℚ → Prop
  round : ℚ → ℚ
  decimal : ℚ → Decimal
  round_value : ∀ x, IsFloat x → round (decimal x).value = x
