import Mathlib.Data.List.Lex
import Mathlib.Data.String.Basic
import Mathlib.Data.Nat.Digits.Defs
import Mathlib.Order.Monotone.Basic
import Mathlib.Tactic.Common
import Mathlib.Tactic.Ring

/-!
# Decimals of a fixed width, and dates

A number written with a fixed number of digits, zeros first, is read back as it is
(`value_pad`), and such texts are in the order of their numbers (`pad_lt_pad`): this is what makes
names with a date in them sort by the date.

A **date** is one of the Gregorian calendar, and carries the proof that it is one. The days since
the first of January 1970 are dates that follow each other (`Date.ofDay`), and their numbers
`YYYYMMDD` grow (`Date.strictMono_number_ofDay`).
-/

/-! ### Decimals -/

/-- The last `w` decimal digits of a number, zeros first. -/
def pad : ℕ → ℕ → List Char
  | 0, _ => []
  | w + 1, n => pad w (n / 10) ++ [Nat.digitChar (n % 10)]

/-- The number a text of digits stands for. -/
def digitsValue (s : List Char) : ℕ := s.foldl (fun n c ↦ 10 * n + (c.toNat - '0'.toNat)) 0

@[simp] theorem length_pad (w n : ℕ) : (pad w n).length = w := by
  induction w generalizing n with
  | zero => rfl
  | succ w ih => rw [pad, List.length_append, ih, List.length_singleton]

/-- Digits stand for themselves. -/
theorem toNat_digitChar {d : ℕ} (h : d < 10) : (Nat.digitChar d).toNat = '0'.toNat + d := by
  have hall : ∀ d < 10, (Nat.digitChar d).toNat = '0'.toNat + d := by decide
  exact hall d h

theorem digitChar_isDigit {d : ℕ} (h : d < 10) : (Nat.digitChar d).isDigit = true := by
  have hall : ∀ d < 10, (Nat.digitChar d).isDigit = true := by decide
  exact hall d h

/-- Only digits are written. -/
theorem isDigit_of_mem_pad {w n : ℕ} {c : Char} (h : c ∈ pad w n) : c.isDigit = true := by
  induction w generalizing n with
  | zero => exact absurd h List.not_mem_nil
  | succ w ih =>
    rcases List.mem_append.1 h with h | h
    · exact ih h
    · exact List.mem_singleton.1 h ▸ digitChar_isDigit (Nat.mod_lt n (by decide))

/-- **What is written is read back.** -/
theorem value_pad (w n : ℕ) : digitsValue (pad w n) = n % 10 ^ w := by
  induction w generalizing n with
  | zero => rw [pow_zero, Nat.mod_one, pad, digitsValue, List.foldl_nil]
  | succ w ih =>
    have hdigit : (Nat.digitChar (n % 10)).toNat - '0'.toNat = n % 10 := by
      rw [toNat_digitChar (Nat.mod_lt n (by decide)), Nat.add_sub_cancel_left]
    rw [pad, digitsValue, List.foldl_append, ← digitsValue, ih, List.foldl_cons, List.foldl_nil,
      hdigit, pow_succ', Nat.mod_mul]
    ring

/-- Blocks of digits side by side are those of one number. -/
theorem pad_append (w v n m : ℕ) (hm : m < 10 ^ v) :
    pad w n ++ pad v m = pad (w + v) (n * 10 ^ v + m) := by
  induction v generalizing m with
  | zero =>
    obtain rfl : m = 0 := by simpa using hm
    rw [pow_zero, mul_one, add_zero, pad, List.append_nil, add_zero]
  | succ v ih =>
    have hdiv : (n * 10 ^ (v + 1) + m) / 10 = n * 10 ^ v + m / 10 := by
      rw [pow_succ', show n * (10 * 10 ^ v) + m = m + 10 * (n * 10 ^ v) from by ring,
        Nat.add_mul_div_left _ _ (by decide), add_comm]
    have hmod : (n * 10 ^ (v + 1) + m) % 10 = m % 10 := by
      rw [pow_succ', show n * (10 * 10 ^ v) + m = m + 10 * (n * 10 ^ v) from by ring,
        Nat.add_mul_mod_self_left]
    rw [pad, ← List.append_assoc, ih (m / 10) (Nat.div_lt_of_lt_mul (pow_succ' 10 v ▸ hm)),
      ← add_assoc, pad, hdiv, hmod]

/-! ### The order of texts -/

/-- Texts of one length are compared before what follows them. -/
theorem append_lt_append {xs ys as bs : List Char} (hlen : xs.length = ys.length) (h : xs < ys) :
    xs ++ as < ys ++ bs := by
  induction xs generalizing ys with
  | nil =>
    obtain rfl := List.length_eq_zero_iff.1 hlen.symm
    exact absurd h (lt_irrefl _)
  | cons x xs ih =>
    obtain - | ⟨y, ys⟩ := ys
    · cases hlen
    rw [List.cons_append, List.cons_append, List.cons_lt_cons_iff]
    rcases List.cons_lt_cons_iff.1 h with hlt | ⟨rfl, hlt⟩
    · exact Or.inl hlt
    · exact Or.inr ⟨rfl, ih (Nat.succ.inj hlen) hlt⟩

theorem digitChar_lt {d d' : ℕ} (h : d < d') (h' : d' < 10) :
    Nat.digitChar d < Nat.digitChar d' := by
  show (Nat.digitChar d).toNat < (Nat.digitChar d').toNat
  rw [toNat_digitChar (h.trans h'), toNat_digitChar h']
  exact Nat.add_lt_add_left h _

/-- **Numbers of one width are ordered as texts.** -/
theorem pad_lt_pad {w n m : ℕ} (h : n < m) (hm : m < 10 ^ w) : pad w n < pad w m := by
  induction w generalizing n m with
  | zero => exact absurd (Nat.lt_one_iff.1 hm ▸ h) (Nat.not_lt_zero n)
  | succ w ih =>
    have hlen : (pad w (n / 10)).length = (pad w (m / 10)).length := by
      rw [length_pad, length_pad]
    rcases (Nat.div_le_div_right (c := 10) h.le).lt_or_eq with hlt | heq
    · exact append_lt_append hlen (ih hlt (Nat.div_lt_of_lt_mul (pow_succ' 10 w ▸ hm)))
    · rw [pad, pad, heq]
      refine List.append_left_lt (List.cons_lt_cons_iff.2 (Or.inl ?_))
      exact digitChar_lt (by omega) (Nat.mod_lt m (by decide))

/-! ### Dates -/

/-- A leap year. -/
def isLeapYear (year : ℕ) : Bool := year % 4 = 0 && (year % 100 != 0 || year % 400 = 0)

/-- The number of days of a month. -/
def daysInMonth (year month : ℕ) : ℕ :=
  if month = 2 then if isLeapYear year then 29 else 28
  else if month = 4 ∨ month = 6 ∨ month = 9 ∨ month = 11 then 30 else 31

theorem daysInMonth_le (year month : ℕ) : daysInMonth year month ≤ 31 := by
  rw [daysInMonth]
  split_ifs <;> decide

theorem one_le_daysInMonth (year month : ℕ) : 1 ≤ daysInMonth year month := by
  rw [daysInMonth]
  split_ifs <;> decide

/-- A date. -/
structure Date where
  year : ℕ
  month : ℕ
  day : ℕ
  one_le_month : 1 ≤ month
  month_le : month ≤ 12
  one_le_day : 1 ≤ day
  day_le : day ≤ daysInMonth year month
  deriving DecidableEq

namespace Date

/-- The first of January 1970. -/
def epoch : Date := ⟨1970, 1, 1, by decide, by decide, by decide, by decide⟩

/-- The next day. -/
def next (d : Date) : Date :=
  if hday : d.day < daysInMonth d.year d.month then
    { d with day := d.day + 1, one_le_day := Nat.succ_pos d.day, day_le := hday }
  else if hmonth : d.month < 12 then
    { year := d.year, month := d.month + 1, day := 1, one_le_month := Nat.succ_pos d.month,
      month_le := hmonth, one_le_day := le_rfl, day_le := one_le_daysInMonth _ _ }
  else
    { year := d.year + 1, month := 1, day := 1, one_le_month := le_rfl, month_le := by decide,
      one_le_day := le_rfl, day_le := one_le_daysInMonth _ _ }

/-- The date `n` days after the epoch. -/
def ofDay (n : ℕ) : Date := next^[n] epoch

/-- The number `YYYYMMDD`. -/
def number (d : Date) : ℕ := d.year * 10000 + (d.month * 100 + d.day)

theorem day_le' (d : Date) : d.day ≤ 31 := d.day_le.trans (daysInMonth_le _ _)

theorem number_lt (d : Date) (h : d.year < 10000) : d.number < 10 ^ 8 := by
  have hmonth := d.month_le
  have hday := d.day_le'
  rw [number]
  omega

theorem year_eq (d : Date) : d.year = d.number / 10000 := by
  have hmonth := d.month_le
  have hday := d.day_le'
  rw [number]
  omega

/-- **The next day has a greater number.** -/
theorem number_lt_next (d : Date) : d.number < d.next.number := by
  have hmonth := d.month_le
  have hday := d.day_le'
  rw [next]
  split_ifs <;> simp only [number] <;> omega

/-- **Dates that follow each other.** -/
theorem strictMono_number_ofDay : StrictMono fun n ↦ (ofDay n).number :=
  strictMono_nat_of_lt_succ fun n ↦ by
    simp only [ofDay, Function.iterate_succ_apply']
    exact number_lt_next _

theorem number_ofDay_le {n n' : ℕ} (h : n ≤ n') : (ofDay n).number ≤ (ofDay n').number :=
  strictMono_number_ofDay.monotone h

theorem number_injective : Function.Injective number := by
  rintro ⟨y, m, d, hm, hm', hd, hd'⟩ ⟨y', m', d', hm₂, hm₂', hd₂, hd₂'⟩ h
  have hday := hd'.trans (daysInMonth_le _ _)
  have hday₂ := hd₂'.trans (daysInMonth_le _ _)
  simp only [number] at h
  obtain ⟨rfl, rfl, rfl⟩ : y = y' ∧ m = m' ∧ d = d' := by omega
  rfl

/-! ### The number of a day -/

/-- The days of the months of a year before one. -/
def daysBeforeMonth (year month : ℕ) : ℕ :=
  ((List.range (month - 1)).map fun m ↦ daysInMonth year (m + 1)).sum

/-- The leap years before one. -/
def leapYearsBefore (year : ℕ) : ℕ := (year + 3) / 4 - (year + 99) / 100 + (year + 399) / 400

/-- The days since the first of January 1970, also before it. -/
def dayNumber (year month day : ℕ) : ℤ :=
  365 * year + leapYearsBefore year + daysBeforeMonth year month + day - 719529

theorem daysBeforeMonth_succ (year : ℕ) {month : ℕ} (h : 1 ≤ month) :
    daysBeforeMonth year (month + 1) = daysBeforeMonth year month + daysInMonth year month := by
  obtain ⟨m, rfl⟩ := Nat.exists_eq_add_of_le' h
  rw [daysBeforeMonth, daysBeforeMonth, Nat.add_sub_cancel, Nat.add_sub_cancel, List.range_succ,
    List.map_append, List.sum_append, List.map_singleton, List.sum_singleton]

theorem leapYearsBefore_succ (year : ℕ) :
    leapYearsBefore (year + 1) = leapYearsBefore year + if isLeapYear year then 1 else 0 := by
  have hleap : isLeapYear year = true ↔ year % 4 = 0 ∧ (year % 100 ≠ 0 ∨ year % 400 = 0) := by
    simp [isLeapYear]
  rw [leapYearsBefore, leapYearsBefore]
  split_ifs with h
  · have := hleap.1 h
    omega
  · have := mt hleap.2 h
    omega

/-- A year has 365 days, or 366. -/
theorem daysBeforeMonth_add_december (year : ℕ) :
    daysBeforeMonth year 12 + daysInMonth year 12 = 365 + if isLeapYear year then 1 else 0 := by
  cases h : isLeapYear year <;> simp [daysBeforeMonth, List.range_succ, daysInMonth, h]

/-- **Days are counted one by one.** -/
theorem dayNumber_next (d : Date) :
    dayNumber d.next.year d.next.month d.next.day = dayNumber d.year d.month d.day + 1 := by
  have hday := d.day_le
  have hmonth := d.month_le
  have hone := d.one_le_month
  rw [next]
  split_ifs with hlast hlastMonth
  · simp only [dayNumber]
    push_cast
    ring
  · have hbefore := daysBeforeMonth_succ d.year hone
    simp only [dayNumber]
    omega
  · have hdecember : d.month = 12 := by omega
    have hyear := daysBeforeMonth_add_december d.year
    have hleap := leapYearsBefore_succ d.year
    have hjanuary : daysBeforeMonth (d.year + 1) 1 = 0 := rfl
    simp only [dayNumber]
    rw [hdecember] at hday hlast ⊢
    omega

theorem dayNumber_ofDay (n : ℕ) :
    dayNumber (ofDay n).year (ofDay n).month (ofDay n).day = n := by
  induction n with
  | zero => decide
  | succ n ih =>
    rw [ofDay, Function.iterate_succ_apply', ← ofDay, dayNumber_next, ih]
    push_cast
    rfl

/-! ### Texts of dates -/

/-- `YYYYMMDD`. -/
def compact (d : Date) : List Char := pad 4 d.year ++ pad 2 d.month ++ pad 2 d.day

theorem compact_eq (d : Date) : d.compact = pad 8 d.number := by
  have hmonth := d.month_le
  have hday := d.day_le'
  rw [compact, List.append_assoc, pad_append 2 2 _ _ (by omega), pad_append 4 4 _ _ (by omega)]
  rfl

/-- **Dates are ordered as texts**, until the year 9999. -/
theorem compact_lt_compact {d d' : Date} (h : d.number < d'.number) (hyear : d'.year < 10000) :
    d.compact < d'.compact := by
  rw [compact_eq, compact_eq]
  exact pad_lt_pad h (d'.number_lt hyear)

end Date
