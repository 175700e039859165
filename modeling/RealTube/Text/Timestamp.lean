import RealTube.Text.Calendar

/-!
# Timestamps

A moment as the text `YYYY-MM-DDTHH:MM:SSZ`, with or without a fraction of the second, and readers
of such texts. A `Reader` takes digits, hyphens and colons at their places, and numbers only within
their ranges; it has its own idea of what separates the date from the time, and of what may stand at
the end. Whatever these ideas are, if they include `T` and `Z`, what is written is read back as it
is (`read_print`).
-/

namespace Timestamp

/-! ### Writing -/

/-- The seconds of a day. -/
def secondsPerDay : ℕ := 86400

/-- The date of a moment, in seconds since 1970. -/
def dateOf (seconds : ℕ) : Date := Date.ofDay (seconds / secondsPerDay)

/-- `YYYY-MM-DD`, and what follows. -/
def printDate (d : Date) (rest : List Char) : List Char :=
  pad 4 d.year ++ '-' :: (pad 2 d.month ++ '-' :: (pad 2 d.day ++ rest))

/-- `HH:MM:SS`, and what follows. -/
def printTime (seconds : ℕ) (rest : List Char) : List Char :=
  pad 2 (seconds / 3600) ++ ':' :: (pad 2 (seconds / 60 % 60) ++
    ':' :: (pad 2 (seconds % 60) ++ rest))

/-- `YYYY-MM-DDTHH:MM:SS`, and what follows. -/
def printSeconds (seconds : ℕ) (rest : List Char) : List Char :=
  printDate (dateOf seconds) ('T' :: printTime (seconds % secondsPerDay) rest)

/-- `YYYY-MM-DDTHH:MM:SSZ`. -/
def print (seconds : ℕ) : List Char := printSeconds seconds ['Z']

/-- `YYYY-MM-DDTHH:MM:SS.mmmZ`. -/
def printMillis (millis : ℕ) : List Char :=
  printSeconds (millis / 1000) ('.' :: (pad 3 (millis % 1000) ++ ['Z']))

/-! ### Reading -/

/-- A number of `w` digits within bounds, and what follows. -/
def readNumber (w low high : ℕ) (s : List Char) : Option (ℕ × List Char) :=
  if w ≤ s.length ∧ (s.take w).all Char.isDigit ∧ low ≤ digitsValue (s.take w) ∧
      digitsValue (s.take w) ≤ high then
    some (digitsValue (s.take w), s.drop w)
  else none

/-- A character, and what follows. -/
def readChar (p : Char → Bool) : List Char → Option (List Char)
  | [] => none
  | c :: s => if p c then some s else none

/-- The digits of a fraction, none if there is no fraction, and what follows. -/
def readFraction (isPoint : Char → Bool) : List Char → List Char × List Char
  | c :: d :: s =>
    if isPoint c && d.isDigit then
      ((d :: s).takeWhile Char.isDigit, (d :: s).dropWhile Char.isDigit)
    else ([], c :: d :: s)
  | s => ([], s)

/-- `Z` or `±HH:MM` as seconds. -/
def readOffset : List Char → Option ℤ
  | ['Z'] => some 0
  | sign :: s => do
    let hour ← readNumber 2 0 23 s
    let s ← readChar (· = ':') hour.2
    let minute ← readNumber 2 0 59 s
    if minute.2 ≠ [] then none
    else if sign = '+' then some (3600 * hour.1 + 60 * minute.1)
    else if sign = '-' then some (-(3600 * hour.1 + 60 * minute.1))
    else none
  | [] => none

/-- What a reader accepts. -/
structure Reader where
  minYear : ℕ
  isSeparator : Char → Bool
  isPoint : Char → Bool
  offset : List Char → Option ℤ

/-- A moment in seconds, and the digits of the fraction of a second. -/
def Reader.read (r : Reader) (s : List Char) : Option (ℤ × List Char) := do
  let year ← readNumber 4 r.minYear 9999 s
  let s ← readChar (· = '-') year.2
  let month ← readNumber 2 1 12 s
  let s ← readChar (· = '-') month.2
  let day ← readNumber 2 1 (daysInMonth year.1 month.1) s
  let s ← readChar r.isSeparator day.2
  let hour ← readNumber 2 0 23 s
  let s ← readChar (· = ':') hour.2
  let minute ← readNumber 2 0 59 s
  let s ← readChar (· = ':') minute.2
  let second ← readNumber 2 0 59 s
  let fraction := readFraction r.isPoint second.2
  let offset ← r.offset fraction.2
  some (Date.dayNumber year.1 month.1 day.1 * secondsPerDay + 3600 * hour.1 + 60 * minute.1 +
    second.1 - offset, fraction.1)

/-! ### Round trips -/

/-- A number is read back. -/
theorem readNumber_pad {w low high n : ℕ} (hlow : low ≤ n) (hhigh : n ≤ high) (hw : high < 10 ^ w)
    (s : List Char) : readNumber w low high (pad w n ++ s) = some (n, s) := by
  have htake : (pad w n ++ s).take w = pad w n := by
    rw [List.take_append_of_le_length (length_pad w n).ge,
      List.take_of_length_le (length_pad w n).le]
  have hdrop : (pad w n ++ s).drop w = s := List.drop_left' (length_pad w n)
  have hvalue : digitsValue (pad w n) = n := by
    rw [value_pad, Nat.mod_eq_of_lt (hhigh.trans_lt hw)]
  have hdigits : (pad w n).all Char.isDigit = true :=
    List.all_eq_true.2 fun _ hc ↦ isDigit_of_mem_pad hc
  rw [readNumber, htake, hdrop, hvalue, List.length_append, length_pad]
  exact if_pos ⟨by omega, hdigits, hlow, hhigh⟩

theorem readChar_cons {p : Char → Bool} {c : Char} (hc : p c = true) (s : List Char) :
    readChar p (c :: s) = some s :=
  if_pos hc

/-- No fraction is read where none is written. -/
theorem readFraction_z (isPoint : Char → Bool) : readFraction isPoint ['Z'] = ([], ['Z']) := rfl

/-- A fraction is read back. -/
theorem readFraction_pad {isPoint : Char → Bool} (hpoint : isPoint '.' = true) (w n : ℕ) :
    readFraction isPoint ('.' :: (pad (w + 1) n ++ ['Z'])) = (pad (w + 1) n, ['Z']) := by
  have hall : ∀ c ∈ pad (w + 1) n, c.isDigit = true := fun c ↦ isDigit_of_mem_pad
  obtain ⟨d, s, hpad⟩ : ∃ d s, pad (w + 1) n = d :: s :=
    List.exists_cons_of_length_eq_add_one (length_pad (w + 1) n)
  rw [hpad] at hall ⊢
  have hd := hall d List.mem_cons_self
  rw [List.cons_append, readFraction, hpoint, hd, ← List.cons_append,
    List.takeWhile_append_of_pos hall, List.dropWhile_append_of_pos hall]
  simp

variable {r : Reader}

/-- **A moment is read back**, whatever follows it. -/
theorem read_printSeconds (hsep : r.isSeparator 'T' = true) {n : ℕ}
    (hyear : r.minYear ≤ (dateOf n).year) (hyear' : (dateOf n).year ≤ 9999) {rest s : List Char}
    {fraction : List Char} (hfraction : readFraction r.isPoint rest = (fraction, s))
    (hoffset : r.offset s = some 0) :
    r.read (printSeconds n rest) = some ((n : ℤ), fraction) := by
  have hday := (dateOf n).day_le
  have hdim := daysInMonth_le (dateOf n).year (dateOf n).month
  have hsecond : n % secondsPerDay < 86400 := Nat.mod_lt _ (by decide)
  generalize ht : n % secondsPerDay = t at hsecond
  have htwo {low high k : ℕ} (hlow : low ≤ k) (hhigh : k ≤ high) (h : high < 100)
      (s : List Char) : readNumber 2 low high (pad 2 k ++ s) = some (k, s) :=
    readNumber_pad hlow hhigh (by omega) s
  have hchar (c : Char) (s : List Char) : readChar (· = c) (c :: s) = some s :=
    readChar_cons (decide_eq_true rfl) s
  have hhour : t / 3600 ≤ 23 := by omega
  have hminute : t / 60 % 60 ≤ 59 := by omega
  have hsec : t % 60 ≤ 59 := by omega
  have hnumber : Date.dayNumber (dateOf n).year (dateOf n).month (dateOf n).day =
      (n / secondsPerDay : ℕ) := Date.dayNumber_ofDay _
  have hsum : (n / secondsPerDay : ℕ) * (secondsPerDay : ℤ) + 3600 * (t / 3600 : ℕ) +
      60 * (t / 60 % 60 : ℕ) + (t % 60 : ℕ) - 0 = n := by
    have hdiv := Nat.div_add_mod n secondsPerDay
    rw [ht] at hdiv
    unfold secondsPerDay at hdiv ⊢
    omega
  rw [Reader.read, printSeconds, printDate, printTime, ht,
    readNumber_pad hyear hyear' (by decide)]
  simp only [Option.bind_eq_bind, Option.bind_some, hchar,
    htwo (dateOf n).one_le_month (dateOf n).month_le (by decide),
    htwo (dateOf n).one_le_day (dateOf n).day_le (by omega), readChar_cons hsep,
    htwo (Nat.zero_le _) hhour (by decide), htwo (Nat.zero_le _) hminute (by decide),
    htwo (Nat.zero_le _) hsec (by decide), hfraction, hoffset, hnumber, hsum]

/-- **Round trips.** What is written with `Z` is read back. -/
theorem read_print (hsep : r.isSeparator 'T' = true) (hz : r.offset ['Z'] = some 0) {n : ℕ}
    (hyear : r.minYear ≤ (dateOf n).year) (hyear' : (dateOf n).year ≤ 9999) :
    r.read (print n) = some ((n : ℤ), []) :=
  read_printSeconds hsep hyear hyear' (readFraction_z _) hz

/-- With milliseconds. -/
theorem read_printMillis (hsep : r.isSeparator 'T' = true) (hz : r.offset ['Z'] = some 0)
    (hpoint : r.isPoint '.' = true) {n : ℕ} (hyear : r.minYear ≤ (dateOf (n / 1000)).year)
    (hyear' : (dateOf (n / 1000)).year ≤ 9999) :
    r.read (printMillis n) = some (((n / 1000 : ℕ) : ℤ), pad 3 (n % 1000)) :=
  read_printSeconds hsep hyear hyear' (readFraction_pad hpoint 2 _) hz

/-! ### What is written -/

/-- Digits and marks, all of ASCII. -/
theorem toNat_lt_of_mem_printSeconds {n : ℕ} {rest : List Char} (hrest : ∀ c ∈ rest, c.toNat < 128)
    {c : Char} (hc : c ∈ printSeconds n rest) : c.toNat < 128 := by
  have hdigit {w k : ℕ} {c : Char} (hc : c ∈ pad w k) : c.toNat < 128 := by
    have hd := isDigit_of_mem_pad hc
    simp only [Char.isDigit, Bool.and_eq_true, decide_eq_true_eq] at hd
    exact lt_of_le_of_lt hd.2 (by decide)
  simp only [printSeconds, printDate, printTime, List.mem_append, List.mem_cons] at hc
  obtain h | rfl | h | rfl | h | rfl | h | rfl | h | rfl | h | h := hc
  · exact hdigit h
  · decide
  · exact hdigit h
  · decide
  · exact hdigit h
  · decide
  · exact hdigit h
  · decide
  · exact hdigit h
  · decide
  · exact hdigit h
  · exact hrest c h

theorem epoch_le_year (n : ℕ) : 1970 ≤ (dateOf n).year := by
  have hnumber := Date.number_ofDay_le (Nat.zero_le (n / secondsPerDay))
  have hepoch : (Date.ofDay 0).number / 10000 = 1970 := by decide
  rw [dateOf, Date.year_eq, ← hepoch]
  exact Nat.div_le_div_right hnumber

end Timestamp
