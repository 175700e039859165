import RealTube.Text.Pattern
import Mathlib.Data.Nat.Digits.Defs

/-!
# Bytes, hexadecimal digits and `bytea`

A text as its bytes in UTF-8, bytes written as hexadecimal digits, and the cast of a text to `bytea`
in SQL, which reads its argument as a literal: it begins with `\x` and lists the bytes in
hexadecimal, or it is the bytes themselves, with escapes that begin with a backslash. Any other use
of a backslash is an error. A text without a backslash is cast to its own bytes
(`byteaOfText_of_notMem`).
-/

/-- The bytes of a text in UTF-8. -/
def utf8 (s : List Char) : List UInt8 := s.flatMap String.utf8EncodeChar

/-- A character of ASCII is one byte. -/
theorem utf8_eq_map {s : List Char} (h : ∀ c ∈ s, c.toNat < 128) :
    utf8 s = s.map fun c ↦ c.toNat.toUInt8 := by
  induction s with
  | nil => rfl
  | cons c s ih =>
    obtain ⟨hc, hs⟩ := List.forall_mem_cons.1 h
    have hle : c.val.toNat ≤ 127 := Nat.le_of_lt_succ hc
    rw [utf8, List.flatMap_cons, ← utf8, ih hs, String.utf8EncodeChar, if_pos hle]
    rfl

/-! ### Hexadecimal digits -/

/-- The digits of bytes, two for each. -/
def encodeHex (bs : List UInt8) : List Char :=
  bs.flatMap fun b ↦ [Nat.digitChar (b.toNat / 16), Nat.digitChar (b.toNat % 16)]

@[simp] theorem length_encodeHex (bs : List UInt8) : (encodeHex bs).length = 2 * bs.length := by
  induction bs with
  | nil => rfl
  | cons b bs ih =>
    rw [encodeHex, List.flatMap_cons, List.length_append, ← encodeHex, ih, List.length_cons]
    simp only [List.length_cons, List.length_nil]
    omega

/-- The digits, all lowercase. -/
def hexDigits : List Char := "0123456789abcdef".toList

theorem digitChar_mem {n : ℕ} (h : n < 16) : Nat.digitChar n ∈ hexDigits := by
  revert n
  decide

theorem mem_hexDigits_of_mem_encodeHex {bs : List UInt8} {c : Char} (h : c ∈ encodeHex bs) :
    c ∈ hexDigits := by
  obtain ⟨b, -, hc⟩ := List.mem_flatMap.1 h
  have hb : b.toNat < 256 := b.toNat_lt
  rcases List.mem_pair.1 hc with rfl | rfl
  · exact digitChar_mem (by omega)
  · exact digitChar_mem (by omega)

/-- **The digits determine the bytes.** -/
theorem encodeHex_injective : Function.Injective encodeHex := by
  have hdigit : ∀ m < 16, ∀ n < 16, Nat.digitChar m = Nat.digitChar n → m = n := by decide
  intro bs
  induction bs with
  | nil =>
    intro bs' h
    have hlen := congrArg List.length h
    rw [length_encodeHex, length_encodeHex] at hlen
    exact (List.eq_nil_of_length_eq_zero (by simpa using hlen.symm)).symm
  | cons b bs ih =>
    rintro (- | ⟨b', bs'⟩) h
    · cases h
    · have hb : b.toNat < 256 := b.toNat_lt
      have hb' : b'.toNat < 256 := b'.toNat_lt
      obtain ⟨hhigh, hrest⟩ := List.cons.inj h
      obtain ⟨hlow, hrest⟩ := List.cons.inj hrest
      have hdiv := hdigit _ (by omega) _ (by omega) hhigh
      have hmod := hdigit _ (by omega) _ (by omega) hlow
      rw [ih hrest, UInt8.toNat_inj.1 (show b.toNat = b'.toNat by omega)]

/-- The digits of a byte as a number in base 16, filled up with a 0 where there is only one. -/
theorem leftpad_toDigits (b : UInt8) : (Nat.toDigits 16 b.toNat).leftpad 2 '0' =
    [Nat.digitChar (b.toNat / 16), Nat.digitChar (b.toNat % 16)] := by
  have hall : ∀ n < 256, (Nat.toDigits 16 n).leftpad 2 '0' =
      [Nat.digitChar (n / 16), Nat.digitChar (n % 16)] := by decide +kernel
  exact hall _ b.toNat_lt

/-! ### `bytea` -/

/-- The value of a hexadecimal digit, in either case. -/
def hexValue (b : UInt8) : Option UInt8 :=
  if 48 ≤ b ∧ b ≤ 57 then some (b - 48)
  else if 97 ≤ b ∧ b ≤ 102 then some (b - 87)
  else if 65 ≤ b ∧ b ≤ 70 then some (b - 55)
  else none

/-- The bytes of a literal after `\x`. Between two bytes there may be spaces. -/
def decodeHex : List UInt8 → Option (List UInt8)
  | [] => some []
  | a :: s =>
    if a = 32 ∨ a = 10 ∨ a = 9 ∨ a = 13 then decodeHex s
    else
      match s with
      | [] => none
      | b :: s => do
        let high ← hexValue a
        let low ← hexValue b
        let rest ← decodeHex s
        return (16 * high + low) :: rest

/-- The digits of an octal escape. -/
def octalValue (a b c : UInt8) : Option UInt8 :=
  if 48 ≤ a ∧ a ≤ 51 ∧ 48 ≤ b ∧ b ≤ 55 ∧ 48 ≤ c ∧ c ≤ 55 then
    some (64 * (a - 48) + 8 * (b - 48) + (c - 48))
  else none

/-- The bytes of a literal with escapes: `\\`, or a backslash and three octal digits. -/
def unescape : List UInt8 → Option (List UInt8)
  | [] => some []
  | a :: s =>
    if a ≠ 92 then (unescape s).map (a :: ·)
    else
      match s with
      | [] => none
      | b :: s =>
        if b = 92 then (unescape s).map (92 :: ·)
        else
          match s with
          | c :: d :: s => do
            let x ← octalValue b c d
            let rest ← unescape s
            return x :: rest
          | _ => none

/-- The cast of a text to `bytea`, on its bytes. -/
def byteaOfText (s : List UInt8) : Option (List UInt8) :=
  if [92, 120] <+: s then decodeHex (s.drop 2) else unescape s

/-- **Without a backslash** the cast succeeds, and changes nothing. -/
theorem byteaOfText_of_notMem {s : List UInt8} (h : 92 ∉ s) : byteaOfText s = some s := by
  rw [byteaOfText, if_neg fun hpre ↦ h (hpre.subset List.mem_cons_self)]
  induction s with
  | nil => rfl
  | cons a s ih =>
    rw [List.mem_cons, not_or] at h
    rw [unescape.eq_def]
    simp only [ne_eq, Ne.symm h.1, not_false_eq_true, if_true, ih h.2, Option.map_some]
