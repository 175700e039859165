import RealTube.Text.Bytes
import Mathlib.Data.Bool.AllAny

/-!
# Components of URIs

`encodeURIComponent` writes a text so that it may stand in a query: it leaves letters, digits and a
few marks, and writes any other byte of the text in UTF-8 as `%XX`. A server reads the bytes back
(`decode_encode`); it reads `+` as a blank, which is never written.
-/

namespace UriComponent

/-- The characters that are left as they are. -/
def unreserved : List Char :=
  "ABCDEFGHIJKLMNOPQRSTUVWXYZabcdefghijklmnopqrstuvwxyz0123456789-_.!~*'()".toList

/-- The hexadecimal digits, all uppercase. -/
def upperHexDigit (d : ℕ) : Char := (Nat.digitChar d).toUpper

/-- `%XX`. -/
def percentByte (b : UInt8) : List Char :=
  ['%', upperHexDigit (b.toNat / 16), upperHexDigit (b.toNat % 16)]

/-- `encodeURIComponent`. -/
def encode (s : List Char) : List Char :=
  s.flatMap fun c ↦ if c ∈ unreserved then [c] else (String.utf8EncodeChar c).flatMap percentByte

/-- The value of a component: `+` is a blank, `%XX` a byte, and anything else stands for itself. -/
def decode : List Char → List UInt8
  | [] => []
  | '+' :: s => 32 :: decode s
  | '%' :: a :: b :: s =>
    match hexValue a.toNat.toUInt8, hexValue b.toNat.toUInt8 with
    | some x, some y => (16 * x + y) :: decode s
    | _, _ => '%'.toNat.toUInt8 :: decode (a :: b :: s)
  | c :: s => c.toNat.toUInt8 :: decode s

theorem hexValue_upperHexDigit {d : ℕ} (h : d < 16) :
    hexValue (upperHexDigit d).toNat.toUInt8 = some d.toUInt8 := by
  have hall : ∀ d < 16, hexValue (upperHexDigit d).toNat.toUInt8 = some d.toUInt8 := by
    decide +kernel
  exact hall d h

/-- **A byte is read back.** -/
theorem decode_percentByte (b : UInt8) (s : List Char) :
    decode (percentByte b ++ s) = b :: decode s := by
  have hb : b.toNat < 256 := b.toNat_lt
  have hvalue : (16 * (b.toNat / 16).toUInt8 + (b.toNat % 16).toUInt8 : UInt8) = b := by
    refine UInt8.toNat_inj.1 ?_
    have hsixteen : (16 : UInt8).toNat = 16 := rfl
    rw [UInt8.toNat_add, UInt8.toNat_mul, Nat.toUInt8_eq, Nat.toUInt8_eq, UInt8.toNat_ofNat',
      UInt8.toNat_ofNat', hsixteen]
    omega
  rw [percentByte, List.cons_append, List.cons_append, List.cons_append, List.nil_append, decode,
    hexValue_upperHexDigit (by omega), hexValue_upperHexDigit (by omega)]
  exact congrArg (· :: decode s) hvalue

theorem decode_percentBytes (bs : List UInt8) (s : List Char) :
    decode (bs.flatMap percentByte ++ s) = bs ++ decode s := by
  induction bs with
  | nil => rfl
  | cons b bs ih => rw [List.flatMap_cons, List.append_assoc, decode_percentByte, ih]; rfl

/-- What is left as it is stands for itself. -/
theorem decode_cons {c : Char} (h : c ∈ unreserved) (s : List Char) :
    decode (c :: s) = String.utf8EncodeChar c ++ decode s := by
  have hall : ∀ c ∈ unreserved, c.toNat < 128 ∧ c ≠ '+' ∧ c ≠ '%' :=
    List.all_iff_forall_prop.1 (by decide +kernel)
  obtain ⟨hascii, hplus, hpercent⟩ := hall c h
  have hbyte : utf8 [c] = [c.toNat.toUInt8] := utf8_eq_map fun _ hd ↦
    List.mem_singleton.1 hd ▸ hascii
  rw [utf8, List.flatMap_singleton] at hbyte
  rw [hbyte]
  rw [decode]
  · rfl
  · exact hplus
  · exact fun _ _ _ hc _ ↦ hpercent hc

/-- **A component is read back.** -/
theorem decode_encode (s : List Char) : decode (encode s) = utf8 s := by
  induction s with
  | nil => rfl
  | cons c s ih =>
    rw [encode, List.flatMap_cons, ← encode, utf8, List.flatMap_cons, ← utf8]
    split_ifs with h
    · rw [List.singleton_append, decode_cons h, ih]
    · rw [decode_percentBytes, ih]

/-- The bytes of a text of ASCII, as characters. -/
def ofBytes (bs : List UInt8) : List Char := bs.map fun b ↦ Char.ofNat b.toNat

/-- So a text of ASCII is read back. -/
theorem ofBytes_decode_encode {s : List Char} (h : ∀ c ∈ s, c.toNat < 128) :
    ofBytes (decode (encode s)) = s := by
  have hchar : ∀ c ∈ s, Char.ofNat c.toNat.toUInt8.toNat = c := by
    intro c hc
    have hbyte : c.toNat.toUInt8.toNat = c.toNat := by
      rw [Nat.toUInt8_eq, UInt8.toNat_ofNat', Nat.mod_eq_of_lt ((h c hc).trans (by decide))]
    rw [hbyte, Char.ofNat_toNat]
  rw [decode_encode, utf8_eq_map h, ofBytes, List.map_map]
  exact (List.map_congr_left hchar).trans (List.map_id s)

end UriComponent
