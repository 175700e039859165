import RealTube.Extension.Identity
import RealTube.Model.HashPrefix

/-!
# The public id of a user, on both sides

`pkg/hash` of the Go backend and `background/identity.ts` of the extension both hash an id many
times. The backend hashes the bytes of the digest again, the extension its digits. After one
iteration they have the same text; after more they are the same only where the hash does not tell a
digest from its digits (`forall_iteratedSHA256_eq_iff_hexBlind`), which no hash has to do
(`forall_iteratedSHA256_eq_iff`).
-/

namespace RealTube

section PublicID

variable (sha256 : List UInt8 → Digest)

/-! ### The backend -/

namespace Go

/-- `SHA256Hex`. -/
def sha256Hex (input : String) : String := String.ofList (encodeHex (sha256 (utf8 input.toList)).1)

/-- `IteratedSHA256`. -/
def iteratedSHA256 (input : String) (iterations : ℕ) : String :=
  String.ofList (encodeHex ((fun data ↦ (sha256 data).1)^[iterations] (utf8 input.toList)))

/-- `HashUserID`. -/
def hashUserID (localUUID : String) : String := iteratedSHA256 sha256 localUUID 5000

/-- `HashIP`. -/
def hashIP (ip salt : String) : String := iteratedSHA256 sha256 (salt ++ ip) 5000

end Go

/-! ### One iteration -/

/-- The digits are the same on both sides. -/
theorem sha256Hex_eq (s : String) : Go.sha256Hex sha256 s = Extension.sha256Hex sha256 s := by
  rw [Go.sha256Hex, Extension.sha256Hex, encodeHex]
  exact congrArg (fun f ↦ String.ofList (List.flatMap f _))
    (funext fun b ↦ (leftpad_toDigits b).symm)

theorem iteratedSHA256_one (s : String) :
    Go.iteratedSHA256 sha256 s 1 = Extension.iteratedHash (Extension.sha256Hex sha256) s 1 :=
  sha256Hex_eq sha256 s

/-! ### Bytes and digits -/

/-- The bytes of the digits of bytes. -/
def hexBytes (bs : List UInt8) : List UInt8 := utf8 (encodeHex bs)

@[simp] theorem length_hexBytes (bs : List UInt8) : (hexBytes bs).length = 2 * bs.length := by
  have hascii : ∀ c ∈ hexDigits, c.toNat < 128 := List.all_iff_forall_prop.1 (by decide)
  rw [hexBytes, utf8_eq_map fun c hc ↦ hascii c (mem_hexDigits_of_mem_encodeHex hc),
    List.length_map, length_encodeHex]

/-- **The hash does not tell a digest from its digits**, for the digests of texts. -/
def HexBlind : Prop :=
  ∀ s : String, sha256 (hexBytes (sha256 (utf8 s.toList)).1) = sha256 (sha256 (utf8 s.toList)).1

variable {sha256}

/-- **The backend and the extension agree on all texts and numbers of iterations** exactly if the
hash does not tell a digest from its digits. -/
theorem forall_iteratedSHA256_eq_iff_hexBlind :
    (∀ s n, 1 ≤ n → Go.iteratedSHA256 sha256 s n =
      Extension.iteratedHash (Extension.sha256Hex sha256) s n) ↔ HexBlind sha256 := by
  constructor
  · intro h s
    have htwo := h s 2 (by omega)
    rw [Extension.iteratedHash, Function.iterate_succ_apply', Function.iterate_one,
      ← sha256Hex_eq, ← sha256Hex_eq] at htwo
    have hdigits := String.ofList_injective htwo
    rw [Go.sha256Hex, String.toList_ofList] at hdigits
    exact (Subtype.ext (encodeHex_injective hdigits)).symm
  · intro h s n hn
    -- all data but the first are the digest of a text
    have hdigest : ∃ x : String,
        (fun data ↦ (sha256 data).1)^[n] (utf8 s.toList) = (sha256 (utf8 x.toList)).1 ∧
          Extension.iteratedHash (Extension.sha256Hex sha256) s n =
            String.ofList (encodeHex (sha256 (utf8 x.toList)).1) := by
      induction n, hn using Nat.le_induction with
      | base => exact ⟨s, rfl, (sha256Hex_eq sha256 s).symm⟩
      | succ n hn ih =>
        obtain ⟨x, hdata, htext⟩ := ih
        refine ⟨String.ofList (encodeHex (sha256 (utf8 x.toList)).1), ?_, ?_⟩
        · rw [Function.iterate_succ_apply', hdata, ← h x, String.toList_ofList]
          rfl
        · rw [Extension.iteratedHash, Function.iterate_succ_apply', ← Extension.iteratedHash, htext,
            ← sha256Hex_eq]
          rfl
    obtain ⟨x, hdata, htext⟩ := hdigest
    rw [Go.iteratedSHA256, hdata, htext]

/-! ### A hash that tells them apart -/

/-- A hash that looks at the length. -/
def lengthDigest (bs : List UInt8) : Digest :=
  if bs.length = 32 then ⟨List.replicate 32 1, rfl⟩ else ⟨List.replicate 32 0, rfl⟩

/-- **After more than one iteration** the backend has hashed a digest, and the extension a text of
twice its length. -/
theorem iteratedSHA256_lengthDigest_ne (s : String) {n : ℕ} (hn : 2 ≤ n) :
    Go.iteratedSHA256 lengthDigest s n ≠
      Extension.iteratedHash (Extension.sha256Hex lengthDigest) s n := by
  obtain ⟨n, rfl⟩ := Nat.exists_eq_add_of_le' hn
  have hbytes : Go.iteratedSHA256 lengthDigest s (n + 2) =
      String.ofList (encodeHex (List.replicate 32 1)) := by
    rw [Go.iteratedSHA256, Function.iterate_succ_apply', Function.iterate_succ_apply']
    rw [lengthDigest, if_pos (lengthDigest _).2]
  have hdigits : Extension.iteratedHash (Extension.sha256Hex lengthDigest) s (n + 2) =
      String.ofList (encodeHex (List.replicate 32 0)) := by
    rw [Extension.iteratedHash, Function.iterate_succ_apply', Function.iterate_succ_apply',
      ← sha256Hex_eq, ← sha256Hex_eq, Go.sha256Hex, Go.sha256Hex, String.toList_ofList]
    have hlen := length_hexBytes (lengthDigest (utf8
      (((Extension.sha256Hex lengthDigest)^[n] s).toList))).1
    rw [(lengthDigest _).2] at hlen
    rw [← hexBytes, lengthDigest, if_neg (by omega)]
  rw [hbytes, hdigits]
  exact fun h ↦ absurd (encodeHex_injective (String.ofList_injective h)) (by decide)

/-- **When the backend and the extension agree for every hash**: after one iteration. -/
theorem forall_iteratedSHA256_eq_iff (s : String) {n : ℕ} (hn : 1 ≤ n) :
    (∀ sha256, Go.iteratedSHA256 sha256 s n =
      Extension.iteratedHash (Extension.sha256Hex sha256) s n) ↔ n = 1 := by
  constructor
  · intro h
    by_contra hne
    exact iteratedSHA256_lengthDigest_ne s (show 2 ≤ n by omega) (h lengthDigest)
  · rintro rfl
    exact fun sha256 ↦ iteratedSHA256_one sha256 s

/-- They agree on a single hash. -/
theorem iteratedSHA256_test : Go.iteratedSHA256 lengthDigest "test" 1 =
    Extension.iteratedHash (Extension.sha256Hex lengthDigest) "test" 1 :=
  (forall_iteratedSHA256_eq_iff "test" le_rfl).2 rfl lengthDigest

/-- **The public id of the backend is not the one the extension sends.** -/
theorem hashUserID_ne_publicUserID :
    (¬∀ sha256 s n, 1 ≤ n → Go.iteratedSHA256 sha256 s n =
        Extension.iteratedHash (Extension.sha256Hex sha256) s n) ∧
      ¬∀ sha256 (id : Extension.LocalID), Go.hashUserID sha256 id.1 =
        Extension.publicUserID (Extension.sha256Hex sha256) id := by
  constructor
  · intro h
    exact iteratedSHA256_lengthDigest_ne "test" le_rfl (h lengthDigest "test" 2 (by omega))
  · intro h
    exact iteratedSHA256_lengthDigest_ne "550e8400-e29b-41d4-a716-446655440000"
      (show 2 ≤ 5000 by omega) (h lengthDigest ⟨"550e8400-e29b-41d4-a716-446655440000", by decide⟩)

end PublicID

end RealTube
