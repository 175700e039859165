import RealTube.Model.Validation

/-!
# The hash-prefix protocol

The extension does not tell the server which video it asks for: it sends the first digits of the
hash of the id (`hashVideoId` of `background/identity.ts`), gets the videos whose hashes begin with
them, and picks its own (`CHECK_VIDEOS` of `background/background.ts`). The digest is a parameter.

The query compares the digits as text: `encode(sha256(video_id::bytea), 'hex') LIKE $1 || '%'`. The
cast reads the id as a literal, and fails on ids with certain backslashes. Then the statement fails
as a whole (`HashPrefixAnswer.castError`); SQL leaves open for which rows the expression is
computed. No stored row is one of these, as the index `idx_videos_hash_prefix` is on the same
expression.
-/

namespace RealTube

/-- A SHA-256 digest. -/
abbrev Digest : Type := { bs : List UInt8 // bs.length = 32 }

section HashPrefix

variable (sha256 : List UInt8 → Digest)

/-! ### The extension -/

namespace Extension

/-- `sha256`: the digits of the digest of the bytes in UTF-8. -/
def sha256Hex (input : String) : String :=
  String.ofList ((sha256 (utf8 input.toList)).1.flatMap fun b ↦
    (Nat.toDigits 16 b.toNat).leftpad 2 '0')

/-- `hashVideoId`. -/
def hashVideoID (v : VideoID) (prefixLength : ℕ) : String :=
  String.ofList ((sha256Hex sha256 v).toList.take prefixLength)

end Extension

/-! ### The query -/

/-- `video_id::bytea`. -/
def castVideoID (v : VideoID) : Option (List UInt8) := byteaOfText (utf8 v.toList)

/-- `encode(sha256(video_id::bytea), 'hex')`. -/
def hashExpr (v : VideoID) : Option (List Char) :=
  (castVideoID v).map fun bs ↦ encodeHex (sha256 bs).1

/-- `… LIKE $1 || '%'`, for an id that can be cast. -/
def matchesHashPrefix (p : String) (v : VideoID) : Bool :=
  (hashExpr sha256 v).any (like (p.toList ++ ['%']))

/-- The rows of `FindByHashPrefix`, if it does not fail. -/
def selectByHashPrefix (order : Arrangement VideoID) (p : String) (db : DB) :
    List (VideoID × Video) :=
  ((db.videos.rows order (·.visible)).filter fun x ↦ matchesHashPrefix sha256 p x.1).take
    hashPrefixLimit

/-- What `FindByHashPrefix` may answer; `none` is an error. -/
inductive HashPrefixAnswer (p : String) (db : DB) : Option (List (VideoID × Video)) → Prop
  /-- Rows, in any order. -/
  | rows (order : Arrangement VideoID) :
    HashPrefixAnswer p db (some (selectByHashPrefix sha256 order p db))
  /-- The cast fails. -/
  | castError {v : VideoID} (hv : db.videos.lookup v ≠ none) (hcast : castVideoID v = none) :
    HashPrefixAnswer p db none

/-! ### Valid ids and valid prefixes -/

variable {sha256}

/-- **The id of a video can be cast**, and its bytes are those of the text. -/
theorem castVideoID_of_allows {v : VideoID} (hv : videoIDRule.Allows v) :
    castVideoID v = some (utf8 v.toList) := by
  have hascii : ∀ c ∈ v.toList, c.toNat < 128 := fun c hc ↦
    isAsciiClass_videoIDRule c (hv.2.2 c hc)
  refine byteaOfText_of_notMem fun hmem ↦ ?_
  rw [utf8_eq_map hascii] at hmem
  obtain ⟨c, hc, hbyte⟩ := List.mem_map.1 hmem
  -- the byte of a backslash is that of no other character of the class
  have hcls : ∀ c ∈ videoIDRule.cls, c.toNat.toUInt8 ≠ 92 :=
    List.all_iff_forall_prop.1 (by decide +kernel)
  exact hcls c (hv.2.2 c hc) hbyte

/-- A hash prefix has no character with a meaning in a pattern. -/
theorem notMem_likeSpecial {p : String} (hp : IsHashPrefix p) :
    ∀ c ∈ p.toList, c ∉ likeSpecial := by
  have hdigits : ∀ c ∈ hexDigits, c ∉ likeSpecial := List.all_iff_forall_prop.1 (by decide +kernel)
  exact fun c hc ↦ hdigits c (hp.2.2 c hc)

/-- The pattern of a hash prefix asks for the hashes that begin with it. -/
theorem matchesHashPrefix_iff {p : String} (hp : IsHashPrefix p) {v : VideoID} :
    matchesHashPrefix sha256 p v ↔
      ∃ digits, hashExpr sha256 v = some digits ∧ p.toList <+: digits := by
  rw [matchesHashPrefix]
  cases hashExpr sha256 v with
  | none => simp
  | some digits =>
    rw [Option.any_some, like_append_percent (notMem_likeSpecial hp)]
    simp

/-- The hash of a video id has the same digits in the extension and in the query. -/
theorem hashExpr_eq_sha256Hex {v : VideoID} (hv : videoIDRule.Allows v) :
    hashExpr sha256 v = some (Extension.sha256Hex sha256 v).toList := by
  rw [hashExpr, castVideoID_of_allows hv, Option.map_some, Extension.sha256Hex,
    String.toList_ofList, encodeHex]
  exact congrArg some (congrArg (List.flatMap · _) (funext fun b ↦ (leftpad_toDigits b).symm))

/-- **The digits the extension sends are a hash prefix.** -/
theorem isHashPrefix_hashVideoID (sha256 : List UInt8 → Digest) (v : VideoID) :
    IsHashPrefix (Extension.hashVideoID sha256 v 4) := by
  have hdigits : (Extension.sha256Hex sha256 v).toList = encodeHex (sha256 (utf8 v.toList)).1 := by
    rw [Extension.sha256Hex, String.toList_ofList, encodeHex]
    exact congrArg (List.flatMap · _) (funext leftpad_toDigits)
  have hlen : (Extension.hashVideoID sha256 v 4).length = 4 := by
    rw [← String.length_toList, Extension.hashVideoID, String.toList_ofList, hdigits,
      List.length_take, length_encodeHex, (sha256 (utf8 v.toList)).2]
    rfl
  refine ⟨by omega, by omega, fun c hc ↦ ?_⟩
  rw [Extension.hashVideoID, String.toList_ofList, hdigits] at hc
  exact mem_hexDigits_of_mem_encodeHex (List.mem_of_mem_take hc)

/-- A validated prefix finds what `findByHashPrefix` finds. -/
theorem selectByHashPrefix_eq (order : Arrangement VideoID) (p : HashPrefix) (db : DB) :
    selectByHashPrefix sha256 order p.1 db =
      findByHashPrefix (fun v ↦ String.ofList ((hashExpr sha256 v).getD [])) order p db := by
  rw [selectByHashPrefix, findByHashPrefix]
  refine congrArg (List.take hashPrefixLimit) (List.filter_congr fun x _ ↦ ?_)
  rw [Bool.eq_iff_iff, matchesHashPrefix_iff p.2, decide_eq_true_iff, String.toList_ofList]
  cases hashExpr sha256 x.1 with
  | some digits => simp
  | none =>
    have hlen : 4 ≤ p.1.toList.length := p.2.1
    have hne : p.1.toList ≠ [] := List.ne_nil_of_length_pos (by omega)
    simpa using hne

end HashPrefix

end RealTube
