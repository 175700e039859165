import RealTube.Model.VideoService
import RealTube.Text.Bytes
import Mathlib.Data.Bool.AllAny

/-!
# Validation

`middleware/validation.go` and `middleware/validation.py`, as far as the requests for votes, users
and hash prefixes use them. The two agree on the limits, the classes of characters and the messages.
They differ in what they trim, in whether they trim or lower first, in whether a length is in bytes
or in characters, and in the end anchor of the regular expressions.

None of that makes a difference to what is accepted in the end: with either backend the accepted
identifiers are the nonempty strings over the class up to the limit (`checkID_eq_ok_iff`), and the
accepted prefixes are those of `IsHashPrefix` (`checkHashPrefix_eq_ok_iff`).
-/

namespace RealTube

/-! ### The two libraries -/

/-- `unicode.IsSpace`. -/
def Go.isSpace (c : Char) : Bool :=
  9 ≤ c.toNat && c.toNat ≤ 13 || 0x2000 ≤ c.toNat && c.toNat ≤ 0x200a ||
    c.toNat ∈ [0x20, 0x85, 0xa0, 0x1680, 0x2028, 0x2029, 0x202f, 0x205f, 0x3000]

/-- `str.isspace`, which also counts the four separators of ASCII. -/
def Python.isSpace (c : Char) : Bool := Go.isSpace c || 0x1c ≤ c.toNat && c.toNat ≤ 0x1f

namespace Backend

/-- What the backend takes for a space. -/
def isSpace : Backend → Char → Bool
  | go => Go.isSpace
  | python => Python.isSpace

/-- `strings.TrimSpace` and `str.strip`. -/
def strip (b : Backend) (s : Text) : Text := s.trim b.isSpace

/-- `strings.TrimSpace(strings.ToLower(s))` and `s.strip().lower()`. -/
def stripLower (lower : Text.LowerCase) : Backend → Text → Text
  | go, s => go.strip (lower.apply s)
  | python, s => lower.apply (python.strip s)

/-- `len`: the bytes of a Go string, the characters of a Python string. -/
def len : Backend → Text → ℕ
  | go, s => (s.map (Option.elim · 1 Char.utf8Size)).sum
  | python, s => s.length

/-- The end anchor of RE2 and of `re`. -/
def anchor : Backend → Text.EndAnchor
  | go => .strict
  | python => .beforeNewline

end Backend

/-! ### The validators -/

/-- What an identifier is checked for, and the messages. -/
structure IDRule where
  cls : List Char
  maxLen : ℕ
  required : String
  tooLong : String
  invalid : String

/-- `videoIDRe`, and the other constants for video ids. -/
def videoIDRule : IDRule where
  cls := "ABCDEFGHIJKLMNOPQRSTUVWXYZabcdefghijklmnopqrstuvwxyz0123456789_-".toList
  maxLen := 16
  required := "videoId is required"
  tooLong := "videoId must be at most 16 characters"
  invalid := "videoId contains invalid characters"

/-- `channelIDRe`, and the other constants for channel ids. -/
def channelIDRule : IDRule where
  cls := "ABCDEFGHIJKLMNOPQRSTUVWXYZabcdefghijklmnopqrstuvwxyz0123456789_-".toList
  maxLen := 32
  required := "channelId is required"
  tooLong := "channelId must be at most 32 characters"
  invalid := "channelId contains invalid characters"

/-- `userIDRe`, and the other constants for user ids. -/
def userIDRule : IDRule where
  cls := hexDigits
  maxLen := 64
  required := "userId is required"
  tooLong := "userId must be at most 64 characters"
  invalid := "userId must be a hexadecimal hash"

/-- `MinHashPrefix`. -/
def minHashPrefix : ℕ := 4

/-- `MaxHashPrefix`. -/
def maxHashPrefix : ℕ := 8

/-- `MaxUserAgentLen`. -/
def maxUserAgentLen : ℕ := 128

namespace Backend

/-- Check a cleaned identifier. -/
def checkID (b : Backend) (rule : IDRule) (s : Text) : Except String String :=
  if s = [] then .error rule.required
  else if rule.maxLen < b.len s then .error rule.tooLong
  else if ¬ s.matchesClass b.anchor rule.cls then .error rule.invalid
  else .ok s.toString

/-- Check a cleaned hash prefix. -/
def checkHashPrefix (b : Backend) (s : Text) : Except String String :=
  if b.len s < minHashPrefix ∨ maxHashPrefix < b.len s then
    .error "Hash prefix must be 4-8 characters"
  else if ¬ s.matchesClass b.anchor hexDigits then .error "Hash prefix must be hexadecimal"
  else .ok s.toString

/-- `ValidateVideoID` and `validate_video_id`. -/
def validateVideoID (b : Backend) (id : Text) : Except String VideoID :=
  b.checkID videoIDRule (b.strip id)

/-- `ValidateChannelID` and `validate_channel_id`. -/
def validateChannelID (b : Backend) (id : Text) : Except String ChannelID :=
  b.checkID channelIDRule (b.strip id)

/-- `ValidateUserID` and `validate_user_id`. -/
def validateUserID (lower : Text.LowerCase) (b : Backend) (id : Text) : Except String UserID :=
  b.checkID userIDRule (b.stripLower lower id)

/-- `ValidateHashPrefix` and `validate_hash_prefix`. -/
def validateHashPrefix (lower : Text.LowerCase) (b : Backend) (s : Text) : Except String String :=
  b.checkHashPrefix (b.stripLower lower s)

end Backend

/-- The first bytes of a text, in Go. A character that is cut leaves bytes that are none. -/
def Go.truncate : ℕ → Text → Text
  | _, [] => []
  | n, x :: s =>
    if x.elim 1 Char.utf8Size ≤ n then x :: truncate (n - x.elim 1 Char.utf8Size) s
    else List.replicate n none

/-- `ValidateUserAgent`. -/
def Go.validateUserAgent (ua : Text) : Text := truncate maxUserAgentLen (Backend.go.strip ua)

/-- `sanitize_user_agent`. -/
def Python.sanitizeUserAgent (ua : Option Text) : Option Text :=
  (ua.map fun ua ↦ (Backend.python.strip ua).take maxUserAgentLen).filter (· ≠ [])

/-! ### What is accepted -/

/-- The identifiers a rule is meant to accept. -/
def IDRule.Allows (rule : IDRule) (v : String) : Prop :=
  1 ≤ v.length ∧ v.length ≤ rule.maxLen ∧ ∀ c ∈ v.toList, c ∈ rule.cls

/-- A class of ASCII characters. -/
def IsAsciiClass (cls : List Char) : Prop := ∀ c ∈ cls, c.toNat < 128

theorem isAsciiClass_videoIDRule : IsAsciiClass videoIDRule.cls :=
  List.all_iff_forall_prop.1 (by decide +kernel)

theorem isAsciiClass_channelIDRule : IsAsciiClass channelIDRule.cls :=
  List.all_iff_forall_prop.1 (by decide +kernel)

theorem isAsciiClass_hexDigits : IsAsciiClass hexDigits :=
  List.all_iff_forall_prop.1 (by decide +kernel)

variable {b : Backend} {cls : List Char} {s : Text}

/-- Bytes and characters are the same number in a class of ASCII. -/
theorem len_eq_length (hcls : IsAsciiClass cls) (hs : Text.In cls s) : b.len s = s.length := by
  cases b with
  | python => rfl
  | go =>
    rw [Backend.len]
    induction s with
    | nil => rfl
    | cons x s ih =>
      obtain ⟨⟨c, hc, rfl⟩, hrest⟩ := List.forall_mem_cons.1 hs
      have hsize : c.utf8Size = 1 :=
        Char.utf8Size_eq_one_iff.2 (UInt32.le_iff_toNat_le.2 (Nat.le_of_lt_succ (hcls c hc)))
      rw [List.map_cons, List.sum_cons, ih hrest, List.length_cons, Option.elim_some, hsize,
        add_comm]

/-- What is left after trimming does not end in a newline. -/
theorem getLast?_strip_ne (b : Backend) (s : Text) : (b.strip s).getLast? ≠ some (some '\n') :=
  Text.getLast?_trim_ne (by cases b <;> decide) s

theorem getLast?_stripLower_ne (lower : Text.LowerCase) (b : Backend) (s : Text) :
    (b.stripLower lower s).getLast? ≠ some (some '\n') := by
  cases b with
  | go => exact getLast?_strip_ne .go (lower.apply s)
  | python => exact fun h ↦ getLast?_strip_ne .python s (lower.getLast?_apply _ h)

/-- Hexadecimal digits are left as they are. -/
theorem stripLower_eq_self {lower : Text.LowerCase} {v : String}
    (hv : ∀ c ∈ v.toList, c ∈ hexDigits) :
    b.stripLower lower (Text.ofString v) = Text.ofString v := by
  have hlower : lower.apply (Text.ofString v) = Text.ofString v := by
    have hself : ∀ c ∈ hexDigits, c.toLower = c := List.all_iff_forall_prop.1 (by decide +kernel)
    rw [Text.ofString, lower.apply_ascii _ fun c hc ↦ isAsciiClass_hexDigits c (hv c hc)]
    exact List.map_congr_left fun c hc ↦ congrArg some (hself c (hv c hc))
  have hstrip : b.strip (Text.ofString v) = Text.ofString v := by
    have hspace : ∀ c ∈ hexDigits, b.isSpace c = false :=
      List.all_iff_forall_prop.1 (by cases b <;> decide +kernel)
    refine Text.trim_eq_self fun x hx ↦ ?_
    obtain ⟨c, hc, rfl⟩ := List.mem_map.1 hx
    exact hspace c (hv c hc)
  cases b with
  | go => rw [Backend.stripLower, hlower, hstrip]
  | python => rw [Backend.stripLower, hstrip, hlower]

/-- **A check of an identifier** lets through what the rule is meant to accept. -/
theorem checkID_eq_ok_iff {rule : IDRule} (hcls : IsAsciiClass rule.cls)
    (hnewline : s.getLast? ≠ some (some '\n')) {v : String} :
    b.checkID rule s = .ok v ↔ s = Text.ofString v ∧ rule.Allows v := by
  rw [Backend.checkID]
  constructor
  · intro h
    split_ifs at h with hnil hlong hmatch
    obtain ⟨-, hin⟩ := (Text.matchesClass_iff (Or.inr hnewline)).1 hmatch
    rw [len_eq_length hcls hin, ← hin.length_toString] at hlong
    obtain rfl := Except.ok.inj h
    have hlen := hin.length_toString
    have hpos := List.length_pos_of_ne_nil hnil
    refine ⟨hin.eq_ofString.symm, by omega, by omega, ?_⟩
    exact Text.in_ofString.1 (hin.eq_ofString.symm ▸ hin)
  · rintro ⟨rfl, hpos, hle, hmem⟩
    have hin : Text.In rule.cls (Text.ofString v) := Text.in_ofString.2 hmem
    have hlen : b.len (Text.ofString v) = v.length := by
      rw [len_eq_length hcls hin, Text.length_ofString]
    have hne : Text.ofString v ≠ [] :=
      List.ne_nil_of_length_pos (by rw [Text.length_ofString]; omega)
    rw [if_neg hne, if_neg (by omega), if_neg, Text.toString_ofString]
    exact not_not.2 ((Text.matchesClass_iff (Or.inr hnewline)).2 ⟨hne, hin⟩)

/-- **A check of a hash prefix** lets through the hash prefixes. -/
theorem checkHashPrefix_eq_ok_iff (hnewline : s.getLast? ≠ some (some '\n')) {p : String} :
    b.checkHashPrefix s = .ok p ↔ s = Text.ofString p ∧ IsHashPrefix p := by
  rw [Backend.checkHashPrefix, minHashPrefix, maxHashPrefix]
  constructor
  · intro h
    split_ifs at h with hlong hmatch
    obtain ⟨-, hin⟩ := (Text.matchesClass_iff (Or.inr hnewline)).1 hmatch
    rw [len_eq_length isAsciiClass_hexDigits hin, ← hin.length_toString] at hlong
    obtain rfl := Except.ok.inj h
    refine ⟨hin.eq_ofString.symm, by omega, by omega, ?_⟩
    exact Text.in_ofString.1 (hin.eq_ofString.symm ▸ hin)
  · rintro ⟨rfl, hge, hle, hmem⟩
    have hin : Text.In hexDigits (Text.ofString p) := Text.in_ofString.2 hmem
    have hlen : b.len (Text.ofString p) = p.length := by
      rw [len_eq_length isAsciiClass_hexDigits hin, Text.length_ofString]
    have hne : Text.ofString p ≠ [] :=
      List.ne_nil_of_length_pos (by rw [Text.length_ofString]; omega)
    rw [if_neg (by omega), if_neg, Text.toString_ofString]
    exact not_not.2 ((Text.matchesClass_iff (Or.inr hnewline)).2 ⟨hne, hin⟩)

/-- **Accepted video ids**: what is left after trimming, 1 to 16 characters of the class. -/
theorem validateVideoID_eq_ok_iff {id : Text} {v : VideoID} :
    b.validateVideoID id = .ok v ↔ b.strip id = Text.ofString v ∧ videoIDRule.Allows v :=
  checkID_eq_ok_iff isAsciiClass_videoIDRule (getLast?_strip_ne b id)

/-- **Accepted channel ids**: what is left after trimming, 1 to 32 characters of the class. -/
theorem validateChannelID_eq_ok_iff {id : Text} {ch : ChannelID} :
    b.validateChannelID id = .ok ch ↔ b.strip id = Text.ofString ch ∧ channelIDRule.Allows ch :=
  checkID_eq_ok_iff isAsciiClass_channelIDRule (getLast?_strip_ne b id)

/-- **Accepted user ids**: what is left after trimming and lowering, 1 to 64 hexadecimal digits. -/
theorem validateUserID_eq_ok_iff {lower : Text.LowerCase} {id : Text} {u : UserID} :
    b.validateUserID lower id = .ok u ↔
      b.stripLower lower id = Text.ofString u ∧ userIDRule.Allows u :=
  checkID_eq_ok_iff isAsciiClass_hexDigits (getLast?_stripLower_ne lower b id)

/-- **Accepted hash prefixes**: what is left after trimming and lowering, 4 to 8 hexadecimal
digits. -/
theorem validateHashPrefix_eq_ok_iff {lower : Text.LowerCase} {p : Text} {q : String} :
    b.validateHashPrefix lower p = .ok q ↔
      b.stripLower lower p = Text.ofString q ∧ IsHashPrefix q :=
  checkHashPrefix_eq_ok_iff (getLast?_stripLower_ne lower b p)

end RealTube
