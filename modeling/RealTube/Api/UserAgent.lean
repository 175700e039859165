import RealTube.Model.Handlers

/-!
# User agents

`ValidateUserAgent` cuts a user agent after 128 bytes, `sanitize_user_agent` after 128 characters,
which is what the column `VARCHAR(128)` holds. The bytes that Go keeps are whole characters exactly
if some number of characters ends there (`none_notMem_truncate_iff`); else a part of a character is
left, which is not UTF-8, and the database rejects the vote.

So a user agent goes well exactly if the cut is between two characters and nothing before it is the
character 0, which the database does not take from Python either; and the backends then store the
same exactly if the text is short or starts with 128 characters of ASCII (`userAgentStored_iff`).
-/

namespace RealTube

variable {n k : ℕ} {s : Text}

/-! ### Bytes -/

@[simp] theorem Go.len_nil : Backend.go.len [] = 0 := rfl

@[simp] theorem Go.len_cons (x : Option Char) (s : Text) :
    Backend.go.len (x :: s) = x.elim 1 Char.utf8Size + Backend.go.len s := rfl

@[simp] theorem Go.len_append (s t : Text) :
    Backend.go.len (s ++ t) = Backend.go.len s + Backend.go.len t := by
  rw [Backend.len, List.map_append, List.sum_append]
  rfl

/-- A piece takes up a byte at least. -/
theorem one_le_size (x : Option Char) : 1 ≤ x.elim 1 Char.utf8Size := by
  cases x with
  | none => exact le_rfl
  | some c => exact Char.utf8Size_pos c

theorem length_le_len (s : Text) : s.length ≤ Backend.go.len s := by
  induction s with
  | nil => exact le_rfl
  | cons x s ih =>
    have hx := one_le_size x
    rw [List.length_cons, Go.len_cons]
    omega

/-- **As many bytes as characters**: ASCII. -/
theorem len_eq_length_iff (hs : none ∉ s) :
    Backend.go.len s = s.length ↔ ∀ x ∈ s, ∃ c, x = some c ∧ c.toNat < 128 := by
  induction s with
  | nil => simp
  | cons x s ih =>
    rw [List.mem_cons, not_or] at hs
    obtain ⟨c, rfl⟩ := Option.ne_none_iff_exists'.1 (Ne.symm hs.1)
    have hlen := length_le_len s
    have hsize : c.utf8Size = 1 ↔ c.toNat < 128 := by
      rw [Char.utf8Size_eq_one_iff, UInt32.le_iff_toNat_le]
      exact Nat.lt_succ_iff.symm
    have hpos := Char.utf8Size_pos c
    rw [Go.len_cons, List.length_cons, Option.elim_some, List.forall_mem_cons, ← ih hs.2]
    constructor
    · exact fun h ↦ ⟨⟨c, rfl, hsize.1 (by omega)⟩, by omega⟩
    · rintro ⟨⟨c', hc', hlt⟩, h⟩
      obtain rfl := Option.some.inj hc'
      have hone := hsize.2 hlt
      omega

/-! ### Cutting after a number of bytes -/

/-- The first `k` characters are what fits into `n` bytes, with no byte of another one. -/
def CutsAt (n : ℕ) (s : Text) (k : ℕ) : Prop :=
  Backend.go.len (s.take k) = n ∨ Backend.go.len s ≤ n ∧ s.length ≤ k

/-- **The bytes that are kept** are the characters up to the cut. -/
theorem truncate_eq_take (h : CutsAt n s k) : Go.truncate n s = s.take k := by
  induction s generalizing n k with
  | nil => simp [Go.truncate]
  | cons x s ih =>
    rw [Go.truncate]
    cases k with
    | zero =>
      have hx := one_le_size x
      obtain hzero | ⟨-, hlen⟩ := h
      · obtain rfl : 0 = n := hzero
        rw [if_neg (by omega)]
        rfl
      · cases hlen
    | succ k =>
      rw [CutsAt, List.take_succ_cons, Go.len_cons, Go.len_cons, List.length_cons] at h
      rw [if_pos (by omega), List.take_succ_cons, ih]
      rcases h with h | ⟨hle, hlen⟩
      · exact Or.inl (by omega)
      · exact Or.inr ⟨by omega, by omega⟩

/-- A cut elsewhere leaves a part of a character. -/
theorem exists_cutsAt_of_none_notMem (h : none ∉ Go.truncate n s) : ∃ k, CutsAt n s k := by
  induction s generalizing n with
  | nil => exact ⟨0, Or.inr ⟨Nat.zero_le n, le_rfl⟩⟩
  | cons x s ih =>
    rw [Go.truncate] at h
    split_ifs at h with hfits
    · obtain ⟨k, hk⟩ := ih fun hmem ↦ h (List.mem_cons_of_mem x hmem)
      refine ⟨k + 1, ?_⟩
      rw [CutsAt, List.take_succ_cons, Go.len_cons, Go.len_cons, List.length_cons]
      rcases hk with hk | ⟨hle, hlen⟩
      · exact Or.inl (by omega)
      · exact Or.inr ⟨by omega, by omega⟩
    · refine ⟨0, Or.inl ?_⟩
      have hzero : n = 0 := by
        by_contra hne
        exact h (List.mem_replicate.2 ⟨hne, rfl⟩)
      rw [hzero]
      rfl

/-- **Exactly when a cut is valid UTF-8.** -/
theorem none_notMem_truncate_iff (hs : none ∉ s) :
    none ∉ Go.truncate n s ↔ ∃ k, CutsAt n s k := by
  refine ⟨exists_cutsAt_of_none_notMem, ?_⟩
  rintro ⟨k, hk⟩ hmem
  rw [truncate_eq_take hk] at hmem
  exact hs (List.mem_of_mem_take hmem)

theorem length_truncate_le (n : ℕ) (s : Text) : (Go.truncate n s).length ≤ n := by
  induction s generalizing n with
  | nil => exact Nat.zero_le n
  | cons x s ih =>
    have hx := one_le_size x
    rw [Go.truncate]
    split_ifs with hfits
    · have hrest := ih (n - x.elim 1 Char.utf8Size)
      rw [List.length_cons]
      omega
    · rw [List.length_replicate]

/-- **Cutting after bytes and after characters** is the same if all bytes fit, or if the characters
that are kept are ASCII. -/
theorem truncate_eq_take_iff (hs : none ∉ s) :
    Go.truncate n s = s.take n ↔
      Backend.go.len s ≤ n ∨ ∀ x ∈ s.take n, ∃ c, x = some c ∧ c.toNat < 128 := by
  have hnone : none ∉ s.take n := fun hmem ↦ hs (List.mem_of_mem_take hmem)
  rw [← len_eq_length_iff hnone]
  have htake := length_le_len (s.take n)
  have hlen := length_le_len s
  rw [List.length_take] at htake ⊢
  constructor
  · intro h
    by_contra hnot
    rw [not_or, not_le] at hnot
    -- the cut is after whole characters, and there are as many as bytes
    obtain ⟨k, hk⟩ := exists_cutsAt_of_none_notMem (h ▸ hnone)
    rw [truncate_eq_take hk] at h
    rcases hk with hk | ⟨hle, -⟩
    · rw [h] at hk
      rcases le_total n s.length with hn | hn
      · exact hnot.2 (by rw [hk, Nat.min_eq_left hn])
      · rw [List.take_of_length_le hn] at hk
        omega
    · omega
  · intro h
    refine truncate_eq_take ?_
    rcases le_total n s.length with hn | hn
    · rcases h with h | h
      · exact Or.inr ⟨h, by omega⟩
      · exact Or.inl (by omega)
    · rw [List.take_of_length_le hn] at h
      exact Or.inr ⟨by omega, hn⟩

/-! ### Submissions -/

/-- The vote with this user agent that is in order otherwise. -/
def voteWith (ua : Text) : VoteBody where
  videoID := Text.ofString "dQw4w9WgXcQ"
  category := Text.ofString "fully_ai"
  userID := Text.ofString "ab12"
  userAgent := some ua

/-- **No submission fails because of a user agent** exactly if what Go makes of it can be stored. -/
theorem submitHandler_ne_iff {ua : Text} :
    (∀ lower ip now req, req.userAgent = some ua →
      Backend.go.submitHandler lower ip now (some req) ≠
        .error (internalError "Failed to submit vote")) ↔ Storable (Go.validateUserAgent ua) := by
  constructor
  · intro h
    by_contra hnot
    refine h (fun _ ↦ .ascii) "" 0 (voteWith ua) rfl ?_
    have hvideo : Backend.go.validateVideoID (voteWith ua).videoID = .ok "dQw4w9WgXcQ" := by rfl
    have huser : Backend.go.validateUserID .ascii (voteWith ua).userID = .ok "ab12" := by rfl
    rw [Backend.submitHandler, hvideo, huser]
    exact if_neg hnot
  · intro hstorable lower ip now req hua h
    rcases error_of_submitHandler h with hstatus | hnot
    · exact absurd (show 500 = 400 from hstatus) (by decide)
    · rw [hua] at hnot
      exact hnot hstorable

/-- **What is expected of a user agent** that is valid: it is cut to valid UTF-8 of at most 128
characters, no submission fails because of it, and without white space around it Python makes the
same of it, up to empty and null. -/
structure UserAgentStored (ua : String) : Prop where
  valid : none ∉ Go.validateUserAgent (Text.ofString ua)
  length_le : (Go.validateUserAgent (Text.ofString ua)).length ≤ 128
  submits : ∀ lower ip now req, req.userAgent = some (Text.ofString ua) →
    Backend.go.submitHandler lower ip now (some req) ≠
      .error (internalError "Failed to submit vote")
  agrees : (∀ b : Backend, b.strip (Text.ofString ua) = Text.ofString ua) →
    Go.validateUserAgent (Text.ofString ua) =
      (Python.sanitizeUserAgent (some (Text.ofString ua))).getD []

/-- **The condition**: the cut is between two characters, and before it there is no character 0. And
if there is no white space around the user agent, it has at most 128 bytes, or starts with 128
characters of ASCII. -/
def UserAgentCutsWell (ua : String) : Prop :=
  (∃ k, CutsAt 128 (Backend.go.strip (Text.ofString ua)) k ∧
    some '\x00' ∉ (Backend.go.strip (Text.ofString ua)).take k) ∧
  ((∀ b : Backend, b.strip (Text.ofString ua) = Text.ofString ua) →
    Backend.go.len (Text.ofString ua) ≤ 128 ∨
      ∀ x ∈ (Text.ofString ua).take 128, ∃ c, x = some c ∧ c.toNat < 128)

theorem none_notMem_strip (b : Backend) (ua : String) : none ∉ b.strip (Text.ofString ua) := by
  intro h
  obtain ⟨c, -, hc⟩ := List.mem_map.1 (Text.mem_of_mem_trim h)
  exact Option.some_ne_none c hc

/-- What Python stores, with null for empty. -/
theorem getD_sanitizeUserAgent (ua : Text) :
    (Python.sanitizeUserAgent (some ua)).getD [] = (Backend.python.strip ua).take 128 := by
  rw [Python.sanitizeUserAgent, Option.map_some, Option.filter_some]
  split_ifs with hne
  · rfl
  · exact (not_not.1 fun hnil ↦ hne (decide_eq_true hnil)).symm

/-- **Exactly which user agents go well.** -/
theorem userAgentStored_iff (ua : String) : UserAgentStored ua ↔ UserAgentCutsWell ua := by
  have hvalid := none_notMem_truncate_iff (n := 128) (none_notMem_strip .go ua)
  have hagrees : (∀ b : Backend, b.strip (Text.ofString ua) = Text.ofString ua) →
      (Go.validateUserAgent (Text.ofString ua) =
          (Python.sanitizeUserAgent (some (Text.ofString ua))).getD [] ↔
        Backend.go.len (Text.ofString ua) ≤ 128 ∨
          ∀ x ∈ (Text.ofString ua).take 128, ∃ c, x = some c ∧ c.toNat < 128) := by
    intro hstrip
    have hnone := none_notMem_strip .go ua
    rw [hstrip .go] at hnone
    rw [getD_sanitizeUserAgent, Go.validateUserAgent, hstrip .go, hstrip .python]
    exact truncate_eq_take_iff hnone
  constructor
  · rintro ⟨hnone, -, hsubmits, hsame⟩
    obtain ⟨k, hk⟩ := hvalid.1 hnone
    have hstorable := submitHandler_ne_iff.1 hsubmits
    refine ⟨⟨k, hk, fun hmem ↦ (hstorable (some '\x00') ?_).2 rfl⟩, fun hstrip ↦
      (hagrees hstrip).1 (hsame hstrip)⟩
    rwa [Go.validateUserAgent, maxUserAgentLen, truncate_eq_take hk]
  · rintro ⟨⟨k, hk, hzero⟩, hsame⟩
    have hnone := hvalid.2 ⟨k, hk⟩
    refine ⟨hnone, length_truncate_le _ _, submitHandler_ne_iff.2 fun x hx ↦ ⟨?_, ?_⟩,
      fun hstrip ↦ (hagrees hstrip).2 (hsame hstrip)⟩
    · exact fun h ↦ hnone (h ▸ hx)
    · rw [Go.validateUserAgent, maxUserAgentLen, truncate_eq_take hk] at hx
      exact fun h ↦ hzero (h ▸ hx)

/-- **A character of two bytes** at the bytes 128 and 129 is cut in two. -/
theorem not_userAgentStored : ¬∀ ua : String, UserAgentStored ua := by
  intro h
  have hvalid := (h (String.ofList (List.replicate 127 'a' ++ ['é']))).valid
  exact hvalid (by decide +kernel)

end RealTube
