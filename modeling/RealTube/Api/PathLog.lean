import RealTube.Store.InPlace
import RealTube.Model.Schema

/-!
# The paths in the logs

`sanitizePath` of `middleware/logging.go` and `_sanitize_path` of `middleware/logging.py`, which put
a placeholder for the segment after `users`, `channels` or `videos`, "so PII is never written to
logs". Both rewrite the segments in place (`Store.InPlace`). In `/users/users/alice` the second
`users` is replaced, and then nothing is left that asks for a placeholder for `alice`.

The two are the same function, and they do what they are meant to exactly on the paths without a
segment after two keywords that is not the placeholder already (`pathSanitized_iff`).
-/

namespace RealTube

/-- `strings.Split(path, "/")` and `path.split("/")`. -/
def segments (path : String) : List (List Char) := path.toList.splitOn '/'

/-- `strings.Join(parts, "/")` and `"/".join(parts)`. -/
def joinSegments (parts : List (List Char)) : String := String.ofList (['/'].intercalate parts)

/-! ### Go -/

/-- The body of the loop. -/
def Go.sanitizeAt (parts : List (List Char)) (i : ℕ) : List (List Char) :=
  if i = 0 then parts
  else
    let prev := parts.getD (i - 1) []
    if prev = "users".toList then parts.set i ":userId".toList
    else if prev = "channels".toList then parts.set i ":channelId".toList
    else if prev = "videos".toList then parts.set i ":hashPrefix".toList
    else parts

/-- `sanitizePath`. -/
def Go.sanitizePath (path : String) : String :=
  let parts := segments path
  joinSegments ((List.range parts.length).foldl sanitizeAt parts)

/-! ### Python -/

/-- `_PATH_PARAM_MAP`. -/
def Python.pathParamMap : List (String × String) :=
  [("users", ":userId"), ("channels", ":channelId"), ("videos", ":hashPrefix")]

/-- A lookup in `_PATH_PARAM_MAP`. -/
def placeholder (prev : List Char) : Option (List Char) :=
  (Python.pathParamMap.find? fun x ↦ x.1.toList = prev).map fun x ↦ x.2.toList

/-- The body of the loop. -/
def Python.sanitizeAt (parts : List (List Char)) (i : ℕ) : List (List Char) :=
  match placeholder (parts.getD (i - 1) []) with
  | some param => parts.set i param
  | none => parts

/-- `_sanitize_path`. -/
def Python.sanitizePath (path : String) : String :=
  let parts := segments path
  joinSegments ((List.range' 1 (parts.length - 1)).foldl sanitizeAt parts)

/-! ### The loops -/

theorem placeholder_eq (prev : List Char) : placeholder prev =
    if prev = "users".toList then some ":userId".toList
    else if prev = "channels".toList then some ":channelId".toList
    else if prev = "videos".toList then some ":hashPrefix".toList
    else none := by
  split_ifs with husers hchannels hvideos
  · rw [husers]
    rfl
  · rw [hchannels]
    rfl
  · rw [hvideos]
    rfl
  · rw [placeholder, Option.map_eq_none_iff, List.find?_eq_none]
    intro x hx
    rw [decide_eq_true_eq]
    rcases List.mem_cons.1 hx with rfl | hx
    · exact Ne.symm husers
    rcases List.mem_cons.1 hx with rfl | hx
    · exact Ne.symm hchannels
    · obtain rfl := List.mem_singleton.1 hx
      exact Ne.symm hvideos

/-- The placeholders are the texts of three segments. -/
theorem mem_of_placeholder {prev param : List Char} (h : placeholder prev = some param) :
    param ∈ [":userId".toList, ":channelId".toList, ":hashPrefix".toList] := by
  rw [placeholder_eq] at h
  split_ifs at h <;> obtain rfl := Option.some.inj h <;> decide

/-- A placeholder asks for nothing after it. -/
theorem placeholder_placeholder {prev param : List Char} (h : placeholder prev = some param) :
    placeholder param = none := by
  have hall : ∀ param ∈ [":userId".toList, ":channelId".toList, ":hashPrefix".toList],
      placeholder param = none := by decide
  exact hall param (mem_of_placeholder h)

theorem slash_notMem_placeholder {prev param : List Char} (h : placeholder prev = some param) :
    '/' ∉ param := by
  have hall : ∀ param ∈ [":userId".toList, ":channelId".toList, ":hashPrefix".toList],
      '/' ∉ param := by decide
  exact hall param (mem_of_placeholder h)

theorem Python.sanitizeAt_eq {i : ℕ} (hi : i ≠ 0) (parts : List (List Char)) :
    sanitizeAt parts i = InPlace.stepAt placeholder parts i := by
  rw [sanitizeAt, InPlace.stepAt, if_neg hi, List.getD_eq_getElem?_getD]
  cases parts[i - 1]? with
  | none => rfl
  | some prev =>
    rw [Option.getD_some, Option.bind_some]
    cases placeholder prev with
    | none => rfl
    | some param => rfl

theorem Go.sanitizeAt_eq (parts : List (List Char)) (i : ℕ) :
    sanitizeAt parts i = InPlace.stepAt placeholder parts i := by
  by_cases hi : i = 0
  · rw [sanitizeAt, InPlace.stepAt, if_pos hi, if_pos hi]
  · rw [← Python.sanitizeAt_eq hi, sanitizeAt, if_neg hi, Python.sanitizeAt, placeholder_eq]
    dsimp only
    split_ifs <;> rfl

/-- **Both loops** are the same. -/
theorem Go.foldl_sanitizeAt (parts : List (List Char)) :
    (List.range parts.length).foldl sanitizeAt parts = InPlace.loop placeholder parts := by
  rw [InPlace.loop, InPlace.loopTo, show sanitizeAt = InPlace.stepAt placeholder from
    funext₂ Go.sanitizeAt_eq]

theorem Python.foldl_sanitizeAt (parts : List (List Char)) :
    (List.range' 1 (parts.length - 1)).foldl sanitizeAt parts =
      InPlace.loop placeholder parts := by
  have hloop : (List.range' 1 (parts.length - 1)).foldl sanitizeAt parts =
      (List.range' 1 (parts.length - 1)).foldl (InPlace.stepAt placeholder) parts := by
    refine List.foldl_ext _ _ _ fun parts i hi ↦ sanitizeAt_eq ?_ parts
    have hle := (List.mem_range'_1.1 hi).1
    omega
  rw [hloop, InPlace.loop, InPlace.loopTo]
  cases hlen : parts.length with
  | zero => rfl
  | succ n => rw [Nat.add_sub_cancel, List.range_eq_range', List.range'_succ]; rfl

/-- No part has the separator in it. -/
theorem notMem_of_mem_splitOn {x : Char} {s part : List Char} (h : part ∈ s.splitOn x) :
    x ∉ part := by
  induction s generalizing part with
  | nil =>
    obtain rfl := List.mem_singleton.1 h
    exact List.not_mem_nil
  | cons c s ih =>
    rw [List.splitOn_cons_eq_if_modifyHead] at h
    split_ifs at h with hc
    · rcases List.mem_cons.1 h with rfl | h
      · exact List.not_mem_nil
      · exact ih h
    · obtain ⟨first, rest, hparts⟩ := List.exists_cons_of_ne_nil (List.splitOn_ne_nil x s)
      rw [hparts] at h ih
      rcases List.mem_cons.1 h with rfl | h
      · rw [List.mem_cons, not_or]
        exact ⟨fun heq ↦ hc (beq_iff_eq.2 heq.symm), ih List.mem_cons_self⟩
      · exact ih (List.mem_cons_of_mem first h)

/-- **The segments of the result** are those that the loop leaves. -/
theorem segments_joinSegments_loop (path : String) :
    segments (joinSegments (InPlace.loop placeholder (segments path))) =
      InPlace.loop placeholder (segments path) := by
  have hslash : ∀ part ∈ segments path, '/' ∉ part := fun _ ↦ notMem_of_mem_splitOn
  have hne : InPlace.loop placeholder (segments path) ≠ [] := by
    rw [← List.length_pos_iff_ne_nil, InPlace.length_loop]
    exact List.length_pos_of_ne_nil (List.splitOn_ne_nil _ _)
  rw [joinSegments, segments, String.toList_ofList]
  exact List.splitOn_intercalate '/' (InPlace.forall_mem_loop hslash
    fun _ _ ↦ slash_notMem_placeholder) hne

/-! ### What is logged -/

/-- **What is expected of a path**: every segment after a keyword is replaced, every other one is
as it was, and the backends log the same. -/
structure PathSanitized (path : String) : Prop where
  go : InPlace.Follows placeholder (segments path) (segments (Go.sanitizePath path))
  python : InPlace.Follows placeholder (segments path) (segments (Python.sanitizePath path))
  same : Go.sanitizePath path = Python.sanitizePath path

/-- **Exactly the paths that are logged as expected**: those in which a segment after two keywords
in a row is already the placeholder. -/
theorem pathSanitized_iff (path : String) : PathSanitized path ↔
    ∀ i a b c, (segments path)[i]? = some a → (segments path)[i + 1]? = some b →
      (segments path)[i + 2]? = some c → placeholder a ≠ none →
        ∀ param, placeholder b = some param → c = param := by
  have hgo : Go.sanitizePath path = joinSegments (InPlace.loop placeholder (segments path)) :=
    congrArg joinSegments (Go.foldl_sanitizeAt _)
  have hpython : Python.sanitizePath path =
      joinSegments (InPlace.loop placeholder (segments path)) :=
    congrArg joinSegments (Python.foldl_sanitizeAt _)
  rw [← InPlace.follows_loop_iff fun _ _ ↦ placeholder_placeholder]
  constructor
  · intro h
    have hfollows := h.go
    rwa [hgo, segments_joinSegments_loop] at hfollows
  · intro h
    refine ⟨?_, ?_, hgo.trans hpython.symm⟩
    · rwa [hgo, segments_joinSegments_loop]
    · rwa [hpython, segments_joinSegments_loop]

/-- **A user id after two keywords** is logged. -/
theorem not_pathSanitized : ¬∀ path : String, PathSanitized path := by
  intro h
  have hnext := (h "/api/users/users/alice").go.next 3 "users".toList "alice".toList
  exact absurd (hnext (by decide +kernel) (by decide +kernel)) (by decide +kernel)

end RealTube
