import RealTube.Model.UserService
import RealTube.Model.Validation

/-!
# Request handlers

The handlers of `handler/vote.go` and `handler/user.go`, and those of `routers/votes.py` and
`routers/users.py`, up to the call of the service: they check a request, and answer with an error or
pass its arguments on. All strings that come from outside are `Text`.

A text with a piece that is no character, or with the character 0, cannot be sent to the database.
The statement fails, and the handler answers as it does for any failure of the service.
-/

namespace RealTube

/-- The response of `ErrorResponse` and `error_response`. -/
structure ApiError where
  status : ℕ
  code : String
  message : String
  deriving DecidableEq

/-- The name of a category. -/
def Category.name : Category → String
  | fullyAI => "fully_ai"
  | aiVoiceover => "ai_voiceover"
  | aiVisuals => "ai_visuals"
  | aiThumbnails => "ai_thumbnails"
  | aiAssisted => "ai_assisted"

/-- The lookup in `ValidCategories`. -/
def Category.ofText (s : Text) : Option Category := all.find? fun c ↦ Text.ofString c.name = s

/-- `VoteRequest` as it is decoded from a body. -/
structure VoteBody where
  videoID : Text
  category : Text
  userID : Text
  userAgent : Option Text

/-- `VoteDeleteRequest` as it is decoded from a body. -/
structure VoteDeleteBody where
  videoID : Text
  userID : Text

/-- The error of a body that is not decoded. -/
def invalidBody : ApiError := ⟨400, "INVALID_BODY", "Invalid request body"⟩

/-- The error of a field that is not valid. -/
def invalidField (message : String) : ApiError := ⟨400, "INVALID_FIELD", message⟩

/-- The error of a service that fails. -/
def internalError (message : String) : ApiError := ⟨500, "INTERNAL_ERROR", message⟩

/-- The category of a vote. -/
def checkCategory (s : Text) : Except ApiError Category :=
  if s = [] then .error ⟨400, "MISSING_FIELDS", "videoId, userId, and category are required"⟩
  else match Category.ofText s with
  | none => .error ⟨400, "INVALID_CATEGORY", "Invalid category. Must be one of: fully_ai, " ++
      "ai_voiceover, ai_visuals, ai_thumbnails, ai_assisted"⟩
  | some category => .ok category

/-- The text can be sent to the database. -/
def Storable (s : Text) : Prop := ∀ x ∈ s, x ≠ none ∧ x ≠ some '\x00'

instance (s : Text) : Decidable (Storable s) := inferInstanceAs (Decidable (∀ x ∈ s, _))

/-- The user agent of a vote. A Go string that is missing is empty. -/
def Backend.userAgent : Backend → Option Text → Option Text
  | go, ua => some (Go.validateUserAgent (ua.getD []))
  | python, ua => Python.sanitizeUserAgent ua

section Handlers

variable (lower : Backend → Text.LowerCase) (b : Backend)

/-- `Submit` of the vote handlers, for a body or none. -/
def Backend.submitHandler (ip : String) (now : Time) :
    Option VoteBody → Except ApiError VoteRequest
  | none => .error invalidBody
  | some req => do
    let videoID ← (b.validateVideoID req.videoID).mapError invalidField
    let userID ← (b.validateUserID (lower b) req.userID).mapError invalidField
    let category ← checkCategory req.category
    let userAgent := b.userAgent req.userAgent
    if Storable (userAgent.getD []) then
      return {
        videoID, userID, category, ipHash := ip, userAgent := userAgent.map Text.toString, now }
    else .error (internalError "Failed to submit vote")

/-- `Delete` of the vote handlers. -/
def Backend.deleteHandler (now : Time) :
    Option VoteDeleteBody → Except ApiError VoteDeleteRequest
  | none => .error invalidBody
  | some req => do
    let videoID ← (b.validateVideoID req.videoID).mapError invalidField
    let userID ← (b.validateUserID (lower b) req.userID).mapError invalidField
    return { videoID, userID, now }

/-- `GetByUserID` of the user handlers. -/
def Backend.userHandler (createdAt answeredAt : Time) (id : Text) :
    Except ApiError LookupRequest := do
  let userID ← (b.validateUserID (lower b) id).mapError invalidField
  return { userID, createdAt, answeredAt }

variable {lower} {b}

theorem bind_eq_ok_iff {ε α β : Type} {x : Except ε α} {f : α → Except ε β} {y : β} :
    (x >>= f) = .ok y ↔ ∃ a, x = .ok a ∧ f a = .ok y := by
  cases x with
  | error e => exact iff_of_false (by rintro ⟨⟩) (by rintro ⟨a, ⟨⟩, -⟩)
  | ok a => exact ⟨fun h ↦ ⟨a, rfl, h⟩, fun ⟨a', ha, h⟩ ↦ Except.ok.inj ha ▸ h⟩

theorem bind_eq_error_iff {ε α β : Type} {x : Except ε α} {f : α → Except ε β} {e : ε} :
    (x >>= f) = .error e ↔ x = .error e ∨ ∃ a, x = .ok a ∧ f a = .error e := by
  cases x with
  | error e' => exact ⟨fun h ↦ Or.inl (congrArg Except.error (Except.error.inj h)),
      fun h ↦ h.elim (fun h ↦ congrArg Except.error (Except.error.inj h)) (by rintro ⟨a, ⟨⟩, -⟩)⟩
  | ok a => exact ⟨fun h ↦ Or.inr ⟨a, rfl, h⟩,
      fun h ↦ h.elim (by rintro ⟨⟩) fun ⟨a', ha, h⟩ ↦ Except.ok.inj ha ▸ h⟩

theorem mapError_eq_ok_iff {ε ε' α : Type} {x : Except ε α} {f : ε → ε'} {a : α} :
    x.mapError f = .ok a ↔ x = .ok a := by
  cases x with
  | error e => exact iff_of_false (by rintro ⟨⟩) (by rintro ⟨⟩)
  | ok a' => exact ⟨fun h ↦ congrArg Except.ok (Except.ok.inj h),
      fun h ↦ congrArg Except.ok (Except.ok.inj h)⟩

/-- A field that is not valid is answered with 400. -/
theorem status_of_mapError {α : Type} {x : Except String α} {e : ApiError}
    (h : x.mapError invalidField = .error e) : e.status = 400 := by
  cases x with
  | error message =>
    obtain rfl := Except.error.inj h
    rfl
  | ok a => cases h

theorem status_of_checkCategory {s : Text} {e : ApiError} (h : checkCategory s = .error e) :
    e.status = 400 := by
  rw [checkCategory] at h
  split_ifs at h
  · obtain rfl := Except.error.inj h
    rfl
  · split at h
    · obtain rfl := Except.error.inj h
      rfl
    · cases h

/-- **Every submission that is answered with an error** has a field that is not valid, or a user
agent that cannot be stored. -/
theorem error_of_submitHandler {ip : String} {now : Time} {req : VoteBody} {e : ApiError}
    (h : b.submitHandler lower ip now (some req) = .error e) :
    e.status = 400 ∨ ¬Storable ((b.userAgent req.userAgent).getD []) := by
  rw [Backend.submitHandler] at h
  obtain h | ⟨videoID, -, h⟩ := bind_eq_error_iff.1 h
  · exact Or.inl (status_of_mapError h)
  obtain h | ⟨userID, -, h⟩ := bind_eq_error_iff.1 h
  · exact Or.inl (status_of_mapError h)
  obtain h | ⟨category, -, h⟩ := bind_eq_error_iff.1 h
  · exact Or.inl (status_of_checkCategory h)
  · dsimp only at h
    split_ifs at h with hstorable
    · cases h
    · exact Or.inr hstorable

/-- **Every submission** that reaches the service has valid identifiers. -/
theorem allows_of_submitHandler {ip : String} {now : Time} {body : Option VoteBody}
    {q : VoteRequest} (h : b.submitHandler lower ip now body = .ok q) :
    videoIDRule.Allows q.videoID ∧ userIDRule.Allows q.userID := by
  obtain ⟨-⟩ | ⟨req⟩ := body
  · cases h
  · rw [Backend.submitHandler] at h
    simp only [bind_eq_ok_iff, mapError_eq_ok_iff] at h
    obtain ⟨videoID, hvideo, userID, huser, category, -, h⟩ := h
    split_ifs at h
    obtain rfl := Except.ok.inj h
    exact ⟨(validateVideoID_eq_ok_iff.1 hvideo).2, (validateUserID_eq_ok_iff.1 huser).2⟩

/-- **Every deletion** that reaches the service has valid identifiers. -/
theorem allows_of_deleteHandler {now : Time} {body : Option VoteDeleteBody} {q : VoteDeleteRequest}
    (h : b.deleteHandler lower now body = .ok q) :
    videoIDRule.Allows q.videoID ∧ userIDRule.Allows q.userID := by
  obtain ⟨-⟩ | ⟨req⟩ := body
  · cases h
  · rw [Backend.deleteHandler] at h
    simp only [bind_eq_ok_iff, mapError_eq_ok_iff] at h
    obtain ⟨videoID, hvideo, userID, huser, h⟩ := h
    obtain rfl := Except.ok.inj h
    exact ⟨(validateVideoID_eq_ok_iff.1 hvideo).2, (validateUserID_eq_ok_iff.1 huser).2⟩

/-- **Every lookup** that reaches the service has a valid identifier. -/
theorem allows_of_userHandler {createdAt answeredAt : Time} {id : Text} {q : LookupRequest}
    (h : b.userHandler lower createdAt answeredAt id = .ok q) : userIDRule.Allows q.userID := by
  rw [Backend.userHandler] at h
  simp only [bind_eq_ok_iff, mapError_eq_ok_iff] at h
  obtain ⟨userID, huser, h⟩ := h
  obtain rfl := Except.ok.inj h
  exact (validateUserID_eq_ok_iff.1 huser).2

end Handlers

end RealTube
