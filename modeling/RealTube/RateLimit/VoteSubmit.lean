import RealTube.Model.RateLimit
import RealTube.Model.Handlers

/-!
# The rate limit of votes

The requests to `POST /api/votes` pass a limiter and a handler. The handler records the user of the
body; the limiter counts the user of the header `X-User-ID`, or the address if there is none. The
limit is meant to be one of users, and the comment of `KeyByUserID` names the body, which it never
reads.

For one key of the limiter there is a bound of twice the limit in a window
(`FixedWindow.passes_le`). So there is one for a user **exactly** if all clients that send this user
have the same key (`submitted_le_iff`): two headers are enough to get 38 votes of one user through
in a minute.
-/

namespace RealTube

open FixedWindow

/-- A request to `POST /api/votes`: the client, the clock of the limiter, and what the handler
reads. -/
structure SubmitCall where
  client : Client
  time : ℚ
  now : Time
  body : Option VoteBody

/-- The body has this `userId`. -/
def SubmitCall.carries (w : Text) (a : SubmitCall) : Bool := a.body.any (·.userID = w)

/-- The limiter of `POST /api/votes`. -/
def Backend.voteSubmitConfig : Backend → RateLimitConfig
  | go => Go.newVoteSubmitRateLimiter
  | python => Python.newVoteSubmitLimiter

/-- The handler has called `SubmitVote`, which may have failed. -/
def callsSubmitVote : Except ApiError VoteRequest → Bool
  | .ok _ => true
  | .error e => e = internalError "Failed to submit vote"

section Submit

variable (lower : Backend → Text.LowerCase) (b : Backend)

/-- A request reaches `SubmitVote` if it passes the limiter. -/
def SubmitCall.reaches (a : SubmitCall) : Bool :=
  callsSubmitVote (b.submitHandler lower a.client.ip a.now a.body)

/-- The key of a client. -/
def Backend.voteKey (c : Client) : String := b.voteSubmitConfig.keyFn c

/-- The number of requests with a `userId` that pass the limiter and reach `SubmitVote` in the 60
seconds from `s` on. -/
def Backend.submitted (w : Text) (s : ℚ) (es : List (Event SubmitCall ℚ)) : ℕ :=
  passes (b.limiter b.voteSubmitConfig) (fun a ↦ b.voteKey a.client) SubmitCall.time
    (fun a ↦ a.carries w && a.reaches lower b && (s ≤ a.time && a.time ≤ s + 60)) ∅ es

/-- The number of those with a key. -/
def Backend.submittedAs (w : Text) (s : ℚ) (k : String) (es : List (Event SubmitCall ℚ)) : ℕ :=
  passes (b.limiter b.voteSubmitConfig) (fun a ↦ b.voteKey a.client) SubmitCall.time
    (fun a ↦ b.voteKey a.client = k && (a.carries w && a.reaches lower b &&
      (s ≤ a.time && a.time ≤ s + 60))) ∅ es

/-- Time does not go back. -/
def Chronological (es : List (Event SubmitCall ℚ)) : Prop :=
  es.Pairwise fun e e' ↦ e.moment SubmitCall.time ≤ e'.moment SubmitCall.time

variable {lower} {b} {w : Text} {s : ℚ} {es : List (Event SubmitCall ℚ)}

theorem voteSubmitConfig_max : b.voteSubmitConfig.max = 10 := by
  cases b <;> rfl

theorem voteSubmitConfig_window : b.voteSubmitConfig.window = 60 := by
  cases b <;> rfl

/-- What reaches `SubmitVote` has an accepted `userId`. -/
theorem exists_validateUserID_of_reaches {a : SubmitCall} (hcarries : a.carries w)
    (hreaches : a.reaches lower b) : ∃ u, b.validateUserID (lower b) w = .ok u := by
  obtain ⟨client, time, now, body⟩ := a
  obtain ⟨-⟩ | ⟨req⟩ := body
  · exact absurd hcarries Bool.false_ne_true
  · obtain rfl : req.userID = w := of_decide_eq_true hcarries
    cases huser : b.validateUserID (lower b) req.userID with
    | ok u => exact ⟨u, rfl⟩
    | error e =>
      rw [SubmitCall.reaches, Backend.submitHandler, huser] at hreaches
      cases hvideo : b.validateVideoID req.videoID with
      | ok v =>
        rw [hvideo] at hreaches
        cases hreaches
      | error e' =>
        rw [hvideo] at hreaches
        cases hreaches

/-! ### One key -/

/-- **The bound for one key**: if all clients that send the user have it, at most 20 votes of the
user get through in a minute. -/
theorem submitted_le {k : String} (hchron : Chronological es)
    (hkey : ∀ a, .request a ∈ es → a.carries w → a.reaches lower b → b.voteKey a.client = k) :
    b.submitted lower w s es ≤ 20 := by
  have hmax : (b.limiter b.voteSubmitConfig).max = 10 := by rw [limiter_max, voteSubmitConfig_max]
  have hwindow : (b.limiter b.voteSubmitConfig).window = 60 := by
    rw [limiter_window, voteSubmitConfig_window]
  refine le_trans (passes_mono fun a ha hcounted ↦ ?_)
    ((passes_le (by omega) (by rw [hwindow]; norm_num) hchron k s).trans (by omega))
  simp only [Bool.and_eq_true, decide_eq_true_eq] at hcounted
  rw [hwindow]
  exact decide_eq_true ⟨hkey a ha hcounted.1.1 hcounted.1.2, hcounted.2⟩

/-! ### Two keys -/

/-- When each of two clients sends its votes: one opens a window, nine fill it, ten fill the next.
-/
def burst : List ℚ := 0 :: (List.replicate 9 2 ++ List.replicate 10 61)

/-- A vote of the user. -/
def SubmitCall.vote (w : Text) (client : Client) (time : ℚ) : SubmitCall where
  client := client
  time := time
  now := 0
  body := some {
    videoID := Text.ofString "v"
    category := Text.ofString "fully_ai"
    userID := w
    userAgent := none }

/-- Two clients send votes of the same user at the same times. -/
def twoClients (w : Text) (c c' : Client) : List (Event SubmitCall ℚ) :=
  burst.flatMap fun t ↦ [.request (.vote w c t), .request (.vote w c' t)]

theorem reaches_vote {u : UserID} (hu : b.validateUserID (lower b) w = .ok u) (c : Client) (t : ℚ) :
    (SubmitCall.vote w c t).reaches lower b := by
  have hvideo : b.validateVideoID (Text.ofString "v") = .ok "v" := by
    cases b <;> rfl
  have hagent : Storable ((b.userAgent none).getD []) := by
    cases b <;> decide
  rw [SubmitCall.reaches, SubmitCall.vote, Backend.submitHandler, hvideo, hu]
  show callsSubmitVote (if Storable _ then _ else _) = true
  rw [if_pos hagent]
  rfl

theorem chronological_twoClients (c c' : Client) : Chronological (twoClients w c c') := by
  have hburst : burst.Pairwise (· ≤ ·) := by decide +kernel
  refine List.pairwise_flatMap.2 ⟨fun t _ ↦ ?_, hburst.imp fun hle e he e' he' ↦ ?_⟩
  · exact List.pairwise_pair.2 le_rfl
  · rcases List.mem_pair.1 he with rfl | rfl <;> rcases List.mem_pair.1 he' with rfl | rfl <;>
      exact hle

/-- The requests of each of the two. -/
theorem requestsOf_twoClients {c c' : Client} (h : b.voteKey c ≠ b.voteKey c') :
    requestsOf (fun a ↦ b.voteKey a.client) (b.voteKey c) (twoClients w c c') =
        burst.map (.vote w c) ∧
      requestsOf (fun a ↦ b.voteKey a.client) (b.voteKey c') (twoClients w c c') =
        burst.map (.vote w c') := by
  have hne := h.symm
  simp [requestsOf, twoClients, List.filterMap_flatMap, List.map_eq_flatMap, SubmitCall.vote, h,
    hne]

/-- The burst of a client gets 19 votes through in a minute. -/
theorem passesOf_burst :
    passesOf (b.limiter b.voteSubmitConfig) id (fun t ↦ 2 ≤ t && t ≤ 2 + 60) none burst = 19 := by
  cases b <;> decide +kernel

/-- So many votes of the user are submitted with its key. -/
theorem submittedAs_twoClients {u : UserID} (hu : b.validateUserID (lower b) w = .ok u)
    {c c' d : Client}
    (hd : requestsOf (fun a ↦ b.voteKey a.client) (b.voteKey d) (twoClients w c c') =
      burst.map (.vote w d)) : b.submittedAs lower w 2 (b.voteKey d) (twoClients w c c') = 19 := by
  have hcounted : (fun a : SubmitCall ↦ b.voteKey a.client = b.voteKey d &&
      (a.carries w && a.reaches lower b && (2 ≤ a.time && a.time ≤ 2 + 60))) ∘ SubmitCall.vote w d =
        fun t ↦ 2 ≤ t && t ≤ 2 + 60 := by
    funext t
    have hcarries : (SubmitCall.vote w d t).carries w := decide_eq_true rfl
    show (decide (b.voteKey d = b.voteKey d) && (_ && (decide (2 ≤ t) && decide (t ≤ 2 + 60)))) = _
    rw [hcarries, reaches_vote hu, decide_eq_true rfl, Bool.true_and, Bool.true_and, Bool.true_and]
  rw [Backend.submittedAs, passes_empty (fun a ha ↦ of_decide_eq_true (Bool.and_eq_true_iff.1 ha).1)
    (chronological_twoClients c c'), hd, passesOf_map, hcounted]
  exact passesOf_burst

/-- **Two keys get 38 votes of a user through** in a minute. -/
theorem le_submitted_twoClients {u : UserID} (hu : b.validateUserID (lower b) w = .ok u)
    {c c' : Client} (h : b.voteKey c ≠ b.voteKey c') :
    38 ≤ b.submitted lower w 2 (twoClients w c c') := by
  obtain ⟨hc, hc'⟩ := requestsOf_twoClients (w := w) h
  calc 38 = b.submittedAs lower w 2 (b.voteKey c) (twoClients w c c') +
        b.submittedAs lower w 2 (b.voteKey c') (twoClients w c c') := by
        rw [submittedAs_twoClients hu hc, submittedAs_twoClients hu hc']
    _ ≤ b.submitted lower w 2 (twoClients w c c') := passes_add_le h _ _ _

/-- **The limit of votes is one of users exactly if the user has one key.** Whatever is sent when,
at most 20 requests with a `userId` pass the limiter and reach `SubmitVote` within 60 seconds, if
and only if the `userId` is not accepted at all, or all clients that send it have the same key. -/
theorem submitted_le_iff (lower : Backend → Text.LowerCase) (b : Backend) (w : Text)
    (clients : Set Client) :
    (∀ es : List (Event SubmitCall ℚ), Chronological es →
        (∀ a, .request a ∈ es → a.carries w → a.client ∈ clients) →
          ∀ s, b.submitted lower w s es ≤ 20) ↔
      (∀ u, b.validateUserID (lower b) w ≠ .ok u) ∨
        ∀ c ∈ clients, ∀ c' ∈ clients, b.voteKey c = b.voteKey c' := by
  constructor
  · intro hbound
    by_contra! hnot
    obtain ⟨⟨u, hu⟩, c, hc, c', hc', hne⟩ := hnot
    have hle := hbound (twoClients w c c') (chronological_twoClients c c') (fun a ha _ ↦ ?_) 2
    · have := le_submitted_twoClients hu hne
      omega
    · obtain ⟨t, -, ha⟩ := List.mem_flatMap.1 ha
      rcases List.mem_pair.1 ha with h | h
      · obtain rfl := Event.request.inj h
        exact hc
      · obtain rfl := Event.request.inj h
        exact hc'
  · rintro (huser | hkey) es hchron hclients s
    · refine submitted_le (k := "") hchron fun a _ hcarries hreaches ↦ ?_
      obtain ⟨u, hu⟩ := exists_validateUserID_of_reaches hcarries hreaches
      exact absurd hu (huser u)
    · by_cases hsome : ∃ c, c ∈ clients
      · obtain ⟨c, hc⟩ := hsome
        exact submitted_le hchron fun a ha hcarries _ ↦ hkey _ (hclients a ha hcarries) c hc
      · exact submitted_le (k := "") hchron fun a ha hcarries _ ↦
          absurd ⟨_, hclients a ha hcarries⟩ hsome

/-- **Neither backend has a bound of 20 for all headers**: with two of them 38 votes of the user
`ab` get through in a minute. -/
theorem not_submitted_le : ¬ ∃ b : Backend, ∀ (lower : Backend → Text.LowerCase) (w : Text)
    (es : List (Event SubmitCall ℚ)), Chronological es → ∀ s, b.submitted lower w s es ≤ 20 := by
  rintro ⟨b, h⟩
  have hu : b.validateUserID .ascii (Text.ofString "ab") = .ok "ab" := by
    cases b <;> rfl
  have hne : b.voteKey ⟨"a", "127.0.0.1"⟩ ≠ b.voteKey ⟨"b", "127.0.0.1"⟩ := by
    cases b <;> decide
  have hle := h (fun _ ↦ .ascii) (Text.ofString "ab")
    (twoClients (Text.ofString "ab") ⟨"a", "127.0.0.1"⟩ ⟨"b", "127.0.0.1"⟩)
    (chronological_twoClients _ _) 2
  exact absurd (le_trans (le_submitted_twoClients hu hne) hle) (by decide)

end Submit

end RealTube
