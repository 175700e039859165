import RealTube.Text.Json
import Mathlib.Algebra.Order.Ring.Rat

/-!
# Requests with retries

`fetchWithRetry` of `background/api-client.ts`. It fetches until something comes that is neither a
network error nor an answer 429, and gives up after a number of retries. Before a retry it sleeps:
for the seconds of the header `Retry-After`, if a 429 has one, and otherwise for a second, two
seconds, and so on.

What answers is a world of its own: a fetch at a time has an outcome, and leaves the world changed.
`fetchFrom_eq` says what one turn of the loop does. From it follow the number of fetches and the
result, for every sequence of outcomes (`fetchWithRetry_spec`), and the times of the fetches
(`exists_next_call`).
-/

namespace RealTube.Extension

/-- `MAX_RETRIES`. -/
def maxRetries : ℕ := 3

/-- `BASE_DELAY_MS`. -/
def baseDelayMs : ℤ := 1000

/-! ### Responses -/

/-- A response, as far as the client looks at it. -/
structure Response where
  status : ℕ
  headers : List (String × String)
  body : Json

/-- `headers.get`: the values of all headers of the name, in any case. -/
def Response.getHeader (r : Response) (name : String) : Option String :=
  match r.headers.filter fun x ↦ x.1.toLower = name.toLower with
  | [] => none
  | xs => some (String.intercalate ", " (xs.map Prod.snd))

/-- How a fetch ends. -/
inductive FetchOutcome where
  | networkError (message : String)
  | response (r : Response)

/-- White space of JavaScript. -/
def JS.isSpace (c : Char) : Bool :=
  9 ≤ c.toNat && c.toNat ≤ 13 || 0x2000 ≤ c.toNat && c.toNat ≤ 0x200a ||
    c.toNat ∈ [0x20, 0xa0, 0x1680, 0x2028, 0x2029, 0x202f, 0x205f, 0x3000, 0xfeff]

/-- `parseInt(s, 10)`; `none` is `NaN`. -/
def JS.parseInt (s : String) : Option ℤ :=
  let number (digits : List Char) : Option ℤ :=
    match digits.takeWhile Char.isDigit with
    | [] => none
    | digits => some (digits.foldl (fun n c ↦ 10 * n + (c.toNat - 48)) 0)
  match s.toList.dropWhile isSpace with
  | '-' :: digits => (number digits).map (-·)
  | '+' :: digits => number digits
  | digits => number digits

/-- The time that `setTimeout` waits, in milliseconds: its argument is converted to an integer of 32
bits, and nothing below 0 is waited for. -/
def JS.timeout (ms : Option ℤ) : ℕ :=
  ms.elim 0 fun ms ↦ ((ms + 2 ^ 31) % 2 ^ 32 - 2 ^ 31).toNat

/-! ### The loop -/

/-- The delay before a retry, without a header. -/
def backoffMs (attempt : ℕ) : Option ℤ := some (baseDelayMs * 2 ^ attempt)

/-- The delay before a retry after an answer 429. -/
def retryAfterMs (r : Response) (attempt : ℕ) : Option ℤ :=
  match (r.getHeader "Retry-After").filter (· ≠ "") with
  | some retryAfter => (JS.parseInt retryAfter).map (· * 1000)
  | none => backoffMs attempt

/-- `sleep`, in seconds. -/
def sleep (delayMs : Option ℤ) : ℚ := JS.timeout delayMs / 1000

/-- A fetch: when it is sent, what it meets, and how it ends. -/
structure FetchCall (W : Type) where
  time : ℚ
  world : W
  outcome : FetchOutcome

/-- How the function ends. -/
inductive FetchResult where
  | returned (r : Response)
  /-- The error of a fetch. -/
  | thrown (message : String)
  /-- `fetchWithRetry exhausted retries`. -/
  | exhausted

/-- The fetches of a call, in order, and its end. -/
structure FetchRun (W : Type) where
  calls : List (FetchCall W)
  result : FetchResult

/-- A run with a fetch before. -/
def FetchRun.after {W : Type} (call : FetchCall W) (run : FetchRun W) : FetchRun W :=
  ⟨call :: run.calls, run.result⟩

section Loop

variable {W : Type} (fetch : ℚ → W → FetchOutcome × W) (retries : ℕ)

/-- The loop of `fetchWithRetry`, from an attempt on. -/
def fetchFrom (attempt : ℕ) (now : ℚ) (world : W) : FetchRun W :=
  if attempt ≤ retries then
    let (outcome, next) := fetch now world
    match outcome with
    | .response r =>
      if r.status = 429 ∧ attempt < retries then
        .after ⟨now, world, .response r⟩
          (fetchFrom (attempt + 1) (now + sleep (retryAfterMs r attempt)) next)
      else ⟨[⟨now, world, .response r⟩], .returned r⟩
    | .networkError message =>
      if attempt < retries then
        .after ⟨now, world, .networkError message⟩
          (fetchFrom (attempt + 1) (now + sleep (backoffMs attempt)) next)
      else ⟨[⟨now, world, .networkError message⟩], .thrown message⟩
  else ⟨[], .exhausted⟩
termination_by retries + 1 - attempt

/-- `fetchWithRetry`. -/
def fetchWithRetry (now : ℚ) (world : W) : FetchRun W := fetchFrom fetch retries 0 now world

end Loop

namespace FetchOutcome

/-- The loop ends with this outcome, whatever is left of it. -/
def Settles : FetchOutcome → Prop
  | networkError _ => False
  | response r => r.status ≠ 429

instance (o : FetchOutcome) : Decidable o.Settles := by
  cases o with
  | networkError _ => exact .isFalse id
  | response r => exact inferInstanceAs (Decidable (r.status ≠ 429))

/-- The end of the function with this outcome. -/
def result : FetchOutcome → FetchResult
  | networkError message => .thrown message
  | response r => .returned r

/-- The delay before a retry after this outcome. -/
def delayMs (attempt : ℕ) : FetchOutcome → Option ℤ
  | networkError _ => backoffMs attempt
  | response r => retryAfterMs r attempt

end FetchOutcome

section Loop

variable {W : Type} {fetch : ℚ → W → FetchOutcome × W} {retries attempt : ℕ} {now : ℚ} {world : W}

/-- **One turn of the loop**: it fetches, and ends or sleeps and goes on. -/
theorem fetchFrom_eq (h : attempt ≤ retries) : fetchFrom fetch retries attempt now world =
    let outcome := (fetch now world).1
    if outcome.Settles ∨ attempt = retries then ⟨[⟨now, world, outcome⟩], outcome.result⟩
    else .after ⟨now, world, outcome⟩ (fetchFrom fetch retries (attempt + 1)
      (now + sleep (outcome.delayMs attempt)) (fetch now world).2) := by
  rw [fetchFrom, if_pos h]
  rcases hfetch : fetch now world with ⟨message | r, next⟩
  · by_cases hlast : attempt = retries
    · simp [hlast, FetchOutcome.Settles, FetchOutcome.result]
    · have hlt : attempt < retries := by omega
      simp [hlast, hlt, FetchOutcome.Settles, FetchOutcome.delayMs]
  · by_cases hstatus : r.status = 429
    · by_cases hlast : attempt = retries
      · simp [hlast, FetchOutcome.result]
      · have hlt : attempt < retries := by omega
        simp [hstatus, hlast, hlt, FetchOutcome.Settles, FetchOutcome.delayMs]
    · simp [hstatus, FetchOutcome.Settles, FetchOutcome.result]

/-- **The last turn.** -/
theorem fetchFrom_of_settles (h : attempt ≤ retries)
    (hsettles : (fetch now world).1.Settles ∨ attempt = retries) :
    fetchFrom fetch retries attempt now world =
      ⟨[⟨now, world, (fetch now world).1⟩], (fetch now world).1.result⟩ := by
  rw [fetchFrom_eq h]
  exact if_pos hsettles

/-- **Any other turn.** -/
theorem fetchFrom_of_not_settles (h : attempt < retries)
    (hsettles : ¬(fetch now world).1.Settles) : fetchFrom fetch retries attempt now world =
      .after ⟨now, world, (fetch now world).1⟩ (fetchFrom fetch retries (attempt + 1)
        (now + sleep ((fetch now world).1.delayMs attempt)) (fetch now world).2) := by
  rw [fetchFrom_eq h.le]
  exact if_neg fun hend ↦ hend.elim hsettles h.ne

end Loop

/-! ### How many fetches, and what comes of them -/

/-- The world that answers with a sequence of outcomes. -/
def nextOutcome (_ : ℚ) (outcomes : ℕ → FetchOutcome) : FetchOutcome × (ℕ → FetchOutcome) :=
  (outcomes 0, fun i ↦ outcomes (i + 1))

/-- The fetches from an attempt on are the outcomes up to the first that settles, or all that are
allowed. -/
theorem exists_calls_fetchFrom {retries : ℕ} (left : ℕ) {attempt : ℕ} (h : attempt + left = retries)
    (now : ℚ) (outcomes : ℕ → FetchOutcome) :
    ∃ k ≤ left, ((fetchFrom nextOutcome retries attempt now outcomes).calls.map
        FetchCall.outcome = (List.range (k + 1)).map outcomes) ∧
      (fetchFrom nextOutcome retries attempt now outcomes).result = (outcomes k).result ∧
      (∀ i < k, ¬(outcomes i).Settles) ∧ ((outcomes k).Settles ∨ k = left) := by
  induction left generalizing attempt now outcomes with
  | zero =>
    refine ⟨0, le_rfl, ?_⟩
    rw [fetchFrom_of_settles (by omega) (Or.inr (by omega))]
    exact ⟨rfl, rfl, fun i hi ↦ absurd hi (Nat.not_lt_zero i), Or.inr rfl⟩
  | succ left ih =>
    by_cases hsettles : (outcomes 0).Settles
    · refine ⟨0, Nat.zero_le _, ?_⟩
      rw [fetchFrom_of_settles (by omega) (Or.inl hsettles)]
      exact ⟨rfl, rfl, fun i hi ↦ absurd hi (Nat.not_lt_zero i), Or.inl hsettles⟩
    · obtain ⟨k, hk, hcalls, hresult, hbefore, hend⟩ :=
        ih (show (attempt + 1) + left = retries from by omega)
          (now + sleep ((outcomes 0).delayMs attempt)) fun i ↦ outcomes (i + 1)
      refine ⟨k + 1, by omega, ?_⟩
      rw [fetchFrom_of_not_settles (by omega) hsettles]
      refine ⟨?_, hresult, fun i hi ↦ ?_, hend.imp_right (congrArg (· + 1))⟩
      · rw [List.range_succ_eq_map, List.map_cons, List.map_map]
        exact congrArg (outcomes 0 :: ·) hcalls
      · cases i with
        | zero => exact hsettles
        | succ i => exact hbefore i (by omega)

/-- **The law of the retries**, for every number of retries and every sequence of outcomes. There is
one fetch for each outcome up to the first that settles, which is returned; if the first
`retries + 1` outcomes do not settle, there are as many fetches, and the last of these outcomes is
returned or thrown. The error at the end of the function is never thrown. -/
theorem fetchWithRetry_spec (retries : ℕ) (outcomes : ℕ → FetchOutcome) (now : ℚ) :
    let run := fetchWithRetry nextOutcome retries now outcomes
    run.calls.length ≤ retries + 1 ∧
      run.calls.map FetchCall.outcome = (List.range run.calls.length).map outcomes ∧
      (∀ k r, k ≤ retries → (∀ i < k, ¬(outcomes i).Settles) → outcomes k = .response r →
        r.status ≠ 429 → run.calls.length = k + 1 ∧ run.result = .returned r) ∧
      ((∀ i ≤ retries, ¬(outcomes i).Settles) → run.calls.length = retries + 1 ∧
        (∀ r, outcomes retries = .response r → run.result = .returned r) ∧
        ∀ message, outcomes retries = .networkError message → run.result = .thrown message) ∧
      run.result ≠ .exhausted := by
  obtain ⟨k, hk, hcalls, hresult, hbefore, hend⟩ :=
    exists_calls_fetchFrom retries (Nat.zero_add retries) now outcomes
  dsimp only
  rw [← fetchWithRetry] at hcalls hresult
  have hlen : (fetchWithRetry nextOutcome retries now outcomes).calls.length = k + 1 := by
    have hlen := congrArg List.length hcalls
    rwa [List.length_map, List.length_map, List.length_range] at hlen
  rw [hlen, hresult]
  refine ⟨by omega, hcalls, fun k' r hk' hbefore' houtcome hstatus ↦ ?_, fun hnone ↦ ?_, ?_⟩
  · have hsettles : (outcomes k').Settles := by
      rw [houtcome]
      exact hstatus
    -- the first outcome that settles is this one
    have heq : k = k' := by
      rcases lt_trichotomy k k' with hlt | heq | hlt
      · exact absurd (hend.resolve_right (by omega)) (hbefore' k hlt)
      · exact heq
      · exact absurd hsettles (hbefore k' hlt)
    rw [heq, houtcome]
    exact ⟨rfl, rfl⟩
  · obtain rfl := hend.resolve_left (hnone k hk)
    refine ⟨rfl, fun r hr ↦ ?_, fun message hmessage ↦ ?_⟩
    · rw [hr]
      rfl
    · rw [hmessage]
      rfl
  · cases outcomes k with
    | networkError message => rintro ⟨⟩
    | response r => rintro ⟨⟩

/-! ### When the fetches are sent -/

section Times

variable {W : Type} {fetch : ℚ → W → FetchOutcome × W} {retries : ℕ}

/-- The first fetch is sent at once. -/
theorem getElem?_zero_calls {attempt : ℕ} (h : attempt ≤ retries) (now : ℚ) (world : W) :
    (fetchFrom fetch retries attempt now world).calls[0]? =
      some ⟨now, world, (fetch now world).1⟩ := by
  rw [fetchFrom_eq h]
  dsimp only
  split_ifs <;> rfl

/-- If there is another one, the first outcome does not settle, and there is a retry left. -/
theorem getElem?_succ_calls {i attempt : ℕ} {now : ℚ} {world : W} {call : FetchCall W}
    (h : attempt ≤ retries)
    (hcall : (fetchFrom fetch retries attempt now world).calls[i + 1]? = some call) :
    attempt < retries ∧ ¬(fetch now world).1.Settles ∧
      (fetchFrom fetch retries (attempt + 1) (now + sleep ((fetch now world).1.delayMs attempt))
        (fetch now world).2).calls[i]? = some call := by
  rw [fetchFrom_eq h] at hcall
  dsimp only at hcall
  split_ifs at hcall with hend
  · cases hcall
  · rw [not_or] at hend
    exact ⟨by omega, hend.1, hcall⟩

/-- Every fetch of a run is one that the world answers. -/
theorem outcome_eq_of_getElem? {i attempt : ℕ} {now : ℚ} {world : W} {call : FetchCall W}
    (h : attempt ≤ retries)
    (hcall : (fetchFrom fetch retries attempt now world).calls[i]? = some call) :
    call.outcome = (fetch call.time call.world).1 ∧ attempt + i ≤ retries := by
  induction i generalizing attempt now world with
  | zero =>
    rw [getElem?_zero_calls h] at hcall
    obtain rfl := Option.some.inj hcall
    exact ⟨rfl, h⟩
  | succ i ih =>
    obtain ⟨hlt, -, hrest⟩ := getElem?_succ_calls h hcall
    obtain ⟨houtcome, hle⟩ := ih (by omega) hrest
    exact ⟨houtcome, by omega⟩

/-- **After an outcome that does not settle**, if there is a retry left, the next fetch is sent when
the sleep is over. -/
theorem exists_next_call {i attempt : ℕ} {now : ℚ} {world : W} {call : FetchCall W}
    (hcall : (fetchFrom fetch retries attempt now world).calls[i]? = some call)
    (hsettles : ¬call.outcome.Settles) (hi : attempt + i < retries) :
    ∃ next, (fetchFrom fetch retries attempt now world).calls[i + 1]? = some next ∧
      next.time = call.time + sleep (call.outcome.delayMs (attempt + i)) := by
  induction i generalizing attempt now world with
  | zero =>
    rw [getElem?_zero_calls (by omega)] at hcall
    obtain rfl := Option.some.inj hcall
    rw [fetchFrom_of_not_settles (by omega) hsettles]
    exact ⟨_, getElem?_zero_calls (by omega) _ _, rfl⟩
  | succ i ih =>
    obtain ⟨hlt, hfirst, hrest⟩ := getElem?_succ_calls (by omega) hcall
    obtain ⟨next, hnext, htime⟩ := ih hrest (by omega)
    rw [fetchFrom_of_not_settles hlt hfirst]
    refine ⟨next, hnext, ?_⟩
    rw [htime, show attempt + 1 + i = attempt + (i + 1) from by omega]

end Times

end RealTube.Extension
