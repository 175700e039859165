import RealTube.Store.Steps
import Mathlib.Logic.Function.Iterate

/-!
# The identity of an installation

`getLocalId` and `getPublicUserId` of `background/identity.ts` and `ensurePublicUserId` of
`background/background.ts`. The local id is made when it is first asked for: a `get` that finds
nothing in storage is followed by a `set` of a new id, and both are asynchronous. At first start the
startup code, the message handlers and the flush of the offline queue all ask for it.

Two of them that find nothing each make an id of their own, and only one of the two stays
(`not_oneIdentity_firstStart`). `oneIdentity_of_guarded` says that all calls agree if a `get` finds
nothing only while no other call is between its `get` and its `set`. The platform provides the ids
and the hash, which are parameters.
-/

namespace RealTube.Extension

/-- A local id. An empty string in storage would count as none. -/
abbrev LocalID : Type := { s : String // s ≠ "" }

/-- `HASH_ITERATIONS`. -/
def hashIterations : ℕ := 5000

/-- `iteratedHash`. -/
def iteratedHash (sha256 : String → String) (input : String) (iterations : ℕ) : String :=
  sha256^[iterations] input

/-- The hash that `getPublicUserId` makes of the local id. -/
def publicUserID (sha256 : String → String) (id : LocalID) : String :=
  iteratedHash sha256 id hashIterations

/-- The functions that ask for the local id. -/
inductive IdentityCall where
  | getLocalID
  | getPublicUserID
  | ensurePublicUserID
  deriving DecidableEq

/-- Where a call stands. -/
inductive IdentityPhase where
  /-- It has not begun. -/
  | ready
  /-- It has asked the storage. -/
  | getting
  /-- It has found nothing, and stores a new id. -/
  | setting (id : LocalID)
  /-- `getLocalId` has resolved. -/
  | resolved (id : LocalID)
  /-- A call for the public id has returned. -/
  | returned (userID : String)

/-- The storage, `cachedPublicUserId`, and the calls. -/
structure IdentityState (ι : Type) where
  storage : Option LocalID
  cachedPublicUserID : Option String
  phase : ι → IdentityPhase

/-- The next step of a call. -/
inductive IdentityEvent (ι : Type) where
  | start (i : ι)
  /-- The storage answers. -/
  | get (i : ι)
  /-- The new id is stored. -/
  | set (i : ι)
  /-- The hash is computed. -/
  | hash (i : ι)

namespace IdentityState

variable {ι : Type} [DecidableEq ι]

/-- A new installation. -/
def init : IdentityState ι := ⟨none, none, fun _ ↦ .ready⟩

/-- Put a call in a phase. -/
def setPhase (s : IdentityState ι) (i : ι) (phase : IdentityPhase) : IdentityState ι :=
  { s with phase := fun j ↦ if j = i then phase else s.phase j }

section Step

variable (sha256 : String → String) (uuid : ι → LocalID) (calls : ι → IdentityCall)

/-- The state after an event. `ensurePublicUserId` looks at the cached id first, and fills it in. -/
def step (s : IdentityState ι) : IdentityEvent ι → Option (IdentityState ι)
  | .start i =>
    match s.phase i, calls i, s.cachedPublicUserID with
    | .ready, .ensurePublicUserID, some userID => some (s.setPhase i (.returned userID))
    | .ready, _, _ => some (s.setPhase i .getting)
    | _, _, _ => none
  | .get i =>
    match s.phase i, s.storage with
    | .getting, some id => some (s.setPhase i (.resolved id))
    | .getting, none => some (s.setPhase i (.setting (uuid i)))
    | _, _ => none
  | .set i =>
    match s.phase i with
    | .setting id => some { s.setPhase i (.resolved id) with storage := some id }
    | _ => none
  | .hash i =>
    match s.phase i, calls i with
    | .resolved _, .getLocalID => none
    | .resolved id, .getPublicUserID => some (s.setPhase i (.returned (publicUserID sha256 id)))
    | .resolved id, .ensurePublicUserID =>
      some { s.setPhase i (.returned (publicUserID sha256 id)) with
        cachedPublicUserID := some (publicUserID sha256 id) }
    | _, _ => none

/-- The user id is that of the id in storage. -/
def Stored (s : IdentityState ι) (userID : String) : Prop :=
  ∃ id, s.storage = some id ∧ userID = publicUserID sha256 id

/-- **One identity**: every local id a call has got is the one in storage, and every public id, also
the cached one, is its hash. -/
structure OneIdentity (s : IdentityState ι) : Prop where
  local_eq : ∀ i id, s.phase i = .resolved id → s.storage = some id
  public_eq : ∀ i userID, s.phase i = .returned userID → s.Stored sha256 userID
  cached_eq : ∀ userID, s.cachedPublicUserID = some userID → s.Stored sha256 userID

end Step

/-- **The creation is guarded**: the storage answers that it is empty only while no other call is
about to store an id. -/
def Guarded (s : IdentityState ι) : IdentityEvent ι → Prop
  | .get _ => s.storage = none → ∀ j id, s.phase j ≠ .setting id
  | _ => True

/-! ### The invariant -/

/-- Besides, only one call stores an id, and it does so in an empty storage. -/
structure Inv (sha256 : String → String) (s : IdentityState ι) : Prop
    extends s.OneIdentity sha256 where
  setting : ∀ i id, s.phase i = .setting id →
    s.storage = none ∧ ∀ j id', s.phase j = .setting id' → j = i

variable {sha256 : String → String} {uuid : ι → LocalID} {calls : ι → IdentityCall}
  {s s' : IdentityState ι}

omit [DecidableEq ι] in
theorem inv_init : Inv sha256 (init : IdentityState ι) where
  local_eq _ _ h := by cases h
  public_eq _ _ h := by cases h
  cached_eq _ h := by cases h
  setting _ _ h := by cases h

theorem setPhase_phase (s : IdentityState ι) (i j : ι) (phase : IdentityPhase) :
    (s.setPhase i phase).phase j = if j = i then phase else s.phase j := rfl

/-- A call moves on to a phase that agrees with the storage. -/
theorem Inv.setPhase (h : s.Inv sha256) {i : ι} {phase : IdentityPhase}
    (hlocal : ∀ id, phase = .resolved id → s.storage = some id)
    (hpublic : ∀ userID, phase = .returned userID → s.Stored sha256 userID)
    (hsetting : ∀ id, phase = .setting id →
      s.storage = none ∧ ∀ j id', s.phase j ≠ .setting id') : (s.setPhase i phase).Inv sha256 where
  local_eq j id hj := by
    rw [setPhase_phase] at hj
    split_ifs at hj
    · exact hlocal id hj
    · exact h.local_eq j id hj
  public_eq j userID hj := by
    rw [setPhase_phase] at hj
    split_ifs at hj
    · exact hpublic userID hj
    · exact h.public_eq j userID hj
  cached_eq := h.cached_eq
  setting j id hj := by
    rw [setPhase_phase] at hj
    split_ifs at hj with hji
    · refine ⟨(hsetting id hj).1, fun k id' hk ↦ ?_⟩
      rw [setPhase_phase] at hk
      split_ifs at hk with hki
      · exact hki.trans hji.symm
      · exact absurd hk ((hsetting id hj).2 k id')
    · refine ⟨(h.setting j id hj).1, fun k id' hk ↦ ?_⟩
      rw [setPhase_phase] at hk
      split_ifs at hk
      · exact absurd hj ((hsetting id' hk).2 j id)
      · exact (h.setting j id hj).2 k id' hk

/-- **The first id is stored**: no call has got one before. -/
theorem Inv.set (h : s.Inv sha256) {i : ι} {id : LocalID} (hi : s.phase i = .setting id) :
    Inv sha256 { s.setPhase i (.resolved id) with storage := some id } := by
  obtain ⟨hempty, hother⟩ := h.setting i id hi
  have hnone : ∀ userID, ¬ s.Stored sha256 userID := by
    rintro userID ⟨id', hid', -⟩
    rw [hempty] at hid'
    cases hid'
  exact {
    local_eq := fun j id' hj ↦ by
      change (s.setPhase i (.resolved id)).phase j = _ at hj
      rw [setPhase_phase] at hj
      split_ifs at hj
      · exact congrArg some (IdentityPhase.resolved.inj hj)
      · have hold := h.local_eq j id' hj
        rw [hempty] at hold
        cases hold
    public_eq := fun j userID hj ↦ by
      change (s.setPhase i (.resolved id)).phase j = _ at hj
      rw [setPhase_phase] at hj
      split_ifs at hj
      exact absurd (h.public_eq j userID hj) (hnone userID)
    cached_eq := fun userID hcached ↦ absurd (h.cached_eq userID hcached) (hnone userID)
    setting := fun j id' hj ↦ by
      change (s.setPhase i (.resolved id)).phase j = _ at hj
      rw [setPhase_phase] at hj
      split_ifs at hj with hji
      exact absurd (hother j id' hj) hji }

omit [DecidableEq ι] in
/-- The cached id is filled in with a public id. -/
theorem Inv.cache (h : s.Inv sha256) {userID : String} (hstored : s.Stored sha256 userID) :
    Inv sha256 { s with cachedPublicUserID := some userID } where
  local_eq := h.local_eq
  public_eq := h.public_eq
  cached_eq _ hcached := Option.some.inj hcached ▸ hstored
  setting := h.setting

/-- **A guarded event keeps the invariant.** -/
theorem Inv.step {e : IdentityEvent ι} (h : s.Inv sha256) (he : s.Guarded e)
    (hstep : s.step sha256 uuid calls e = some s') : s'.Inv sha256 := by
  cases e with
  | start i =>
    rw [IdentityState.step] at hstep
    split at hstep
    · rename_i userID _ _ hcached
      obtain rfl := Option.some.inj hstep
      refine h.setPhase (fun _ hp ↦ by cases hp) (fun _ hp ↦ ?_) (fun _ hp ↦ by cases hp)
      obtain rfl := IdentityPhase.returned.inj hp
      exact h.cached_eq _ hcached
    · obtain rfl := Option.some.inj hstep
      exact h.setPhase (fun _ hp ↦ by cases hp) (fun _ hp ↦ by cases hp) (fun _ hp ↦ by cases hp)
    · cases hstep
  | get i =>
    rw [IdentityState.step] at hstep
    split at hstep
    · rename_i id _ hstorage
      obtain rfl := Option.some.inj hstep
      refine h.setPhase (fun _ hp ↦ ?_) (fun _ hp ↦ by cases hp) (fun _ hp ↦ by cases hp)
      rw [hstorage, IdentityPhase.resolved.inj hp]
    · rename_i _ hstorage
      obtain rfl := Option.some.inj hstep
      exact h.setPhase (fun _ hp ↦ by cases hp) (fun _ hp ↦ by cases hp)
        fun _ _ ↦ ⟨hstorage, he hstorage⟩
    · cases hstep
  | set i =>
    rw [IdentityState.step] at hstep
    split at hstep
    · obtain rfl := Option.some.inj hstep
      exact h.set ‹_›
    · cases hstep
  | hash i =>
    rw [IdentityState.step] at hstep
    have hreturned : ∀ id, s.phase i = .resolved id →
        s.Stored sha256 (publicUserID sha256 id) ∧
          (s.setPhase i (.returned (publicUserID sha256 id))).Inv sha256 := by
      intro id hi
      have hstored : s.Stored sha256 (publicUserID sha256 id) := ⟨id, h.local_eq i id hi, rfl⟩
      refine ⟨hstored, h.setPhase (fun _ hp ↦ by cases hp) (fun _ hp ↦ ?_) fun _ hp ↦ by cases hp⟩
      exact IdentityPhase.returned.inj hp ▸ hstored
    split at hstep
    · cases hstep
    · obtain rfl := Option.some.inj hstep
      exact (hreturned _ ‹_›).2
    · obtain rfl := Option.some.inj hstep
      obtain ⟨hstored, hinv⟩ := hreturned _ ‹_›
      exact hinv.cache hstored
    · cases hstep

/-- **Guarded calls have one identity**, in every interleaving of their steps. -/
theorem oneIdentity_of_guarded {es : List (IdentityEvent ι)}
    (h : Steps.Run (step sha256 uuid calls) Guarded init es s) : s.OneIdentity sha256 :=
  (h.inv inv_init fun hs he hstep ↦ hs.step he hstep).toOneIdentity

/-! ### The first start -/

/-- A name for each of two calls. -/
def firstIDs : Bool → LocalID
  | true => ⟨"a", by decide⟩
  | false => ⟨"b", by decide⟩

/-- The startup code, and a flush. -/
def firstCalls : Bool → IdentityCall
  | true => .ensurePublicUserID
  | false => .getPublicUserID

/-- The startup code alone has one identity. -/
theorem oneIdentity_startup : ∃ s : IdentityState Bool,
    s.cachedPublicUserID = some (publicUserID id (firstIDs true)) ∧ s.OneIdentity id := by
  have hrun : ∃ s, Steps.Run (step id firstIDs firstCalls) Guarded init
      [.start true, .get true, .set true, .hash true] s ∧
        s.cachedPublicUserID = some (publicUserID id (firstIDs true)) :=
    ⟨_, .cons trivial rfl <| .cons (fun _ j _ hj ↦ by cases j <;> cases hj) rfl <|
      .cons trivial rfl <| .cons trivial rfl .nil, rfl⟩
  obtain ⟨s, hrun, hcached⟩ := hrun
  exact ⟨s, hcached, oneIdentity_of_guarded hrun⟩

/-- **Two identities at the first start**: the startup code and a flush both find nothing, and the
flush stores its id last. -/
theorem not_oneIdentity_firstStart :
    ¬ ∀ (ι : Type) [DecidableEq ι] (sha256 : String → String) (uuid : ι → LocalID)
      (calls : ι → IdentityCall) (es : List (IdentityEvent ι)) (s : IdentityState ι),
      Steps.Run (step sha256 uuid calls) Steps.Any init es s → s.OneIdentity sha256 := by
  intro h
  have hrun : ∃ s, Steps.Run (step id firstIDs firstCalls) Steps.Any init
      [.start true, .start false, .get true, .get false, .set true, .set false] s ∧
        s.phase true = .resolved (firstIDs true) ∧ s.storage = some (firstIDs false) :=
    ⟨_, .cons trivial rfl <| .cons trivial rfl <| .cons trivial rfl <| .cons trivial rfl <|
      .cons trivial rfl <| .cons trivial rfl .nil, rfl, rfl⟩
  obtain ⟨s, hrun, hphase, hstorage⟩ := hrun
  have hid := (h Bool id firstIDs firstCalls _ s hrun).local_eq true _ hphase
  rw [hstorage] at hid
  exact absurd (Option.some.inj hid) (by decide)

end IdentityState

end RealTube.Extension
