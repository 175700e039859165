import RealTube.Store.Table
import RealTube.Store.Steps

/-!
# Caches beside a store

A **cache-aside** service answers a key from its cache. On a miss it reads the store, in one query
or several, builds the answer, puts it in the cache with a lifetime, and answers. Any number of
lookups run beside each other and beside writers of the store; the cache may fail, lose keys or have
them deleted at any time.

Nothing keeps a cached answer in step with the store, so what the service can promise is how old an
answer is. Every answer is **built** (`Built`) from versions of the store that were current one
after the other while a single lookup ran, and that lookup began at most the lifetime, and the time
a lookup may take, ago (`built_of_answer`). A lookup of two queries is the usual case: an answer is
what the first found with what the second read later (`twoQueries_answer`), and it is that of the
present version when nothing the queries read has changed for long enough
(`twoQueries_answer_of_settled`).
-/

open Steps

namespace CacheAside

/-- What a query of a lookup leads to: another query, or the answer. The answer that there is
nothing is not cached. -/
inductive Progress (P R : Type) where
  | more (p : P)
  | done (r : Option R)

/-- A service over stores `S` with writes `W`: where a lookup of a key begins, what its queries
read (`Q` is what a query leaves open, as the order of ties), and the lifetime of what it caches. -/
structure Service (K Q S W P R : Type) where
  start : K → P
  read : K → P → Q → S → Progress P R
  apply : S → W → S
  lifetime : ℕ

/-- A lookup in flight that has missed the cache, and when. -/
inductive Lookup (K P R : Type) where
  | reading (k : K) (began : ℕ) (p : P)
  | built (k : K) (began : ℕ) (r : R)

/-- When the lookup missed the cache. -/
def Lookup.began {K P R : Type} : Lookup K P R → ℕ
  | reading _ began _ => began
  | built _ began _ => began

/-- The clock, the store, the cache with the times its entries expire at, and the lookups. -/
structure Sys (ι K S P R : Type) where
  now : ℕ
  store : S
  cache : Table K (R × ℕ)
  lookups : ι → Option (Lookup K P R)

/-- What can happen. `up` says whether the cache answers; a failing cache is a miss, or keeps
nothing. -/
inductive Event (ι K Q W : Type) where
  | pass (t : ℕ)
  | write (w : W)
  | begin (i : ι) (k : K) (up : Bool)
  | read (i : ι) (q : Q)
  | set (i : ι) (up : Bool)
  | abort (i : ι)
  | drop (k : K)

variable {ι K Q S W P R : Type} [DecidableEq ι] [DecidableEq K]

namespace Sys

/-- Nothing is cached, and nothing in flight. -/
def init (store : S) : Sys ι K S P R := ⟨0, store, ∅, fun _ ↦ none⟩

/-- The entry of a key that has not expired, if the cache answers. -/
def hit (sys : Sys ι K S P R) (k : K) (up : Bool) : Option R :=
  if up then (sys.cache.lookup k).bind fun x ↦ if sys.now < x.2 then some x.1 else none else none

/-- Lookup `i` is now `l`. -/
def setLookup (sys : Sys ι K S P R) (i : ι) (l : Option (Lookup K P R)) : Sys ι K S P R :=
  { sys with lookups := Function.update sys.lookups i l }

omit [DecidableEq ι] in
/-- A hit is an entry that has time left. -/
theorem exists_of_hit {sys : Sys ι K S P R} {k : K} {up : Bool} {r : R}
    (h : sys.hit k up = some r) : ∃ expires, sys.cache.lookup k = some (r, expires) ∧
      sys.now < expires := by
  rw [hit] at h
  split_ifs at h
  obtain ⟨⟨r', expires⟩, hlook, hlive⟩ := Option.bind_eq_some_iff.1 h
  split_ifs at hlive with hlt
  exact ⟨expires, Option.some.inj hlive ▸ hlook, hlt⟩

omit [DecidableEq K] in
theorem lookups_setLookup (sys : Sys ι K S P R) (i j : ι) (l : Option (Lookup K P R)) :
    (sys.setLookup i l).lookups j = if j = i then l else sys.lookups j := Function.update_apply ..

end Sys

namespace Service

variable (svc : Service K Q S W P R)

/-- The system after an event; `none` when the event is not possible. -/
def step (sys : Sys ι K S P R) : Event ι K Q W → Option (Sys ι K S P R)
  | .pass t => some { sys with now := sys.now + t }
  | .write w => some { sys with store := svc.apply sys.store w }
  | .begin i k up =>
    match sys.lookups i, sys.hit k up with
    | none, some _ => some sys
    | none, none => some (sys.setLookup i (some (.reading k sys.now (svc.start k))))
    | some _, _ => none
  | .read i q =>
    match sys.lookups i with
    | some (.reading k began p) =>
      match svc.read k p q sys.store with
      | .more p' => some (sys.setLookup i (some (.reading k began p')))
      | .done (some r) => some (sys.setLookup i (some (.built k began r)))
      | .done none => some (sys.setLookup i none)
    | _ => none
  | .set i up =>
    match sys.lookups i with
    | some (.built k _ r) => some { sys.setLookup i none with
        cache := if up then sys.cache.insert k (r, sys.now + svc.lifetime) else sys.cache }
    | _ => none
  | .abort i => some (sys.setLookup i none)
  | .drop k => some { sys with cache := sys.cache.erase k }

/-- The key an event answers, and the answer. -/
def answer (sys : Sys ι K S P R) : Event ι K Q W → Option (K × Option R)
  | .begin i k up =>
    match sys.lookups i with
    | none => (sys.hit k up).map fun r ↦ (k, some r)
    | some _ => none
  | .read i q =>
    match sys.lookups i with
    | some (.reading k _ p) =>
      match svc.read k p q sys.store with
      | .done none => some (k, none)
      | _ => none
    | _ => none
  | .set i _ =>
    match sys.lookups i with
    | some (.built k _ r) => some (k, some r)
    | _ => none
  | _ => none

/-- A lookup takes at most `D`: what it does happens within that time of the miss. -/
def Within (D : ℕ) (sys : Sys ι K S P R) : Event ι K Q W → Prop
  | .read i _ => ∀ l ∈ sys.lookups i, sys.now ≤ l.began + D
  | .set i _ => ∀ l ∈ sys.lookups i, sys.now ≤ l.began + D
  | _ => True

instance (D : ℕ) (sys : Sys ι K S P R) (e : Event ι K Q W) : Decidable (Within D sys e) :=
  match e with
  | .read i _ => inferInstanceAs (Decidable (∀ l ∈ sys.lookups i, sys.now ≤ l.began + D))
  | .set i _ => inferInstanceAs (Decidable (∀ l ∈ sys.lookups i, sys.now ≤ l.began + D))
  | .pass _ | .write _ | .begin .. | .abort _ | .drop _ => .isTrue trivial

/-! ### How answers are built -/

/-- In the run of `es` from `s₀`, the store was `s` at time `t`. -/
def Was (s₀ : Sys ι K S P R) (es : List (Event ι K Q W)) (t : ℕ) (s : S) : Prop :=
  ∃ es' sys, es' <+: es ∧ Run svc.step Any s₀ es' sys ∧ sys.now = t ∧ sys.store = s

/-- A lookup of `k` that began at `a` has come to `p` by reading versions of the store that were
current, one after the other, the last of them at `t`. -/
inductive Fetched (was : ℕ → S → Prop) (k : K) (a : ℕ) : ℕ → P → Prop
  | start : Fetched was k a a (svc.start k)
  | read {t t' : ℕ} {p p' : P} {q : Q} {s : S} (h : Fetched was k a t p) (hle : t ≤ t')
      (hwas : was t' s) (hread : svc.read k p q s = .more p') : Fetched was k a t' p'

/-- The answer `r` to `k` was **built** between `a` and `b`. -/
def Built (was : ℕ → S → Prop) (k : K) (a b : ℕ) (r : Option R) : Prop :=
  ∃ t p q s, svc.Fetched was k a t p ∧ t ≤ b ∧ was b s ∧ svc.read k p q s = .done r

variable {svc}
variable {was was' : ℕ → S → Prop} {k : K} {a b t : ℕ} {p : P} {r : Option R}
  {s₀ sys sys' : Sys ι K S P R} {es es' : List (Event ι K Q W)} {e : Event ι K Q W} {D : ℕ}

omit [DecidableEq K] in
theorem Fetched.le (h : svc.Fetched was k a t p) : a ≤ t := by
  induction h with
  | start => exact le_rfl
  | read _ hle _ _ ih => exact ih.trans hle

omit [DecidableEq K] in
/-- The versions a lookup has read may be replaced by others that read alike. -/
theorem Fetched.of_alike (h : svc.Fetched was k a t p) (halike : ∀ t s, a ≤ t → was t s →
    ∃ s', was' t s' ∧ ∀ p q, svc.read k p q s' = svc.read k p q s) : svc.Fetched was' k a t p := by
  induction h with
  | start => exact .start
  | read hp hle hs hread ih =>
    obtain ⟨s', hs', heq⟩ := halike _ _ (hp.le.trans hle) hs
    exact ih.read hle hs' ((heq _ _).trans hread)

omit [DecidableEq K] in
theorem Built.of_alike (h : svc.Built was k a b r) (halike : ∀ t s, a ≤ t → was t s →
    ∃ s', was' t s' ∧ ∀ p q, svc.read k p q s' = svc.read k p q s) : svc.Built was' k a b r := by
  obtain ⟨t, p, q, s, hp, htb, hs, hread⟩ := h
  obtain ⟨s', hs', heq⟩ := halike b s (hp.le.trans htb) hs
  exact ⟨t, p, q, s', hp.of_alike halike, htb, hs', (heq p q).trans hread⟩

theorem Was.mono (h : svc.Was s₀ es t s) (hes : es <+: es') : svc.Was s₀ es' t s := by
  obtain ⟨es₁, sys₁, hpre, hrun, hnow, hstore⟩ := h
  exact ⟨es₁, sys₁, hpre.trans hes, hrun, hnow, hstore⟩

/-- The present version. -/
theorem was_now (h : Run svc.step Any s₀ es sys) : svc.Was s₀ es sys.now sys.store :=
  ⟨es, sys, List.prefix_rfl, h, rfl, rfl⟩

theorem Built.was_mono (h : svc.Built (svc.Was s₀ es) k a b r) (hes : es <+: es') :
    svc.Built (svc.Was s₀ es') k a b r :=
  h.of_alike fun _ s _ hs ↦ ⟨s, hs.mono hes, fun _ _ ↦ rfl⟩

/-! ### The invariant -/

variable (svc) in
/-- What a lookup knows was read from versions that `was` holds of, the last of them by `now`. -/
def Knows (was : ℕ → S → Prop) (now : ℕ) : Lookup K P R → Prop
  | .reading k a p => ∃ t ≤ now, svc.Fetched was k a t p
  | .built k a r => ∃ b ≤ now, svc.Built was k a b (some r)

variable (svc s₀ es D sys) in
/-- **The invariant**: what the lookups have read and what is cached was built in the run, and an
entry expires within its lifetime and the time of a lookup of the moment it began to be read. -/
structure Inv : Prop where
  lookups : ∀ i l, sys.lookups i = some l → svc.Knows (svc.Was s₀ es) sys.now l
  cached : ∀ k r expires, sys.cache.lookup k = some (r, expires) →
    ∃ a b, b ≤ sys.now ∧ svc.Built (svc.Was s₀ es) k a b (some r) ∧
      expires ≤ a + D + svc.lifetime

theorem inv_init (store : S) : Inv svc s₀ (Sys.init store) es D where
  lookups _ _ h := nomatch h
  cached _ _ _ h := nomatch h

theorem Knows.mono {l : Lookup K P R} {now now' : ℕ} (h : svc.Knows (svc.Was s₀ es) now l)
    (hes : es <+: es') (hnow : now ≤ now') : svc.Knows (svc.Was s₀ es') now' l := by
  rcases l with ⟨k, a, p⟩ | ⟨k, a, r⟩
  · obtain ⟨t, ht, hp⟩ := h
    exact ⟨t, ht.trans hnow, hp.of_alike fun _ s _ hs ↦ ⟨s, hs.mono hes, fun _ _ ↦ rfl⟩⟩
  · obtain ⟨b, hb, hr⟩ := h
    exact ⟨b, hb.trans hnow, hr.was_mono hes⟩

/-- Time passes, and lookups and entries may go. -/
theorem Inv.mono (h : Inv svc s₀ sys es D) (hes : es <+: es') (hnow : sys.now ≤ sys'.now)
    (hlookups : ∀ i l, sys'.lookups i = some l → sys.lookups i = some l)
    (hcache : ∀ k x, sys'.cache.lookup k = some x → sys.cache.lookup k = some x) :
    Inv svc s₀ sys' es' D where
  lookups i l hl := (h.lookups i l (hlookups i l hl)).mono hes hnow
  cached k r expires hr := by
    obtain ⟨a, b, hb, hbuilt, hexp⟩ := h.cached k r expires (hcache k _ hr)
    exact ⟨a, b, hb.trans hnow, hbuilt.was_mono hes, hexp⟩

/-- A lookup moves on, or is gone. -/
theorem Inv.setLookup (h : Inv svc s₀ sys es D) (i : ι) {l : Option (Lookup K P R)}
    (hl : ∀ l' ∈ l, svc.Knows (svc.Was s₀ es) sys.now l') :
    Inv svc s₀ (sys.setLookup i l) es D where
  lookups j l' hj := by
    rw [Sys.lookups_setLookup] at hj
    split_ifs at hj
    · exact hl l' hj
    · exact h.lookups j l' hj
  cached := h.cached

/-- **A lookup begins**, or is answered from the cache. -/
theorem Inv.begin (h : Inv svc s₀ sys es D) {i : ι} {up : Bool}
    (hs : svc.step sys (.begin i k up) = some sys') : Inv svc s₀ sys' es D := by
  simp only [step] at hs
  split at hs
  · exact Option.some.inj hs ▸ h
  · refine Option.some.inj hs ▸ h.setLookup i fun l hl ↦ ?_
    obtain rfl := Option.some.inj hl
    exact ⟨sys.now, le_rfl, .start⟩
  · cases hs

/-- **A query**, of the present version. -/
theorem Inv.read (h : Inv svc s₀ sys es D) (hrun : Run svc.step Any s₀ es sys) {i : ι} {q : Q}
    (hs : svc.step sys (.read i q) = some sys') : Inv svc s₀ sys' es D := by
  simp only [step] at hs
  split at hs
  · next k a p hlook =>
    obtain ⟨t, ht, hp⟩ := h.lookups i _ hlook
    split at hs
    · next p' hread =>
      refine Option.some.inj hs ▸ h.setLookup i fun l hl ↦ ?_
      obtain rfl := Option.some.inj hl
      exact ⟨sys.now, le_rfl, hp.read ht (was_now hrun) hread⟩
    · next r hread =>
      refine Option.some.inj hs ▸ h.setLookup i fun l hl ↦ ?_
      obtain rfl := Option.some.inj hl
      exact ⟨sys.now, le_rfl, t, p, q, sys.store, hp, ht, was_now hrun, hread⟩
    · exact Option.some.inj hs ▸ h.setLookup i fun l hl ↦ nomatch hl
  · cases hs

/-- **An answer is cached**, in time. -/
theorem Inv.set (h : Inv svc s₀ sys es D) {i : ι} {up : Bool} (hin : Within D sys (.set (Q := Q)
    (W := W) i up)) (hs : svc.step sys (.set i up) = some sys') : Inv svc s₀ sys' es D := by
  simp only [step] at hs
  split at hs
  · next k a r hlook =>
    obtain ⟨b, hb, hbuilt⟩ := h.lookups i _ hlook
    have hdone : Inv svc s₀ (sys.setLookup i none) es D := h.setLookup i fun l hl ↦ nomatch hl
    refine Option.some.inj hs ▸ ⟨hdone.lookups, fun k' r' expires hr ↦ ?_⟩
    change (if up then _ else _ : Table K (R × ℕ)).lookup k' = _ at hr
    split_ifs at hr
    · rw [Table.lookup_insert] at hr
      split_ifs at hr with hk
      · obtain ⟨rfl, rfl⟩ := Prod.mk.inj (Option.some.inj hr)
        exact ⟨a, b, hb, hk ▸ hbuilt, Nat.add_le_add_right (hin _ hlook) _⟩
      · exact h.cached k' r' expires hr
    · exact h.cached k' r' expires hr
  · cases hs

/-- **Every event keeps the invariant.** -/
theorem Inv.step (h : Inv svc s₀ sys es D) (hrun : Run svc.step Any s₀ es sys)
    (hin : Within D sys e) (hs : svc.step sys e = some sys') : Inv svc s₀ sys' (es ++ [e]) D := by
  have hes : es <+: es ++ [e] := List.prefix_append _ _
  have hext {sys' : Sys ι K S P R} (h : Inv svc s₀ sys' es D) : Inv svc s₀ sys' (es ++ [e]) D :=
    h.mono hes le_rfl (fun _ _ ↦ id) fun _ _ ↦ id
  match e with
  | .pass t =>
    exact Option.some.inj hs ▸ h.mono hes (Nat.le_add_right _ _) (fun _ _ ↦ id) fun _ _ ↦ id
  | .write w => exact Option.some.inj hs ▸ h.mono hes le_rfl (fun _ _ ↦ id) fun _ _ ↦ id
  | .begin _ _ _ => exact hext (h.begin hs)
  | .read _ _ => exact hext (h.read hrun hs)
  | .set _ _ => exact hext (h.set hin hs)
  | .abort i => exact hext (Option.some.inj hs ▸ h.setLookup i fun l hl ↦ nomatch hl)
  | .drop k =>
    refine Option.some.inj hs ▸ h.mono hes le_rfl (fun _ _ ↦ id) fun k' x hx ↦ ?_
    change (sys.cache.erase k).lookup k' = _ at hx
    rw [Table.lookup_erase] at hx
    split_ifs at hx
    exact hx

/-- **Every run keeps the invariant.** -/
theorem inv_of_run {store : S} (h : Run svc.step (Within D) (Sys.init store) es sys) :
    Inv svc (Sys.init store) sys es D := by
  induction h with
  | nil => exact inv_init store
  | snoc hrun hin hs ih => exact ih.step hrun.any hin hs

/-! ### Answers -/

/-- **Bounded staleness.** In every run whose lookups take at most `D`, every answer was built by
one lookup from versions that were current while it ran, and that lookup began at most `D` and the
lifetime of an entry ago. -/
theorem built_of_answer {store : S} (h : Run svc.step (Within D) (Sys.init store) es sys)
    (hin : Within D sys e) (hanswer : svc.answer sys e = some (k, r)) :
    ∃ a b, svc.Built (svc.Was (Sys.init store) es) k a b r ∧ b ≤ sys.now ∧
      sys.now ≤ a + D + svc.lifetime := by
  have hinv := inv_of_run h
  match e with
  | .begin i k' up =>
    simp only [answer] at hanswer
    split at hanswer
    · obtain ⟨r', hhit, heq⟩ := Option.map_eq_some_iff.1 hanswer
      obtain ⟨rfl, rfl⟩ := Prod.mk.inj heq
      obtain ⟨expires, hlook, hlive⟩ := Sys.exists_of_hit hhit
      obtain ⟨a, b, hb, hbuilt, hexp⟩ := hinv.cached _ _ _ hlook
      exact ⟨a, b, hbuilt, hb, hlive.le.trans hexp⟩
    · cases hanswer
  | .read i q =>
    simp only [answer] at hanswer
    split at hanswer
    · next k' a p hlook =>
      split at hanswer
      · next hread =>
        obtain ⟨rfl, rfl⟩ := Prod.mk.inj (Option.some.inj hanswer)
        obtain ⟨t, ht, hp⟩ := hinv.lookups i _ hlook
        exact ⟨a, sys.now, ⟨t, p, q, sys.store, hp, ht, was_now h.any, hread⟩, le_rfl,
          (hin _ hlook).trans (Nat.le_add_right _ _)⟩
      · cases hanswer
    · cases hanswer
  | .set i up =>
    simp only [answer] at hanswer
    split at hanswer
    · next k' a r' hlook =>
      obtain ⟨rfl, rfl⟩ := Prod.mk.inj (Option.some.inj hanswer)
      obtain ⟨b, hb, hbuilt⟩ := hinv.lookups i _ hlook
      exact ⟨a, b, hbuilt, hb, (hin _ hlook).trans (Nat.le_add_right _ _)⟩
    · cases hanswer
  | .pass _ | .write _ | .abort _ | .drop _ => cases hanswer

/-! ### Settled keys -/

/-- The clock never goes back, and only writes change the store. -/
theorem frame_of_step (hs : svc.step sys e = some sys') : sys.now ≤ sys'.now ∧
    (sys'.store = sys.store ∨ ∃ w, e = .write w ∧ sys'.store = svc.apply sys.store w) := by
  match e with
  | .pass t => exact Option.some.inj hs ▸ ⟨Nat.le_add_right _ _, Or.inl rfl⟩
  | .write w => exact Option.some.inj hs ▸ ⟨le_rfl, Or.inr ⟨w, rfl, rfl⟩⟩
  | .abort _ | .drop _ => exact Option.some.inj hs ▸ ⟨le_rfl, Or.inl rfl⟩
  | .begin _ _ _ | .read _ _ | .set _ _ =>
    simp only [Service.step] at hs
    repeat' split at hs
    all_goals first | exact Option.some.inj hs ▸ ⟨le_rfl, Or.inl rfl⟩ | cases hs

theorem now_mono_of_run {P' : Sys ι K S P R → Event ι K Q W → Prop}
    (h : Run svc.step P' sys es sys') : sys.now ≤ sys'.now :=
  h.inv (I := fun s ↦ sys.now ≤ s.now) le_rfl fun hle _ hs ↦ hle.trans (frame_of_step hs).1

/-- What the writes keep holds of the store in the end. -/
theorem store_of_run {I : S → Prop} {P' : Sys ι K S P R → Event ι K Q W → Prop}
    (h : Run svc.step P' sys es sys') (hI : I sys.store)
    (hkeep : ∀ w s, Event.write w ∈ es → I s → I (svc.apply s w)) : I sys'.store := by
  have hmem : Run svc.step (fun _ e ↦ e ∈ es) sys es sys' := h.mono fun _ _ he _ ↦ he
  refine hmem.inv (I := fun s ↦ I s.store) hI fun {s e s'} hs he hstep ↦ ?_
  rcases (frame_of_step hstep).2 with heq | ⟨w, rfl, heq⟩
  · exact heq ▸ hs
  · exact heq ▸ hkeep w _ he hs

/-- So it holds of every version that was current. -/
theorem Was.kept {I : S → Prop} (hI : I s₀.store)
    (hkeep : ∀ w s, Event.write w ∈ es → I s → I (svc.apply s w)) {s : S}
    (h : svc.Was s₀ es t s) : I s := by
  obtain ⟨es', sys, hpre, hrun, -, rfl⟩ := h
  exact store_of_run hrun hI fun w s hw ↦ hkeep w s (hpre.subset hw)

/-- **What the writes keep** holds of every version that was current later. -/
theorem Was.of_kept {I : S → Prop} {sys₁ : Sys ι K S P R} {es₁ es₂ : List (Event ι K Q W)}
    (h₁ : Run svc.step Any s₀ es₁ sys₁) (hI : I sys₁.store)
    (hkeep : ∀ w s, Event.write w ∈ es₂ → I s → I (svc.apply s w)) {s : S}
    (h : svc.Was s₀ (es₁ ++ es₂) t s) (ht : sys₁.now < t) : I s := by
  obtain ⟨es', sys, hpre, hrun, rfl, rfl⟩ := h
  rcases List.prefix_or_prefix_of_prefix hpre (List.prefix_append es₁ es₂) with hle | hle
  · -- the moment lies before the first writes are over, and so does its time
    obtain ⟨rest, rfl⟩ := hle
    obtain ⟨mid, hmid, hrest⟩ := h₁.append_inv
    obtain rfl := hrun.unique hmid
    exact absurd ht (now_mono_of_run hrest).not_gt
  · obtain ⟨rest, rfl⟩ := hle
    have hsub : rest <+: es₂ := (List.prefix_append_right_inj es₁).1 hpre
    obtain ⟨mid, hmid, hrest⟩ := hrun.append_inv
    obtain rfl := h₁.unique hmid
    exact store_of_run hrest hI fun w s hw ↦ hkeep w s (hsub.subset hw)

end Service

/-! ### Lookups of two queries -/

/-- The service whose lookups find something, and read the store once more to answer it. -/
def twoQueries {A : Type} (find : K → S → Option A) (build : K → A → Q → S → R)
    (apply : S → W → S) (lifetime : ℕ) : Service K Q S W (Option A) R where
  start _ := none
  read k p q s :=
    match p with
    | some x => .done (some (build k x q s))
    | none =>
      match find k s with
      | some x => .more (some x)
      | none => .done none
  apply := apply
  lifetime := lifetime

namespace Service

variable {A : Type} {find : K → S → Option A} {build : K → A → Q → S → R} {apply : S → W → S}
  {lifetime : ℕ} {was : ℕ → S → Prop} {k : K} {a b t : ℕ} {r : Option R}

omit [DecidableEq K] in
/-- A lookup that has found something has read it from the store. -/
theorem find_of_fetched {x : A}
    (h : (twoQueries find build apply lifetime).Fetched was k a t (some x)) :
    ∃ t₁ s₁, a ≤ t₁ ∧ t₁ ≤ t ∧ was t₁ s₁ ∧ find k s₁ = some x := by
  generalize hx : some x = p at h
  cases h with
  | start => cases hx
  | @read t₀ _ p₀ _ _ s h hle hwas hread =>
    subst hx
    refine ⟨t, s, h.le.trans hle, le_rfl, hwas, ?_⟩
    cases p₀ with
    | some y => cases hread
    | none =>
      change (match find k s with | some x => _ | none => _ : Progress _ _) = _ at hread
      cases hfind : find k s with
      | none =>
        rw [hfind] at hread
        cases hread
      | some y =>
        rw [hfind] at hread
        cases hread
        rfl

omit [DecidableEq K] in
/-- **An answer of two queries**: what the first found, with what the second read later. -/
theorem eq_of_built (h : (twoQueries find build apply lifetime).Built was k a b r) :
    ∃ t₁ s₁ t₂ s₂ q, a ≤ t₁ ∧ t₁ ≤ t₂ ∧ t₂ ≤ b ∧ was t₁ s₁ ∧ was t₂ s₂ ∧
      r = (find k s₁).map fun x ↦ build k x q s₂ := by
  obtain ⟨t, p, q, s, hp, htb, hs, hread⟩ := h
  cases p with
  | some x =>
    obtain ⟨t₁, s₁, hat, htt, hs₁, hfind⟩ := find_of_fetched hp
    cases hread
    exact ⟨t₁, s₁, b, s, q, hat, htt.trans htb, le_rfl, hs₁, hs, by rw [hfind]; rfl⟩
  | none =>
    change (match find k s with | some x => _ | none => _ : Progress _ _) = _ at hread
    cases hfind : find k s with
    | some x =>
      rw [hfind] at hread
      cases hread
    | none =>
      rw [hfind] at hread
      cases hread
      exact ⟨b, s, b, s, q, hp.le.trans htb, le_rfl, le_rfl, hs, hs, by rw [hfind]; rfl⟩

variable {ι : Type} [DecidableEq ι] {store : S} {sys sys₁ : Sys ι K S (Option A) R}
  {es es₁ es₂ : List (Event ι K Q W)} {e : Event ι K Q W} {D : ℕ}

/-- **Bounded staleness**, of two queries. -/
theorem twoQueries_answer
    (h : Run (twoQueries find build apply lifetime).step (Within D) (Sys.init store) es sys)
    (hin : Within D sys e) (hanswer : (twoQueries find build apply lifetime).answer sys e =
      some (k, r)) :
    ∃ t₁ s₁ t₂ s₂ q, t₁ ≤ t₂ ∧ t₂ ≤ sys.now ∧ sys.now ≤ t₁ + D + lifetime ∧
      (twoQueries find build apply lifetime).Was (Sys.init store) es t₁ s₁ ∧
      (twoQueries find build apply lifetime).Was (Sys.init store) es t₂ s₂ ∧
      r = (find k s₁).map fun x ↦ build k x q s₂ := by
  obtain ⟨a, b, hbuilt, hb, hnow⟩ := built_of_answer h hin hanswer
  obtain ⟨t₁, s₁, t₂, s₂, q, ha, ht, htb, hs₁, hs₂, hr⟩ := eq_of_built hbuilt
  change sys.now ≤ a + D + lifetime at hnow
  exact ⟨t₁, s₁, t₂, s₂, q, ht, htb.trans hb, by omega, hs₁, hs₂, hr⟩

/-- **What later versions have in common.** When the writes since `sys₁` keep a property of the
store, and more than `D` and the lifetime of an entry have passed, every answer is built from
versions that have it. -/
theorem twoQueries_answer_of_kept {I : S → Prop}
    (h : Run (twoQueries find build apply lifetime).step (Within D) (Sys.init store) (es₁ ++ es₂)
      sys)
    (h₁ : Run (twoQueries find build apply lifetime).step Any (Sys.init store) es₁ sys₁)
    (hI : I sys₁.store) (hkeep : ∀ w s, Event.write w ∈ es₂ → I s → I (apply s w))
    (hlate : sys₁.now + D + lifetime < sys.now) (hin : Within D sys e)
    (hanswer : (twoQueries find build apply lifetime).answer sys e = some (k, r)) :
    I sys.store ∧ ∃ s₁ s₂ q, I s₁ ∧ I s₂ ∧ r = (find k s₁).map fun x ↦ build k x q s₂ := by
  obtain ⟨t₁, s₁, t₂, s₂, q, ht, -, hnow, hs₁, hs₂, hr⟩ := twoQueries_answer h hin hanswer
  have hlater {t : ℕ} {s : S} (hs : (twoQueries find build apply lifetime).Was (Sys.init store)
      (es₁ ++ es₂) t s) (ht : sys₁.now < t) : I s := hs.of_kept h₁ hI hkeep ht
  exact ⟨hlater (was_now h.any) (by omega), s₁, s₂, q, hlater hs₁ (by omega),
    hlater hs₂ (by omega), hr⟩

/-- **Settled keys.** When no write since `sys₁` changes what the queries of a key read, and more
than `D` and the lifetime of an entry have passed, the answer is that of the present version. -/
theorem twoQueries_answer_of_settled
    (h : Run (twoQueries find build apply lifetime).step (Within D) (Sys.init store) (es₁ ++ es₂)
      sys)
    (h₁ : Run (twoQueries find build apply lifetime).step Any (Sys.init store) es₁ sys₁)
    (hkeep : ∀ w s, Event.write w ∈ es₂ → find k (apply s w) = find k s ∧
      ∀ x q, build k x q (apply s w) = build k x q s)
    (hlate : sys₁.now + D + lifetime < sys.now) (hin : Within D sys e)
    (hanswer : (twoQueries find build apply lifetime).answer sys e = some (k, r)) :
    ∃ q, r = (find k sys.store).map fun x ↦ build k x q sys.store := by
  obtain ⟨hpresent, s₁, s₂, q, hs₁, hs₂, hr⟩ := twoQueries_answer_of_kept
    (I := fun s ↦ find k s = find k sys₁.store ∧ ∀ x q, build k x q s = build k x q sys₁.store)
    h h₁ ⟨rfl, fun _ _ ↦ rfl⟩ (fun w s hw hs ↦ ⟨(hkeep w s hw).1.trans hs.1, fun x q ↦
      ((hkeep w s hw).2 x q).trans (hs.2 x q)⟩) hlate hin hanswer
  refine ⟨q, hr.trans ?_⟩
  rw [hs₁.1, hpresent.1]
  refine congrArg (Option.map · _) (funext fun x ↦ ?_)
  rw [hs₂.2, hpresent.2]

end Service

end CacheAside
