import RealTube.Store.Table
import Mathlib.Tactic.Linarith

/-!
# Fixed-window rate limits

A limiter keeps an entry for every key: the number of requests in the present window, and the end of
that window. A request after the end opens a new window, and is allowed; the others are allowed up
to the limit. Implementations differ on whether the end belongs to the window (`ended`), and they
may remove entries whose window is over, all the time or when there are many.

What is removed makes no difference: a decision depends on the **live** entry only (`hit_live`). So
the requests of one key are decided by themselves (`passes_eq_passesOf`), and in any time as long as
a window, ends included, no key gets through more than twice the limit (`passes_le`): two windows
are touched at most.
-/

namespace FixedWindow

/-- What is kept for a key. -/
structure Entry (T : Type) where
  count : ℕ
  windowEnd : T
  deriving DecidableEq

/-- A limiter: its limit, and how it treats the ends of windows. -/
structure Limiter (T : Type) [LinearOrder T] where
  /-- The number of requests in a window. -/
  max : ℕ
  /-- The length of a window. -/
  window : T
  /-- At the time `now` a window that ends at `windowEnd` is over. -/
  ended : (now windowEnd : T) → Prop
  decidableEnded : DecidableRel ended
  ended_of_lt : ∀ {now windowEnd}, windowEnd < now → ended now windowEnd
  le_of_ended : ∀ {now windowEnd}, ended now windowEnd → windowEnd ≤ now
  /-- The number of entries beyond which a check removes those that are over. -/
  maxEntries : Option ℕ

section Check

variable {K A T : Type} [DecidableEq K] [LinearOrder T] [Add T] (x : Limiter T)

instance : DecidableRel x.ended := x.decidableEnded

/-- A request for a key with this entry: the new entry, and whether it is allowed. -/
def hit (now : T) : Option (Entry T) → Entry T × Bool
  | none => (⟨1, now + x.window⟩, true)
  | some e =>
    if x.ended now e.windowEnd then (⟨1, now + x.window⟩, true)
    else (⟨e.count + 1, e.windowEnd⟩, e.count + 1 ≤ x.max)

omit [Add T] in
/-- The entry, if its window is not over. -/
def live (now : T) (o : Option (Entry T)) : Option (Entry T) := o.filter (¬ x.ended now ·.windowEnd)

/-- Remove the entries that are over. -/
def sweep (now : T) (t : Table K (Entry T)) : Table K (Entry T) :=
  t.filter fun _ e ↦ ¬ x.ended now e.windowEnd

/-- Remove them if there are too many entries. -/
def evict (now : T) (t : Table K (Entry T)) : Table K (Entry T) :=
  if x.maxEntries.any (· < t.keys.card) then sweep x now t else t

/-- A request for a key. -/
def check (k : K) (now : T) (t : Table K (Entry T)) : Table K (Entry T) × Bool :=
  ((evict x now t).insert k (hit x now ((evict x now t).lookup k)).1,
    (hit x now ((evict x now t).lookup k)).2)

/-- What happens to a limiter. -/
inductive Event (A T : Type) where
  /-- A request. -/
  | request (a : A)
  /-- A removal of the entries that are over. -/
  | sweep (now : T)

section Passes

variable (key : A → K) (time : A → T)

/-- When it happens. -/
def Event.moment : Event A T → T
  | request a => time a
  | sweep now => now

/-- The number of allowed requests that are counted. -/
def passes (counted : A → Bool) : Table K (Entry T) → List (Event A T) → ℕ
  | _, [] => 0
  | t, .request a :: es =>
    (if (check x (key a) (time a) t).2 && counted a then 1 else 0) +
      passes counted (check x (key a) (time a) t).1 es
  | t, .sweep now :: es => passes counted (sweep x now t) es

/-- The same for a single key. -/
def passesOf (counted : A → Bool) : Option (Entry T) → List A → ℕ
  | _, [] => 0
  | o, a :: as =>
    (if (hit x (time a) o).2 && counted a then 1 else 0) +
      passesOf counted (some (hit x (time a) o).1) as

end Passes

end Check

section Hit

variable {T : Type} [LinearOrder T] [Add T] {x : Limiter T} {now : T} {e : Entry T}

theorem hit_none : hit x now none = (⟨1, now + x.window⟩, true) := rfl

theorem hit_of_ended (h : x.ended now e.windowEnd) :
    hit x now (some e) = (⟨1, now + x.window⟩, true) := if_pos h

theorem hit_of_not_ended (h : ¬ x.ended now e.windowEnd) :
    hit x now (some e) = (⟨e.count + 1, e.windowEnd⟩, decide (e.count + 1 ≤ x.max)) := if_neg h

end Hit

/-! ### Live entries -/

section Live

variable {K A T : Type} [DecidableEq K] [LinearOrder T] {x : Limiter T} {now now' : T}
  {o : Option (Entry T)}

theorem ended_mono {windowEnd : T} (h : now ≤ now') (hended : x.ended now windowEnd) :
    x.ended now' windowEnd := by
  rcases h.lt_or_eq with hlt | rfl
  · exact x.ended_of_lt ((x.le_of_ended hended).trans_lt hlt)
  · exact hended

/-- A window that is not over, and is later, was not over strictly before. -/
theorem lt_of_ended {windowEnd : T} (hlive : ¬ x.ended now windowEnd)
    (hended : x.ended now' windowEnd) : now < now' :=
  lt_of_not_ge fun h ↦ hlive (ended_mono h hended)

@[simp] theorem live_none : live x now none = none := rfl

theorem live_eq_self {e : Entry T} (h : ¬ x.ended now e.windowEnd) :
    live x now (some e) = some e := by
  rw [live, Option.filter_some, if_pos (by simpa using h)]

theorem live_eq_none {e : Entry T} (h : x.ended now e.windowEnd) : live x now (some e) = none := by
  rw [live, Option.filter_some, if_neg (by simpa using h)]

/-- What is live later is live now. -/
theorem live_live (h : now ≤ now') : live x now' (live x now o) = live x now' o := by
  rcases o with - | e
  · rfl
  · by_cases hended : x.ended now e.windowEnd
    · rw [live_eq_none hended, live_eq_none (ended_mono h hended), live_none]
    · rw [live_eq_self hended]

theorem lookup_sweep (t : Table K (Entry T)) (k : K) :
    (sweep x now t).lookup k = live x now (t.lookup k) :=
  Table.lookup_filter t _ k

theorem live_lookup_evict (h : now ≤ now') (t : Table K (Entry T)) (k : K) :
    live x now' ((evict x now t).lookup k) = live x now' (t.lookup k) := by
  rw [evict]
  split_ifs
  · rw [lookup_sweep, live_live h]
  · rfl

variable [Add T]

/-- **A decision depends on the live entry only.** -/
theorem hit_live : hit x now (live x now o) = hit x now o := by
  rcases o with - | e
  · rfl
  · by_cases hended : x.ended now e.windowEnd
    · rw [live_eq_none hended, hit, hit, if_pos hended]
    · rw [live_eq_self hended]

theorem hit_congr {o' : Option (Entry T)} (h : live x now o = live x now o') :
    hit x now o = hit x now o' := by
  rw [← hit_live, h, hit_live]

/-- What a check decides, and what it leaves for its key. -/
theorem check_eq (k : K) (now : T) (t : Table K (Entry T)) :
    (check x k now t).2 = (hit x now (t.lookup k)).2 ∧
      (check x k now t).1.lookup k = some (hit x now (t.lookup k)).1 := by
  have hhit : hit x now ((evict x now t).lookup k) = hit x now (t.lookup k) :=
    hit_congr (live_lookup_evict le_rfl t k)
  exact ⟨by rw [check, hhit], by rw [check, Table.lookup_insert_self, hhit]⟩

/-- What it leaves for the others. -/
theorem live_lookup_check_of_ne {k k' : K} (hk : k' ≠ k) (h : now ≤ now') (t : Table K (Entry T)) :
    live x now' ((check x k now t).1.lookup k') = live x now' (t.lookup k') := by
  rw [check, Table.lookup_insert_of_ne _ _ hk, live_lookup_evict h]

/-! ### One key at a time -/

variable {key : A → K} {time : A → T}

/-- The requests of a key. -/
def requestsOf (key : A → K) (k : K) (es : List (Event A T)) : List A :=
  es.filterMap fun
    | .request a => if key a = k then some a else none
    | .sweep _ => none

/-- **The requests of a key are decided by themselves**, if the times do not go back. -/
theorem passes_eq_passesOf {counted : A → Bool} {k : K} (hcounted : ∀ a, counted a → key a = k)
    {es : List (Event A T)} (hsorted : es.Pairwise fun e e' ↦ e.moment time ≤ e'.moment time)
    {t : Table K (Entry T)} (hnow : ∀ e ∈ es, now ≤ e.moment time)
    (hlive : live x now (t.lookup k) = live x now o) :
    passes x key time counted t es = passesOf x time counted o (requestsOf key k es) := by
  induction es generalizing t o now with
  | nil => rfl
  | cons e es ih =>
    obtain ⟨hle, hrest⟩ := List.forall_mem_cons.1 hnow
    obtain ⟨hfirst, htail⟩ := List.pairwise_cons.1 hsorted
    have hlater : live x (e.moment time) (t.lookup k) = live x (e.moment time) o := by
      rw [← live_live hle, hlive, live_live hle]
    cases e with
    | sweep now' =>
      refine ih htail hfirst ?_
      rw [lookup_sweep]
      exact (live_live le_rfl).trans hlater
    | request a =>
      obtain ⟨hdecision, hentry⟩ := check_eq (x := x) (key a) (time a) t
      by_cases hk : key a = k
      · have hhit : hit x (time a) (t.lookup k) = hit x (time a) o := hit_congr hlater
        have hof : requestsOf key k (.request a :: es) = a :: requestsOf key k es :=
          List.filterMap_cons_some (if_pos hk)
        rw [hk, hhit] at hdecision hentry
        rw [hof, passes, passesOf, hk, hdecision]
        exact congrArg _ (ih htail hfirst (by rw [hentry]))
      · have hof : requestsOf key k (.request a :: es) = requestsOf key k es :=
          List.filterMap_cons_none (if_neg hk)
        have hnot : counted a = false := Bool.eq_false_iff.2 fun h ↦ hk (hcounted a h)
        rw [hof, passes, hnot, Bool.and_false, if_neg Bool.false_ne_true, Nat.zero_add]
        exact ih htail hfirst ((live_lookup_check_of_ne (Ne.symm hk) le_rfl t).trans hlater)

/-- From the beginning they are, whenever that is. -/
theorem passes_empty {counted : A → Bool} {k : K} (hcounted : ∀ a, counted a → key a = k)
    {es : List (Event A T)} (hsorted : es.Pairwise fun e e' ↦ e.moment time ≤ e'.moment time) :
    passes x key time counted ∅ es = passesOf x time counted none (requestsOf key k es) := by
  cases es with
  | nil => rfl
  | cons e es =>
    have hnow : ∀ e' ∈ e :: es, e.moment time ≤ e'.moment time :=
      List.forall_mem_cons.2 ⟨le_rfl, (List.pairwise_cons.1 hsorted).1⟩
    exact passes_eq_passesOf hcounted hsorted hnow rfl

theorem passesOf_map {B : Type} (f : B → A) (counted : A → Bool) (o : Option (Entry T))
    (bs : List B) :
    passesOf x time counted o (bs.map f) = passesOf x (time ∘ f) (counted ∘ f) o bs := by
  induction bs generalizing o with
  | nil => rfl
  | cons b bs ih =>
    rw [List.map_cons, passesOf, passesOf, ih]
    rfl

/-- More is counted, more passes. -/
theorem passes_mono {counted counted' : A → Bool} {t : Table K (Entry T)} {es : List (Event A T)}
    (h : ∀ a, .request a ∈ es → counted a → counted' a) :
    passes x key time counted t es ≤ passes x key time counted' t es := by
  induction es generalizing t with
  | nil => exact le_rfl
  | cons e es ih =>
    have hrest : ∀ a, .request a ∈ es → counted a → counted' a := fun a ha ↦
      h a (List.mem_cons_of_mem e ha)
    cases e with
    | sweep now => exact ih hrest
    | request a =>
      refine Nat.add_le_add ?_ (ih hrest)
      have hhead := h a List.mem_cons_self
      cases hc : counted a with
      | false => simp
      | true => rw [hhead hc]

/-- The requests of two keys are among all of them. -/
theorem passes_add_le {k k' : K} (hk : k ≠ k') (counted : A → Bool) (t : Table K (Entry T))
    (es : List (Event A T)) :
    passes x key time (fun a ↦ key a = k && counted a) t es +
        passes x key time (fun a ↦ key a = k' && counted a) t es ≤
      passes x key time counted t es := by
  induction es generalizing t with
  | nil => exact le_rfl
  | cons e es ih =>
    cases e with
    | sweep now => exact ih _
    | request a =>
      have hrest := ih (check x (key a) (time a) t).1
      rw [passes, passes, passes]
      by_cases h : key a = k
      · have h' : key a ≠ k' := h ▸ hk
        rw [decide_eq_true h, decide_eq_false h', Bool.true_and, Bool.false_and, Bool.and_false,
          if_neg Bool.false_ne_true]
        omega
      · rw [decide_eq_false h, Bool.false_and, Bool.and_false, if_neg Bool.false_ne_true]
        by_cases h' : key a = k'
        · rw [decide_eq_true h', Bool.true_and]
          omega
        · rw [decide_eq_false h', Bool.false_and, Bool.and_false, if_neg Bool.false_ne_true]
          omega

end Live

/-! ### Two limiters -/

section Opened

variable {K T : Type} [DecidableEq K] [LinearOrder T] {x y : Limiter T} {now now' : T}
  {o o' : Option (Entry T)}

/-- The entry, if its window goes on. Here all limiters agree; at the end itself they need not. -/
def opened (now : T) (o : Option (Entry T)) : Option (Entry T) := o.filter (now < ·.windowEnd)

theorem opened_eq_self {e : Entry T} (h : now < e.windowEnd) : opened now (some e) = some e := by
  rw [opened, Option.filter_some, if_pos (by simpa using h)]

theorem opened_eq_none {e : Entry T} (h : e.windowEnd ≤ now) : opened now (some e) = none := by
  rw [opened, Option.filter_some, if_neg (by simpa using h)]

theorem opened_eq_none_iff : opened now o = none ↔ ∀ e ∈ o, e.windowEnd ≤ now := by
  rcases o with - | e
  · exact iff_of_true rfl fun e he ↦ absurd he (Option.not_mem_none e)
  · rcases le_or_gt e.windowEnd now with h | h
    · exact iff_of_true (opened_eq_none h) fun e' he ↦ Option.mem_some_iff.1 he ▸ h
    · refine iff_of_false (by rw [opened_eq_self h]; exact Option.some_ne_none e) fun hall ↦ ?_
      exact absurd (hall e rfl) (not_le.2 h)

/-- What goes on later goes on now. -/
theorem opened_opened (h : now ≤ now') : opened now' (opened now o) = opened now' o := by
  rcases o with - | e
  · rfl
  · rcases le_or_gt e.windowEnd now with hle | hlt
    · rw [opened_eq_none hle, opened_eq_none (hle.trans h)]
      rfl
    · rw [opened_eq_self hlt]

theorem opened_congr (h : now ≤ now') (ho : opened now o = opened now o') :
    opened now' o = opened now' o' := by
  rw [← opened_opened h, ho, opened_opened h]

/-- It is live. -/
theorem opened_live (h : now ≤ now') : opened now' (live x now o) = opened now' o := by
  rcases o with - | e
  · rfl
  · by_cases hended : x.ended now e.windowEnd
    · rw [live_eq_none hended, opened_eq_none ((x.le_of_ended hended).trans h)]
      rfl
    · rw [live_eq_self hended]

theorem opened_lookup_sweep (t : Table K (Entry T)) (k : K) :
    opened now ((sweep x now t).lookup k) = opened now (t.lookup k) := by
  rw [lookup_sweep, opened_live le_rfl]

theorem opened_lookup_check_of_ne [Add T] {k k' : K} (hk : k' ≠ k) (t : Table K (Entry T)) :
    opened now ((check x k now t).1.lookup k') = opened now (t.lookup k') := by
  rw [← opened_live (x := x) le_rfl, live_lookup_check_of_ne hk le_rfl, opened_live le_rfl]

/-- **Two limiters decide the same** from the same windows that go on, if no window ends at this
moment. -/
theorem hit_eq_hit [Add T] (hmax : x.max = y.max) (hwindow : x.window = y.window)
    (hy : ∀ windowEnd, windowEnd ≤ now → y.ended now windowEnd)
    (htie : ∀ e ∈ o, e.windowEnd ≠ now) (ho : opened now o = opened now o') :
    hit x now o = hit y now o' := by
  have hlive : live y now o = live y now o' := by
    have hopened : live y now = opened now := by
      refine funext fun o ↦ congrArg (Option.filter · o) (funext fun e ↦ decide_eq_decide.2 ?_)
      exact ⟨fun h ↦ not_le.1 (mt (hy _) h), fun h hended ↦
        absurd (y.le_of_ended hended) (not_le.2 h)⟩
    rw [hopened, ho]
  rw [← hit_congr hlive]
  rcases o with - | e
  · rw [hit, hit, hwindow]
  · have hended : x.ended now e.windowEnd ↔ y.ended now e.windowEnd :=
      ⟨fun h ↦ hy _ (x.le_of_ended h), fun h ↦
        x.ended_of_lt (lt_of_le_of_ne (y.le_of_ended h) (htie e rfl))⟩
    by_cases h : x.ended now e.windowEnd
    · rw [hit, hit, if_pos h, if_pos (hended.1 h), hwindow]
    · rw [hit, hit, if_neg h, if_neg (mt hended.2 h), hmax]

end Opened

/-! ### Twice the limit -/

section Bound

section Progress

variable {T : Type} [LinearOrder T] [Add T] {x : Limiter T} {s now now' : T}
  {o o' : Option (Entry T)} {n : ℕ}

/-- How far a key is in the time from `s` on, after `n` requests that passed in it. -/
inductive Progress (x : Limiter T) (s now : T) : Option (Entry T) → ℕ → Prop
  /-- Nothing has passed. -/
  | none (o : Option (Entry T)) : Progress x s now o 0
  /-- What has passed, has done so in the present window. -/
  | first {e : Entry T} {n : ℕ} (hlive : ¬ x.ended now e.windowEnd) (hs : s ≤ now)
      (hmax : n ≤ x.max) (hcount : n ≤ e.count) : Progress x s now (some e) n
  /-- That window is over. -/
  | between {o : Option (Entry T)} {n : ℕ} (ho : live x now o = Option.none) (hs : s < now)
      (hmax : n ≤ x.max) : Progress x s now o n
  /-- The present window is the second one, and goes on beyond the time. -/
  | second {e : Entry T} {n : ℕ} (hend : s + x.window < e.windowEnd) (hmax : n ≤ 2 * x.max)
      (hcount : n ≤ x.max + e.count) : Progress x s now (some e) n
  /-- The time is up. -/
  | done {o : Option (Entry T)} {n : ℕ} (hend : s + x.window < now) (hmax : n ≤ 2 * x.max) :
      Progress x s now o n

namespace Progress

theorem le (h : Progress x s now o n) : n ≤ 2 * x.max := by
  cases h <;> omega

/-- Time passes. -/
theorem later (h : Progress x s now o n) (hnow : now ≤ now') : Progress x s now' o n := by
  cases h with
  | none => exact .none o
  | @first e n hlive hs hmax hcount =>
    by_cases hended : x.ended now' e.windowEnd
    · exact .between (live_eq_none hended) (hs.trans_lt (lt_of_ended hlive hended)) hmax
    · exact .first hended (hs.trans hnow) hmax hcount
  | between ho hs hmax =>
    exact .between (by rw [← live_live hnow, ho, live_none]) (hs.trans_le hnow) hmax
  | second hend hmax hcount => exact .second hend hmax hcount
  | done hend hmax => exact .done (hend.trans_le hnow) hmax

/-- An entry that is over is removed. -/
theorem live (h : Progress x s now o n) : Progress x s now (live x now o) n := by
  cases h with
  | none => exact .none _
  | first hlive hs hmax hcount =>
    rw [live_eq_self hlive]
    exact .first hlive hs hmax hcount
  | between ho hs hmax => exact .between (by rw [live_live le_rfl, ho]) hs hmax
  | @second e n hend hmax hcount =>
    by_cases hended : x.ended now e.windowEnd
    · exact .done (hend.trans_le (x.le_of_ended hended)) hmax
    · rw [live_eq_self hended]
      exact .second hend hmax hcount
  | done hend hmax => exact .done hend hmax

/-- It depends on the live entry only. -/
theorem of_live (h : Progress x s now o n)
    (ho : FixedWindow.live x now o = FixedWindow.live x now o') : Progress x s now o' n := by
  have hlive := ho ▸ h.live
  rcases o' with - | e
  · exact hlive
  · by_cases hended : x.ended now e.windowEnd
    · rw [live_eq_none hended] at hlive
      cases hlive with
      | none => exact .none _
      | between _ hs hmax => exact .between (live_eq_none hended) hs hmax
      | done hend hmax => exact .done hend hmax
    · rwa [live_eq_self hended] at hlive

end Progress

end Progress

variable {K A T : Type} [DecidableEq K] [Field T] [LinearOrder T] [IsStrictOrderedRing T]
  {x : Limiter T} {s now : T} {o : Option (Entry T)} {n : ℕ}

/-- **A request of the key**, counted if it is allowed and in the time. -/
theorem Progress.hit (h : Progress x s now o n) (hmax : 1 ≤ x.max) (hwindow : 0 < x.window) :
    Progress x s now (some (hit x now o).1)
      (n + if (FixedWindow.hit x now o).2 = true ∧ s ≤ now ∧ now ≤ s + x.window then 1 else 0) := by
  have hnew : ¬ x.ended now (now + x.window) := fun hended ↦ by
    have := x.le_of_ended hended
    linarith
  cases h with
  | none =>
    split_ifs with hin
    · rcases o with - | e
      · exact .first hnew hin.2.1 hmax le_rfl
      · rw [FixedWindow.hit]
        split_ifs with hended
        · exact .first hnew hin.2.1 hmax le_rfl
        · exact .first hended hin.2.1 hmax (by simp)
    · exact .none _
  | @first e n hlive hs hn hcount =>
    rw [FixedWindow.hit, if_neg hlive]
    split_ifs with hin
    · have hle : e.count + 1 ≤ x.max := of_decide_eq_true hin.1
      exact .first hlive hs (by omega) (by simpa using hcount)
    · exact .first hlive hs hn (hcount.trans (Nat.le_succ _))
  | between ho hs hn =>
    -- a second window begins, after the beginning of the time
    have hopen : FixedWindow.hit x now o = (⟨1, now + x.window⟩, true) := by
      rw [← hit_live, ho, FixedWindow.hit]
    rw [hopen]
    refine .second (by linarith) ?_ ?_
    · split_ifs <;> omega
    · show _ ≤ x.max + 1
      split_ifs <;> omega
  | @second e n hend hn hcount =>
    rw [FixedWindow.hit]
    split_ifs with hended hin hin
    · exact absurd hin.2.2 (not_le.2 (hend.trans_le (x.le_of_ended hended)))
    · exact .done (hend.trans_le (x.le_of_ended hended)) hn
    · have hle : e.count + 1 ≤ x.max := of_decide_eq_true hin.1
      exact .second hend (by omega) (by simp; omega)
    · exact .second hend hn (by simp; omega)
  | done hend hn =>
    rw [if_neg fun hin ↦ absurd hin.2.2 (not_le.2 hend)]
    exact .done hend hn

/-- **No key gets through more than twice the limit** in any time as long as a window, if the times
do not go back. -/
theorem passes_le (hmax : 1 ≤ x.max) (hwindow : 0 < x.window) {key : A → K} {time : A → T}
    {es : List (Event A T)} (hsorted : es.Pairwise fun e e' ↦ e.moment time ≤ e'.moment time)
    (k : K) (s : T) :
    passes x key time (fun a ↦ key a = k ∧ s ≤ time a ∧ time a ≤ s + x.window) ∅ es ≤
      2 * x.max := by
  have hrun : ∀ (es : List (Event A T)) (t : Table K (Entry T)) (now : T) (n : ℕ),
      es.Pairwise (fun e e' ↦ e.moment time ≤ e'.moment time) → (∀ e ∈ es, now ≤ e.moment time) →
      Progress x s now (t.lookup k) n →
      n + passes x key time (fun a ↦ key a = k ∧ s ≤ time a ∧ time a ≤ s + x.window) t es ≤
        2 * x.max := by
    intro es
    induction es with
    | nil => exact fun t now n _ _ h ↦ h.le
    | cons e es ih =>
      intro t now n hsorted hnow h
      obtain ⟨hle, -⟩ := List.forall_mem_cons.1 hnow
      obtain ⟨hfirst, htail⟩ := List.pairwise_cons.1 hsorted
      have hlater := h.later hle
      cases e with
      | sweep now' =>
        refine ih _ now' n htail hfirst ?_
        rw [lookup_sweep]
        exact hlater.live
      | request a =>
        rw [show (Event.request a).moment time = time a from rfl] at hlater
        obtain ⟨hdecision, hentry⟩ := check_eq (x := x) (key a) (time a) t
        rw [passes, ← Nat.add_assoc]
        refine ih _ (time a) _ htail hfirst ?_
        by_cases hk : key a = k
        · rw [hk] at hdecision hentry
          have hprogress : Progress x s (time a) _ _ := hlater.hit hmax hwindow
          rw [hk, hentry, hdecision]
          simpa using hprogress
        · have hother := live_lookup_check_of_ne (x := x) (Ne.symm hk) (le_refl (time a)) t
          have hzero : (if (check x (key a) (time a) t).2 &&
              decide (key a = k ∧ s ≤ time a ∧ time a ≤ s + x.window) then 1 else 0) = 0 := by
            simp [hk]
          rw [hzero, Nat.add_zero]
          exact hlater.of_live hother.symm
  cases es with
  | nil => exact Nat.zero_le _
  | cons e es =>
    have hnow : ∀ e' ∈ e :: es, e.moment time ≤ e'.moment time :=
      List.forall_mem_cons.2 ⟨le_rfl, (List.pairwise_cons.1 hsorted).1⟩
    have hbound := hrun (e :: es) ∅ (e.moment time) 0 hsorted hnow (.none _)
    rwa [Nat.zero_add] at hbound

end Bound

end FixedWindow
