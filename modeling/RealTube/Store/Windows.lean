import RealTube.Store.FixedWindow
import Mathlib.Algebra.Order.Group.Defs

/-!
# What a fixed-window limiter computes

The requests of one key fall into windows: the first request opens a window, a request belongs to it
until it is over, and the next one opens another window (`windows`). A limiter does not keep them.
It counts, in a table for all keys, and removes entries now and then. What it answers is
nevertheless a function of the windows of the key: the answer to a request depends on its number in
its window (`answers_eq_windows`).

The limit is one for each window. It is a limit for every time as long as a window exactly if, in
any two windows that follow each other, every request that is let through in the second one comes
long enough after its counterpart in the first (`countP_flatMap_take_le_iff`): the request that many
places before it which the limit allows.
-/

namespace FixedWindow

/-! ### Windows -/

section Windows

variable {A T : Type} [LinearOrder T] [Add T] (x : Limiter T) (time : A → T)

/-- A window: when it ends, and the requests in it. -/
abbrev Window (A T : Type) : Type := T × List A

/-- Cut the requests that follow, where a window with an end and some requests is open. -/
def windowsFrom (windowEnd : T) (w : List A) : List A → List (Window A T)
  | [] => [(windowEnd, w)]
  | a :: as =>
    if x.ended (time a) windowEnd then
      (windowEnd, w) :: windowsFrom (time a + x.window) [a] as
    else windowsFrom windowEnd (w ++ [a]) as

/-- **Cut requests into windows**: the first one opens a window, and whatever comes before that is
over belongs to it. -/
def windows : List A → List (Window A T)
  | [] => []
  | a :: as => windowsFrom x time (time a + x.window) [a] as

variable {x} {time}

/-- A window opens with its first request, `x.window` before its end. -/
theorem exists_cons_of_mem_windowsFrom {a : A} {w as : List A} {v : Window A T}
    (hv : v ∈ windowsFrom x time (time a + x.window) (a :: w) as) :
    ∃ b bs, v = (time b + x.window, b :: bs) := by
  induction as generalizing a w with
  | nil => exact ⟨a, w, List.mem_singleton.1 hv⟩
  | cons b as ih =>
    rw [windowsFrom] at hv
    split_ifs at hv
    · rcases List.mem_cons.1 hv with rfl | hv
      · exact ⟨a, w, rfl⟩
      · exact ih hv
    · exact ih hv

theorem exists_cons_of_mem_windows {as : List A} {v : Window A T} (hv : v ∈ windows x time as) :
    ∃ b bs, v = (time b + x.window, b :: bs) := by
  rcases as with - | ⟨a, as⟩
  · cases hv
  · exact exists_cons_of_mem_windowsFrom hv

variable (x time) in
theorem flatMap_windowsFrom (windowEnd : T) (w as : List A) :
    (windowsFrom x time windowEnd w as).flatMap Prod.snd = w ++ as := by
  induction as generalizing windowEnd w with
  | nil => simp [windowsFrom]
  | cons a as ih =>
    rw [windowsFrom]
    split_ifs
    · rw [List.flatMap_cons, ih, List.singleton_append]
    · rw [ih, List.append_assoc, List.singleton_append]

variable (x time) in
/-- **The windows have all requests**, in their order. -/
theorem flatMap_windows (as : List A) : (windows x time as).flatMap Prod.snd = as := by
  rcases as with - | ⟨a, as⟩
  · rfl
  · exact flatMap_windowsFrom x time _ _ _

/-- A window is over for all requests in the windows after it. -/
theorem pairwise_windowsFrom {windowEnd : T} {w as : List A}
    (hsorted : as.Pairwise (time · ≤ time ·)) :
    (windowsFrom x time windowEnd w as).Pairwise fun u v ↦ ∀ b ∈ v.2, x.ended (time b) u.1 := by
  induction as generalizing windowEnd w with
  | nil => exact List.pairwise_singleton _ _
  | cons a as ih =>
    obtain ⟨hfirst, htail⟩ := List.pairwise_cons.1 hsorted
    rw [windowsFrom]
    split_ifs with hended
    · refine List.pairwise_cons.2 ⟨fun v hv b hb ↦ ?_, ih htail⟩
      have hmem : b ∈ a :: as := by
        have hall := flatMap_windowsFrom x time (time a + x.window) [a] as
        rw [← List.singleton_append, ← hall]
        exact List.mem_flatMap.2 ⟨v, hv, hb⟩
      rcases List.mem_cons.1 hmem with rfl | hmem
      · exact hended
      · exact ended_mono (hfirst b hmem) hended
    · exact ih htail

theorem pairwise_windows {as : List A} (hsorted : as.Pairwise (time · ≤ time ·)) :
    (windows x time as).Pairwise fun u v ↦ ∀ b ∈ v.2, x.ended (time b) u.1 := by
  rcases as with - | ⟨a, as⟩
  · exact List.Pairwise.nil
  · exact pairwise_windowsFrom (List.pairwise_cons.1 hsorted).2

end Windows

/-! ### Answers -/

section Answers

variable {K A T R : Type} [DecidableEq K] [LinearOrder T] [Add T]

/-- **What makes a limiter of a program**: its answer to a request, and the entry it leaves for the
key, are those of `hit`, and it leaves the windows of other keys. -/
structure Serves (x : Limiter T) (key : A → K) (time : A → T) (answer : A → Entry T × Bool → R)
    (serve : A → Table K (Entry T) → Table K (Entry T) × R) : Prop where
  answer_eq : ∀ a t, (serve a t).2 = answer a (hit x (time a) (t.lookup (key a)))
  lookup_self : ∀ a t, (serve a t).1.lookup (key a) = some (hit x (time a) (t.lookup (key a))).1
  live_lookup : ∀ a t k now, k ≠ key a → time a ≤ now →
    live x now ((serve a t).1.lookup k) = live x now (t.lookup k)

/-- A program that removes some entries that are over, and then does what `hit` says. -/
theorem serves_of_eq {x : Limiter T} {key : A → K} {time : A → T} {answer : A → Entry T × Bool → R}
    {serve : A → Table K (Entry T) → Table K (Entry T) × R}
    {prune : A → Table K (Entry T) → Table K (Entry T)}
    (hserve : ∀ a t, serve a t =
      ((prune a t).insert (key a) (hit x (time a) ((prune a t).lookup (key a))).1,
        answer a (hit x (time a) ((prune a t).lookup (key a)))))
    (hprune : ∀ a t k now, time a ≤ now →
      live x now ((prune a t).lookup k) = live x now (t.lookup k)) :
    Serves x key time answer serve := by
  have hhit : ∀ a t, hit x (time a) ((prune a t).lookup (key a)) =
      hit x (time a) (t.lookup (key a)) := fun a t ↦ hit_congr (hprune a t _ _ le_rfl)
  exact {
    answer_eq := fun a t ↦ by rw [hserve, hhit]
    lookup_self := fun a t ↦ by rw [hserve, Table.lookup_insert_self, hhit]
    live_lookup := fun a t k now hk hnow ↦ by
      rw [hserve, Table.lookup_insert_of_ne _ _ hk, hprune a t k now hnow] }

section Defs

variable (x : Limiter T) (time : A → T) (answer : A → Entry T × Bool → R)

/-- The requests of a run, with the answers to them. -/
def answers (serve : A → Table K (Entry T) → Table K (Entry T) × R) :
    Table K (Entry T) → List (Event A T) → List (A × R)
  | _, [] => []
  | t, .request a :: es => (a, (serve a t).2) :: answers serve (serve a t).1 es
  | t, .sweep now :: es => answers serve (sweep x now t) es

/-- The same for a single key. -/
def answersOf : Option (Entry T) → List A → List (A × R)
  | _, [] => []
  | o, a :: as => (a, answer a (hit x (time a) o)) :: answersOf (some (hit x (time a) o).1) as

/-- The requests of a window, with the answers to them: the first `x.max` are allowed. -/
def answerWindow (v : Window A T) : List (A × R) :=
  v.2.mapIdx fun i a ↦ (a, answer a (⟨i + 1, v.1⟩, i < x.max))

end Defs

variable {x : Limiter T} {key : A → K} {time : A → T} {answer : A → Entry T × Bool → R}
  {serve : A → Table K (Entry T) → Table K (Entry T) × R} {k : K} {es : List (Event A T)}

/-- **The requests of a key are answered by themselves**, if the times do not go back. -/
theorem filter_answers_eq (h : Serves x key time answer serve)
    (hsorted : es.Pairwise fun e e' ↦ e.moment time ≤ e'.moment time) {now : T}
    (hnow : ∀ e ∈ es, now ≤ e.moment time) {t : Table K (Entry T)} {o : Option (Entry T)}
    (hlive : live x now (t.lookup k) = live x now o) :
    (answers x serve t es).filter (key ·.1 = k) =
      answersOf x time answer o (requestsOf key k es) := by
  induction es generalizing t o now with
  | nil => rfl
  | cons e es ih =>
    obtain ⟨hle, hrest⟩ := List.forall_mem_cons.1 hnow
    obtain ⟨hfirst, htail⟩ := List.pairwise_cons.1 hsorted
    have hlater : live x (e.moment time) (t.lookup k) = live x (e.moment time) o := by
      rw [← live_live hle, hlive, live_live hle]
    rcases e with a | now'
    · rw [answers]
      by_cases hk : key a = k
      · have hhit : hit x (time a) (t.lookup (key a)) = hit x (time a) o := by
          rw [hk]
          exact hit_congr hlater
        have hof : requestsOf key k (.request a :: es) = a :: requestsOf key k es :=
          List.filterMap_cons_some (if_pos hk)
        rw [List.filter_cons_of_pos (by simpa using hk), hof, answersOf, h.answer_eq, hhit]
        have hentry := h.lookup_self a t
        rw [hhit, hk] at hentry
        rw [ih htail hfirst (congrArg (live x (time a)) hentry)]
      · have hof : requestsOf key k (.request a :: es) = requestsOf key k es :=
          List.filterMap_cons_none (if_neg hk)
        rw [List.filter_cons_of_neg (by simpa using hk), hof]
        exact ih htail hfirst ((h.live_lookup a t k _ (Ne.symm hk) le_rfl).trans hlater)
    · refine ih htail hfirst ?_
      rw [lookup_sweep]
      exact (live_live le_rfl).trans hlater

/-- Where a window with some requests is open. -/
theorem flatMap_answerWindow_windowsFrom (hmax : 1 ≤ x.max) (windowEnd : T) (w as : List A) :
    (windowsFrom x time windowEnd w as).flatMap (answerWindow x answer) =
      answerWindow x answer (windowEnd, w) ++
        answersOf x time answer (some ⟨w.length, windowEnd⟩) as := by
  induction as generalizing windowEnd w with
  | nil => simp [windowsFrom, answersOf]
  | cons a as ih =>
    rw [windowsFrom, answersOf, hit]
    split_ifs with hended
    · rw [List.flatMap_cons, ih]
      simp [answerWindow, Nat.lt_of_succ_le hmax]
    · rw [ih, answerWindow, answerWindow, List.mapIdx_append]
      simp [Nat.succ_le_iff]

theorem answersOf_eq_windows (hmax : 1 ≤ x.max) (as : List A) :
    answersOf x time answer none as = (windows x time as).flatMap (answerWindow x answer) := by
  rcases as with - | ⟨a, as⟩
  · rfl
  · rw [windows, flatMap_answerWindow_windowsFrom hmax]
    simp [answersOf, answerWindow, hit, Nat.lt_of_succ_le hmax]

/-- **A limiter answers as the windows of the key say**, if the times do not go back. -/
theorem answers_eq_windows (h : Serves x key time answer serve) (hmax : 1 ≤ x.max)
    (hsorted : es.Pairwise fun e e' ↦ e.moment time ≤ e'.moment time) (k : K) :
    (answers x serve ∅ es).filter (key ·.1 = k) =
      (windows x time (requestsOf key k es)).flatMap (answerWindow x answer) := by
  rw [← answersOf_eq_windows hmax]
  rcases es with - | ⟨e, es⟩
  · rfl
  · have hnow : ∀ e' ∈ e :: es, e.moment time ≤ e'.moment time :=
      List.forall_mem_cons.2 ⟨le_rfl, (List.pairwise_cons.1 hsorted).1⟩
    exact filter_answers_eq h hsorted hnow rfl

omit [Add T] in
/-- **The first requests of each window are allowed**, up to the limit. -/
theorem filter_answerWindow {allowed : R → Bool}
    (hallowed : ∀ a e b, allowed (answer a (e, b)) = b) (v : Window A T) :
    ((answerWindow x answer v).filter fun r ↦ allowed r.2).map Prod.fst = v.2.take x.max := by
  obtain ⟨windowEnd, w⟩ := v
  rw [answerWindow]
  induction w using List.reverseRecOn with
  | nil => simp
  | append_singleton w a ih =>
    rw [List.mapIdx_append, List.filter_append, List.map_append, ih, List.take_append]
    rcases Nat.lt_or_ge w.length x.max with hlt | hge
    · have hone : [a].take (x.max - w.length) = [a] := List.take_of_length_le (by simp; omega)
      simp [hallowed, hlt, hone]
    · simp [hallowed, not_lt.2 hge, Nat.sub_eq_zero_of_le hge]

end Answers

/-! ### A limit for every time -/

section Limit

variable {A T : Type} [AddCommGroup T] [LinearOrder T] [IsOrderedAddMonoid T] {time : A → T}
  {window : T} {n : ℕ}

/-- It happens in the time from `s` on. -/
def inTime (time : A → T) (window s : T) (a : A) : Bool := s ≤ time a ∧ time a ≤ s + window

omit [AddCommGroup T] [IsOrderedAddMonoid T] in
theorem getElem_le_of_sorted {l : List A} (hl : l.Pairwise (time · ≤ time ·)) {i j : ℕ}
    (hj : j < l.length) (hij : i ≤ j) : time (l.get ⟨i, hij.trans_lt hj⟩) ≤ time l[j] := by
  rcases hij.lt_or_eq with hlt | rfl
  · exact List.pairwise_iff_getElem.1 hl i j _ hj hlt
  · exact le_rfl

omit [IsOrderedAddMonoid T] in
/-- Elements that are too close are all in the time that begins with the first of them. -/
theorem lt_of_countP_le {l : List A} (hl : l.Pairwise (time · ≤ time ·))
    (hcount : ∀ s, l.countP (inTime time window s) ≤ n) (i : ℕ) (h : i + n < l.length) :
    time l[i] + window < time l[i + n] := by
  by_contra hfar
  have hall : ∀ a ∈ (l.drop i).take (n + 1), inTime time window (time l[i]) a := by
    intro a ha
    obtain ⟨k, hk, rfl⟩ := List.mem_iff_getElem.1 ha
    have hlen : k < n + 1 := (List.length_take_le _ _).trans_lt' hk
    rw [List.getElem_take, List.getElem_drop]
    exact decide_eq_true ⟨getElem_le_of_sorted hl _ (by omega),
      (getElem_le_of_sorted hl h (by omega)).trans (not_lt.1 hfar)⟩
  have hsub : ((l.drop i).take (n + 1)).Sublist l :=
    (List.take_sublist _ _).trans (List.drop_sublist _ _)
  have hcard := hsub.countP_le (p := inTime time window (time l[i]))
  rw [List.countP_eq_length.2 hall, List.length_take, List.length_drop] at hcard
  have hbound := hcount (time l[i])
  omega

/-- What comes after a time that has begun, by more than a window, is not in it. -/
theorem countP_eq_zero_of_late {l : List A} {s t : T} (hbegin : s ≤ t)
    (hlate : ∀ b ∈ l, t + window < time b) : l.countP (inTime time window s) = 0 := by
  refine List.countP_eq_zero.2 fun b hb hin ↦ ?_
  have hend := (of_decide_eq_true hin).2
  exact absurd ((hlate b hb).trans_le hend) (not_lt.2 (add_le_add_left hbegin window))

/-- **In a sorted list** the number of elements in any time is bounded by `n` exactly if each of
them is far enough from the `n`th after it. -/
theorem countP_le_iff {l : List A} (hl : l.Pairwise (time · ≤ time ·)) :
    (∀ s, l.countP (inTime time window s) ≤ n) ↔
      ∀ i, ∀ h : i + n < l.length, time l[i] + window < time l[i + n] := by
  refine ⟨lt_of_countP_le hl, fun hfar s ↦ ?_⟩
  induction l with
  | nil => exact Nat.zero_le n
  | cons a l ih =>
    by_cases ha : inTime time window s a
    · -- from the `n`th on, it is too late
      have hlate : ∀ b ∈ (a :: l).drop n, time a + window < time b := by
        intro b hb
        obtain ⟨k, hk, rfl⟩ := List.mem_iff_getElem.1 hb
        rw [List.length_drop] at hk
        rw [List.getElem_drop]
        have hk' : k + n < (a :: l).length := by omega
        have hfirst : time a ≤ time ((a :: l).get ⟨k, by omega⟩) :=
          getElem_le_of_sorted hl (by omega) (Nat.zero_le k)
        simp only [Nat.add_comm n k]
        exact (add_le_add_left hfirst window).trans_lt (hfar k hk')
      have hzero := countP_eq_zero_of_late (of_decide_eq_true ha).1 hlate
      rw [← List.take_append_drop n (a :: l), List.countP_append, hzero, Nat.add_zero]
      exact List.countP_le_length.trans (List.length_take_le _ _)
    · rw [List.countP_cons_of_neg ha]
      refine ih (List.pairwise_cons.1 hl).2 fun i h ↦ ?_
      have hsucc := hfar (i + 1) (by simp; omega)
      simpa [Nat.add_right_comm i 1 n] using hsucc

/-- The second list begins after the first, and longer than a window after its first element. -/
structure Apart (time : A → T) (window : T) (u v : List A) : Prop where
  le : ∀ a ∈ u, ∀ b ∈ v, time a ≤ time b
  lt : ∀ a ∈ u.head?, ∀ b ∈ v, time a + window < time b

/-- **The second list keeps its distance from the first**: each of its first `n` elements comes
longer than a window after its counterpart, which has its number if the first list has `n` elements
or more, and a number that is smaller by what it lacks of `n` otherwise. -/
def Spread (time : A → T) (window : T) (n : ℕ) (u v : List A) : Prop :=
  ∀ i, ∀ hi : i < u.length, ∀ j, ∀ hj : j < v.length, j < n → n + i = min n u.length + j →
    time u[i] + window < time v[j]

instance (time : A → T) (window : T) (n : ℕ) (u v : List A) :
    Decidable (Spread time window n u v) := by
  unfold Spread
  infer_instance

/-- Two lists that follow each other. -/
theorem countP_append_take_le_iff {u v : List A} (hu : u.Pairwise (time · ≤ time ·))
    (hv : v.Pairwise (time · ≤ time ·)) (hapart : Apart time window u v) :
    (∀ s, (u.take n ++ v.take n).countP (inTime time window s) ≤ n) ↔
      Spread time window n u v := by
  have hsorted : (u.take n ++ v.take n).Pairwise (time · ≤ time ·) :=
    List.pairwise_append.2 ⟨hu.sublist (List.take_sublist _ _), hv.sublist (List.take_sublist _ _),
      fun a ha b hb ↦ hapart.le a (List.mem_of_mem_take ha) b (List.mem_of_mem_take hb)⟩
  have hlen : (u.take n).length = min n u.length := List.length_take
  have hlen' : (v.take n).length = min n v.length := List.length_take
  rw [countP_le_iff hsorted]
  constructor
  · intro h i hi j hj hjn heq
    have hbound : i + n < (u.take n ++ v.take n).length := by
      rw [List.length_append, hlen, hlen']
      omega
    have hfar := h i hbound
    rw [List.getElem_append_left (by omega), List.getElem_take,
      List.getElem_append_right (by omega), List.getElem_take] at hfar
    simpa only [show i + n - (u.take n).length = j by omega] using hfar
  · intro h i hbound
    rw [List.length_append, hlen, hlen'] at hbound
    rw [List.getElem_append_left (by omega), List.getElem_take,
      List.getElem_append_right (by omega), List.getElem_take]
    exact h i (by omega) _ (by omega) (by omega) (by omega)

/-- **A limit for every list is one for every time** exactly if each list keeps its distance from
the one before. -/
theorem countP_flatMap_take_le_iff {ws : List (List A)} (hne : ∀ w ∈ ws, w ≠ [])
    (hsorted : ∀ w ∈ ws, w.Pairwise (time · ≤ time ·))
    (hapart : ws.Pairwise (Apart time window)) :
    (∀ s, (ws.flatMap (List.take n)).countP (inTime time window s) ≤ n) ↔
      ws.IsChain (Spread time window n) := by
  induction ws with
  | nil => exact iff_of_true (fun _ ↦ Nat.zero_le n) List.isChain_nil
  | cons u ws ih =>
    obtain ⟨hneu, hnews⟩ := List.forall_mem_cons.1 hne
    obtain ⟨hu, hws⟩ := List.forall_mem_cons.1 hsorted
    obtain ⟨hfirst, htail⟩ := List.pairwise_cons.1 hapart
    have ih := ih hnews hws htail
    rcases ws with - | ⟨v, ws⟩
    · refine iff_of_true (fun s ↦ ?_) (List.isChain_singleton _)
      rw [List.flatMap_singleton]
      exact List.countP_le_length.trans (List.length_take_le _ _)
    · have hpair := countP_append_take_le_iff (n := n) hu (hws v List.mem_cons_self)
        (hfirst v List.mem_cons_self)
      rw [List.isChain_cons_cons, ← ih, ← hpair]
      constructor
      · intro hall
        refine ⟨fun s ↦ ?_, fun s ↦ ?_⟩
        · refine le_trans (List.Sublist.countP_le ?_) (hall s)
          rw [List.flatMap_cons, List.flatMap_cons, ← List.append_assoc]
          exact List.sublist_append_left _ _
        · refine le_trans (List.Sublist.countP_le ?_) (hall s)
          rw [List.flatMap_cons (x := u)]
          exact List.sublist_append_right _ _
      · rintro ⟨htwo, hrest⟩ s
        rw [List.flatMap_cons, List.countP_append]
        by_cases hin : ∃ a ∈ u.take n, inTime time window s a
        · -- what comes after the second list is too late
          obtain ⟨a, ha, hin⟩ := hin
          have hbegin := (of_decide_eq_true hin).1
          obtain ⟨c, v', rfl⟩ := List.exists_cons_of_ne_nil (hnews v List.mem_cons_self)
          have hnext := (hfirst _ List.mem_cons_self).le a (List.mem_of_mem_take ha) c
            List.mem_cons_self
          have hlate : ∀ b ∈ ws.flatMap (List.take n), time c + window < time b := by
            intro b hb
            obtain ⟨w, hw, hb⟩ := List.mem_flatMap.1 hb
            exact ((List.pairwise_cons.1 htail).1 w hw).lt c rfl b (List.mem_of_mem_take hb)
          have hzero := countP_eq_zero_of_late (hbegin.trans hnext) hlate
          rw [List.flatMap_cons, List.countP_append, hzero, Nat.add_zero, ← List.countP_append]
          exact htwo s
        · have hzero : (u.take n).countP (inTime time window s) = 0 :=
            List.countP_eq_zero.2 fun a ha hin' ↦ hin ⟨a, ha, hin'⟩
          rw [hzero, Nat.zero_add]
          exact hrest s

end Limit

end FixedWindow
