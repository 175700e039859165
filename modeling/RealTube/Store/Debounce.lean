import RealTube.Store.Steps
import Mathlib.Data.List.Infix

/-!
# Debounced calls

A debounced function waits: a call sets a timer, and clears that of the call before. When the timer
fires, the argument of the call that has set it is handed on. So a call is **kept** if its timer
fires next, and **cleared** if another call comes before that (`mem_done_iff`). Once no timer is
set, each call is one or the other (`called_iff`).
-/

namespace Debounce

variable {B : Type}

/-- The timer, and what has been handed on. -/
structure State (B : Type) where
  now : ℕ
  /-- When it is due, and what it will hand on. -/
  timer : Option (ℕ × B)
  done : List B

/-- What can happen. -/
inductive Event (B : Type) where
  | call (t : ℕ) (b : B)
  | fire (t : ℕ)

/-- Nothing has been called. -/
def init : State B := ⟨0, none, []⟩

/-- The state after an event. A timer may fire late. -/
def step (delay : ℕ) (s : State B) : Event B → Option (State B)
  | .call t b => if s.now ≤ t then some ⟨t, some (t + delay, b), s.done⟩ else none
  | .fire t =>
    match s.timer with
    | some (due, b) => if s.now ≤ t ∧ due ≤ t then some ⟨t, none, s.done ++ [b]⟩ else none
    | none => none

/-- There is a call with this argument. -/
def Called (es : List (Event B)) (b : B) : Prop := ∃ t, .call t b ∈ es

/-- There is one whose timer fires. -/
def Kept (es : List (Event B)) (b : B) : Prop := ∃ t t', [.call t b, .fire t'] <:+: es

/-- There is one that is followed by another call before its timer fires. -/
def Cleared (es : List (Event B)) (b : B) : Prop :=
  ∃ t t' b', [.call t b, .call t' b'] <:+: es

variable {delay : ℕ} {s : State B} {es : List (Event B)} {e : Event B} {b : B}

/-! ### One event after another -/

theorem pair_isInfix_concat {x y : Event B} :
    [x, y] <:+: es ++ [e] ↔ (es.getLast? = some x ∧ y = e) ∨ [x, y] <:+: es := by
  rw [List.infix_concat_iff, List.suffix_concat_iff]
  refine or_congr_left ?_
  constructor
  · rintro (h | ⟨l, hl, hsuffix⟩)
    · cases h
    · obtain ⟨rfl, hy⟩ : l = [x] ∧ y = e := by
        rcases l with - | ⟨z, - | ⟨z', l⟩⟩ <;> simp_all
      obtain ⟨before, rfl⟩ := hsuffix
      exact ⟨List.getLast?_concat, hy⟩
  · rintro ⟨hlast, rfl⟩
    exact Or.inr ⟨[x], rfl, List.singleton_suffix_iff_getLast?_eq_some.2 hlast⟩

theorem kept_concat : Kept (es ++ [e]) b ↔
    Kept es b ∨ ∃ t t', es.getLast? = some (.call t b) ∧ e = .fire t' := by
  simp only [Kept, pair_isInfix_concat]
  constructor
  · rintro ⟨t, t', ⟨hlast, rfl⟩ | h⟩
    · exact Or.inr ⟨t, t', hlast, rfl⟩
    · exact Or.inl ⟨t, t', h⟩
  · rintro (⟨t, t', h⟩ | ⟨t, t', hlast, rfl⟩)
    · exact ⟨t, t', Or.inr h⟩
    · exact ⟨t, t', Or.inl ⟨hlast, rfl⟩⟩

theorem cleared_concat : Cleared (es ++ [e]) b ↔
    Cleared es b ∨ ∃ t t' b', es.getLast? = some (.call t b) ∧ e = .call t' b' := by
  simp only [Cleared, pair_isInfix_concat]
  constructor
  · rintro ⟨t, t', b', ⟨hlast, rfl⟩ | h⟩
    · exact Or.inr ⟨t, t', b', hlast, rfl⟩
    · exact Or.inl ⟨t, t', b', h⟩
  · rintro (⟨t, t', b', h⟩ | ⟨t, t', b', hlast, rfl⟩)
    · exact ⟨t, t', b', Or.inr h⟩
    · exact ⟨t, t', b', Or.inl ⟨hlast, rfl⟩⟩

/-- A call is kept or cleared, unless nothing has happened since. -/
theorem called_or_last (h : Called es b) :
    Kept es b ∨ Cleared es b ∨ ∃ t, es.getLast? = some (.call t b) := by
  obtain ⟨t, ht⟩ := h
  induction es using List.reverseRecOn with
  | nil => exact absurd ht List.not_mem_nil
  | append_singleton es e ih =>
    rw [kept_concat, cleared_concat, List.getLast?_concat]
    rcases List.mem_append.1 ht with ht | ht
    · rcases ih ht with h | h | ⟨t, hlast⟩
      · exact Or.inl (Or.inl h)
      · exact Or.inr (Or.inl (Or.inl h))
      · cases e with
        | call t' b' => exact Or.inr (Or.inl (Or.inr ⟨t, t', b', hlast, rfl⟩))
        | fire t' => exact Or.inl (Or.inr ⟨t, t', hlast, rfl⟩)
    · exact Or.inr (Or.inr ⟨t, by rw [List.mem_singleton.1 ht]⟩)

theorem Kept.called (h : Kept es b) : Called es b := by
  obtain ⟨t, t', h⟩ := h
  exact ⟨t, h.subset List.mem_cons_self⟩

theorem Cleared.called (h : Cleared es b) : Called es b := by
  obtain ⟨t, t', b', h⟩ := h
  exact ⟨t, h.subset List.mem_cons_self⟩

/-! ### What is handed on -/

/-- The timer is that of the last event, if that is a call, and the calls that are kept have been
handed on. -/
theorem run_spec {P : State B → Event B → Prop} (h : Steps.Run (step delay) P init es s) :
    (∀ due b, s.timer = some (due, b) ↔ ∃ t, es.getLast? = some (.call t b) ∧ due = t + delay) ∧
      ∀ b, b ∈ s.done ↔ Kept es b := by
  induction h with
  | nil => exact ⟨fun due b ↦ by simp [init], fun b ↦ by simp [init, Kept]⟩
  | @snoc es e s s' hrun _ hstep ih =>
    obtain ⟨htimer, hdone⟩ := ih
    cases e with
    | call t b =>
      rw [step] at hstep
      split_ifs at hstep
      obtain rfl := Option.some.inj hstep
      refine ⟨fun due b' ↦ ?_, fun b' ↦ ?_⟩
      · simp only [List.getLast?_concat, Option.some_inj, Prod.mk.injEq, Event.call.injEq]
        exact ⟨fun ⟨hdue, hb⟩ ↦ ⟨t, ⟨rfl, hb⟩, hdue.symm⟩,
          fun ⟨t', ⟨ht, hb⟩, hdue⟩ ↦ ⟨by rw [hdue, ht], hb⟩⟩
      · rw [kept_concat, ← hdone, or_iff_left]
        rintro ⟨_, _, -, hfire⟩
        cases hfire
    | fire t =>
      rw [step] at hstep
      split at hstep
      · rename_i due b hset
        split_ifs at hstep
        obtain rfl := Option.some.inj hstep
        obtain ⟨t₀, hlast, -⟩ := (htimer due b).1 hset
        refine ⟨fun due b' ↦ by simp, fun b' ↦ ?_⟩
        rw [List.mem_append, List.mem_singleton, kept_concat, hdone]
        refine or_congr_right ⟨?_, ?_⟩
        · rintro rfl
          exact ⟨t₀, t, hlast, rfl⟩
        · rintro ⟨t₁, _, hlast', -⟩
          rw [hlast, Option.some_inj, Event.call.injEq] at hlast'
          exact hlast'.2.symm
      · cases hstep

/-- **What is handed on**: the calls that are kept. -/
theorem mem_done_iff {P : State B → Event B → Prop} (h : Steps.Run (step delay) P init es s) :
    b ∈ s.done ↔ Kept es b := (run_spec h).2 b

/-- **In the end** every call is kept or cleared. -/
theorem called_iff {P : State B → Event B → Prop} (hrun : Steps.Run (step delay) P init es s)
    (hnone : s.timer = none) : Called es b ↔ Kept es b ∨ Cleared es b := by
  refine ⟨fun hcalled ↦ ?_, fun h ↦ h.elim Kept.called Cleared.called⟩
  refine (called_or_last hcalled).imp_right fun h ↦ h.resolve_right fun ⟨t, hlast⟩ ↦ ?_
  have htimer := ((run_spec hrun).1 _ b).2 ⟨t, hlast, rfl⟩
  rw [hnone] at htimer
  cases htimer

end Debounce
