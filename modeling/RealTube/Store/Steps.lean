import Mathlib.Data.List.Basic
import Mathlib.Data.List.Forall2
import Mathlib.Data.List.Induction
import Mathlib.Tactic.Common

/-!
# Runs of a machine

A **machine** is a partial function from states and events to states: an event that is not possible
in a state has no successor there. `Steps.Run` are the runs whose events are all allowed in the
state they happen in, by a condition that may look at that state. What holds at the start and is
kept by every allowed step holds in every state reached (`Run.inv`).

A run can be computed (`exec`), which is how a particular one is shown to exist (`run_of_exec`).
-/

namespace Steps

variable {S E : Type}

/-- The state `s` is reached from `s₀` by the events, each of them allowed by `P` where it
happens. -/
inductive Run (step : S → E → Option S) (P : S → E → Prop) (s₀ : S) : List E → S → Prop
  | nil : Run step P s₀ [] s₀
  | snoc {es : List E} {e : E} {s s' : S} (h : Run step P s₀ es s) (he : P s e)
      (hstep : step s e = some s') : Run step P s₀ (es ++ [e]) s'

/-- Any event is allowed. -/
def Any (_ : S) (_ : E) : Prop := True

instance (s : S) (e : E) : Decidable (Any s e) := inferInstanceAs (Decidable True)

variable {step : S → E → Option S} {P : S → E → Prop} {s₀ s : S} {es : List E}

/-- **The rule of invariants.** -/
theorem Run.inv {I : S → Prop} (h : Run step P s₀ es s) (h₀ : I s₀)
    (hstep : ∀ {s e s'}, I s → P s e → step s e = some s' → I s') : I s := by
  induction h with
  | nil => exact h₀
  | snoc _ he hs ih => exact hstep ih he hs

/-- Nothing happens without events. -/
theorem Run.eq_of_nil (h : Run step P s₀ [] s) : s = s₀ := by
  generalize hes : ([] : List E) = es at h
  cases h with
  | nil => rfl
  | snoc h he hstep => exact absurd hes.symm (List.append_ne_nil_of_right_ne_nil _ (by simp))

/-- A run may begin with one more event. -/
theorem Run.cons {e : E} {s₁ : S} (he : P s₀ e) (hstep : step s₀ e = some s₁)
    (h : Run step P s₁ es s) : Run step P s₀ (e :: es) s := by
  induction h with
  | nil => exact .snoc .nil he hstep
  | snoc _ he' hs ih => exact .snoc ih he' hs

/-- Any run whose events are allowed is one of any events. -/
theorem Run.any (h : Run step P s₀ es s) : Run step Any s₀ es s := by
  induction h with
  | nil => exact .nil
  | snoc _ _ hs ih => exact ih.snoc trivial hs

/-- A run is one of the events it has, under what they are allowed by there. -/
theorem Run.mono {P' : S → E → Prop} (h : Run step P s₀ es s)
    (hP : ∀ s, ∀ e ∈ es, P s e → P' s e) : Run step P' s₀ es s := by
  induction h with
  | nil => exact .nil
  | snoc _ he hs ih =>
    exact (ih fun s e hmem ↦ hP s e (List.mem_append_left _ hmem)).snoc
      (hP _ _ (List.mem_append_right _ (List.mem_singleton_self _)) he) hs

/-- The last step of a run. -/
theorem Run.snoc_inv {e : E} (h : Run step P s₀ (es ++ [e]) s) :
    ∃ s', Run step P s₀ es s' ∧ P s' e ∧ step s' e = some s := by
  generalize hes : es ++ [e] = es' at h
  cases h with
  | nil => exact absurd hes (List.append_ne_nil_of_right_ne_nil _ (by simp))
  | snoc h he hstep =>
    obtain ⟨rfl, rfl⟩ := List.append_singleton_inj.1 hes
    exact ⟨_, h, he, hstep⟩

/-- A run stops on the way. -/
theorem Run.append_inv {es' : List E} (h : Run step P s₀ (es ++ es') s) :
    ∃ s', Run step P s₀ es s' ∧ Run step P s' es' s := by
  induction es' using List.reverseRecOn generalizing s with
  | nil => exact ⟨s, List.append_nil es ▸ h, .nil⟩
  | append_singleton es' e ih =>
    obtain ⟨s₁, hrun, he, hs⟩ := (List.append_assoc es es' [e] ▸ h).snoc_inv
    obtain ⟨s', hfirst, hrest⟩ := ih hrun
    exact ⟨s', hfirst, hrest.snoc he hs⟩

/-- The events determine the state. -/
theorem Run.unique {P' : S → E → Prop} {s' : S} (h : Run step P s₀ es s)
    (h' : Run step P' s₀ es s') : s = s' := by
  induction h generalizing s' with
  | nil => exact h'.eq_of_nil.symm
  | snoc _ _ hs ih =>
    obtain ⟨s₁, hrun, -, hs'⟩ := h'.snoc_inv
    obtain rfl := ih hrun
    exact Option.some.inj (hs.symm.trans hs')

/-- **The rule of simulations.** When every step from related states, on related events, is matched
by one to related states, a run is matched by a run of the related events. -/
theorem Run.sim {S' E' : Type} {step' : S' → E' → Option S'} {R : S → S' → Prop} {Q : E → E' → Prop}
    {s₀' : S'} {es' : List E'} (h : Run step P s₀ es s) (hes : List.Forall₂ Q es es')
    (h₀ : R s₀ s₀') (hstep : ∀ {s e s' t e'}, R s t → Q e e' → step s e = some s' →
      ∃ t', step' t e' = some t' ∧ R s' t') : ∃ t, Run step' Any s₀' es' t ∧ R s t := by
  induction h generalizing es' with
  | nil =>
    obtain rfl := List.forall₂_nil_left_iff.1 hes
    exact ⟨s₀', .nil, h₀⟩
  | @snoc es e s s' _ _ hs ih =>
    have hfirst := List.forall₂_take es.length hes
    have hlast := List.forall₂_drop es.length hes
    rw [List.take_left] at hfirst
    rw [List.drop_left] at hlast
    obtain ⟨e', rest, hq, hrest, heq⟩ := List.forall₂_cons_left_iff.1 hlast
    obtain rfl := List.forall₂_nil_left_iff.1 hrest
    obtain ⟨t, hrun, hR⟩ := ih hfirst
    obtain ⟨t', ht', hR'⟩ := hstep hR hq hs
    refine ⟨t', ?_, hR'⟩
    rw [← List.take_append_drop es.length es', heq]
    exact hrun.snoc trivial ht'

/-- A property holds at the start, in the end and all along. -/
def Throughout (step : S → E → Option S) (Good : S → Prop) (s₀ : S) (es : List E) : Prop :=
  ∀ es' s, es' <+: es → Run step Any s₀ es' s → Good s

/-- **The exact condition for a property of runs**: an allowed run has it, and an event that is not
allowed is the end of it. -/
theorem Run.throughout_iff {Good : S → Prop} (h : Run step Any s₀ es s)
    (hgood : ∀ {es s}, Run step P s₀ es s → Good s)
    (hbad : ∀ {es s e s'}, Run step P s₀ es s → step s e = some s' → Good s' → P s e) :
    Throughout step Good s₀ es ↔ Run step P s₀ es s := by
  constructor
  · intro hall
    induction h with
    | nil => exact .nil
    | @snoc es e s s' h _ hs ih =>
      have hrun := ih fun es' s' hpre ↦ hall es' s' (hpre.trans (List.prefix_append es [e]))
      exact hrun.snoc (hbad hrun hs (hall _ _ List.prefix_rfl (h.snoc trivial hs))) hs
  · intro hallowed es' s' hpre hrun
    clear h
    induction hallowed with
    | nil =>
      obtain rfl := List.prefix_nil.1 hpre
      exact hrun.eq_of_nil ▸ hgood .nil
    | @snoc es e s s' h he hs ih =>
      rcases List.prefix_concat_iff.1 hpre with rfl | hpre
      · exact (h.snoc he hs).unique hrun ▸ hgood (h.snoc he hs)
      · exact ih hpre

/-- Run a list of events, all of them allowed. -/
def exec (step : S → E → Option S) (P : S → E → Prop) [∀ s e, Decidable (P s e)] :
    S → List E → Option S
  | s, [] => some s
  | s, e :: es => if P s e then (step s e).bind fun s' ↦ exec step P s' es else none

theorem run_of_exec [∀ s e, Decidable (P s e)] (h : exec step P s₀ es = some s) :
    Run step P s₀ es s := by
  induction es generalizing s₀ with
  | nil => exact Option.some.inj h ▸ .nil
  | cons e es ih =>
    rw [exec] at h
    split_ifs at h with he
    obtain ⟨s₁, hstep, hrest⟩ := Option.bind_eq_some_iff.1 h
    exact (ih hrest).cons he hstep

/-- A computed run, with what is computed of its end. -/
theorem exists_run_of_exec [∀ s e, Decidable (P s e)] {Q : S → Bool}
    (h : (exec step P s₀ es).any Q = true) : ∃ s, Run step P s₀ es s ∧ Q s = true := by
  obtain ⟨s, hs, hQ⟩ := (Option.any_eq_true _ _).1 h
  exact ⟨s, run_of_exec hs, hQ⟩

end Steps
