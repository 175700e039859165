import Mathlib.Data.List.Basic
import Mathlib.Tactic.Common

/-!
# Interleavings of independent agents

A machine whose actions each belong to an **agent**, such that actions of different agents commute.
Two sequences of actions in which every agent does the same, in the same order, then lead to the
same state, however the agents are interleaved (`foldl_eq_of_filter_eq`): the first action of one
sequence can be moved to the front of the other, past actions of other agents only
(`foldl_move_front`).
-/

namespace Interleaving

variable {S E A : Type}

/-- Actions of different agents commute. -/
def Independent (step : S → E → S) (agent : E → A) : Prop :=
  ∀ s e e', agent e ≠ agent e' → step (step s e) e' = step (step s e') e

variable {step : S → E → S} {agent : E → A}

/-- An action may be done before those of other agents. -/
theorem foldl_move_front (h : Independent step agent) {before : List E} {e : E}
    (hbefore : ∀ e' ∈ before, agent e' ≠ agent e) (s : S) :
    (before ++ [e]).foldl step s = (e :: before).foldl step s := by
  induction before generalizing s with
  | nil => rfl
  | cons e' before ih =>
    obtain ⟨hne, hrest⟩ := List.forall_mem_cons.1 hbefore
    rw [List.cons_append, List.foldl_cons, ih hrest, List.foldl_cons, List.foldl_cons,
      List.foldl_cons, h s e' e hne]

/-- **The order of the agents does not matter**: only what each of them does, and in which order. -/
theorem foldl_eq_of_filter_eq [DecidableEq A] (h : Independent step agent) {es es' : List E}
    (hfilter : ∀ a, es.filter (agent · = a) = es'.filter (agent · = a)) (s : S) :
    es.foldl step s = es'.foldl step s := by
  induction es generalizing es' s with
  | nil =>
    have hnil : es' = [] := by
      refine List.eq_nil_iff_forall_not_mem.2 fun e he ↦ ?_
      have hmem : e ∈ es'.filter (agent · = agent e) := by simp [he]
      rw [← hfilter] at hmem
      exact absurd hmem List.not_mem_nil
    rw [hnil]
  | cons e es ih =>
    -- the first action of its agent in the other sequence is the same action
    have hfirst := hfilter (agent e)
    rw [List.filter_cons_of_pos (by simp), eq_comm, List.filter_eq_cons_iff] at hfirst
    obtain ⟨before, after, rfl, hbefore, -, hafter⟩ := hfirst
    have hne : ∀ e' ∈ before, agent e' ≠ agent e := fun e' he' ↦ by simpa using hbefore e' he'
    have hrest : ∀ a, es.filter (agent · = a) = (before ++ after).filter (agent · = a) := by
      intro a
      have ha := hfilter a
      rw [List.filter_append] at ha ⊢
      by_cases hae : agent e = a
      · subst hae
        have hnil : before.filter (agent · = agent e) = [] :=
          List.filter_eq_nil_iff.2 fun e' he' ↦ by simpa using hne e' he'
        rw [hnil, List.nil_append, hafter]
      · rwa [List.filter_cons_of_neg (by simpa using hae),
          List.filter_cons_of_neg (by simpa using hae)] at ha
    calc (e :: es).foldl step s = (before ++ after).foldl step (step s e) := ih hrest (step s e)
      _ = after.foldl step ((e :: before).foldl step s) := List.foldl_append
      _ = after.foldl step ((before ++ [e]).foldl step s) := by rw [foldl_move_front h hne]
      _ = (before ++ e :: after).foldl step s := by
        rw [← List.foldl_append, List.append_assoc, List.singleton_append]

end Interleaving
