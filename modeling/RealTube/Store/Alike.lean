import RealTube.Store.Transaction

/-!
# Transactions that go alike

Two transactions go **alike** under a relation of stores if, statement by statement, they lead from
related stores to related stores, and end with related values. They need not make the same writes.
Run on related stores they do the same for all an observer of the relation can see, also when calls
fail, as long as the same calls fail for both (`Alike.transact`): the number of their calls is the
same (`Alike.calls_congr`).

The rules follow the way transactions are built: `alike_exec`, `alike_query`, `Alike.bind`.
-/

open RowStore

/-- Results are related: both are errors, or both are values, and these are. -/
inductive AlikeResults {ε ε' α α' : Type} (Q : ε → ε' → Prop) (P : α → α' → Prop) :
    Except ε α → Except ε' α' → Prop
  | error {e : ε} {e' : ε'} (h : Q e e') : AlikeResults Q P (.error e) (.error e')
  | ok {a : α} {a' : α'} (h : P a a') : AlikeResults Q P (.ok a) (.ok a')

namespace AlikeResults

variable {ε ε' δ δ' α α' β β' : Type} {Q : ε → ε' → Prop} {Q' : δ → δ' → Prop} {P : α → α' → Prop}
  {P' : β → β' → Prop}

/-- The errors are answered with others. -/
theorem mapError {x : Except ε α} {x' : Except ε' α'} {f : ε → δ} {f' : ε' → δ'}
    (h : AlikeResults Q P x x') (hf : ∀ e e', Q e e' → Q' (f e) (f' e')) :
    AlikeResults Q' P (x.mapError f) (x'.mapError f') := by
  cases h with
  | error he => exact .error (hf _ _ he)
  | ok ha => exact .ok ha

/-- The values are answered with others. -/
theorem map {x : Except ε α} {x' : Except ε' α'} {f : α → β} {f' : α' → β'}
    (h : AlikeResults Q P x x') (hf : ∀ a a', P a a' → P' (f a) (f' a')) :
    AlikeResults Q P' (x.map f) (x'.map f') := by
  cases h with
  | error he => exact .error he
  | ok ha => exact .ok (hf _ _ ha)

/-- One check after another. -/
theorem bind {x : Except ε α} {x' : Except ε' α'} {f : α → Except ε β} {f' : α' → Except ε' β'}
    (h : AlikeResults Q P x x') (hf : ∀ a a', P a a' → AlikeResults Q P' (f a) (f' a')) :
    AlikeResults Q P' (x >>= f) (x' >>= f') := by
  cases h with
  | error he => exact .error he
  | ok ha => exact hf _ _ ha

end AlikeResults

namespace Tx

/-- Both roll back because a call fails, or because of related errors. -/
inductive AlikeAborts {ε ε' : Type} (Q : ε → ε' → Prop) : Abort ε → Abort ε' → Prop
  | call : AlikeAborts Q .call .call
  | program {e : ε} {e' : ε'} (h : Q e e') : AlikeAborts Q (.program e) (.program e')

variable {S W R α α' β β' : Type} [RowStore W S R]

/-- **Two transactions go alike** under the relation `E` of stores, and end with values in `P`. -/
inductive Alike (E : S → S → Prop) (P : α → α' → Prop) : Tx S W α → Tx S W α' → Prop
  | ret {a : α} {a' : α'} (h : P a a') : Alike E P (.ret a) (.ret a')
  | stmt {w w' : S → List W} {k : S → Tx S W α} {k' : S → Tx S W α'}
      (hw : ∀ s s', E s s' → E (applyAll s (w s)) (applyAll s' (w' s')))
      (hk : ∀ s s', E s s' → Alike E P (k s) (k' s')) : Alike E P (.stmt w k) (.stmt w' k')

variable {E : S → S → Prop} {P : α → α' → Prop} {P' : β → β' → Prop}

/-- A statement that writes. -/
theorem alike_exec {w w' : S → List W}
    (hw : ∀ s s', E s s' → E (applyAll s (w s)) (applyAll s' (w' s'))) :
    Alike E (fun _ _ ↦ True) (exec w) (exec w') :=
  .stmt hw fun _ _ _ ↦ .ret trivial

/-- A statement that reads. -/
theorem alike_query {q : S → α} {q' : S → α'} (hq : ∀ s s', E s s' → P (q s) (q' s')) :
    Alike (W := W) E P (query q) (query q') :=
  .stmt (fun _ _ h ↦ h) fun s s' h ↦ .ret (hq s s' h)

/-- **Sequences.** -/
theorem Alike.bind {p : Tx S W α} {p' : Tx S W α'} {f : α → Tx S W β} {f' : α' → Tx S W β'}
    (h : Alike E P p p') (hf : ∀ a a', P a a' → Alike E P' (f a) (f' a')) :
    Alike E P' (p >>= f) (p' >>= f') := by
  induction h with
  | ret ha => exact hf _ _ ha
  | stmt hw _ ih => exact .stmt hw ih

section Run

variable {p : Tx S W α} {p' : Tx S W α'} {s s' : S}

/-- They make the same number of calls. -/
theorem Alike.calls_congr (h : Alike E P p p') (hs : E s s') : p.calls s = p'.calls s' := by
  induction h generalizing s s' with
  | ret => rfl
  | stmt hw _ ih => rw [calls, calls, ih s s' hs (hw s s' hs)]

/-- Run alone, they end in related stores. -/
theorem Alike.run (h : Alike E P p p') (hs : E s s') :
    P (p.run s).1 (p'.run s').1 ∧ E (p.run s).2 (p'.run s').2 := by
  induction h generalizing s s' with
  | ret ha => exact ⟨ha, hs⟩
  | stmt hw _ ih => exact ih s s' hs (hw s s' hs)

variable {ε ε' : Type} {Q : ε → ε' → Prop}

/-- **Whatever calls fail**, they are committed or rolled back alike. -/
theorem Alike.transact {p : Tx S W (Except ε α)} {p' : Tx S W (Except ε' α')}
    (h : Alike E (AlikeResults Q P) p p') (hs : E s s') (fails : ℕ → Bool) :
    AlikeResults (AlikeAborts Q) P (p.transact fails s).1 (p'.transact fails s').1 ∧
      E (p.transact fails s).2 (p'.transact fails s').2 := by
  have hcalls : p.calls s = p'.calls s' := h.calls_congr hs
  obtain ⟨hresult, hstore⟩ := h.run hs
  rw [Tx.transact, Tx.transact, attempt_eq, attempt_eq, hcalls]
  generalize p.run s = x at hresult hstore
  generalize p'.run s' = x' at hresult hstore
  obtain ⟨r, t⟩ := x
  obtain ⟨r', t'⟩ := x'
  by_cases hbegin : fails 0 = true
  · rw [if_pos hbegin, if_pos hbegin]
    exact ⟨.error .call, hs⟩
  rw [if_neg hbegin, if_neg hbegin]
  by_cases hstmts : ∀ i < p'.calls s', fails (1 + i) = false
  · rw [if_pos hstmts, if_pos hstmts]
    cases hresult with
    | error he => exact ⟨.error (.program he), hs⟩
    | ok ha =>
      dsimp only
      split_ifs
      · exact ⟨.error .call, hs⟩
      · exact ⟨.ok ha, hstore⟩
  · rw [if_neg hstmts, if_neg hstmts]
    exact ⟨.error .call, hs⟩

end Run

end Tx
