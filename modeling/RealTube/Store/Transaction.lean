import Mathlib.Data.List.Basic
import Mathlib.Data.Finset.Basic
import Mathlib.Tactic.Common

/-!
# Transactions as trees of statements

A **transaction** is a program that issues one statement after another against a store and ends with
a value. A statement is all a program can do: it reads the store (`next` may depend on what it saw)
and it proposes writes. Nothing is applied by the statement itself, which leaves open who applies
the writes and when:

* `Tx.run` applies them at once — the transaction running alone;
* a concurrent system (`Store.ReadCommitted`) keeps them in the transaction's own log until it
  commits, and lets other transactions move in between.

A transaction that has executed some statements is described by the **views** they were executed
on, in order: the program is deterministic, so its local variables (`rest`) and its uncommitted
writes (`log`) are functions of those views. `Replays` compares such a history with a store: run
alone from that store, the transaction would have gone exactly the same way. `Replays.run_eq` is
what it is for — a transaction that replays on a store has the effect, and the answer, of running
alone on it.
-/

/-- Writes `W` on stores `S`, each touching at most one row in `R`; a write without a row needs no
lock. -/
class RowStore (W : Type) (S R : outParam Type) where
  /-- The store after a write. -/
  apply : S → W → S
  /-- The row a write touches. -/
  row : W → Option R
  /-- Two stores have the same version of a row. -/
  Same : R → S → S → Prop
  same_refl : ∀ r s, Same r s s
  same_trans : ∀ {r s s' s''}, Same r s s' → Same r s' s'' → Same r s s''
  /-- A write makes the same version of its row everywhere. -/
  same_apply : ∀ {r s s'} w, Same r s s' → Same r (apply s w) (apply s' w)
  /-- A write leaves the other rows alone. -/
  same_apply_of_ne : ∀ {r} s {w}, row w ≠ some r → Same r s (apply s w)

namespace RowStore

variable {S W R : Type} [RowStore W S R]

/-- Apply a list of writes, first to last. -/
def applyAll (s : S) (ws : List W) : S := ws.foldl apply s

/-- The rows touched by a list of writes. -/
def rows (ws : List W) : List R := ws.filterMap row

@[simp] theorem applyAll_nil (s : S) : applyAll s ([] : List W) = s := rfl

@[simp] theorem applyAll_cons (s : S) (w : W) (ws : List W) :
    applyAll s (w :: ws) = applyAll (apply s w) ws := rfl

theorem applyAll_append (s : S) (ws ws' : List W) :
    applyAll s (ws ++ ws') = applyAll (applyAll s ws) ws' :=
  List.foldl_append

theorem mem_rows {ws : List W} {r : R} : r ∈ rows ws ↔ ∃ w ∈ ws, row w = some r :=
  List.mem_filterMap

theorem rows_append (ws ws' : List W) : (rows (ws ++ ws') : List R) = rows ws ++ rows ws' :=
  List.filterMap_append

theorem same_applyAll {r : R} {s s' : S} (ws : List W) (h : Same W r s s') :
    Same W r (applyAll s ws) (applyAll s' ws) := by
  induction ws generalizing s s' with
  | nil => exact h
  | cons w ws ih => exact ih (same_apply w h)

theorem same_applyAll_of_notMem {r : R} (s : S) {ws : List W} (h : r ∉ rows ws) :
    Same W r s (applyAll s ws) := by
  induction ws generalizing s with
  | nil => exact same_refl r s
  | cons w ws ih =>
    rw [mem_rows] at h
    refine same_trans (same_apply_of_ne s fun hw ↦ h ⟨w, List.mem_cons_self, hw⟩) (ih _ fun hr ↦ ?_)
    obtain ⟨w', hw', hr'⟩ := mem_rows.1 hr
    exact h ⟨w', List.mem_cons_of_mem w hw', hr'⟩

end RowStore

open RowStore

/-- A transaction: either finished with a value, or at a statement. -/
inductive Tx (S W α : Type) : Type where
  /-- Finished. -/
  | ret (a : α) : Tx S W α
  /-- A statement with its writes and its continuation, both of the store it sees. -/
  | stmt (writes : S → List W) (next : S → Tx S W α) : Tx S W α

namespace Tx

variable {S W R α β : Type}

/-! ### Building transactions -/

/-- Sequencing. -/
def bind : Tx S W α → (α → Tx S W β) → Tx S W β
  | ret a, f => f a
  | stmt w k, f => stmt w fun s ↦ (k s).bind f

instance : Monad (Tx S W) where
  pure := ret
  bind := bind

/-- A statement that writes. -/
def exec (w : S → List W) : Tx S W Unit := stmt w fun _ ↦ ret ()

/-- A statement that writes and answers the number of rows affected. -/
def execCount (w : S → List W) : Tx S W ℕ := stmt w fun s ↦ ret (w s).length

/-- A statement that reads. -/
def query (q : S → α) : Tx S W α := stmt (fun _ ↦ []) fun s ↦ ret (q s)

@[simp] theorem pure_eq (a : α) : (pure a : Tx S W α) = ret a := rfl

@[simp] theorem ret_bind (a : α) (f : α → Tx S W β) : (ret a >>= f) = f a := rfl

@[simp] theorem exec_bind (w : S → List W) (f : Unit → Tx S W β) :
    (exec w >>= f) = stmt w fun _ ↦ f () := rfl

@[simp] theorem execCount_bind (w : S → List W) (f : ℕ → Tx S W β) :
    (execCount w >>= f) = stmt w fun s ↦ f (w s).length := rfl

@[simp] theorem query_bind (q : S → α) (f : α → Tx S W β) :
    (query q >>= f) = stmt (fun _ ↦ []) fun s ↦ f (q s) := rfl

theorem stmt_bind (w : S → List W) (k : S → Tx S W α) (f : α → Tx S W β) :
    (stmt w k >>= f) = stmt w fun s ↦ k s >>= f := rfl

theorem id_map_eq (p : Tx S W α) : id <$> p = p := by
  induction p with
  | ret a => rfl
  | stmt w k ih => exact congrArg (stmt w) (funext ih)

theorem bind_assoc_eq {γ : Type} (p : Tx S W α) (f : α → Tx S W β) (g : β → Tx S W γ) :
    (p >>= f >>= g) = p >>= fun a ↦ f a >>= g := by
  induction p with
  | ret a => rfl
  | stmt w k ih => exact congrArg (stmt w) (funext ih)

instance : LawfulMonad (Tx S W) :=
  LawfulMonad.mk' _ id_map_eq (fun _ _ ↦ rfl) bind_assoc_eq

/-! ### Running alone -/

section Run

variable [RowStore W S R]

/-- Run a transaction alone: every write is applied at once. -/
def run : Tx S W α → S → α × S
  | ret a, s => (a, s)
  | stmt w k, s => (k s).run (applyAll s (w s))

@[simp] theorem run_ret (a : α) (s : S) : (ret a : Tx S W α).run s = (a, s) := rfl

theorem run_stmt (w : S → List W) (k : S → Tx S W α) (s : S) :
    (stmt w k).run s = (k s).run (applyAll s (w s)) := rfl

theorem run_bind (p : Tx S W α) (f : α → Tx S W β) (s : S) :
    (p >>= f).run s = (f (p.run s).1).run (p.run s).2 := by
  induction p generalizing s with
  | ret a => rfl
  | stmt w k ih => exact ih s (applyAll s (w s))

/-- The writes of a transaction running alone. -/
def writes : Tx S W α → S → List W
  | ret _, _ => []
  | stmt w k, s => w s ++ (k s).writes (applyAll s (w s))

@[simp] theorem writes_ret (a : α) (s : S) : (ret a : Tx S W α).writes s = [] := rfl

@[simp] theorem writes_stmt (w : S → List W) (k : S → Tx S W α) (s : S) :
    (stmt w k).writes s = w s ++ (k s).writes (applyAll s (w s)) := rfl

/-- Its effect is that of its writes. -/
theorem run_snd (p : Tx S W α) (s : S) : (p.run s).2 = applyAll s (p.writes s) := by
  induction p generalizing s with
  | ret a => rfl
  | stmt w k ih => rw [run_stmt, ih, writes_stmt, applyAll_append]

/-- A fallible transaction is at its end and has not failed. -/
def succeeds {ε : Type} : Tx S W (Except ε α) → Bool
  | ret x => x.isOk
  | stmt _ _ => false

/-- Run a fallible transaction alone, undoing its writes when it fails. -/
def runTx {ε : Type} (p : Tx S W (Except ε α)) (s : S) : Except ε α × S :=
  match p.run s with
  | (.ok a, s') => (.ok a, s')
  | (.error e, _) => (.error e, s)

end Run

/-! ### Failing calls -/

section Failures

variable [RowStore W S R]

/-- The number of statements of a transaction running alone. -/
def calls : Tx S W α → S → ℕ
  | ret _, _ => 0
  | stmt w k, s => (k s).calls (applyAll s (w s)) + 1

/-- Run a transaction whose statements may fail, from the `n`th call on; `none` if one does. -/
def attempt (fails : ℕ → Bool) : ℕ → Tx S W α → S → Option (α × S)
  | _, ret a, s => some (a, s)
  | n, stmt w k, s =>
    if fails n then none else attempt fails (n + 1) (k s) (applyAll s (w s))

/-- It runs as it does alone if no statement fails. -/
theorem attempt_eq (fails : ℕ → Bool) (n : ℕ) (p : Tx S W α) (s : S) :
    p.attempt fails n s =
      if ∀ i < p.calls s, fails (n + i) = false then some (p.run s) else none := by
  induction p generalizing n s with
  | ret a => exact (if_pos fun i hi ↦ absurd hi (Nat.not_lt_zero i)).symm
  | stmt w k ih =>
    rw [attempt, ih, calls, run_stmt]
    have hsplit : (∀ i < (k s).calls (applyAll s (w s)) + 1, fails (n + i) = false) ↔
        fails n = false ∧ ∀ i < (k s).calls (applyAll s (w s)), fails (n + 1 + i) = false := by
      rw [Nat.forall_lt_succ_left]
      simp only [Nat.add_zero, Nat.add_assoc, Nat.add_comm 1]
    simp only [hsplit]
    rcases fails n with - | - <;> simp

/-- Why a transaction is rolled back. -/
inductive Abort (ε : Type) where
  /-- A call fails. -/
  | call
  /-- The program fails. -/
  | program (e : ε)
  deriving DecidableEq

/-- Run a fallible transaction from `BEGIN` to `COMMIT`, where every call may fail: the first one is
`BEGIN`, and the one after the statements is `COMMIT`. Whatever fails, all writes are undone. -/
def transact {ε : Type} (fails : ℕ → Bool) (p : Tx S W (Except ε α)) (s : S) :
    Except (Abort ε) α × S :=
  if fails 0 then (.error .call, s)
  else
    match p.attempt fails 1 s with
    | none => (.error .call, s)
    | some (.error e, _) => (.error (.program e), s)
    | some (.ok a, s') => if fails (p.calls s + 1) then (.error .call, s) else (.ok a, s')

theorem forall_lt_succ_succ_iff {fails : ℕ → Bool} {n : ℕ} : (∀ i < n + 2, fails i = false) ↔
    fails 0 = false ∧ (∀ i < n, fails (1 + i) = false) ∧ fails (n + 1) = false := by
  rw [Nat.forall_lt_succ_right, Nat.forall_lt_succ_left, and_assoc]
  simp only [Nat.add_comm 1]

/-- **A transaction that does not fail by itself** is committed if no call fails. -/
theorem transact_of_ok {ε : Type} (fails : ℕ → Bool) {p : Tx S W (Except ε α)} {s : S} {a : α}
    (h : (p.run s).1 = .ok a) : p.transact fails s =
      if ∀ i < p.calls s + 2, fails i = false then (.ok a, (p.run s).2) else (.error .call, s) := by
  have hrun : p.run s = (.ok a, (p.run s).2) := Prod.ext h rfl
  rw [transact, attempt_eq]
  simp only [forall_lt_succ_succ_iff]
  rcases fails 0 with - | -
  · by_cases hcalls : ∀ i < p.calls s, fails (1 + i) = false
    · rw [if_neg Bool.false_ne_true, if_pos hcalls, hrun]
      rcases fails (p.calls s + 1) with - | -
      · simpa using hcalls
      · simp
    · rw [if_neg Bool.false_ne_true, if_neg hcalls, if_neg fun hall ↦ hcalls hall.2.1]
  · simp

/-- **Whatever fails, the writes are undone.** -/
theorem transact_of_error {ε : Type} (fails : ℕ → Bool) {p : Tx S W (Except ε α)} {s : S}
    {x : Abort ε} (h : (p.transact fails s).1 = .error x) : (p.transact fails s).2 = s := by
  revert h
  rw [transact]
  rcases fails 0 with - | -
  · rcases p.attempt fails 1 s with - | ⟨- | a, s'⟩
    · exact fun _ ↦ rfl
    · exact fun _ ↦ rfl
    · rcases fails (p.calls s + 1) with - | -
      · exact fun h ↦ nomatch h
      · exact fun _ ↦ rfl
  · exact fun _ ↦ rfl

end Failures

/-! ### Histories -/

/-- What is left of a transaction after statements executed on the given views. -/
def rest : Tx S W α → List S → Tx S W α
  | p, [] => p
  | ret a, _ :: _ => ret a
  | stmt _ k, s :: ss => (k s).rest ss

/-- The writes of the statements executed on the given views. -/
def log : Tx S W α → List S → List W
  | _, [] => []
  | ret _, _ :: _ => []
  | stmt w k, s :: ss => w s ++ (k s).log ss

/-- The rows the next statement touches on a store. -/
def asks [RowStore W S R] : Tx S W α → S → List R
  | ret _, _ => []
  | stmt w _, s => rows (w s)

@[simp] theorem rest_nil (p : Tx S W α) : p.rest [] = p := by cases p <;> rfl

@[simp] theorem log_nil (p : Tx S W α) : p.log [] = [] := by cases p <;> rfl

@[simp] theorem rest_ret (a : α) (ss : List S) : (ret a : Tx S W α).rest ss = ret a := by
  cases ss <;> rfl

@[simp] theorem log_ret (a : α) (ss : List S) : (ret a : Tx S W α).log ss = [] := by
  cases ss <;> rfl

@[simp] theorem rest_stmt_cons (w : S → List W) (k : S → Tx S W α) (s : S) (ss : List S) :
    (stmt w k).rest (s :: ss) = (k s).rest ss := rfl

@[simp] theorem log_stmt_cons (w : S → List W) (k : S → Tx S W α) (s : S) (ss : List S) :
    (stmt w k).log (s :: ss) = w s ++ (k s).log ss := rfl

theorem rest_append (p : Tx S W α) (ss ts : List S) : p.rest (ss ++ ts) = (p.rest ss).rest ts := by
  induction ss generalizing p with
  | nil => rw [List.nil_append, rest_nil]
  | cons s ss ih =>
    cases p with
    | ret a => simp
    | stmt w k => exact ih (k s)

/-- Run alone, each of its statements is executed on the store the one before has left. -/
theorem exists_log_eq_writes [RowStore W S R] (p : Tx S W α) (s : S) :
    ∃ views, p.log views = p.writes s := by
  induction p generalizing s with
  | ret a => exact ⟨[], rfl⟩
  | stmt w k ih =>
    obtain ⟨views, hviews⟩ := ih s (applyAll s (w s))
    exact ⟨s :: views, congrArg (w s ++ ·) hviews⟩

theorem log_append (p : Tx S W α) (ss ts : List S) :
    p.log (ss ++ ts) = p.log ss ++ (p.rest ss).log ts := by
  induction ss generalizing p with
  | nil => rw [List.nil_append, log_nil, rest_nil, List.nil_append]
  | cons s ss ih =>
    cases p with
    | ret a => simp
    | stmt w k => rw [List.cons_append, log_stmt_cons, log_stmt_cons, rest_stmt_cons, ih,
        List.append_assoc]

/-- **A transaction at its end was at the end of its first part before.** -/
theorem exists_of_rest_bind {p : Tx S W α} {f : α → Tx S W β} {vs : List S} {b : β}
    (h : (p >>= f).rest vs = ret b) : ∃ us us' a, vs = us ++ us' ∧ p.rest us = ret a ∧
      (f a).rest us' = ret b ∧ (p >>= f).log vs = p.log us ++ (f a).log us' := by
  induction p generalizing vs with
  | ret a => exact ⟨[], vs, a, rfl, rfl, h, rfl⟩
  | stmt w k ih =>
    cases vs with
    | nil => cases h
    | cons v vs =>
      obtain ⟨us, us', a, rfl, hp, hf, hlog⟩ := ih v h
      refine ⟨v :: us, us', a, rfl, hp, hf, ?_⟩
      rw [stmt_bind, log_stmt_cons, hlog, log_stmt_cons, List.append_assoc]

/-! ### What a transaction can write -/

/-- Every statement of the transaction, on any store, makes only writes that `P` allows there. -/
def Makes (P : S → W → Prop) : Tx S W α → Prop
  | ret _ => True
  | stmt w k => ∀ s, (∀ x ∈ w s, P s x) ∧ (k s).Makes P

theorem Makes.rest {P : S → W → Prop} {p : Tx S W α} (h : p.Makes P) (vs : List S) :
    (p.rest vs).Makes P := by
  induction vs generalizing p with
  | nil => rwa [rest_nil]
  | cons v vs ih =>
    cases p with
    | ret a => trivial
    | stmt w k => exact ih (h v).2

theorem Makes.bind {P : S → W → Prop} {p : Tx S W α} {f : α → Tx S W β} (h : p.Makes P)
    (hf : ∀ a, (f a).Makes P) : (p >>= f).Makes P := by
  induction p with
  | ret a => exact hf a
  | stmt w k ih => exact fun s ↦ ⟨(h s).1, ih s (h s).2⟩

/-- Executed on stores in `I`, every statement of the transaction makes writes in `P` only. -/
def Emits (I : S → Prop) (P : W → Prop) : Tx S W α → Prop
  | ret _ => True
  | stmt w k => ∀ s, I s → (∀ x ∈ w s, P x) ∧ (k s).Emits I P

theorem Emits.log {I : S → Prop} {P : W → Prop} {p : Tx S W α} (h : p.Emits I P) {vs : List S}
    (hvs : ∀ s ∈ vs, I s) : ∀ x ∈ p.log vs, P x := by
  induction vs generalizing p with
  | nil =>
    rw [log_nil]
    exact fun x hx ↦ absurd hx List.not_mem_nil
  | cons v vs ih =>
    rw [List.forall_mem_cons] at hvs
    cases p with
    | ret a => exact fun x hx ↦ absurd hx List.not_mem_nil
    | stmt w k =>
      intro x hx
      rw [log_stmt_cons, List.mem_append] at hx
      exact hx.elim ((h v hvs.1).1 x) (ih (h v hvs.1).2 hvs.2 x)

theorem Emits.mono {I : S → Prop} {P P' : W → Prop} (hP : ∀ x, P x → P' x) {p : Tx S W α}
    (h : p.Emits (fun _ ↦ True) P) : p.Emits I P' := by
  induction p with
  | ret a => trivial
  | stmt w k ih => exact fun s _ ↦ ⟨fun x hx ↦ hP x ((h s trivial).1 x hx), ih s (h s trivial).2⟩

theorem Emits.bind {I : S → Prop} {P : W → Prop} {p : Tx S W α} {f : α → Tx S W β}
    (h : p.Emits I P) (hf : ∀ a, (f a).Emits I P) : (p >>= f).Emits I P := by
  induction p with
  | ret a => exact hf a
  | stmt w k ih => exact fun s hs ↦ ⟨(h s hs).1, ih s (h s hs).2⟩

/-- Writes that keep `I` keep it together. -/
theorem applyAll_inv [RowStore W S R] {I : S → Prop} {P : W → Prop}
    (hkeep : ∀ {s x}, I s → P x → I (RowStore.apply s x)) {ws : List W} {s : S} (hs : I s)
    (hws : ∀ x ∈ ws, P x) : I (applyAll s ws) := by
  induction ws generalizing s with
  | nil => exact hs
  | cons x ws ih =>
    rw [List.forall_mem_cons] at hws
    exact ih (hkeep hs hws.1) hws.2

/-- A transaction run alone keeps what its writes keep. -/
theorem Emits.run [RowStore W S R] {I : S → Prop} {P : W → Prop}
    (hkeep : ∀ {s x}, I s → P x → I (RowStore.apply s x)) {p : Tx S W α} (h : p.Emits I P) {s : S}
    (hs : I s) : I (p.run s).2 := by
  induction p generalizing s with
  | ret a => exact hs
  | stmt w k ih => exact ih s (h s hs).2 (applyAll_inv hkeep hs (h s hs).1)

/-- Every statement of the transaction writes rows in `P` only. -/
def Within [RowStore W S R] (P : R → Prop) (p : Tx S W α) : Prop :=
  p.Emits (fun _ ↦ True) fun x ↦ ∀ r, row x = some r → P r

theorem Within.log [RowStore W S R] {P : R → Prop} {p : Tx S W α} (h : p.Within P) (vs : List S) :
    ∀ r ∈ (rows (p.log vs) : List R), P r := by
  intro r hr
  obtain ⟨x, hx, hrow⟩ := mem_rows.1 hr
  exact Emits.log h (fun _ _ ↦ trivial) x hx r hrow

theorem Within.writes [RowStore W S R] {P : R → Prop} {p : Tx S W α} (h : p.Within P) (s : S) :
    ∀ r ∈ (rows (p.writes s) : List R), P r := by
  induction p generalizing s with
  | ret a => exact fun r hr ↦ absurd hr List.not_mem_nil
  | stmt w k ih =>
    intro r hr
    rw [writes_stmt, rows_append, List.mem_append] at hr
    rcases hr with hr | hr
    · obtain ⟨x, hx, hrow⟩ := mem_rows.1 hr
      exact (h s trivial).1 x hx r hrow
    · exact ih s (h s trivial).2 _ r hr

/-- What a transaction run alone does not write stays as it was, whether it fails or not. -/
theorem same_runTx [RowStore W S R] {ε : Type} (p : Tx S W (Except ε α)) (s : S) {r : R}
    (hr : r ∉ (rows (p.writes s) : List R)) : Same W r s (p.runTx s).2 := by
  have hrun := run_snd p s
  rw [runTx]
  cases h : p.run s with
  | mk answer s' =>
    rw [h] at hrun
    cases answer with
    | ok a => exact hrun ▸ same_applyAll_of_notMem s hr
    | error e => exact same_refl r s

/-! ### Replaying a history -/

section Replays

variable [RowStore W S R]

/-- **Run alone from `s`, the transaction would have gone as it did**: each statement is compared on
the view it was executed on and on the store it would see. -/
def Replays : S → Tx S W α → List S → Prop
  | _, _, [] => True
  | _, ret _, _ :: _ => True
  | s, stmt w k, v :: vs => w s = w v ∧ k s = k v ∧ Replays (applyAll s (w s)) (k s) vs

@[simp] theorem replays_nil (s : S) (p : Tx S W α) : Replays s p [] := by
  cases p <;> trivial

@[simp] theorem replays_ret (s : S) (a : α) (vs : List S) : Replays s (ret a : Tx S W α) vs := by
  cases vs <;> trivial

@[simp] theorem replays_stmt_cons (s : S) (w : S → List W) (k : S → Tx S W α) (v : S)
    (vs : List S) : Replays s (stmt w k) (v :: vs) ↔
      w s = w v ∧ k s = k v ∧ Replays (applyAll s (w s)) (k s) vs := Iff.rfl

/-- One more statement, executed on the store as the transaction sees it, keeps a replay. -/
theorem Replays.snoc {s : S} {p : Tx S W α} {vs : List S} (h : Replays s p vs) :
    Replays s p (vs ++ [applyAll s (p.log vs)]) := by
  induction vs generalizing s p with
  | nil =>
    cases p with
    | ret a => trivial
    | stmt w k => simp
  | cons v vs ih =>
    cases p with
    | ret a => trivial
    | stmt w k =>
      obtain ⟨hw, hk, h⟩ := h
      refine ⟨hw, hk, ?_⟩
      rw [log_stmt_cons, applyAll_append, ← hw, ← hk]
      exact ih h

/-- **A transaction that replays on a store has the effect of running alone on it.** -/
theorem Replays.run_eq {s : S} {p : Tx S W α} {vs : List S} (h : Replays s p vs) :
    p.run s = (p.rest vs).run (applyAll s (p.log vs)) := by
  induction vs generalizing s p with
  | nil => rw [rest_nil, log_nil, applyAll_nil]
  | cons v vs ih =>
    cases p with
    | ret a => simp
    | stmt w k =>
      obtain ⟨hw, hk, h⟩ := h
      rw [run_stmt, ih h, rest_stmt_cons, log_stmt_cons, applyAll_append, ← hw, ← hk]

/-! ### Moving a replay to another store

A history that replays on `s` replays on `s'` when `s'` gives its statements no reason to differ. A
statement on a row the transaction came to hold is no such reason. -/

/-- A statement that reads and writes one row only. -/
structure Touches (w : S → List W) (r : R) : Prop where
  /-- What it writes depends on that row. -/
  same : ∀ {s s'}, Same W r s s' → w s = w s'
  /-- It writes that row. -/
  row : ∀ {s x}, x ∈ w s → RowStore.row x = some r

theorem Within.write {P : R → Prop} {w : S → List W} {r : R} (hw : Touches w r) (hr : P r)
    {k : S → Tx S W α} (hk : ∀ s, (k s).Within P) : (stmt w k).Within P :=
  fun s _ ↦ ⟨fun _ hx _ hrow ↦ Option.some.inj ((hw.row hx).symm.trans hrow) ▸ hr, hk s⟩

theorem Within.rowless {P : R → Prop} {w : S → List W} (hw : ∀ {s x}, x ∈ w s → row x = none)
    {k : S → Tx S W α} (hk : ∀ s, (k s).Within P) : (stmt w k).Within P :=
  fun s _ ↦ ⟨fun _ hx _ hrow ↦ absurd ((hw hx).symm.trans hrow) (Option.some_ne_none _).symm, hk s⟩

/-- A statement that only reads. -/
theorem Within.read {P : R → Prop} {k : S → Tx S W α} (hk : ∀ s, (k s).Within P) :
    (stmt (fun _ ↦ []) k).Within P :=
  fun s _ ↦ ⟨fun _ hx ↦ absurd hx List.not_mem_nil, hk s⟩

/-- The stores have the same versions of the rows the history has written. -/
def SameHeld (s s' : S) (p : Tx S W α) (vs : List S) : Prop :=
  ∀ r ∈ (rows (p.log vs) : List R), Same W r s s'

/-- A history that replays on `s` also replays on `s'`. -/
def Moves (s s' : S) (p : Tx S W α) (vs : List S) : Prop :=
  SameHeld s s' p vs → Replays s p vs → Replays s' p vs

/-- **A row that is held does not change the statement.** -/
theorem Moves.write {w : S → List W} {r : R} (hw : Touches w r) {p : Tx S W α} {s s' : S}
    {vs : List S} (hne : w s ≠ [])
    (hrest : ∀ {v vs'}, vs = v :: vs' → Same W r s s' →
      Moves (applyAll s (w s)) (applyAll s' (w s')) p vs') :
    Moves s s' (stmt w fun _ ↦ p) vs := by
  intro hheld h
  cases vs with
  | nil => exact replays_nil ..
  | cons v vs =>
    obtain ⟨hv, -, h⟩ := h
    obtain ⟨x, hx⟩ := List.exists_mem_of_ne_nil _ hne
    have hr : Same W r s s' :=
      hheld r (mem_rows.2 ⟨x, List.mem_append_left _ (hv ▸ hx), hw.row hx⟩)
    have hsame : w s' = w s := (hw.same hr).symm
    refine ⟨hsame.trans hv, rfl, hrest rfl hr (fun r hmem ↦ ?_) h⟩
    rw [hsame]
    refine same_applyAll _ (hheld r ?_)
    rw [log_stmt_cons, rows_append]
    exact List.mem_append_right _ hmem

/-- A statement that does the same on both stores. -/
theorem Moves.stmt_same {w : S → List W} {k : S → Tx S W α} {s s' : S} {vs : List S}
    (hw : vs ≠ [] → w s' = w s) (hk : vs ≠ [] → k s' = k s)
    (hrest : ∀ {v vs'}, vs = v :: vs' → Moves (applyAll s (w s)) (applyAll s' (w s')) (k s) vs') :
    Moves s s' (stmt w k) vs := by
  intro hheld h
  cases vs with
  | nil => exact replays_nil ..
  | cons v vs =>
    obtain ⟨hv, hkv, h⟩ := h
    have hsame := hw (List.cons_ne_nil v vs)
    have hcont := hk (List.cons_ne_nil v vs)
    refine ⟨hsame.trans hv, hcont.trans hkv, ?_⟩
    rw [hcont]
    refine hrest rfl (fun r hr ↦ ?_) h
    rw [hsame]
    refine same_applyAll _ (hheld r ?_)
    rw [log_stmt_cons, rows_append, ← hkv]
    exact List.mem_append_right _ hr

end Replays

end Tx
