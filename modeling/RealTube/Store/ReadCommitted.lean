import RealTube.Store.Transaction
import Mathlib.Data.Fintype.Basic
import Mathlib.Data.List.Perm.Basic
import Mathlib.Logic.Relation

/-!
# Concurrent transactions under READ COMMITTED with row locks

A finite family of transactions runs over one store. The state keeps the committed store, the views
each transaction's statements were executed on, and the transactions that have ended, in order.

* A statement sees the committed store with its own transaction's writes applied: the **view**.
* A transaction that has not ended holds the rows of its log. A statement that would touch a row
  held by another transaction cannot execute; it is executed, on the view of that later moment, once
  the row is free. So a condition is always evaluated on the committed version of the row it locks.
* Committing applies the log to the committed store; a transaction that ends with an error is rolled
  back, that is, its log is dropped.

`step` is a function of the transaction scheduled next, so a run is a schedule and can be evaluated.

## Serializability by commit order

`serial_of_run` is the one general theorem: if every commit leaves the unfinished transactions
replaying on the committed store, then the committed store is that of running the finished
transactions one at a time. The order is the order in which they finished, where a transaction that
is bound to be rolled back counts as finished from the statement that decided so.
-/

open RowStore Tx

namespace ReadCommitted

variable {S W R ι ε α : Type} [RowStore W S R] [DecidableEq R] [DecidableEq ι] [Fintype ι]

/-- A state of the system: the committed store, the views of each transaction's statements, and the
transactions that have ended, first to last. -/
structure Sys (S ι : Type) where
  /-- The committed store. -/
  committed : S
  /-- The views each transaction's statements were executed on. -/
  seen : ι → List S
  /-- The transactions that have ended. -/
  ended : List ι

/-- A statement of transaction `i` was executed on the view `v`. -/
def Sys.see (sys : Sys S ι) (i : ι) (v : S) : Sys S ι :=
  { sys with seen := Function.update sys.seen i (sys.seen i ++ [v]) }

/-- Nothing has started. -/
def Sys.init (s : S) : Sys S ι := ⟨s, fun _ ↦ [], []⟩

variable (code : ι → Tx S W (Except ε α)) (sys : Sys S ι)

/-- What is left of a transaction. -/
def Sys.rest (i : ι) : Tx S W (Except ε α) := (code i).rest (sys.seen i)

/-- The writes a transaction has made so far. -/
def Sys.log (i : ι) : List W := (code i).log (sys.seen i)

/-- The rows a transaction holds: those of its log, until it ends. -/
def Sys.held (i : ι) : List R := if i ∈ sys.ended then [] else rows (sys.log code i)

/-- What a statement of the transaction sees. -/
def Sys.view (i : ι) : S := applyAll sys.committed (sys.log code i)

/-- The rows the transaction's next statement touches. -/
def Sys.needs (i : ι) : List R := (sys.rest code i).asks (sys.view code i)

/-- The transaction has come to its end and has not failed. -/
def Sys.succeeds (i : ι) : Bool := (sys.rest code i).succeeds

/-- Transaction `i` waits for a row held by `j`. -/
def Sys.Waits (i j : ι) : Prop :=
  i ∉ sys.ended ∧ i ≠ j ∧ ∃ r ∈ sys.needs code i, r ∈ sys.held code j

instance (i j : ι) : Decidable (sys.Waits code i j) :=
  inferInstanceAs (Decidable (_ ∧ _ ∧ ∃ r ∈ _, _))

/-- The system after transaction `i` was scheduled; `none` when it has ended or has to wait. -/
def Sys.step (i : ι) : Option (Sys S ι) :=
  if i ∈ sys.ended then none
  else match sys.rest code i with
    | ret (.ok _) => some { sys with
        committed := sys.view code i, ended := sys.ended ++ [i] }
    | ret (.error _) => some { sys with ended := sys.ended ++ [i] }
    | stmt _ _ =>
      if ∃ j, sys.Waits code i j then none
      else some (sys.see i (sys.view code i))

/-- Run a schedule; `none` when it schedules a transaction that cannot move, or a step outside
`P`. -/
def Sys.exec (P : Sys S ι → ι → Prop) [∀ sys i, Decidable (P sys i)] (sys : Sys S ι) :
    List ι → Option (Sys S ι)
  | [] => some sys
  | i :: is => if P sys i then (sys.step code i).bind fun sys' ↦ sys'.exec P is else none

/-- Runs whose scheduled steps all satisfy `P`. -/
inductive Run (P : Sys S ι → ι → Prop) (s₀ : S) : Sys S ι → Prop
  | init : Run P s₀ (Sys.init s₀)
  | step {sys sys' : Sys S ι} {i : ι} : Run P s₀ sys → P sys i → sys.step code i = some sys' →
      Run P s₀ sys'

/-- The states reached by any schedule. -/
abbrev Reachable (s₀ : S) (sys : Sys S ι) : Prop := Run code (fun _ _ ↦ True) s₀ sys

variable {code} {sys}

/-! ### What a step does -/

/-- **Everything a step can do.** -/
theorem step_cases {sys' : Sys S ι} {i : ι} (h : sys.step code i = some sys') :
    i ∉ sys.ended ∧
      ((∃ a, sys.rest code i = ret (.ok a) ∧
          sys' = { sys with committed := sys.view code i, ended := sys.ended ++ [i] }) ∨
        (∃ e, sys.rest code i = ret (.error e) ∧ sys' = { sys with ended := sys.ended ++ [i] }) ∨
        ∃ w k, sys.rest code i = stmt w k ∧ (∀ j, ¬ sys.Waits code i j) ∧
          sys' = sys.see i (sys.view code i)) := by
  rw [Sys.step] at h
  split at h
  · cases h
  · rename_i hi
    refine ⟨hi, ?_⟩
    split at h
    · rename_i a ha
      exact Or.inl ⟨a, ha, (Option.some.inj h).symm⟩
    · rename_i e he
      exact Or.inr (Or.inl ⟨e, he, (Option.some.inj h).symm⟩)
    · rename_i w k hw
      split at h
      · cases h
      · rename_i hfree
        exact Or.inr (Or.inr ⟨w, k, hw, not_exists.1 hfree, (Option.some.inj h).symm⟩)

/-- Forgetting what the steps satisfied. -/
theorem Run.reachable {P : Sys S ι → ι → Prop} {s₀ : S} (h : Run code P s₀ sys) :
    Reachable code s₀ sys := by
  induction h with
  | init => exact .init
  | step _ _ hs ih => exact .step ih trivial hs

/-- A schedule that can be run is a run. -/
theorem run_of_exec {P : Sys S ι → ι → Prop} [∀ sys i, Decidable (P sys i)] {s₀ : S} {is : List ι}
    {sys' : Sys S ι} (h : Run code P s₀ sys) (hexec : sys.exec code P is = some sys') :
    Run code P s₀ sys' := by
  induction is generalizing sys with
  | nil => exact Option.some.inj hexec ▸ h
  | cons i is ih =>
    rw [Sys.exec] at hexec
    split_ifs at hexec with hP
    obtain ⟨mid, hmid, hrest⟩ := Option.bind_eq_some_iff.1 hexec
    exact ih (.step h hP hmid) hrest

/-- What every step satisfies anyway. -/
theorem Run.of_forall {P : Sys S ι → ι → Prop} {s₀ : S}
    (hP : ∀ {sys i}, Reachable code s₀ sys → i ∉ sys.ended → P sys i)
    (h : Reachable code s₀ sys) : Run code P s₀ sys := by
  induction h with
  | init => exact .init
  | step hrun _ hs ih => exact .step ih (hP hrun (step_cases hs).1) hs

omit [Fintype ι] in
@[simp] theorem see_seen_self (i : ι) (v : S) : (sys.see i v).seen i = sys.seen i ++ [v] :=
  Function.update_self ..

omit [Fintype ι] in
theorem see_seen_of_ne {i j : ι} (h : j ≠ i) (v : S) : (sys.see i v).seen j = sys.seen j :=
  Function.update_of_ne h ..

omit [DecidableEq R] [Fintype ι] in
theorem see_rest_of_ne {i j : ι} (h : j ≠ i) (v : S) :
    (sys.see i v).rest code j = sys.rest code j := by
  rw [Sys.rest, see_seen_of_ne h, Sys.rest]

omit [DecidableEq R] [Fintype ι] in
theorem see_log_of_ne {i j : ι} (h : j ≠ i) (v : S) :
    (sys.see i v).log code j = sys.log code j := by
  rw [Sys.log, see_seen_of_ne h, Sys.log]

omit [DecidableEq R] [Fintype ι] in
/-- After one more statement its writes have joined the log. -/
theorem see_log_self {i : ι} {w : S → List W} {k : S → Tx S W (Except ε α)}
    (h : sys.rest code i = stmt w k) (v : S) :
    (sys.see i v).log code i = sys.log code i ++ w v := by
  rw [Sys.log, see_seen_self, log_append, show (code i).rest (sys.seen i) = stmt w k from h,
    log_stmt_cons, log_nil, List.append_nil, Sys.log]

omit [DecidableEq R] [Fintype ι] in
/-- After one more statement its continuation is the rest. -/
theorem see_rest_self {i : ι} {w : S → List W} {k : S → Tx S W (Except ε α)}
    (h : sys.rest code i = stmt w k) (v : S) : (sys.see i v).rest code i = k v := by
  rw [Sys.rest, see_seen_self, rest_append, show (code i).rest (sys.seen i) = stmt w k from h,
    rest_stmt_cons, rest_nil]

/-! ### Invariants of runs -/

/-- An invariant kept by every step holds throughout every run. -/
theorem Run.inv {P : Sys S ι → ι → Prop} {s₀ : S} {I : Sys S ι → Prop}
    (h₀ : I (Sys.init s₀))
    (hstep : ∀ {sys sys' i}, Run code P s₀ sys → P sys i → I sys →
      sys.step code i = some sys' → I sys')
    (h : Run code P s₀ sys) : I sys := by
  induction h with
  | init => exact h₀
  | step hrun hP hs ih => exact hstep hrun hP ih hs

/-- **The frame rule of runs.** `G` is about the committed store, `I` about one unfinished
transaction and the committed store. A statement changes only its own transaction's history; a
commit changes only the store. -/
theorem Run.inv_each {P : Sys S ι → ι → Prop} {s₀ : S} {G : S → Prop} {I : S → ι → List S → Prop}
    (hG₀ : G s₀) (hI₀ : ∀ i, I s₀ i [])
    (hstmt : ∀ {sys i w k}, Run code P s₀ sys → P sys i → i ∉ sys.ended →
      sys.rest code i = stmt w k → (∀ j, ¬ sys.Waits code i j) → G sys.committed →
      I sys.committed i (sys.seen i) → I sys.committed i (sys.seen i ++ [sys.view code i]))
    (hcommit : ∀ {sys i a}, Run code P s₀ sys → P sys i → i ∉ sys.ended →
      sys.rest code i = ret (.ok a) → G sys.committed →
      (∀ j, j ∉ sys.ended → I sys.committed j (sys.seen j)) →
      G (sys.view code i) ∧ ∀ j, j ≠ i → j ∉ sys.ended → I (sys.view code i) j (sys.seen j))
    (h : Run code P s₀ sys) :
    G sys.committed ∧ ∀ i, i ∉ sys.ended → I sys.committed i (sys.seen i) := by
  refine Run.inv (I := fun sys ↦ G sys.committed ∧
    ∀ i, i ∉ sys.ended → I sys.committed i (sys.seen i)) ⟨hG₀, fun i _ ↦ hI₀ i⟩ ?_ h
  rintro sys sys' i hrun hP ⟨hG, hI⟩ hs
  obtain ⟨hi, ⟨a, hrest, rfl⟩ | ⟨e, hrest, rfl⟩ | ⟨w, k, hrest, hfree, rfl⟩⟩ := step_cases hs
  · obtain ⟨hG', hI'⟩ := hcommit hrun hP hi hrest hG hI
    refine ⟨hG', fun j hj ↦ ?_⟩
    rw [List.mem_append, not_or, List.mem_singleton] at hj
    exact hI' j hj.2 hj.1
  · refine ⟨hG, fun j hj ↦ ?_⟩
    rw [List.mem_append, not_or] at hj
    exact hI j hj.1
  · refine ⟨hG, fun j hj ↦ ?_⟩
    by_cases hji : j = i
    · subst hji
      rw [see_seen_self]
      exact hstmt hrun hP hi hrest hfree hG (hI j hi)
    · rw [see_seen_of_ne hji]
      exact hI j hj

/-- What is preserved by every statement of a transaction holds of its history for good. -/
theorem Run.inv_seen {P : Sys S ι → ι → Prop} {s₀ : S} {J : ι → List S → Prop} (hJ₀ : ∀ i, J i [])
    (hstmt : ∀ {sys i w k}, Run code P s₀ sys → P sys i → i ∉ sys.ended →
      sys.rest code i = stmt w k → J i (sys.seen i) → J i (sys.seen i ++ [sys.view code i]))
    (h : Run code P s₀ sys) (i : ι) : J i (sys.seen i) := by
  revert i
  refine Run.inv (I := fun sys ↦ ∀ i, J i (sys.seen i)) hJ₀ ?_ h
  intro sys sys' i hrun hP hJ hs j
  obtain ⟨hi, ⟨a, -, rfl⟩ | ⟨e, -, rfl⟩ | ⟨w, k, hrest, -, rfl⟩⟩ := step_cases hs
  · exact hJ j
  · exact hJ j
  · by_cases hji : j = i
    · subst hji
      rw [see_seen_self]
      exact hstmt hrun hP hi hrest (hJ j)
    · rw [see_seen_of_ne hji]
      exact hJ j

/-- **Invariants of the store.** If executed on stores in `I` every transaction makes writes in `P`
only, and these keep `I`, then `I` holds of the committed store and of everything that was seen. -/
theorem Run.inv_emits {P : Sys S ι → ι → Prop} {s₀ : S} {I : S → Prop} {Q : W → Prop} (h₀ : I s₀)
    (hkeep : ∀ {s x}, I s → Q x → I (RowStore.apply s x)) (hcode : ∀ i, (code i).Emits I Q)
    (h : Run code P s₀ sys) : I sys.committed ∧ ∀ i, ∀ s ∈ sys.seen i, I s := by
  refine Run.inv (I := fun sys ↦ I sys.committed ∧ ∀ i, ∀ s ∈ sys.seen i, I s)
    ⟨h₀, fun i s hs ↦ absurd hs List.not_mem_nil⟩ ?_ h
  rintro sys sys' i - - ⟨hI, hseen⟩ hs
  have hview : I (sys.view code i) := applyAll_inv hkeep hI ((hcode i).log (hseen i))
  obtain ⟨-, ⟨a, -, rfl⟩ | ⟨e, -, rfl⟩ | ⟨w, k, -, -, rfl⟩⟩ := step_cases hs
  · exact ⟨hview, hseen⟩
  · exact ⟨hI, hseen⟩
  · refine ⟨hI, fun j s hs ↦ ?_⟩
    by_cases hji : j = i
    · subst hji
      rw [see_seen_self, List.mem_append, List.mem_singleton] at hs
      exact hs.elim (hseen j s) fun h ↦ h ▸ hview
    · rw [see_seen_of_ne hji] at hs
      exact hseen j s hs

/-! ### Locks are exclusive -/

omit [DecidableEq R] [Fintype ι] in
@[simp] theorem held_init (s : S) (i : ι) : (Sys.init s).held code i = ([] : List R) := by
  simp [Sys.held, Sys.log, Sys.init, rows]

omit [DecidableEq R] [Fintype ι] in
theorem mem_held_iff {i : ι} {r : R} :
    r ∈ sys.held code i ↔ i ∉ sys.ended ∧ r ∈ rows (sys.log code i) := by
  rw [Sys.held]
  split_ifs with h <;> simp [h]

omit [DecidableEq R] [DecidableEq ι] [Fintype ι] in
theorem mem_needs_iff {i : ι} {w : S → List W} {k : S → Tx S W (Except ε α)}
    (h : sys.rest code i = stmt w k) {r : R} :
    r ∈ sys.needs code i ↔ r ∈ rows (w (sys.view code i)) := by
  rw [Sys.needs, h, asks]

/-- **No row is held twice.** A statement that executes touches no row held by another transaction,
and a transaction that ends holds nothing. -/
theorem held_disjoint {s₀ : S} (h : Reachable code s₀ sys) {i j : ι} (hij : i ≠ j) {r : R}
    (hi : r ∈ sys.held code i) : r ∉ sys.held code j := by
  revert i j r
  refine Run.inv (I := fun sys ↦ ∀ {i j : ι}, i ≠ j → ∀ {r : R}, r ∈ sys.held code i →
    r ∉ sys.held code j) ?_ ?_ h
  · intro i j _ r hi
    rw [held_init] at hi
    cases hi
  · intro sys sys' m _ _ ih hs
    obtain ⟨hm, ⟨a, -, rfl⟩ | ⟨e, -, rfl⟩ | ⟨w, k, hrest, hfree, rfl⟩⟩ := step_cases hs
    case' inl | inr.inl =>
      intro i j hij r hi hj
      rw [mem_held_iff, List.mem_append, not_or] at hi hj
      exact ih hij (mem_held_iff.2 ⟨hi.1.1, hi.2⟩) (mem_held_iff.2 ⟨hj.1.1, hj.2⟩)
    -- the statement of `m` adds rows that nobody else holds
    have hnew : ∀ j, j ≠ m → ∀ r ∈ rows (w (sys.view code m)), r ∉ sys.held code j :=
      fun j hj r hr hheld ↦ hfree j ⟨hm, hj.symm, r, (mem_needs_iff hrest).2 hr, hheld⟩
    have hgrow : ∀ j r, r ∈ (sys.see m (sys.view code m)).held code j →
        r ∈ sys.held code j ∨ j = m ∧ r ∈ rows (w (sys.view code m)) := by
      intro j r hr
      rw [mem_held_iff] at hr
      by_cases hjm : j = m
      · subst hjm
        rw [see_log_self hrest, rows, List.filterMap_append, List.mem_append] at hr
        exact hr.2.imp (fun h ↦ mem_held_iff.2 ⟨hr.1, h⟩) fun h ↦ ⟨rfl, h⟩
      · rw [see_log_of_ne hjm] at hr
        exact Or.inl (mem_held_iff.2 hr)
    intro i j hij r hi hj
    rcases hgrow i r hi with hi' | ⟨him, hi'⟩ <;> rcases hgrow j r hj with hj' | ⟨hjm, hj'⟩
    · exact ih hij hi' hj'
    · exact hnew i (hjm ▸ hij) r hj' hi'
    · exact hnew j (him ▸ hij.symm) r hi' hj'
    · exact hij (him.trans hjm.symm)

/-! ### Serializability by commit order -/

variable (code) in
/-- The store after running the listed transactions one at a time. -/
def runSerial : List ι → S → S
  | [], s => s
  | i :: is, s => runSerial is ((code i).runTx s).2

variable (code) in
/-- What the listed transactions answer when run one at a time. -/
def answersSerial : List ι → S → List (Except ε α)
  | [], _ => []
  | i :: is, s => ((code i).runTx s).1 :: answersSerial is ((code i).runTx s).2

omit [DecidableEq R] [DecidableEq ι] [Fintype ι] in
theorem runSerial_append (is js : List ι) (s : S) :
    runSerial code (is ++ js) s = runSerial code js (runSerial code is s) := by
  induction is generalizing s with
  | nil => rfl
  | cons i is ih => exact ih _

omit [DecidableEq R] [DecidableEq ι] [Fintype ι] in
theorem answersSerial_append (is js : List ι) (s : S) :
    answersSerial code (is ++ js) s =
      answersSerial code is s ++ answersSerial code js (runSerial code is s) := by
  induction is generalizing s with
  | nil => rfl
  | cons i is ih => exact congrArg _ (ih _)

variable (code sys) in
/-- The listed transactions, run one at a time from `s₀` in this order, leave the committed store
and answer what they answered here. -/
structure SerialAs (s₀ : S) (order : List ι) : Prop where
  /-- Each transaction is listed once. -/
  nodup : order.Nodup
  /-- Whatever has ended is listed. -/
  ended : ∀ i ∈ sys.ended, i ∈ order
  /-- What is listed has ended, or is bound to fail. -/
  decided : ∀ i ∈ order, i ∈ sys.ended ∨ ∃ e, sys.rest code i = ret (.error e)
  /-- The stores agree. -/
  store : runSerial code order s₀ = sys.committed
  /-- The answers agree. -/
  answers : (answersSerial code order s₀).map ret = order.map (sys.rest code)

omit [DecidableEq R] [DecidableEq ι] [Fintype ι] in
/-- A replaying transaction that is at its end answers, alone, what it answers here. -/
theorem runTx_of_replays {i : ι} (h : Replays sys.committed (code i) (sys.seen i))
    {x : Except ε α} (hrest : sys.rest code i = ret x) :
    (code i).runTx sys.committed =
      (x, match x with | .ok _ => sys.view code i | .error _ => sys.committed) := by
  have hrun := h.run_eq
  rw [show (code i).rest (sys.seen i) = ret x from hrest, run_ret] at hrun
  rw [runTx, show (code i).run sys.committed = _ from hrun]
  cases x <;> rfl

omit [DecidableEq R] [DecidableEq ι] [Fintype ι] in
/-- A serial order grows by a transaction that is over: alone on the committed store it leaves the
new committed store, and nothing listed so far has moved. -/
theorem SerialAs.append {s₀ : S} {order : List ι} (h : SerialAs code sys s₀ order)
    {sys' : Sys S ι} {i : ι} {x : Except ε α} (hi : i ∉ order)
    (hended : ∀ j ∈ sys'.ended, j ∈ sys.ended ∨ j = i)
    (hover : i ∈ sys'.ended ∨ ∃ e, sys'.rest code i = ret (.error e))
    (hkeep : ∀ j ∈ sys.ended, j ∈ sys'.ended)
    (hrest : ∀ j ∈ order, sys'.rest code j = sys.rest code j)
    (hx : sys'.rest code i = ret x)
    (hrun : (code i).runTx sys.committed = (x, sys'.committed)) :
    SerialAs code sys' s₀ (order ++ [i]) where
  nodup := List.nodup_append.2 ⟨h.nodup, List.nodup_singleton i, fun a ha b hb hab ↦
    hi (List.mem_singleton.1 hb ▸ hab ▸ ha)⟩
  ended j hj := by
    rcases hended j hj with hj | rfl
    · exact List.mem_append_left _ (h.ended j hj)
    · exact List.mem_append_right _ (List.mem_singleton_self _)
  decided j hj := by
    rcases List.mem_append.1 hj with hj | hj
    · exact (h.decided j hj).imp (hkeep j) fun ⟨e, he⟩ ↦ ⟨e, (hrest j hj).trans he⟩
    · exact List.mem_singleton.1 hj ▸ hover
  store := by
    rw [runSerial_append, h.store]
    exact congrArg Prod.snd hrun
  answers := by
    rw [answersSerial_append, h.store, List.map_append, List.map_append, h.answers,
      List.map_congr_left fun j hj ↦ (hrest j hj).symm]
    congr 1
    rw [List.map_singleton, hx, answersSerial, answersSerial, hrun, List.map_singleton]

variable (code sys) in
/-- The list is kept up to date: besides, what is bound to fail is listed, unless it was bound to
fail before its first statement. -/
structure ListedAs (s₀ : S) (order : List ι) : Prop extends SerialAs code sys s₀ order where
  bound : ∀ i, i ∉ sys.ended → (∃ e, sys.rest code i = ret (.error e)) → i ∈ order ∨ sys.seen i = []

omit [DecidableEq R] [DecidableEq ι] [Fintype ι] in
theorem listedAs_init (s₀ : S) : ListedAs code (Sys.init s₀) s₀ [] where
  nodup := List.nodup_nil
  ended _ hi := hi
  decided _ hi := absurd hi List.not_mem_nil
  store := rfl
  answers := rfl
  bound _ _ _ := Or.inr rfl

omit [DecidableEq R] [DecidableEq ι] [Fintype ι] in
/-- What is still at work, and not bound to fail, is not listed. -/
theorem SerialAs.notMem {s₀ : S} {order : List ι} (h : SerialAs code sys s₀ order) {i : ι}
    (hi : i ∉ sys.ended) (hrest : ∀ e, sys.rest code i ≠ ret (.error e)) : i ∉ order := by
  intro hmem
  rcases h.decided i hmem with hended | ⟨e, he⟩
  · exact hi hended
  · exact hrest e he

omit [DecidableEq R] [DecidableEq ι] [Fintype ι] in
/-- A commit is listed. -/
theorem ListedAs.commit {s₀ : S} {order : List ι} (h : ListedAs code sys s₀ order) {i : ι} {a : α}
    (hi : i ∉ sys.ended) (hrest : sys.rest code i = ret (.ok a))
    (hreplay : Replays sys.committed (code i) (sys.seen i)) :
    ListedAs code { sys with committed := sys.view code i, ended := sys.ended ++ [i] } s₀
      (order ++ [i]) where
  toSerialAs := h.append (h.notMem hi fun e he ↦ by rw [hrest] at he; cases he)
    (fun j hj ↦ (List.mem_append.1 hj).imp_right List.mem_singleton.1)
    (Or.inl (List.mem_append_right _ (List.mem_singleton_self i)))
    (fun j hj ↦ List.mem_append_left _ hj) (fun j _ ↦ rfl) hrest (runTx_of_replays hreplay hrest)
  bound j hj he := (h.bound j (fun hj' ↦ hj (List.mem_append_left _ hj')) he).imp_left
    (List.mem_append_left _)

omit [DecidableEq R] [DecidableEq ι] [Fintype ι] in
/-- A rollback is listed, if it was not when it was bound to fail. -/
theorem ListedAs.rollback {s₀ : S} {order : List ι} (h : ListedAs code sys s₀ order) {i : ι} {e : ε}
    (hi : i ∉ sys.ended) (hrest : sys.rest code i = ret (.error e)) :
    ∃ order', ListedAs code { sys with ended := sys.ended ++ [i] } s₀ order' := by
  have hbound : ∀ j, j ∉ sys.ended ++ [i] → (∃ e, sys.rest code j = ret (.error e)) →
      j ∈ order ∨ sys.seen j = [] := fun j hj he ↦
    h.bound j (fun hj' ↦ hj (List.mem_append_left _ hj')) he
  have hended : ∀ j ∈ sys.ended ++ [i], j ∈ sys.ended ∨ j = i := fun j hj ↦
    (List.mem_append.1 hj).imp_right List.mem_singleton.1
  by_cases hin : i ∈ order
  · refine ⟨order, ⟨⟨h.nodup, fun j hj ↦ ?_, fun j hj ↦ ?_, h.store, h.answers⟩, hbound⟩⟩
    · rcases hended j hj with hj | rfl
      · exact h.ended j hj
      · exact hin
    · exact (h.decided j hj).imp_left (List.mem_append_left _)
  · have hreplay : Replays sys.committed (code i) (sys.seen i) := by
      rw [(h.bound i hi ⟨e, hrest⟩).resolve_left hin]
      exact replays_nil ..
    refine ⟨order ++ [i], ⟨h.append hin hended
      (Or.inl (List.mem_append_right _ (List.mem_singleton_self i)))
      (fun j hj ↦ List.mem_append_left _ hj) (fun j _ ↦ rfl) hrest
      (runTx_of_replays hreplay hrest), fun j hj he ↦ ?_⟩⟩
    exact (hbound j hj he).imp_left (List.mem_append_left _)

omit [DecidableEq R] [Fintype ι] in
/-- After a statement, its transaction is listed if it is bound to fail from here on. -/
theorem ListedAs.statement {s₀ : S} {order : List ι} (h : ListedAs code sys s₀ order) {i : ι}
    {w : S → List W} {k : S → Tx S W (Except ε α)} (hi : i ∉ sys.ended)
    (hrest : sys.rest code i = stmt w k) (hreplay : Replays sys.committed (code i) (sys.seen i)) :
    ∃ order', ListedAs code (sys.see i (sys.view code i)) s₀ order' := by
  have hnot : i ∉ order := h.notMem hi fun e he ↦ by
    rw [hrest] at he
    cases he
  -- only the rest of `i` moves
  have hkeep : ∀ j ∈ order, (sys.see i (sys.view code i)).rest code j = sys.rest code j :=
    fun j hj ↦ see_rest_of_ne (fun hji : j = i ↦ hnot (hji ▸ hj)) _
  have hbound : ∀ j ≠ i, j ∉ sys.ended →
      (∃ e, (sys.see i (sys.view code i)).rest code j = ret (.error e)) →
      j ∈ order ∨ (sys.see i (sys.view code i)).seen j = [] := by
    intro j hji hj he
    rw [see_rest_of_ne hji] at he
    rw [see_seen_of_ne hji]
    exact h.bound j hj he
  have hi' := see_rest_self hrest (sys.view code i)
  by_cases herr : ∃ e, k (sys.view code i) = ret (.error e)
  · obtain ⟨e, he⟩ := herr
    have hsnoc := hreplay.snoc
    rw [show applyAll sys.committed ((code i).log (sys.seen i)) = sys.view code i from rfl,
      ← see_seen_self] at hsnoc
    refine ⟨order ++ [i], ⟨h.append hnot (fun j hj ↦ Or.inl hj) (Or.inr ⟨e, hi'.trans he⟩)
      (fun j hj ↦ hj) hkeep (hi'.trans he) (runTx_of_replays hsnoc (hi'.trans he)),
      fun j hj hje ↦ ?_⟩⟩
    by_cases hji : j = i
    · exact Or.inl (List.mem_append_right _ (List.mem_singleton.2 hji))
    · exact (hbound j hji hj hje).imp_left (List.mem_append_left _)
  · refine ⟨order, ⟨⟨h.nodup, h.ended, fun j hj ↦ ?_, h.store, ?_⟩, fun j hj hje ↦ ?_⟩⟩
    · rw [hkeep j hj]
      exact h.decided j hj
    · rw [h.answers]
      exact List.map_congr_left fun j hj ↦ (hkeep j hj).symm
    · by_cases hji : j = i
      · obtain ⟨e, he⟩ := hje
        exact absurd ⟨e, hi'.symm.trans (hji ▸ he)⟩ herr
      · exact hbound j hji hj hje

/-- **Serializability by commit order.** If in every state of the run the transactions still at work
replay on the committed store, the finished ones are serializable. -/
theorem serial_of_run {P : Sys S ι → ι → Prop} {s₀ : S}
    (hreplay : ∀ {sys : Sys S ι}, Run code P s₀ sys → ∀ i, i ∉ sys.ended →
      (∀ e, sys.rest code i ≠ ret (.error e)) → Replays sys.committed (code i) (sys.seen i))
    (h : Run code P s₀ sys) : ∃ order, SerialAs code sys s₀ order := by
  suffices hlisted : ∃ order, ListedAs code sys s₀ order by
    obtain ⟨order, horder⟩ := hlisted
    exact ⟨order, horder.toSerialAs⟩
  induction h with
  | init => exact ⟨[], listedAs_init s₀⟩
  | @step sys sys' i hrun hP hs ih =>
    obtain ⟨order, horder⟩ := ih
    obtain ⟨hi, ⟨a, hrest, rfl⟩ | ⟨e, hrest, rfl⟩ | ⟨w, k, hrest, -, rfl⟩⟩ := step_cases hs
    · refine ⟨_, horder.commit hi hrest (hreplay hrun i hi fun e he ↦ ?_)⟩
      rw [hrest] at he
      cases he
    · exact horder.rollback hi hrest
    · refine horder.statement hi hrest (hreplay hrun i hi fun e he ↦ ?_)
      rw [hrest] at he
      cases he

end ReadCommitted
