import Mathlib.Data.Finmap
import Mathlib.Algebra.BigOperators.Group.Finset.Basic
import Mathlib.Algebra.BigOperators.Ring.Finset
import Mathlib.Algebra.Order.BigOperators.Group.Finset
import Mathlib.Data.List.Sort
import Mathlib.Algebra.Order.Field.Rat

/-!
# Keyed tables and their aggregates

A table with a primary key is a `Finmap` from keys to rows: at most one row a key, and two tables
are equal as soon as their lookups are (`Finmap.ext_lookup`). What a query language adds to that is
aggregation, so this module is about `Table.sum`, the sum of a row function over all rows, and
`Table.count`, the number of rows that satisfy a predicate.

Everything rests on one split, `sum_eq_add_erase`: a sum is the contribution of one key plus the sum
over the rest. An insertion or a deletion changes only the first part, so an incrementally kept
counter is compared with a count by comparing two contributions of a single key.
-/

/-- A table with primary key `K` and rows `V`. -/
abbrev Table (K V : Type) : Type := Finmap fun _ : K ↦ V

namespace Table

variable {K V M : Type} [DecidableEq K]

/-- The row stored at a key. -/
def lookup (t : Table K V) (k : K) : Option V := Finmap.lookup k t

/-- Write a row at a key, replacing the row that may be there. -/
def insert (t : Table K V) (k : K) (r : V) : Table K V := Finmap.insert k r t

/-- Remove the row at a key. -/
def erase (t : Table K V) (k : K) : Table K V := Finmap.erase k t

/-! ### Lookups after a write -/

/-- **Tables are determined by their lookups.** -/
theorem ext_lookup {t t' : Table K V} (h : ∀ k, t.lookup k = t'.lookup k) : t = t' :=
  Finmap.ext_lookup h

@[simp] theorem lookup_empty (k : K) : lookup (∅ : Table K V) k = none := rfl

theorem lookup_insert (t : Table K V) (k k' : K) (r : V) :
    (t.insert k r).lookup k' = if k' = k then some r else t.lookup k' := by
  split_ifs with h
  · rw [h]
    exact Finmap.lookup_insert t
  · exact Finmap.lookup_insert_of_ne t h

@[simp] theorem lookup_insert_self (t : Table K V) (k : K) (r : V) :
    (t.insert k r).lookup k = some r :=
  Finmap.lookup_insert t

theorem lookup_insert_of_ne (t : Table K V) {k k' : K} (r : V) (h : k' ≠ k) :
    (t.insert k r).lookup k' = t.lookup k' :=
  Finmap.lookup_insert_of_ne t h

/-- What holds of the keys of a table and of a new one holds after the insertion. -/
theorem forall_lookup_insert {P : K → Prop} {t : Table K V} {k : K} {r : V} (hk : P k)
    (ht : ∀ k', t.lookup k' ≠ none → P k') : ∀ k', (t.insert k r).lookup k' ≠ none → P k' := by
  intro k' hk'
  rw [lookup_insert] at hk'
  split_ifs at hk' with heq
  · exact heq ▸ hk
  · exact ht k' hk'

theorem lookup_erase (t : Table K V) (k k' : K) :
    (t.erase k).lookup k' = if k' = k then none else t.lookup k' := by
  split_ifs with h
  · rw [h]
    exact Finmap.lookup_erase k t
  · exact Finmap.lookup_erase_ne h

@[simp] theorem lookup_erase_self (t : Table K V) (k : K) : (t.erase k).lookup k = none :=
  Finmap.lookup_erase k t

theorem lookup_erase_of_ne (t : Table K V) {k k' : K} (h : k' ≠ k) :
    (t.erase k).lookup k' = t.lookup k' :=
  Finmap.lookup_erase_ne h

theorem lookup_eq_none_of_notMem_keys {t : Table K V} {k : K} (h : k ∉ Finmap.keys t) :
    t.lookup k = none :=
  Finmap.lookup_eq_none.2 fun hk ↦ h (Finmap.mem_keys.2 hk)

/-- A table that already holds a row is not changed by writing that row again. -/
theorem insert_eq_self {t : Table K V} {k : K} {r : V} (h : t.lookup k = some r) :
    t.insert k r = t :=
  ext_lookup fun k' ↦ by
    rw [lookup_insert]
    split_ifs with hk
    · rw [hk, h]
    · rfl

/-- Erasing a key that is not there changes nothing. -/
theorem erase_eq_self {t : Table K V} {k : K} (h : t.lookup k = none) : t.erase k = t :=
  ext_lookup fun k' ↦ by
    rw [lookup_erase]
    split_ifs with hk
    · rw [hk, h]
    · rfl

/-- Rewrite the row at a key, if there is one. -/
def modify (t : Table K V) (k : K) (f : V → V) : Table K V :=
  match t.lookup k with
  | none => t
  | some r => t.insert k (f r)

theorem lookup_modify (t : Table K V) (k k' : K) (f : V → V) :
    (t.modify k f).lookup k' = if k' = k then (t.lookup k).map f else t.lookup k' := by
  rw [modify]
  cases h : t.lookup k with
  | none =>
    split_ifs with hk
    · rw [hk, h]
      rfl
    · rfl
  | some r => exact lookup_insert t k k' (f r)

theorem lookup_modify_of_ne (t : Table K V) {k k' : K} (f : V → V) (h : k' ≠ k) :
    (t.modify k f).lookup k' = t.lookup k' := by
  rw [lookup_modify, if_neg h]

/-- Inserting twice at a key keeps the second row. -/
@[simp] theorem insert_insert (t : Table K V) (k : K) (r r' : V) :
    (t.insert k r).insert k r' = t.insert k r' :=
  Finmap.insert_insert t

/-- Rewriting the row just inserted inserts the rewritten row. -/
@[simp] theorem modify_insert (t : Table K V) (k : K) (r : V) (f : V → V) :
    (t.insert k r).modify k f = t.insert k (f r) := by
  rw [modify, lookup_insert_self]
  exact insert_insert t k r (f r)

/-- Erasing forgets whatever was inserted at the same key. -/
theorem erase_erase (t : Table K V) (k : K) : (t.erase k).erase k = t.erase k :=
  erase_eq_self (lookup_erase_self t k)

theorem erase_insert (t : Table K V) (k : K) (r : V) : (t.insert k r).erase k = t.erase k :=
  ext_lookup fun k' ↦ by
    rw [lookup_erase, lookup_erase, lookup_insert]
    split_ifs <;> rfl

/-- The rows that satisfy a predicate. -/
def filter (t : Table K V) (p : K → V → Prop) [∀ k r, Decidable (p k r)] : Table K V where
  entries := t.entries.filter fun x ↦ p x.1 x.2
  nodupKeys := Multiset.nodup_keys.1 <| Multiset.nodup_of_le
    (Multiset.map_le_map (Multiset.filter_le _ _)) (Multiset.nodup_keys.2 t.nodupKeys)

theorem lookup_eq_some_iff {t : Table K V} {k : K} {r : V} :
    t.lookup k = some r ↔ ⟨k, r⟩ ∈ t.entries := by
  induction t using Finmap.induction_on with
  | H s => exact AList.mem_lookup_iff

theorem lookup_filter (t : Table K V) (p : K → V → Prop) [∀ k r, Decidable (p k r)] (k : K) :
    (t.filter p).lookup k = (t.lookup k).filter fun r ↦ p k r := by
  ext r
  rw [lookup_eq_some_iff, Option.filter_eq_some_iff, lookup_eq_some_iff, decide_eq_true_iff]
  exact Multiset.mem_filter

/-! ### Sums over the rows -/

section Sum

variable [AddCommMonoid M]

/-- The sum of a row function over all rows. -/
def sum (t : Table K V) (f : K → V → M) : M :=
  ∑ k ∈ t.keys, (t.lookup k).elim 0 (f k)

@[simp] theorem sum_empty (f : K → V → M) : (∅ : Table K V).sum f = 0 := rfl

/-- **A sum is the contribution of one key plus the sum over the rest.** -/
theorem sum_eq_add_erase (t : Table K V) (f : K → V → M) (k : K) :
    t.sum f = (t.lookup k).elim 0 (f k) + (t.erase k).sum f := by
  have hrest : (t.erase k).sum f = ∑ k' ∈ t.keys.erase k, (t.lookup k').elim 0 (f k') := by
    rw [sum, erase, Finmap.keys_erase]
    refine Finset.sum_congr rfl fun k' hk' ↦ ?_
    exact congrArg (Option.elim · 0 (f k')) (lookup_erase_of_ne t (Finset.ne_of_mem_erase hk'))
  rw [hrest]
  by_cases hk : k ∈ t.keys
  · exact (Finset.add_sum_erase _ (fun k' ↦ (t.lookup k').elim 0 (f k')) hk).symm
  · rw [lookup_eq_none_of_notMem_keys hk, Finset.erase_eq_of_notMem hk]
    exact (zero_add _).symm

/-- An insertion adds the contribution of the new row to the rest. -/
theorem sum_insert (t : Table K V) (f : K → V → M) (k : K) (r : V) :
    (t.insert k r).sum f = f k r + (t.erase k).sum f := by
  rw [sum_eq_add_erase _ f k, lookup_insert_self, erase_insert]
  rfl

/-- Rows on which two functions agree contribute equally to both sums. -/
theorem sum_congr {t : Table K V} {f g : K → V → M}
    (h : ∀ k r, t.lookup k = some r → f k r = g k r) : t.sum f = t.sum g := by
  refine Finset.sum_congr rfl fun k _ ↦ ?_
  cases hk : t.lookup k with
  | none => rfl
  | some r => exact h k r hk

/-- A sum may be taken over more keys. -/
theorem sum_eq_sum_of_subset {t : Table K V} {s : Finset K} (h : t.keys ⊆ s) (f : K → V → M) :
    t.sum f = ∑ k ∈ s, (t.lookup k).elim 0 (f k) :=
  Finset.sum_subset h fun k _ hk ↦ by
    rw [lookup_eq_none_of_notMem_keys hk]
    rfl

/-- A sum depends on the table only through the rows its function does not send to zero. -/
theorem sum_congr_lookup {t t' : Table K V} {f g : K → V → M}
    (h : ∀ k, (t.lookup k).elim 0 (f k) = (t'.lookup k).elim 0 (g k)) : t.sum f = t'.sum g := by
  rw [sum_eq_sum_of_subset (s := t.keys ∪ t'.keys) Finset.subset_union_left,
    sum_eq_sum_of_subset (s := t.keys ∪ t'.keys) Finset.subset_union_right]
  exact Finset.sum_congr rfl fun k _ ↦ h k

/-- A sum over a table whose rows are those of another one, rewritten. -/
theorem sum_of_lookup_map {t t' : Table K V} {g : V → V}
    (h : ∀ k, t'.lookup k = (t.lookup k).map g) (f : K → V → M) :
    t'.sum f = t.sum fun k r ↦ f k (g r) :=
  sum_congr_lookup fun k ↦ by
    rw [h k]
    cases t.lookup k <;> rfl

/-- **A homomorphism may be taken inside a sum.** -/
theorem apply_sum {N : Type} [AddCommMonoid N] (φ : M →+ N) (t : Table K V) (f : K → V → M) :
    φ (t.sum f) = t.sum fun k r ↦ φ (f k r) := by
  rw [sum, map_sum, sum]
  refine Finset.sum_congr rfl fun k _ ↦ ?_
  cases t.lookup k with
  | none => exact φ.map_zero
  | some r => rfl

theorem sum_add (t : Table K V) (f g : K → V → M) :
    t.sum (fun k r ↦ f k r + g k r) = t.sum f + t.sum g := by
  unfold sum
  rw [← Finset.sum_add_distrib]
  refine Finset.sum_congr rfl fun k _ ↦ ?_
  cases t.lookup k with
  | none => exact (add_zero 0).symm
  | some r => rfl

end Sum

theorem sum_nonneg [AddCommMonoid M] [PartialOrder M] [IsOrderedAddMonoid M] {t : Table K V}
    {f : K → V → M} (h : ∀ k r, t.lookup k = some r → 0 ≤ f k r) : 0 ≤ t.sum f := by
  refine Finset.sum_nonneg fun k _ ↦ ?_
  cases hk : t.lookup k with
  | none => exact le_rfl
  | some r => exact h k r hk

theorem sum_le_sum [AddCommMonoid M] [PartialOrder M] [IsOrderedAddMonoid M] {t : Table K V}
    {f g : K → V → M} (h : ∀ k r, t.lookup k = some r → f k r ≤ g k r) : t.sum f ≤ t.sum g := by
  refine Finset.sum_le_sum fun k _ ↦ ?_
  cases hk : t.lookup k with
  | none => exact le_rfl
  | some r => exact h k r hk

/-- **Two tables** compare as their rows do, key by key. -/
theorem sum_le_sum_lookup [AddCommMonoid M] [PartialOrder M] [IsOrderedAddMonoid M]
    {t t' : Table K V} {f g : K → V → M}
    (h : ∀ k, (t.lookup k).elim 0 (f k) ≤ (t'.lookup k).elim 0 (g k)) : t.sum f ≤ t'.sum g := by
  rw [sum_eq_sum_of_subset (s := t.keys ∪ t'.keys) Finset.subset_union_left,
    sum_eq_sum_of_subset (s := t.keys ∪ t'.keys) Finset.subset_union_right]
  exact Finset.sum_le_sum fun k _ ↦ h k

/-- A finite sum of row functions may be taken inside. -/
theorem sum_finset_sum [AddCommMonoid M] {ι : Type} (s : Finset ι) (t : Table K V)
    (f : ι → K → V → M) : ∑ i ∈ s, t.sum (f i) = t.sum fun k r ↦ ∑ i ∈ s, f i k r := by
  rw [sum, show (∑ i ∈ s, t.sum (f i)) =
    ∑ i ∈ s, ∑ k ∈ t.keys, (t.lookup k).elim 0 (f i k) from rfl, Finset.sum_comm]
  refine Finset.sum_congr rfl fun k _ ↦ ?_
  cases t.lookup k with
  | none => exact Finset.sum_const_zero
  | some r => rfl

/-! ### Counting rows -/

/-- The number of rows satisfying a predicate. -/
def count (t : Table K V) (p : K → V → Prop) [∀ k r, Decidable (p k r)] : ℕ :=
  t.sum fun k r ↦ if p k r then 1 else 0

section Count

variable (p : K → V → Prop) [∀ k r, Decidable (p k r)]

theorem count_eq_add_erase (t : Table K V) (k : K) :
    t.count p = (t.lookup k).elim 0 (fun r ↦ if p k r then 1 else 0) + (t.erase k).count p :=
  sum_eq_add_erase t _ k

/-- A row satisfying the predicate is counted. -/
theorem count_pos {t : Table K V} {k : K} {r : V} (hk : t.lookup k = some r) (hp : p k r) :
    0 < t.count p := by
  rw [count_eq_add_erase p t k, hk, Option.elim_some, if_pos hp]
  omega

/-- Nothing is counted exactly when no row satisfies the predicate. -/
theorem count_eq_zero_iff {t : Table K V} :
    t.count p = 0 ↔ ∀ k r, t.lookup k = some r → ¬ p k r := by
  refine ⟨fun h k r hk hp ↦ ?_, fun h ↦ ?_⟩
  · exact absurd h (count_pos p hk hp).ne'
  · refine Finset.sum_eq_zero fun k _ ↦ ?_
    cases hk : t.lookup k with
    | none => rfl
    | some r => exact if_neg (h k r hk)

/-- A positive count has a row behind it. -/
theorem exists_of_count_pos {t : Table K V} (h : 0 < t.count p) :
    ∃ k r, t.lookup k = some r ∧ p k r := by
  by_contra hnone
  refine h.ne' ((count_eq_zero_iff p).2 fun k r hk hp ↦ hnone ⟨k, r, hk, hp⟩)

/-- The same contribution from every row that satisfies the predicate. -/
theorem sum_ite_const (t : Table K V) (x : ℚ) :
    (t.sum fun k r ↦ if p k r then x else 0) = t.count p * x := by
  unfold count sum
  rw [Nat.cast_sum, Finset.sum_mul]
  refine Finset.sum_congr rfl fun k _ ↦ ?_
  cases t.lookup k with
  | none => simp
  | some r => by_cases hp : p k r <;> simp [hp]

end Count

end Table

/-! ### The order of the rows -/

/-- An order in which a query may return rows: SQL promises none. -/
structure Arrangement (K : Type) where
  /-- The rows in order. -/
  list : Finset K → List K
  nodup : ∀ s, (list s).Nodup
  mem_list : ∀ {s k}, k ∈ list s ↔ k ∈ s

/-- Rows in ascending order. -/
def Arrangement.ascending (K : Type) [LinearOrder K] : Arrangement K where
  list s := Quot.liftOn s.val (List.insertionSort (· ≤ ·)) fun _ _ h ↦
    ((List.perm_insertionSort _ _).trans
      (h.trans (List.perm_insertionSort _ _).symm)).eq_of_pairwise'
      (List.pairwise_insertionSort _ _) (List.pairwise_insertionSort _ _)
  nodup := by
    rintro ⟨⟨l⟩, hl⟩
    exact (List.perm_insertionSort _ l).nodup_iff.2 hl
  mem_list := by
    rintro ⟨⟨l⟩, hl⟩ k
    exact List.mem_insertionSort _
