import RealTube.Store.Table

/-!
# Queries with an order and a limit

`SELECT … WHERE … ORDER BY … LIMIT n` on a `Table`: the rows that satisfy a predicate, sorted by a
key, cut off after `n`. Rows with equal keys come in any order the database likes, which is what the
`Arrangement` is for; the sort is stable, so every such order is one of its values.

Every row a query answers satisfies its predicate (`of_mem_query`). The converse needs the rows to
be within the limit (`mem_query`). Beyond it, a row is among those that may be answered, whatever
the order of ties, if and only if fewer rows than the limit come strictly before it
(`exists_mem_query`, `count_lt_of_mem_query`).
-/

namespace Table

variable {K V : Type} [DecidableEq K]

/-- The rows that satisfy a predicate, in the order of the arrangement. -/
def rows (t : Table K V) (order : Arrangement K) (p : V → Prop) [DecidablePred p] : List (K × V) :=
  (order.list t.keys).filterMap fun k ↦ (t.lookup k).bind fun r ↦ if p r then some (k, r) else none

/-- The rows that satisfy a predicate, sorted, and no more of them than the limit. -/
def query (t : Table K V) (order : Arrangement K) (p : V → Prop) [DecidablePred p]
    (le : V → V → Prop) [DecidableRel le] (limit : ℕ) : List (K × V) :=
  ((t.rows order p).insertionSort fun x y ↦ le x.2 y.2).take limit

variable {t : Table K V} {order : Arrangement K} {p : V → Prop} [DecidablePred p]
  {le : V → V → Prop} [DecidableRel le] {limit : ℕ} {k : K} {r : V}

theorem mem_rows : (k, r) ∈ t.rows order p ↔ t.lookup k = some r ∧ p r := by
  rw [rows, List.mem_filterMap]
  constructor
  · rintro ⟨k', -, hk'⟩
    obtain ⟨r', hr', hif⟩ := Option.bind_eq_some_iff.1 hk'
    split_ifs at hif with hp
    obtain ⟨rfl, rfl⟩ := Prod.mk.inj (Option.some.inj hif)
    exact ⟨hr', hp⟩
  · rintro ⟨hr, hp⟩
    refine ⟨k, order.mem_list.2 (Finmap.mem_keys.2 (Finmap.mem_of_lookup_eq_some hr)), ?_⟩
    rw [hr, Option.bind_some, if_pos hp]

/-- No row is found twice. -/
theorem nodup_keys_rows : ((t.rows order p).map Prod.fst).Nodup := by
  have hfilter : (t.rows order p).map Prod.fst =
      (order.list t.keys).filter fun k ↦ ∃ r ∈ t.lookup k, p r := by
    rw [rows, List.map_filterMap, ← List.filterMap_eq_filter]
    refine congrArg (List.filterMap · _) (funext fun k ↦ ?_)
    cases hk : t.lookup k with
    | none => simp [Option.guard, hk]
    | some r => by_cases hp : p r <;> simp [Option.guard, hk, hp]
  rw [hfilter]
  exact (order.nodup _).filter _

/-- How many of the rows found satisfy another predicate, also of their keys. -/
theorem length_filter_rows (t : Table K V) (order : Arrangement K) (p : V → Prop) [DecidablePred p]
    (q : K → V → Prop) [∀ k r, Decidable (q k r)] :
    ((t.rows order p).filter fun x ↦ q x.1 x.2).length = t.count fun k r ↦ p r ∧ q k r := by
  have hkeys : (order.list t.keys).toFinset = t.keys := by
    ext k
    rw [List.mem_toFinset, order.mem_list]
  rw [count, sum, ← hkeys, List.sum_toFinset _ (order.nodup _), rows, List.filter_filterMap]
  induction order.list t.keys with
  | nil => rfl
  | cons k ks ih =>
    rw [List.map_cons, List.sum_cons, ← ih]
    cases hk : t.lookup k with
    | none => rw [List.filterMap_cons_none (by rw [hk]; rfl), Option.elim_none, zero_add]
    | some r =>
      rw [Option.elim_some]
      split_ifs with hpq
      · rw [List.filterMap_cons_some (b := (k, r)) (by simp [hk, hpq.1, hpq.2]), List.length_cons,
          add_comm]
      · rw [List.filterMap_cons_none, zero_add]
        by_cases hp : p r
        · simp [hk, hp, show ¬ q k r from fun hq ↦ hpq ⟨hp, hq⟩]
        · simp [hk, hp]

/-- The number of rows found is their count. -/
theorem length_rows : (t.rows order p).length = t.count fun _ r ↦ p r := by
  have hlen := t.length_filter_rows order p fun _ _ ↦ True
  simpa using hlen

/-- **What a query answers** is in the table and satisfies the predicate. -/
theorem of_mem_query (h : (k, r) ∈ t.query order p le limit) : t.lookup k = some r ∧ p r :=
  mem_rows.1 ((List.mem_insertionSort _).1 (List.mem_of_mem_take h))

/-- **Within its limit**, a query answers every row that satisfies the predicate. -/
theorem mem_query (hlimit : (t.count fun _ r ↦ p r) ≤ limit) (hr : t.lookup k = some r) (hp : p r) :
    (k, r) ∈ t.query order p le limit := by
  rw [query, List.take_of_length_le]
  · exact (List.mem_insertionSort _).2 (mem_rows.2 ⟨hr, hp⟩)
  · rw [List.length_insertionSort, length_rows]
    exact hlimit

/-- A query answers nothing when no row satisfies the predicate. -/
theorem query_eq_nil (h : ∀ k r, t.lookup k = some r → ¬ p r) :
    t.query order p le limit = [] := by
  refine List.eq_nil_iff_forall_not_mem.2 fun x hx ↦ ?_
  obtain ⟨k, r⟩ := x
  exact h k r (of_mem_query hx).1 (of_mem_query hx).2

/-! ### Limits and ties

How many of the rows found come strictly before a row decides whether some order of ties has it
answered. -/

/-- How many of the rows found satisfy another predicate. -/
theorem countP_rows (order : Arrangement K) {q : V → Prop} [DecidablePred q] :
    (t.rows order p).countP (fun x ↦ q x.2) = t.count fun _ r ↦ p r ∧ q r := by
  rw [List.countP_eq_length_filter, length_filter_rows t order p fun _ ↦ q]

/-- The arrangement that begins with a given row, if it is there. -/
def startingWith (order : Arrangement K) (k : K) : Arrangement K where
  list s := if k ∈ s then k :: order.list (s.erase k) else order.list s
  nodup s := by
    split_ifs
    · exact List.nodup_cons.2
        ⟨fun hk ↦ Finset.notMem_erase k s (order.mem_list.1 hk), order.nodup _⟩
    · exact order.nodup s
  mem_list {s k'} := by
    split_ifs with hk
    · rw [List.mem_cons, order.mem_list, Finset.mem_erase]
      by_cases hk' : k' = k
      · simp [hk', hk]
      · simp [hk']
    · exact order.mem_list

theorem rows_startingWith (order : Arrangement K) (hr : t.lookup k = some r) (hp : p r) :
    ∃ xs, t.rows (startingWith order k) p = (k, r) :: xs := by
  have hlist : (startingWith order k).list t.keys = k :: order.list (t.keys.erase k) :=
    if_pos (Finmap.mem_keys.2 (Finmap.mem_of_lookup_eq_some hr))
  rw [rows, hlist, List.filterMap_cons_some (by rw [hr, Option.bind_some, if_pos hp])]
  exact ⟨_, rfl⟩

/-- The arrangement that ends with a given row, if it is there. -/
def endingWith (order : Arrangement K) (k : K) : Arrangement K where
  list s := if k ∈ s then order.list (s.erase k) ++ [k] else order.list s
  nodup s := by
    split_ifs
    · refine (order.nodup _).append (List.nodup_singleton k) (List.disjoint_singleton.2 fun hk ↦ ?_)
      exact Finset.notMem_erase k s (order.mem_list.1 hk)
    · exact order.nodup s
  mem_list {s k'} := by
    split_ifs with hk
    · rw [List.mem_append, List.mem_singleton, order.mem_list, Finset.mem_erase]
      by_cases hk' : k' = k
      · simp [hk', hk]
      · simp [hk']
    · exact order.mem_list

theorem rows_endingWith (order : Arrangement K) (hr : t.lookup k = some r) (hp : p r) :
    ∃ xs, t.rows (endingWith order k) p = xs ++ [(k, r)] := by
  have hlist : (endingWith order k).list t.keys = order.list (t.keys.erase k) ++ [k] :=
    if_pos (Finmap.mem_keys.2 (Finmap.mem_of_lookup_eq_some hr))
  have hlast : ([k].filterMap fun k ↦ (t.lookup k).bind fun r ↦ if p r then some (k, r) else none) =
      [(k, r)] := by
    rw [List.filterMap_cons_some (by rw [hr, Option.bind_some, if_pos hp]), List.filterMap_nil]
  rw [rows, hlist, List.filterMap_append, hlast]
  exact ⟨_, rfl⟩

/-- **A row may be answered** if fewer rows than the limit come strictly before it. -/
theorem exists_mem_query (order : Arrangement K) (hr : t.lookup k = some r) (hp : p r)
    (hlt : (t.count fun _ r' ↦ p r' ∧ ¬ le r r') < limit) :
    ∃ order : Arrangement K, (k, r) ∈ t.query order p le limit := by
  refine ⟨startingWith order k, ?_⟩
  obtain ⟨xs, hxs⟩ := rows_startingWith order hr hp
  have hcount := countP_rows (t := t) (startingWith order k) (p := p) (q := (¬ le r ·))
  rw [query, hxs, List.insertionSort_cons_eq_take_drop]
  set ys := xs.insertionSort fun x y ↦ le x.2 y.2
  set before := ys.takeWhile fun y ↦ ¬ le r y.2
  -- what comes before the row are rows that do so strictly
  have hlen : before.length < limit := by
    have hall : before.countP (fun y ↦ ¬ le r y.2) = before.length :=
      List.countP_eq_length.2 (List.all_eq_true.1 List.all_takeWhile)
    calc before.length = before.countP (fun y ↦ ¬ le r y.2) := hall.symm
      _ ≤ ys.countP (fun y ↦ ¬ le r y.2) := (List.takeWhile_sublist _).countP_le
      _ = xs.countP (fun y ↦ ¬ le r y.2) := (List.perm_insertionSort _ xs).countP_eq _
      _ ≤ (t.rows (startingWith order k) p).countP (fun y ↦ ¬ le r y.2) := by
        rw [hxs]
        exact (List.sublist_cons_self _ _).countP_le
      _ < limit := hcount.trans_lt hlt
  rw [List.take_append, List.mem_append]
  refine Or.inr ?_
  obtain ⟨n, hn⟩ : ∃ n, limit - before.length = n + 1 := ⟨limit - before.length - 1, by omega⟩
  rw [hn, List.take_succ_cons]
  exact List.mem_cons_self

/-- **A row that is answered** has fewer rows than the limit strictly before it. -/
theorem count_lt_of_mem_query [Std.Total le] [IsTrans V le]
    (h : (k, r) ∈ t.query order p le limit) :
    (t.count fun _ r' ↦ p r' ∧ ¬ le r r') < limit := by
  have : Std.Total fun x y : K × V ↦ le x.2 y.2 := ⟨fun x y ↦ Std.Total.total x.2 y.2⟩
  have : IsTrans (K × V) fun x y ↦ le x.2 y.2 :=
    ⟨fun _ _ _ ↦ IsTrans.trans (r := le) _ _ _⟩
  set xs := (t.rows order p).insertionSort fun x y ↦ le x.2 y.2 with hxs
  have hsorted : xs.Pairwise fun x y ↦ le x.2 y.2 := List.pairwise_insertionSort _ _
  obtain ⟨before, after, htake⟩ := List.append_of_mem h
  have hlen : before.length < limit := by
    have hle : (before ++ (k, r) :: after).length ≤ limit := by
      rw [← htake]
      exact List.length_take_le _ _
    rw [List.length_append, List.length_cons] at hle
    omega
  have hsplit : xs = before ++ (k, r) :: (after ++ xs.drop limit) := by
    rw [← List.cons_append, ← List.append_assoc, ← htake]
    exact (List.take_append_drop limit xs).symm
  rw [hsplit, List.pairwise_append, List.pairwise_cons] at hsorted
  have hrest : ((k, r) :: (after ++ xs.drop limit)).countP (fun y ↦ ¬ le r y.2) = 0 := by
    refine List.countP_eq_zero.2 fun y hy ↦ ?_
    have hle : le r y.2 := by
      rcases List.mem_cons.1 hy with rfl | hy
      · exact (Std.Total.total r r).elim id id
      · exact hsorted.2.1.1 y hy
    simpa using hle
  rw [← countP_rows order, ← (List.perm_insertionSort (fun x y ↦ le x.2 y.2) _).countP_eq,
    ← hxs, hsplit, List.countP_append, hrest, Nat.add_zero]
  exact List.countP_le_length.trans_lt hlen

end Table
