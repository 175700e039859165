import RealTube.Store.ReadCommitted

/-!
# Deadlocks and lock orders

A transaction waits for another when its next statement needs a row the other holds. A **deadlock**
is a cycle of waiting. There is none when the rows can be ranked so that every transaction asks for
rows of higher rank than it holds (`no_deadlock_of_rank`).

What a transaction asks for is read off its tree: it **follows** a plan, a list of rows, when it
takes new locks in the order of the list (`Follows`). It may skip rows and may come back to rows it
holds. Then whatever it asks for comes after everything it has taken (`Follows.next`).
-/

open RowStore Tx

namespace ReadCommitted

variable {S W R ι ε α : Type} [RowStore W S R] [DecidableEq R] [DecidableEq ι] [Fintype ι]

/-! ### Deadlocks -/

/-- A cycle of transactions, each waiting for the next. -/
def Sys.Deadlock (code : ι → Tx S W (Except ε α)) (sys : Sys S ι) : Prop :=
  ∃ i, Relation.TransGen (sys.Waits code) i i

variable {code : ι → Tx S W (Except ε α)} {sys : Sys S ι} {s₀ : S}

/-- **No deadlock along a rank.** -/
theorem no_deadlock_of_rank (hreach : Reachable code s₀ sys) {β : Type} [Preorder β] (rank : R → β)
    (h : ∀ i, i ∉ sys.ended → ∀ r ∈ sys.needs code i, r ∉ sys.held code i →
      ∀ r' ∈ sys.held code i, rank r' < rank r) : ¬ sys.Deadlock code := by
  -- along a chain of waiting the rows asked for only rise
  have hrise : ∀ {i j}, Relation.TransGen (sys.Waits code) i j →
      ∃ r ∈ sys.needs code i, r ∉ sys.held code i ∧ ∃ r' ∈ sys.held code j, rank r ≤ rank r' := by
    intro i j hij
    induction hij with
    | single hw =>
      obtain ⟨-, hne, r, hr, hheld⟩ := hw
      exact ⟨r, hr, held_disjoint hreach hne.symm hheld, r, hheld, le_rfl⟩
    | tail _ hw ih =>
      obtain ⟨hj, hne, r', hr', hheld⟩ := hw
      obtain ⟨r, hr, hnot, r'', hr'', hle⟩ := ih
      have hlt := h _ hj r' hr' (held_disjoint hreach hne.symm hheld) r'' hr''
      exact ⟨r, hr, hnot, r', hheld, hle.trans hlt.le⟩
  rintro ⟨i, hcycle⟩
  obtain ⟨r, hr, hnot, r', hr', hle⟩ := hrise hcycle
  have hi : i ∉ sys.ended := (mem_held_iff.1 hr').1
  exact (h i hi r hr hnot r' hr').not_ge hle

end ReadCommitted

/-! ### Plans -/

namespace Tx

variable {S W R α β : Type} [RowStore W S R]

/-- Executed on stores in `I`, the transaction takes the locks of the plan in order. A statement
writes rows it holds already, or the row the plan has next, and the latter only where it is in
`E`. -/
def Follows (I : S → Prop) (E : S → R → Prop) : List R → List R → Tx S W α → Prop
  | _, _, ret _ => True
  | held, plan, stmt w k => ∀ s, I s →
    ((∀ r ∈ (rows (w s) : List R), r ∈ held) ∧ (k s).Follows I E held plan) ∨
      ∃ r rest, plan = r :: rest ∧ (∀ r' ∈ (rows (w s) : List R), r' = r ∧ E s r') ∧
        (k s).Follows I E (held ++ rows (w s)) rest

variable {I : S → Prop} {E : S → R → Prop} {held plan : List R}

/-- A statement that needs no lock. -/
theorem Follows.rowless {w : S → List W} (hw : ∀ {s x}, x ∈ w s → row x = none)
    {k : S → Tx S W α} (hk : ∀ s, (k s).Follows I E held plan) :
    (stmt w k).Follows I E held plan := by
  refine fun s _ ↦ Or.inl ⟨fun r hr ↦ ?_, hk s⟩
  obtain ⟨x, hx, hrow⟩ := mem_rows.1 hr
  exact absurd ((hw hx).symm.trans hrow) (Option.some_ne_none r).symm

/-- A statement on the next row of the plan. -/
theorem Follows.take {w : S → List W} {r : R} (hw : Touches w r)
    (hE : ∀ s, I s → w s ≠ [] → E s r) {k : S → Tx S W α}
    (hk : ∀ s, I s → (k s).Follows I E (held ++ rows (w s)) plan) :
    (stmt w k).Follows I E held (r :: plan) := by
  refine fun s hs ↦ Or.inr ⟨r, plan, rfl, fun r' hr' ↦ ?_, hk s hs⟩
  obtain ⟨x, hx, hrow⟩ := mem_rows.1 hr'
  cases Option.some.inj (hrow.symm.trans (hw.row hx))
  exact ⟨rfl, hE s hs (List.ne_nil_of_mem hx)⟩

/-- A statement on a row that is held. -/
theorem Follows.again {w : S → List W} {r : R} (hw : Touches w r) (hr : r ∈ held)
    {k : S → Tx S W α} (hk : ∀ s, I s → (k s).Follows I E held plan) :
    (stmt w k).Follows I E held plan := by
  refine fun s hs ↦ Or.inl ⟨fun r' hr' ↦ ?_, hk s hs⟩
  obtain ⟨x, hx, hrow⟩ := mem_rows.1 hr'
  exact Option.some.inj ((hw.row hx).symm.trans hrow) ▸ hr

/-- **What is asked for comes after what was taken.** -/
theorem Follows.next {p : Tx S W α} (h : p.Follows I E held plan) {vs : List S}
    (hvs : ∀ s ∈ vs, I s) {s : S} (hs : I s) {r : R} (hr : r ∈ ((p.rest vs).asks s : List R))
    (hnot : r ∉ held ∧ r ∉ (rows (p.log vs) : List R)) :
    ∃ taken rest, plan = taken ++ r :: rest ∧ E s r ∧
      ∀ r' ∈ (rows (p.log vs) : List R), r' ∈ held ∨ r' ∈ taken := by
  induction vs generalizing p held plan with
  | nil =>
    rw [rest_nil] at hr
    cases p with
    | ret a => cases hr
    | stmt w k =>
      rcases h s hs with ⟨hheld, -⟩ | ⟨r', rest, rfl, hrow, -⟩
      · exact absurd (hheld r hr) hnot.1
      · obtain ⟨rfl, hE⟩ := hrow r hr
        exact ⟨[], rest, rfl, hE, fun r' hr' ↦ absurd hr' (by simp [rows])⟩
  | cons v vs ih =>
    rw [List.forall_mem_cons] at hvs
    cases p with
    | ret a =>
      rw [rest_ret] at hr
      cases hr
    | stmt w k =>
      rw [rest_stmt_cons] at hr
      rw [log_stmt_cons, rows_append, List.mem_append, not_or] at hnot
      rw [log_stmt_cons, rows_append]
      rcases h v hvs.1 with ⟨hheld, hk⟩ | ⟨r', rest, rfl, hrow, hk⟩
      · obtain ⟨taken, rest, hplan, hE, htaken⟩ := ih hk hvs.2 hr ⟨hnot.1, hnot.2.2⟩
        refine ⟨taken, rest, hplan, hE, fun r' hr' ↦ ?_⟩
        exact (List.mem_append.1 hr').elim (fun h ↦ Or.inl (hheld r' h)) (htaken r')
      · obtain ⟨taken, rest', rfl, hE, htaken⟩ := ih hk hvs.2 hr
          ⟨fun hmem ↦ (List.mem_append.1 hmem).elim hnot.1 hnot.2.1, hnot.2.2⟩
        refine ⟨r' :: taken, rest', rfl, hE, fun r'' hr'' ↦ ?_⟩
        rcases List.mem_append.1 hr'' with h'' | h''
        · exact Or.inr (List.mem_cons.2 (Or.inl (hrow r'' h'').1))
        · rcases htaken r'' h'' with h'' | h''
          · exact (List.mem_append.1 h'').imp_right fun h'' ↦
              List.mem_cons.2 (Or.inl (hrow r'' h'').1)
          · exact Or.inr (List.mem_cons_of_mem r' h'')

end Tx
