import RealTube.Store.Table

/-!
# Keeping a copy of a table

A client holds a copy of a table that someone else changes, and brings it up to date by what the
owner sends: all rows, or a list of the changes since some time. The client has only transactions on
single tables (`Replica.Op`) to write with.

`applyChanges` is a loop over the changes that deletes at once and collects the rows to put, which
it writes at the end. So the deletions of a list come before its updates, whatever the order they
were listed in; the copy ends as the list says if every key is either updated or removed by it
(`lookup_applyChanges`). That is also exactly when it ends as if the changes were made one by one
(`applyAll_applyChanges_eq_iff`).

Whether a copy is up to date is measured against the history of the owner's table: it is **fresh**
from a time on if each of its rows is the owner's row at that time or later. `Fresh.delta` and
`fresh_whole` are the two ways to move that time forward.
-/

namespace Replica

variable {K V : Type} [DecidableEq K]

/-- A change as it is sent: a row removed, a row as it is now, or something to skip. -/
inductive Change (K V : Type) where
  | remove (k : K)
  | put (k : K) (v : V)
  | skip

/-- A transaction on the copy. -/
inductive Op (K V : Type) where
  | delete (k : K)
  | put (rows : List (K × V))
  | clear

/-- Write rows, first to last. -/
def putAll (t : Table K V) (rows : List (K × V)) : Table K V :=
  rows.foldl (fun t x ↦ t.insert x.1 x.2) t

/-- The copy after a transaction. -/
def Op.apply (t : Table K V) : Op K V → Table K V
  | delete k => t.erase k
  | put rows => putAll t rows
  | clear => ∅

/-- The copy after transactions. -/
def applyAll (t : Table K V) (ops : List (Op K V)) : Table K V := ops.foldl Op.apply t

/-- The transactions of the loop over a list of changes, with the rows collected so far. -/
def applyChanges : List (Change K V) → List (K × V) → List (Op K V)
  | [], rows => [.put rows]
  | .remove k :: cs, rows => .delete k :: applyChanges cs rows
  | .put k v :: cs, rows => applyChanges cs (rows ++ [(k, v)])
  | .skip :: cs, rows => applyChanges cs rows

/-! ### What the loop leaves -/

/-- What a change says about a key: nothing, that the row is gone, or what it is. -/
def Change.about (k : K) : Change K V → Option (Option V)
  | remove k' => if k = k' then some none else none
  | put k' v => if k = k' then some (some v) else none
  | skip => none

/-- What a list of changes says about a key last. -/
def last (cs : List (Change K V)) (k : K) : Option (Option V) :=
  cs.foldr (fun c x ↦ x.orElse fun _ ↦ c.about k) none

/-- No row is updated that the list removes in the end. -/
def InOrder (cs : List (Change K V)) : Prop :=
  ∀ k v, .put k v ∈ cs → last cs k ≠ some none

/-- The row written last at a key. -/
def lastPut (rows : List (K × V)) (k : K) : Option V :=
  rows.foldr (fun x v ↦ v.orElse fun _ ↦ if k = x.1 then some x.2 else none) none

@[simp] theorem last_cons (c : Change K V) (cs : List (Change K V)) (k : K) :
    last (c :: cs) k = (last cs k).orElse fun _ ↦ c.about k := rfl

@[simp] theorem lastPut_cons (x : K × V) (rows : List (K × V)) (k : K) :
    lastPut (x :: rows) k =
      (lastPut rows k).orElse fun _ ↦ if k = x.1 then some x.2 else none := rfl

theorem lookup_putAll (t : Table K V) (rows : List (K × V)) (k : K) :
    (putAll t rows).lookup k = (lastPut rows k).orElse fun _ ↦ t.lookup k := by
  induction rows generalizing t with
  | nil => rfl
  | cons x rows ih =>
    rw [putAll, List.foldl_cons, ← putAll, ih, Table.lookup_insert, lastPut_cons]
    cases lastPut rows k with
    | some v => rfl
    | none => split_ifs <;> rfl

theorem lookup_putAll_empty (rows : List (K × V)) (k : K) :
    (putAll ∅ rows).lookup k = lastPut rows k := by
  rw [lookup_putAll]
  rcases lastPut rows k with - | v
  · rfl
  · rfl

theorem mem_of_lastPut {rows : List (K × V)} {k : K} {v : V} (h : lastPut rows k = some v) :
    (k, v) ∈ rows := by
  induction rows with
  | nil => cases h
  | cons x rows ih =>
    rw [lastPut_cons] at h
    cases hrows : lastPut rows k with
    | some v' => exact List.mem_cons_of_mem _ (ih (by rw [hrows] at h ⊢; exact h))
    | none =>
      rw [hrows] at h
      change (if k = x.1 then some x.2 else none) = some v at h
      split_ifs at h with hk
      obtain rfl := Option.some.inj h
      rw [hk]
      exact List.mem_cons_self

theorem lastPut_ne_none {rows : List (K × V)} {k : K} {v : V} (h : (k, v) ∈ rows) :
    lastPut rows k ≠ none := by
  induction rows with
  | nil => cases h
  | cons x rows ih =>
    rw [lastPut_cons]
    cases hrows : lastPut rows k with
    | some v' => simp
    | none =>
      rcases List.mem_cons.1 h with rfl | hmem
      · simp
      · exact absurd hrows (ih hmem)

/-- The key that a change removes. -/
def Change.removedKey : Change K V → Option K
  | remove k => some k
  | put _ _ => none
  | skip => none

/-- The row that a change puts. -/
def Change.updatedRow : Change K V → Option (K × V)
  | remove _ => none
  | put k v => some (k, v)
  | skip => none

/-- The keys a list of changes removes. -/
def removed (cs : List (Change K V)) : List K := cs.filterMap Change.removedKey

/-- The rows a list of changes puts. -/
def updated (cs : List (Change K V)) : List (K × V) := cs.filterMap Change.updatedRow

omit [DecidableEq K] in
theorem put_mem_of_updated {cs : List (Change K V)} {k : K} {v : V} (h : (k, v) ∈ updated cs) :
    .put k v ∈ cs := by
  obtain ⟨c, hc, hrow⟩ := List.mem_filterMap.1 h
  cases c with
  | remove k' => cases hrow
  | put k' v' => cases hrow; exact hc
  | skip => cases hrow

theorem lookup_eraseAll (t : Table K V) (ks : List K) (k : K) :
    (ks.foldl Table.erase t).lookup k = if k ∈ ks then none else t.lookup k := by
  induction ks generalizing t with
  | nil => rfl
  | cons k' ks ih =>
    rw [List.foldl_cons, ih, Table.lookup_erase]
    by_cases hk : k = k'
    · simp [hk]
    · simp only [hk, if_false, List.mem_cons, false_or]

/-- **The loop** deletes all that is removed, and then puts all that is updated. -/
theorem applyAll_applyChanges (t : Table K V) (cs : List (Change K V)) (rows : List (K × V)) :
    applyAll t (applyChanges cs rows) =
      putAll ((removed cs).foldl Table.erase t) (rows ++ updated cs) := by
  induction cs generalizing t rows with
  | nil => rw [updated, List.filterMap_nil, List.append_nil]; rfl
  | cons c cs ih =>
    cases c with
    | remove k => exact ih (t.erase k) rows
    | put k v => exact (ih t _).trans (by rw [List.append_assoc]; rfl)
    | skip => exact ih t rows

/-- **The loop without removals** puts all that is updated. -/
theorem lookup_applyChanges_of_removed_nil (t : Table K V) {cs : List (Change K V)}
    (h : removed cs = []) (k : K) : (applyAll t (applyChanges cs [])).lookup k =
      (lastPut (updated cs) k).orElse fun _ ↦ t.lookup k := by
  rw [applyAll_applyChanges, h, List.nil_append, lookup_putAll]
  rfl

/-- It leaves alone what it does not update. -/
theorem lookup_applyChanges_of_not_updated (t : Table K V) {cs : List (Change K V)}
    (h : removed cs = []) {k : K} (hk : ∀ v, (k, v) ∉ updated cs) :
    (applyAll t (applyChanges cs [])).lookup k = t.lookup k := by
  have hnone : lastPut (updated cs) k = none := by
    by_contra hne
    obtain ⟨v, hv⟩ := Option.ne_none_iff_exists'.1 hne
    exact hk v (mem_of_lastPut hv)
  rw [lookup_applyChanges_of_removed_nil t h, hnone, Option.orElse_none]

/-- **A field with one value in all updates** is kept exactly if it has that value in all rows that
are updated. -/
theorem field_kept_iff {A : Type} (field : V → A) (a : A) (t : Table K V)
    {cs : List (Change K V)} (h : removed cs = [])
    (hput : ∀ k v, (k, v) ∈ updated cs → field v = a) :
    (∀ k row, t.lookup k = some row →
      ∃ row', (applyAll t (applyChanges cs [])).lookup k = some row' ∧ field row' = field row) ↔
        ∀ k v, (k, v) ∈ updated cs → ∀ row, t.lookup k = some row → field row = a := by
  constructor
  · intro hkept k v hv row hrow
    obtain ⟨row', hrow', hfield⟩ := hkept k row hrow
    obtain ⟨v', hv'⟩ := Option.ne_none_iff_exists'.1 (lastPut_ne_none hv)
    rw [lookup_applyChanges_of_removed_nil t h, hv', Option.orElse_some] at hrow'
    obtain rfl := Option.some.inj hrow'
    rw [← hfield, hput k v' (mem_of_lastPut hv')]
  · intro hsame k row hrow
    rw [lookup_applyChanges_of_removed_nil t h]
    cases hlast : lastPut (updated cs) k with
    | none => exact ⟨row, hrow, rfl⟩
    | some v =>
      have hmem := mem_of_lastPut hlast
      exact ⟨v, rfl, (hput k v hmem).trans (hsame k v hmem row hrow).symm⟩

/-- What a list says last is one of the things it says. -/
theorem last_spec (cs : List (Change K V)) (k : K) :
    (last cs k = none → lastPut (updated cs) k = none ∧ k ∉ removed cs) ∧
      (last cs k = some none → k ∈ removed cs) ∧
      ∀ v, last cs k = some (some v) → lastPut (updated cs) k = some v := by
  induction cs with
  | nil => simp [last, updated, removed, lastPut]
  | cons c cs ih =>
    obtain ⟨hnone, hgone, hrow⟩ := ih
    have hremoved : removed (c :: cs) = c.removedKey.toList ++ removed cs := by
      cases c <;> rfl
    have hupdated : updated (c :: cs) = c.updatedRow.toList ++ updated cs := by
      cases c <;> rfl
    rw [last_cons, hremoved, hupdated]
    cases hcs : last cs k with
    | none =>
      -- the list says what its first change says
      obtain ⟨hput, hrem⟩ := hnone hcs
      cases c with
      | remove k' =>
        by_cases hk : k = k' <;>
          simp [Change.about, Change.removedKey, Change.updatedRow, hk, hput, hrem]
      | put k' v' =>
        by_cases hk : k = k'
        · subst hk
          simp [Change.about, Change.removedKey, Change.updatedRow, hput]
        · simp [Change.about, Change.removedKey, Change.updatedRow, hk, hput, hrem]
      | skip => simp [Change.about, Change.removedKey, Change.updatedRow, hput, hrem]
    | some x =>
      -- the first change is not the last word
      cases x with
      | none => simp [hgone hcs]
      | some v =>
        have hput := hrow v hcs
        cases c <;> simp [Change.updatedRow, hput]

/-- **What the loop leaves at a key**: what the list says last about it, and the row as it was if it
says nothing. The list must not update a row that it removes in the end. -/
theorem lookup_applyChanges_at (t : Table K V) {cs : List (Change K V)} {k : K}
    (h : ∀ v, .put k v ∈ cs → last cs k ≠ some none) :
    (applyAll t (applyChanges cs [])).lookup k = (last cs k).getD (t.lookup k) := by
  rw [applyAll_applyChanges, List.nil_append, lookup_putAll, lookup_eraseAll]
  obtain ⟨hnone, hgone, hrow⟩ := last_spec cs k
  cases hcs : last cs k with
  | none =>
    obtain ⟨hput, hrem⟩ := hnone hcs
    rw [hput, if_neg hrem]
    rfl
  | some x =>
    cases x with
    | none =>
      have hput : lastPut (updated cs) k = none := by
        by_contra hne
        obtain ⟨v, hv⟩ := Option.ne_none_iff_exists'.1 hne
        exact h v (put_mem_of_updated (mem_of_lastPut hv)) hcs
      rw [hput, if_pos (hgone hcs)]
      rfl
    | some v => rw [hrow v hcs]; rfl

/-- **A list in order** leaves what it says last about any key. -/
theorem lookup_applyChanges (t : Table K V) {cs : List (Change K V)} (h : InOrder cs) (k : K) :
    (applyAll t (applyChanges cs [])).lookup k = (last cs k).getD (t.lookup k) :=
  lookup_applyChanges_at t (h k)

/-- A list in which one change speaks about a key. -/
theorem last_eq_about {cs : List (Change K V)} {c : Change K V} {k : K} (hc : c ∈ cs)
    (h : ∀ c' ∈ cs, c'.about k = none ∨ c'.about k = c.about k) : last cs k = c.about k := by
  have hall : ∀ cs : List (Change K V), (∀ c' ∈ cs, c'.about k = none ∨ c'.about k = c.about k) →
      (last cs k = none ∨ last cs k = c.about k) ∧ (c ∈ cs → last cs k = c.about k) := by
    intro cs hcs
    induction cs with
    | nil => exact ⟨Or.inl rfl, fun hmem ↦ absurd hmem List.not_mem_nil⟩
    | cons c' cs ih =>
      obtain ⟨hc', hrest⟩ := List.forall_mem_cons.1 hcs
      obtain ⟨hlast, hmem⟩ := ih hrest
      rw [last_cons]
      rcases hlast with hnone | hsome
      · rw [hnone, Option.orElse_none]
        refine ⟨hc', fun hin ↦ ?_⟩
        rcases List.mem_cons.1 hin with rfl | hin
        · rfl
        · have habout := hmem hin
          rw [hnone] at habout
          exact hc'.elim (fun h ↦ h.trans habout) id
      · rw [hsome]
        cases hx : c.about k with
        | none =>
          rw [hx] at hc'
          exact ⟨Or.inl (hc'.elim id id), fun _ ↦ hc'.elim id id⟩
        | some x => exact ⟨Or.inr rfl, fun _ ↦ rfl⟩
  exact (hall cs h).2 hc

/-- **One change about a key** decides what the loop leaves there. -/
theorem lookup_applyChanges_of_one (t : Table K V) {cs : List (Change K V)} {c : Change K V} {k : K}
    (hc : c ∈ cs) (h : ∀ c' ∈ cs, c'.about k = none ∨ c'.about k = c.about k) :
    (applyAll t (applyChanges cs [])).lookup k = (c.about k).getD (t.lookup k) := by
  rw [lookup_applyChanges_at, last_eq_about hc h]
  intro v hv
  have hput : (Change.put k v).about k = some (some v) := if_pos rfl
  rw [last_eq_about hc h]
  rcases h _ hv with hnone | hsame
  · rw [hput] at hnone
    exact absurd hnone (Option.some_ne_none _)
  · rw [← hsame, hput]
    exact fun heq ↦ Option.some_ne_none v (Option.some.inj heq)

/-! ### One change at a time -/

/-- The copy after a change. -/
def Change.apply (t : Table K V) : Change K V → Table K V
  | remove k => t.erase k
  | put k v => t.insert k v
  | skip => t

/-- The copy after changes, one by one. -/
def applyEach (t : Table K V) (cs : List (Change K V)) : Table K V := cs.foldl Change.apply t

theorem lookup_apply (t : Table K V) (c : Change K V) (k : K) :
    (c.apply t).lookup k = (c.about k).getD (t.lookup k) := by
  cases c with
  | remove k' =>
    rw [Change.apply, Table.lookup_erase, Change.about]
    split_ifs <;> rfl
  | put k' v =>
    rw [Change.apply, Table.lookup_insert, Change.about]
    split_ifs <;> rfl
  | skip => rfl

/-- **One by one**, the changes leave what they say last. -/
theorem lookup_applyEach (t : Table K V) (cs : List (Change K V)) (k : K) :
    (applyEach t cs).lookup k = (last cs k).getD (t.lookup k) := by
  induction cs generalizing t with
  | nil => rfl
  | cons c cs ih =>
    rw [applyEach, List.foldl_cons, ← applyEach, ih, lookup_apply, last_cons]
    rcases last cs k with - | x
    · rfl
    · rfl

/-- **The loop agrees with the changes one by one** exactly on the lists in order. -/
theorem applyAll_applyChanges_eq_iff (t : Table K V) (cs : List (Change K V)) :
    applyAll t (applyChanges cs []) = applyEach t cs ↔ InOrder cs := by
  refine ⟨fun h k v hput hlast ↦ ?_, fun h ↦ Table.ext_lookup fun k ↦ ?_⟩
  · have hgone : (applyEach t cs).lookup k = none := by
      rw [lookup_applyEach, hlast]
      rfl
    have hrow : lastPut (updated cs) k ≠ none :=
      lastPut_ne_none (List.mem_filterMap.2 ⟨.put k v, hput, rfl⟩)
    obtain ⟨v', hv'⟩ := Option.ne_none_iff_exists'.1 hrow
    rw [← h, applyAll_applyChanges, List.nil_append, lookup_putAll, hv'] at hgone
    cases hgone
  · rw [lookup_applyChanges t h, lookup_applyEach]

/-! ### Freshness -/

section Fresh

variable {A : Type} (state : ℤ → K → Option A) (view : V → A)

/-- Every row of the copy is the owner's row at the time `c` or later. -/
def Fresh (c : ℤ) (t : Table K V) : Prop :=
  ∀ k, ∃ τ, c ≤ τ ∧ (t.lookup k).map view = state τ k

/-- The list carries all changes between two times: what it says last about a key is the row at the
end, and a key it does not mention has not changed. -/
def Covers (since until' : ℤ) (cs : List (Change K V)) : Prop :=
  ∀ k, ∀ x, last cs k = x → x.elim (∀ τ, since ≤ τ → τ ≤ until' → state τ k = state until' k)
    fun v ↦ v.map view = state until' k

/-- The rows are all rows at the time. -/
def Whole (t : ℤ) (rows : List (K × V)) : Prop :=
  ∀ k a, state t k = some a ↔ ∃ v, (k, v) ∈ rows ∧ view v = a

variable {state view}

/-- **A list of changes brings a copy up to date**, if it begins where the copy stands or before. -/
theorem Fresh.delta {c since t : ℤ} {copy : Table K V} {cs : List (Change K V)}
    (h : Fresh state view c copy) (hsince : since ≤ c) (hcovers : Covers state view since t cs)
    (horder : InOrder cs) : Fresh state view t (applyAll copy (applyChanges cs [])) := by
  intro k
  rw [lookup_applyChanges copy horder]
  have hk := hcovers k _ rfl
  cases hlast : last cs k with
  | some v =>
    rw [hlast] at hk
    exact ⟨t, le_rfl, hk⟩
  | none =>
    rw [hlast] at hk
    obtain ⟨τ, hτ, heq⟩ := h k
    rcases le_total t τ with hle | hle
    · exact ⟨τ, hle, heq⟩
    · exact ⟨t, le_rfl, heq.trans (hk τ (hsince.trans hτ) hle)⟩

/-- **All rows together are a fresh copy.** -/
theorem fresh_whole {t : ℤ} {rows : List (K × V)} (h : Whole state view t rows) :
    Fresh state view t (putAll ∅ rows) := by
  intro k
  refine ⟨t, le_rfl, ?_⟩
  rw [lookup_putAll, Table.lookup_empty]
  cases hput : lastPut rows k with
  | some v => exact ((h k (view v)).2 ⟨v, mem_of_lastPut hput, rfl⟩).symm
  | none =>
    cases hstate : state t k with
    | none => rfl
    | some a =>
      obtain ⟨v, hv, -⟩ := (h k a).1 hstate
      exact absurd hput (lastPut_ne_none hv)

end Fresh

end Replica
