import RealTube.Store.Table

/-!
# Reading changes by a cursor

A table whose rows carry the time of their last change, and a reader who polls it: each poll asks
for the rows changed after a **cursor**, answers them, and moves the cursor. The poll reads at one
moment and moves the cursor at a later one, and in between the table goes on changing.

`ChangeFeed` is the table with what has happened to it: all changes so far, what the poll under way
has found, and what the polls that have ended have answered. `Inv` says that every change up to the
cursor has been answered, by that version of the row or a newer one. Two steps keep it only under a
condition: a poll may move the cursor over the changes it could see and no others (`Inv.answer`),
and a change may not come in behind the cursor (`Inv.write`).
-/

/-- A table with stamped rows, its changes, and what has been read of it. -/
structure ChangeFeed (K V : Type) where
  table : Table K V
  /-- The changes so far: of which key, and when. -/
  changes : List (K × ℤ)
  /-- The changes that the poll under way could see, and the rows it has found. -/
  found : Option (List (K × ℤ) × List (K × V))
  /-- The rows answered by the polls that have ended. -/
  answered : List (K × V)

namespace ChangeFeed

variable {K V : Type} [DecidableEq K] (stamp : V → ℤ)

/-- No rows and no changes. -/
def empty : ChangeFeed K V := ⟨∅, [], none, []⟩

/-- Write a row. -/
def write (f : ChangeFeed K V) (k : K) (r : V) : ChangeFeed K V :=
  { f with table := f.table.insert k r, changes := f.changes ++ [(k, stamp r)] }

/-- The poll finds rows. -/
def find (f : ChangeFeed K V) (rows : List (K × V)) : ChangeFeed K V :=
  { f with found := some (f.changes, rows) }

/-- The poll ends, and answers what it has found. -/
def answer (f : ChangeFeed K V) : ChangeFeed K V :=
  { f with found := none, answered := f.answered ++ f.found.elim [] Prod.snd }

/-- The changes up to `t` that the cursor has not reached are among those the poll could see. -/
def SeenUntil (f : ChangeFeed K V) (cursor t : ℤ) : Prop :=
  ∀ x ∈ f.changes, cursor < x.2 → x.2 ≤ t → ∃ y ∈ f.found, x ∈ y.1

instance (f : ChangeFeed K V) (cursor t : ℤ) : Decidable (f.SeenUntil cursor t) :=
  inferInstanceAs (Decidable (∀ x ∈ f.changes, _))

/-- **Every change up to the cursor has been answered.** -/
structure Inv (now cursor : ℤ) (f : ChangeFeed K V) : Prop where
  /-- A row carries the time of one of its changes. -/
  stamped : ∀ k r, f.table.lookup k = some r → (k, stamp r) ∈ f.changes
  /-- That change is the last one. -/
  newest : ∀ x ∈ f.changes, ∃ r, f.table.lookup x.1 = some r ∧ x.2 ≤ stamp r
  past : ∀ x ∈ f.changes, x.2 ≤ now
  complete : ∀ x ∈ f.changes, x.2 ≤ cursor → ∃ r, (x.1, r) ∈ f.answered ∧ x.2 ≤ stamp r
  /-- The poll under way has found the changes it could see. -/
  found : ∀ y ∈ f.found, ∀ x ∈ y.1, cursor < x.2 → ∃ r, (x.1, r) ∈ y.2 ∧ x.2 ≤ stamp r

variable {stamp} {now cursor : ℤ} {f : ChangeFeed K V}

theorem inv_empty : Inv stamp now cursor (empty : ChangeFeed K V) where
  stamped _ _ h := by cases h
  newest _ h := by cases h
  past _ h := by cases h
  complete _ h := by cases h
  found _ h := by cases h

/-- Time passes. -/
theorem Inv.pass (h : Inv stamp now cursor f) {t : ℤ} (ht : now ≤ t) : Inv stamp t cursor f :=
  { h with past := fun x hx ↦ (h.past x hx).trans ht }

/-- **A change ahead of the cursor.** -/
theorem Inv.write (h : Inv stamp now cursor f) (hcursor : cursor < now) (k : K) {r : V}
    (hr : stamp r = now) : Inv stamp now cursor (f.write stamp k r) where
  stamped k' r' hlook := by
    rw [ChangeFeed.write, Table.lookup_insert] at hlook
    split_ifs at hlook with hk
    · obtain rfl := Option.some.inj hlook
      exact List.mem_append_right _ (by rw [hk]; exact List.mem_singleton_self _)
    · exact List.mem_append_left _ (h.stamped k' r' hlook)
  newest x hx := by
    have hlook : ∀ k', (f.write stamp k r).table.lookup k' =
        if k' = k then some r else f.table.lookup k' := fun k' ↦ Table.lookup_insert ..
    rw [hlook]
    rcases List.mem_append.1 hx with hx | hx
    · obtain ⟨r', hr', hle⟩ := h.newest x hx
      split_ifs with hk
      · exact ⟨r, rfl, (h.past x hx).trans_eq hr.symm⟩
      · exact ⟨r', hr', hle⟩
    · rw [List.mem_singleton.1 hx, if_pos rfl]
      exact ⟨r, rfl, le_rfl⟩
  past x hx := by
    rcases List.mem_append.1 hx with hx | hx
    · exact h.past x hx
    · rw [List.mem_singleton.1 hx]
      exact hr.le
  complete x hx hle := by
    rcases List.mem_append.1 hx with hx | hx
    · exact h.complete x hx hle
    · rw [List.mem_singleton.1 hx] at hle
      exact absurd (hcursor.trans_eq hr.symm) (not_lt.2 hle)
  found := h.found

/-- **A poll that finds every row stamped after the cursor** finds every change it can see. -/
theorem Inv.find (h : Inv stamp now cursor f) {rows : List (K × V)}
    (hrows : ∀ k r, f.table.lookup k = some r → cursor < stamp r → (k, r) ∈ rows) :
    Inv stamp now cursor (f.find rows) where
  stamped := h.stamped
  newest := h.newest
  past := h.past
  complete := h.complete
  found y hy x hx hlt := by
    obtain rfl := Option.some.inj hy
    obtain ⟨r, hr, hle⟩ := h.newest x hx
    exact ⟨r, hrows x.1 r hr (hlt.trans_le hle), hle⟩

/-- **A poll that ends moves the cursor** over the changes it could see. -/
theorem Inv.answer (h : Inv stamp now cursor f) {t : ℤ} (hseen : f.SeenUntil cursor t) :
    Inv stamp now t f.answer where
  stamped := h.stamped
  newest := h.newest
  past := h.past
  complete x hx hle := by
    rcases le_or_gt x.2 cursor with hold | hnew
    · obtain ⟨r, hr, hstamp⟩ := h.complete x hx hold
      exact ⟨r, List.mem_append_left _ hr, hstamp⟩
    · obtain ⟨y, hy, hxy⟩ := hseen x hx hnew hle
      obtain ⟨r, hr, hstamp⟩ := h.found y hy x hxy hnew
      refine ⟨r, List.mem_append_right _ ?_, hstamp⟩
      rw [Option.mem_def.1 hy]
      exact hr
  found _ hy := by cases hy

end ChangeFeed
