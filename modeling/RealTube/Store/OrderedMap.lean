import Mathlib.Data.List.Nodup
import Mathlib.Data.List.Induction
import Mathlib.Tactic.Common

/-!
# Maps in the order of insertion

A map that remembers the order in which its keys came: setting a key that is there replaces its
value in place, a new key goes to the end (`OrderedMap`). Two loops fill such a map from a list. One
sets a key for each element, so that the last element of a key wins (`get_setAll`). The other groups
the elements under their keys (`groupBy`): the groups are the elements of each key in order
(`get_groupBy`), and the keys come in the order of their first occurrence (`keys_groupBy`).
-/

/-- Entries in the order of insertion, one for each key. -/
structure OrderedMap (K V : Type) where
  entries : List (K × V)
  nodup : (entries.map Prod.fst).Nodup

namespace OrderedMap

variable {K V : Type}

/-- The map without entries. -/
def empty : OrderedMap K V := ⟨[], List.nodup_nil⟩

/-- The keys in the order of insertion. -/
def keys (m : OrderedMap K V) : List K := m.entries.map Prod.fst

/-- The number of entries. -/
def size (m : OrderedMap K V) : ℕ := m.entries.length

variable [DecidableEq K]

/-- The value of a key. -/
def get (m : OrderedMap K V) (k : K) : Option V := (m.entries.find? (·.1 = k)).map Prod.snd

theorem get_eq_some {m : OrderedMap K V} {k : K} {v : V} :
    m.get k = some v ↔ (k, v) ∈ m.entries := by
  obtain ⟨entries, hnodup⟩ := m
  change (entries.find? (·.1 = k)).map Prod.snd = some v ↔ (k, v) ∈ entries
  induction entries with
  | nil => simp
  | cons x entries ih =>
    rw [List.map_cons, List.nodup_cons] at hnodup
    obtain ⟨k', v'⟩ := x
    by_cases hk : k' = k
    · subst hk
      rw [List.find?_cons_of_pos (by simp), Option.map_some, Option.some_inj, List.mem_cons,
        Prod.mk.injEq]
      refine ⟨fun h ↦ Or.inl ⟨rfl, h.symm⟩, fun h ↦ ?_⟩
      exact (h.resolve_right fun hmem ↦ hnodup.1 (List.mem_map.2 ⟨_, hmem, rfl⟩)).2.symm
    · rw [List.find?_cons_of_neg (by simpa using hk), ih hnodup.2, List.mem_cons, Prod.mk.injEq,
        or_iff_right fun h ↦ hk h.1.symm]

/-- The entries after a key is set. -/
def setEntries (m : OrderedMap K V) (k : K) (v : V) : List (K × V) :=
  if k ∈ m.keys then m.entries.map fun x ↦ if x.1 = k then (k, v) else x
  else m.entries ++ [(k, v)]

theorem map_fst_setEntries (m : OrderedMap K V) (k : K) (v : V) :
    (m.setEntries k v).map Prod.fst = if k ∈ m.keys then m.keys else m.keys ++ [k] := by
  rw [setEntries]
  split_ifs
  · rw [List.map_map, keys]
    refine List.map_congr_left fun x _ ↦ ?_
    change (if x.1 = k then (k, v) else x).1 = x.1
    split_ifs with hx
    · exact hx.symm
    · rfl
  · exact List.map_append

/-- Set a key. -/
def set (m : OrderedMap K V) (k : K) (v : V) : OrderedMap K V where
  entries := m.setEntries k v
  nodup := by
    rw [map_fst_setEntries]
    split_ifs with hk
    · exact m.nodup
    · exact List.nodup_append.2 ⟨m.nodup, List.nodup_singleton k, fun a ha b hb ↦ by
        rw [List.mem_singleton.1 hb]
        exact fun heq ↦ hk (heq ▸ ha)⟩

theorem keys_set (m : OrderedMap K V) (k : K) (v : V) :
    (m.set k v).keys = if k ∈ m.keys then m.keys else m.keys ++ [k] := map_fst_setEntries m k v

theorem mem_setEntries {m : OrderedMap K V} {k k' : K} {v v' : V} :
    (k', v') ∈ m.setEntries k v ↔ if k' = k then v' = v else (k', v') ∈ m.entries := by
  rw [setEntries]
  split_ifs with hk heq heq
  · subst heq
    obtain ⟨x, hx, rfl⟩ := List.mem_map.1 hk
    rw [List.mem_map]
    refine ⟨fun ⟨y, _, hy⟩ ↦ ?_, fun h ↦ ⟨x, hx, by rw [if_pos rfl, h]⟩⟩
    split_ifs at hy with hkey
    · exact (Prod.mk.inj hy).2.symm
    · exact absurd (congrArg Prod.fst hy) hkey
  · rw [List.mem_map]
    refine ⟨fun ⟨y, hy, hset⟩ ↦ ?_, fun h ↦ ⟨(k', v'), h, if_neg heq⟩⟩
    split_ifs at hset
    · exact absurd (Prod.mk.inj hset).1.symm heq
    · exact hset ▸ hy
  · subst heq
    rw [List.mem_append, List.mem_singleton, Prod.mk.injEq, and_iff_right rfl,
      or_iff_right fun hmem ↦ hk (List.mem_map_of_mem hmem)]
  · rw [List.mem_append, List.mem_singleton, Prod.mk.injEq, or_iff_left fun h ↦ heq h.1]

theorem get_set (m : OrderedMap K V) (k k' : K) (v : V) :
    (m.set k v).get k' = if k' = k then some v else m.get k' := by
  refine Option.ext fun v' ↦ ?_
  rw [get_eq_some, show (m.set k v).entries = m.setEntries k v from rfl,
    mem_setEntries]
  split_ifs
  · exact ⟨fun h ↦ congrArg some h.symm, fun h ↦ (Option.some.inj h).symm⟩
  · exact get_eq_some.symm

/-! ### Filled from a list -/

/-- Set a key for each element. -/
def setAll (l : List (K × V)) : OrderedMap K V := l.foldl (fun m x ↦ m.set x.1 x.2) empty

/-- Add an element to a group. -/
def push (m : OrderedMap K (List V)) (k : K) (v : V) : OrderedMap K (List V) :=
  m.set k ((m.get k).getD [] ++ [v])

/-- Group the elements under their keys. -/
def groupBy (f : V → K) (l : List V) : OrderedMap K (List V) :=
  l.foldl (fun m x ↦ m.push (f x) x) empty

theorem setAll_append_singleton (l : List (K × V)) (x : K × V) :
    setAll (l ++ [x]) = (setAll l).set x.1 x.2 := List.foldl_append

theorem groupBy_append_singleton (f : V → K) (l : List V) (x : V) :
    groupBy f (l ++ [x]) = (groupBy f l).push (f x) x := List.foldl_append

/-- A new key comes last, and one that has occurred is left out. -/
theorem eraseDups_append_singleton (l : List K) (k : K) :
    (l ++ [k]).eraseDups = if k ∈ l.eraseDups then l.eraseDups else l.eraseDups ++ [k] := by
  rw [List.eraseDups_append, List.cons_removeAll, List.nil_removeAll]
  simp only [List.mem_eraseDups]
  by_cases hk : k ∈ l
  · simp [hk]
  · simp [hk, List.eraseDups_cons]

/-- **The keys that are set** come in the order of their first occurrence. -/
theorem keys_setAll (l : List (K × V)) : (setAll l).keys = (l.map Prod.fst).eraseDups := by
  induction l using List.reverseRecOn with
  | nil => rfl
  | append_singleton l x ih =>
    rw [setAll_append_singleton, keys_set, ih, List.map_append, List.map_singleton,
      eraseDups_append_singleton]

/-- **The last element of a key** is what is found under it. -/
theorem get_setAll (l : List (K × V)) (k : K) :
    (setAll l).get k = (l.reverse.find? (·.1 = k)).map Prod.snd := by
  induction l using List.reverseRecOn with
  | nil => rfl
  | append_singleton l x ih =>
    rw [setAll_append_singleton, get_set, ih, List.reverse_append, List.reverse_singleton,
      List.singleton_append, List.find?_cons]
    by_cases hk : k = x.1
    · subst hk
      simp
    · simp [hk, Ne.symm hk]

theorem get_setAll_eq_some {l : List (K × V)} {k : K} {v : V} :
    (setAll l).get k = some v ↔ ∃ l₁ l₂, l = l₁ ++ (k, v) :: l₂ ∧ ∀ x ∈ l₂, x.1 ≠ k := by
  rw [get_setAll, Option.map_eq_some_iff]
  constructor
  · rintro ⟨x, hfind, rfl⟩
    obtain ⟨hk, later, earlier, hsplit, hlater⟩ := List.find?_eq_some_iff_append.1 hfind
    obtain rfl : x.1 = k := by simpa using hk
    refine ⟨earlier.reverse, later.reverse, ?_, fun y hy ↦ ?_⟩
    · rw [← List.reverse_reverse l, hsplit, List.reverse_append, List.reverse_cons,
        List.append_assoc, List.singleton_append]
    · simpa using hlater y (List.mem_reverse.1 hy)
  · rintro ⟨earlier, later, rfl, hlater⟩
    refine ⟨(k, v), List.find?_eq_some_iff_append.2 ⟨by simp, later.reverse, earlier.reverse, ?_,
      fun y hy ↦ ?_⟩, rfl⟩
    · rw [List.reverse_append, List.reverse_cons, List.append_assoc, List.singleton_append]
    · simpa using hlater y (List.mem_reverse.1 hy)

/-- **The groups** come in the order of their first elements. -/
theorem keys_groupBy (f : V → K) (l : List V) : (groupBy f l).keys = (l.map f).eraseDups := by
  induction l using List.reverseRecOn with
  | nil => rfl
  | append_singleton l x ih =>
    rw [groupBy_append_singleton, push, keys_set, ih, List.map_append, List.map_singleton,
      eraseDups_append_singleton]

/-- **A group** has the elements of its key, in order. -/
theorem get_groupBy (f : V → K) (l : List V) (k : K) :
    ((groupBy f l).get k).getD [] = l.filter (f · = k) := by
  induction l using List.reverseRecOn with
  | nil => rfl
  | append_singleton l x ih =>
    rw [groupBy_append_singleton, push, get_set, List.filter_append]
    by_cases hk : k = f x
    · subst hk
      rw [if_pos rfl, Option.getD_some, ih, List.filter_cons_of_pos (by simp), List.filter_nil]
    · rw [if_neg hk, ih, List.filter_cons_of_neg (by simpa using Ne.symm hk), List.filter_nil,
        List.append_nil]

end OrderedMap
