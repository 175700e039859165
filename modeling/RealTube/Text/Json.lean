import RealTube.Store.Replica
import RealTube.Store.Query

/-!
# JSON values

JSON documents as values, the way programs without types read them: a field is there or it is not
(`get`), and a value counts as true or as false (`truthy`). Encoders differ in which fields they
leave out (`fieldUnless`, `fieldOf`). A table is written as an object with a field for each row, in
any order, and read back field by field (`get_ofTable`).
-/

/-- A JSON value. -/
inductive Json where
  | null
  | bool (b : Bool)
  | num (x : ℚ)
  | str (s : String)
  | arr (xs : List Json)
  | obj (fields : List (String × Json))

namespace Json

/-- A field of an object: of several with one name, the last. -/
def get (key : String) : Json → Option Json
  | obj fields => Replica.lastPut fields key
  | _ => none

/-- A field that is a string. -/
def getStr (key : String) (j : Json) : Option String :=
  match j.get key with
  | some (str s) => some s
  | _ => none

/-- The elements of a field that is an array. -/
def getItems (key : String) (j : Json) : List Json :=
  match j.get key with
  | some (arr xs) => xs
  | _ => []

/-- The value counts as true. -/
def truthy : Json → Bool
  | null => false
  | bool b => b
  | num x => x ≠ 0
  | str s => s ≠ ""
  | arr _ => true
  | obj _ => true

/-! ### Encoding -/

/-- A field that is left out under a condition. -/
def fieldUnless (omitted : Bool) (key : String) (j : Json) : List (String × Json) :=
  if omitted then [] else [(key, j)]

/-- A field that is left out if there is no value. -/
def fieldOf (key : String) (j : Option Json) : List (String × Json) :=
  j.elim [] fun j ↦ [(key, j)]

/-- A table as an object. -/
def ofTable {V : Type} (order : Arrangement String) (f : V → Json) (t : Table String V) : Json :=
  obj ((t.rows order fun _ ↦ True).map fun x ↦ (x.1, f x.2))

/-- The value is an object with a field for each row of the table, and no others. -/
def Represents {V : Type} (j : Json) (f : V → Json) (t : Table String V) : Prop :=
  (∃ fields, j = obj fields) ∧ ∀ key, j.get key = (t.lookup key).map f

/-- An object with one field for each key. -/
theorem get_obj_of_mem {fields : List (String × Json)} (h : (fields.map Prod.fst).Nodup)
    {key : String} {j : Json} (hmem : (key, j) ∈ fields) : (obj fields).get key = some j := by
  obtain ⟨j', hj'⟩ := Option.ne_none_iff_exists'.1 (Replica.lastPut_ne_none hmem)
  have hmem' := Replica.mem_of_lastPut hj'
  rw [get, hj', Option.some_inj]
  exact congrArg Prod.snd (List.inj_on_of_nodup_map h hmem' hmem rfl)

/-- **A table is read back** row by row. -/
theorem get_ofTable {V : Type} (order : Arrangement String) (f : V → Json) (t : Table String V)
    (key : String) : (ofTable order f t).get key = (t.lookup key).map f := by
  have hkeys : (((t.rows order fun _ ↦ True).map fun x ↦ (x.1, f x.2)).map Prod.fst).Nodup := by
    rw [List.map_map]
    exact Table.nodup_keys_rows
  cases hrow : t.lookup key with
  | some r =>
    refine get_obj_of_mem hkeys ?_
    exact List.mem_map.2 ⟨(key, r), Table.mem_rows.2 ⟨hrow, trivial⟩, rfl⟩
  | none =>
    rw [ofTable, get, Option.map_none]
    by_contra hne
    obtain ⟨j, hj⟩ := Option.ne_none_iff_exists'.1 hne
    obtain ⟨x, hx, heq⟩ := List.mem_map.1 (Replica.mem_of_lastPut hj)
    have hlook := (Table.mem_rows.1 hx).1
    rw [(Prod.mk.inj heq).1, hrow] at hlook
    exact Option.some_ne_none _ hlook.symm

theorem represents_ofTable {V : Type} (order : Arrangement String) (f : V → Json)
    (t : Table String V) : (ofTable order f t).Represents f t :=
  ⟨⟨_, rfl⟩, get_ofTable order f t⟩

end Json
