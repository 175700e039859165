import Mathlib.Data.List.Infix
import Mathlib.Tactic.Common

/-!
# Elements and selectors

A document is a tree of **elements**, each with a tag and attributes; a number tells it from others
that look the same. Its elements are listed in tree order, an element before those inside of it
(`Element.subtree`), and the list has exactly the elements that can be reached by going from parents
to children (`mem_subtree`).

A **selector** is a list of alternatives, each a tag with conditions on the attributes. A query
lists the elements below an element that match one of them, in tree order.

An address comes apart into its path and its parameters.
-/

/-- An element with its attributes and its children. -/
inductive Element where
  | mk (ref : ℕ) (tag : String) (attributes : List (String × String)) (children : List Element)

/-- A condition on the attributes. -/
inductive Selector.Condition where
  /-- `#value`. -/
  | hasID (value : String)
  /-- `.value`. -/
  | hasClass (value : String)
  /-- `[name*='value']`. -/
  | attributeContains (name value : String)

/-- A tag with conditions. -/
structure Selector.Compound where
  tag : String
  conditions : List Selector.Condition

/-- Alternatives, separated by commas. -/
abbrev Selector : Type := List Selector.Compound

namespace Element

/-- What tells the element from others. -/
def ref : Element → ℕ
  | mk ref _ _ _ => ref

def tag : Element → String
  | mk _ tag _ _ => tag

def attributes : Element → List (String × String)
  | mk _ _ attributes _ => attributes

def children : Element → List Element
  | mk _ _ _ children => children

/-- `getAttribute`. -/
def getAttribute (e : Element) (name : String) : Option String :=
  (e.attributes.find? (·.1 = name)).map Prod.snd

/-! ### The tree -/

mutual

/-- The element and what is below it, in tree order. -/
def subtree : Element → List Element
  | mk ref tag attributes children => mk ref tag attributes children :: subtrees children

/-- The elements of a list and what is below them. -/
def subtrees : List Element → List Element
  | [] => []
  | e :: es => e.subtree ++ subtrees es

end

/-- An element is another, or inside of it. -/
inductive Within : Element → Element → Prop
  | refl (e : Element) : Within e e
  | child {e child root : Element} (h : Within e child) (hchild : child ∈ root.children) :
    Within e root

/-- The elements below an element, in tree order. -/
def descendants (e : Element) : List Element := subtrees e.children

theorem subtree_eq (e : Element) : e.subtree = e :: e.descendants := by
  cases e
  rw [subtree, descendants, children]

theorem mem_subtrees {e : Element} {es : List Element} :
    e ∈ subtrees es ↔ ∃ root ∈ es, e ∈ root.subtree := by
  induction es with
  | nil => simp [subtrees]
  | cons root es ih => rw [subtrees, List.mem_append, ih, List.exists_mem_cons_iff]

theorem mem_descendants {e root : Element} :
    e ∈ root.descendants ↔ ∃ child ∈ root.children, e ∈ child.subtree := mem_subtrees

mutual

/-- Whatever is listed is inside. -/
theorem within_of_mem_subtree {e : Element} : ∀ {root : Element}, e ∈ root.subtree → Within e root
  | mk ref tag attributes children, h => by
    rw [subtree, List.mem_cons] at h
    rcases h with rfl | h
    · exact .refl _
    · obtain ⟨child, hchild, hwithin⟩ := exists_within_of_mem_subtrees h
      exact hwithin.child hchild

theorem exists_within_of_mem_subtrees {e : Element} :
    ∀ {es : List Element}, e ∈ subtrees es → ∃ root ∈ es, Within e root
  | [], h => by
    rw [subtrees] at h
    exact absurd h List.not_mem_nil
  | root :: es, h => by
    rw [subtrees, List.mem_append] at h
    rcases h with h | h
    · exact ⟨root, List.mem_cons_self, within_of_mem_subtree h⟩
    · obtain ⟨root', hmem, hwithin⟩ := exists_within_of_mem_subtrees h
      exact ⟨root', List.mem_cons_of_mem _ hmem, hwithin⟩

end

/-- **The list has all elements of the tree**, and no others. -/
theorem mem_subtree {e root : Element} : e ∈ root.subtree ↔ Within e root := by
  refine ⟨within_of_mem_subtree, fun h ↦ ?_⟩
  induction h with
  | refl => exact subtree_eq e ▸ List.mem_cons_self
  | child _ hchild ih =>
    rw [subtree_eq]
    exact List.mem_cons_of_mem _ (mem_descendants.2 ⟨_, hchild, ih⟩)

/-! ### Queries -/

/-- The white space that separates classes. -/
def isSpace (c : Char) : Bool := c ∈ [' ', '\t', '\n', '\x0c', '\r']

/-- The classes of an element. -/
def classes (e : Element) : List String :=
  (((e.getAttribute "class").getD "").toList.splitOnP isSpace).map String.ofList

/-- A condition holds of an element. -/
def satisfies (e : Element) : Selector.Condition → Bool
  | .hasID value => e.getAttribute "id" = some value
  | .hasClass value => value ∈ e.classes
  | .attributeContains name value =>
    (e.getAttribute name).any fun s ↦ value ≠ "" ∧ value.toList <:+: s.toList

/-- `matches`. -/
def matchesSelector (e : Element) (selector : Selector) : Bool :=
  selector.any fun c ↦ e.tag = c.tag ∧ c.conditions.all e.satisfies

/-- `querySelectorAll`. -/
def querySelectorAll (e : Element) (selector : Selector) : List Element :=
  e.descendants.filter (·.matchesSelector selector)

/-- `querySelector`. -/
def querySelector (e : Element) (selector : Selector) : Option Element :=
  e.descendants.find? (·.matchesSelector selector)

end Element

/-! ### Addresses -/

/-- An address, come apart. -/
structure URL where
  pathname : String
  searchParams : List (String × String)

/-- `searchParams.get`: the first parameter of the name. -/
def URL.getParam (url : URL) (name : String) : Option String :=
  (url.searchParams.find? (·.1 = name)).map Prod.snd
