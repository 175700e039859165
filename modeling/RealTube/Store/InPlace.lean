import Mathlib.Data.List.Basic
import Mathlib.Tactic.Common

/-!
# Lists rewritten in place

A loop goes through a list from the left and replaces elements, each by what the element before it
asks for (`f`), if anything. It writes into the list that it reads, so what it looks at is the
element before as it is **by now** (`getElem?_succ_loop`).

The elements of the list itself may have been asked instead (`Follows`). The loop does that exactly
if no two elements in a row ask for something, but for an element after them that is already what
the second asks for (`follows_loop_iff`). The replacements must ask for nothing themselves.
-/

namespace InPlace

variable {α : Type} (f : α → Option α)

/-- The body of the loop. There is nothing before the first element. -/
def stepAt (xs : List α) (i : ℕ) : List α :=
  if i = 0 then xs else ((xs[i - 1]?.bind f).elim xs fun y ↦ xs.set i y)

/-- The loop, up to an index. -/
def loopTo (xs : List α) (n : ℕ) : List α := (List.range n).foldl (stepAt f) xs

/-- The loop. -/
def loop (xs : List α) : List α := loopTo f xs xs.length

/-- Every element is what the element before it in the list asks for, or as it is in the list. -/
structure Follows (xs out : List α) : Prop where
  length : out.length = xs.length
  first : out[0]? = xs[0]?
  next : ∀ i a b, xs[i]? = some a → xs[i + 1]? = some b → out[i + 1]? = some ((f a).getD b)

variable {f} {xs : List α}

theorem loopTo_succ (n : ℕ) : loopTo f xs (n + 1) = stepAt f (loopTo f xs n) n := by
  rw [loopTo, List.range_succ, List.foldl_append]
  rfl

theorem length_stepAt (xs : List α) (i : ℕ) : (stepAt f xs i).length = xs.length := by
  rw [stepAt]
  split_ifs with hi
  · rfl
  · cases xs[i - 1]?.bind f with
    | none => rfl
    | some y => exact List.length_set

/-- A step changes nothing elsewhere. -/
theorem getElem?_stepAt_ne {i j : ℕ} (h : j ≠ i) : (stepAt f xs i)[j]? = xs[j]? := by
  rw [stepAt]
  split_ifs with hi
  · rfl
  · cases xs[i - 1]?.bind f with
    | none => rfl
    | some y => exact List.getElem?_set_ne (Ne.symm h)

/-- What a step writes. -/
theorem getElem?_stepAt_succ {i : ℕ} {a b : α} (ha : xs[i]? = some a) (hb : xs[i + 1]? = some b) :
    (stepAt f xs (i + 1))[i + 1]? = some ((f a).getD b) := by
  rw [stepAt, if_neg (Nat.succ_ne_zero i), Nat.add_sub_cancel, ha, Option.bind_some]
  cases f a with
  | none => exact hb
  | some y =>
    obtain ⟨hlt, -⟩ := List.getElem?_eq_some_iff.1 hb
    exact List.getElem?_set_self hlt

@[simp] theorem length_loopTo (n : ℕ) : (loopTo f xs n).length = xs.length := by
  induction n with
  | zero => rfl
  | succ n ih => rw [loopTo_succ, length_stepAt, ih]

/-- The loop has not come to the rest. -/
theorem getElem?_loopTo_of_le {n j : ℕ} (h : n ≤ j) : (loopTo f xs n)[j]? = xs[j]? := by
  induction n with
  | zero => rfl
  | succ n ih => rw [loopTo_succ, getElem?_stepAt_ne (by omega), ih (by omega)]

/-- Nothing before an index changes any more. -/
theorem getElem?_loopTo_of_lt {n m j : ℕ} (hj : j < n) (hn : n ≤ m) :
    (loopTo f xs m)[j]? = (loopTo f xs n)[j]? := by
  induction hn with
  | refl => rfl
  | step hm ih =>
    have hle : n ≤ _ := hm
    rw [loopTo_succ, getElem?_stepAt_ne (by omega), ih]

@[simp] theorem length_loop : (loop f xs).length = xs.length := length_loopTo xs.length

theorem getElem?_zero_loop : (loop f xs)[0]? = xs[0]? := by
  rw [loop]
  cases hlen : xs.length with
  | zero => rfl
  | succ n =>
    rw [getElem?_loopTo_of_lt (n := 1) (by omega) (by omega)]
    rfl

/-- **What the loop leaves** after an element, by that element as the loop leaves it. -/
theorem getElem?_succ_loop {i : ℕ} {a b : α} (ha : (loop f xs)[i]? = some a)
    (hb : xs[i + 1]? = some b) : (loop f xs)[i + 1]? = some ((f a).getD b) := by
  obtain ⟨hlt, -⟩ := List.getElem?_eq_some_iff.1 hb
  rw [loop, getElem?_loopTo_of_lt (n := i + 1) (by omega) (by omega)] at ha
  rw [loop, getElem?_loopTo_of_lt (n := i + 2) (by omega) (by omega), loopTo_succ]
  exact getElem?_stepAt_succ ha ((getElem?_loopTo_of_le (Nat.le_refl _)).trans hb)

/-- An element that has been replaced asks for nothing. -/
theorem eq_or_asks_nothing (hf : ∀ a y, f a = some y → f y = none) {i : ℕ} {a b : α}
    (ha : xs[i]? = some a) (hb : (loop f xs)[i]? = some b) : b = a ∨ f b = none := by
  cases i with
  | zero =>
    rw [getElem?_zero_loop, ha] at hb
    exact Or.inl (Option.some.inj hb).symm
  | succ i =>
    have hlt : i < (loop f xs).length := by
      obtain ⟨hlt, -⟩ := List.getElem?_eq_some_iff.1 hb
      omega
    have hprev : (loop f xs)[i]? = some (loop f xs)[i] := List.getElem?_eq_getElem hlt
    rw [getElem?_succ_loop hprev ha] at hb
    obtain rfl := Option.some.inj hb
    cases hask : f (loop f xs)[i] with
    | none => exact Or.inl rfl
    | some y => exact Or.inr (hf _ y hask)

/-- **An element that has been replaced** comes after one that asks for something. -/
theorem exists_asks_of_ne (hf : ∀ a y, f a = some y → f y = none) {i : ℕ} {a b : α}
    (ha : xs[i]? = some a) (hb : (loop f xs)[i]? = some b) (hne : b ≠ a) :
    ∃ j a', i = j + 1 ∧ xs[j]? = some a' ∧ f a' ≠ none := by
  cases i with
  | zero =>
    rw [getElem?_zero_loop, ha] at hb
    exact absurd (Option.some.inj hb).symm hne
  | succ j =>
    obtain ⟨hlt, -⟩ := List.getElem?_eq_some_iff.1 ha
    have hlen : (loop f xs).length = xs.length := length_loop
    have hprev : (loop f xs)[j]? = some (loop f xs)[j] := List.getElem?_eq_getElem (by omega)
    have ha' : xs[j]? = some xs[j] := List.getElem?_eq_getElem (by omega)
    rw [getElem?_succ_loop hprev ha, Option.some_inj] at hb
    have hasks : f (loop f xs)[j] ≠ none := fun hnone ↦ by
      rw [hnone] at hb
      exact hne hb.symm
    -- what asks has not been replaced
    have hsame := (eq_or_asks_nothing hf ha' hprev).resolve_right hasks
    exact ⟨j, xs[j], rfl, ha', hsame ▸ hasks⟩

/-- **Where the loop does what the elements of the list ask for**: everywhere but after two in a row
that ask for something, if what follows is not that already. -/
theorem follows_loop_iff (hf : ∀ a y, f a = some y → f y = none) :
    Follows f xs (loop f xs) ↔ ∀ i a b c, xs[i]? = some a → xs[i + 1]? = some b →
      xs[i + 2]? = some c → f a ≠ none → ∀ y, f b = some y → c = y := by
  constructor
  · intro h i a b c ha hb hc hasks y hy
    obtain ⟨z, hz⟩ := Option.ne_none_iff_exists'.1 hasks
    -- the loop has replaced the second, and then leaves the third as it is
    have hsecond : (loop f xs)[i + 1]? = some z := by
      rw [h.next i a b ha hb, hz]
      rfl
    have hthird := h.next (i + 1) b c hb hc
    rw [getElem?_succ_loop hsecond hc, hf a z hz, hy] at hthird
    exact Option.some.inj hthird
  · intro h
    refine ⟨length_loop, getElem?_zero_loop, fun i a b ha hb ↦ ?_⟩
    obtain ⟨hlt, -⟩ := List.getElem?_eq_some_iff.1 hb
    have hlen : (loop f xs).length = xs.length := length_loop
    have hnow : (loop f xs)[i]? = some (loop f xs)[i] := List.getElem?_eq_getElem (by omega)
    rw [getElem?_succ_loop hnow hb]
    by_cases hsame : (loop f xs)[i] = a
    · rw [hsame]
    · rw [(eq_or_asks_nothing hf ha hnow).resolve_left hsame]
      obtain ⟨j, a', rfl, ha', hasks⟩ := exists_asks_of_ne hf ha hnow hsame
      cases hask : f a with
      | none => rfl
      | some y =>
        rw [h j a' a b ha' ha hb hasks y hask]
        rfl

/-- Whatever holds of the elements and of all they can ask for holds of what the loop leaves. -/
theorem forall_mem_loop {P : α → Prop} (hxs : ∀ x ∈ xs, P x) (hf : ∀ a y, f a = some y → P y) :
    ∀ x ∈ loop f xs, P x := by
  have hto : ∀ n, ∀ x ∈ loopTo f xs n, P x := by
    intro n
    induction n with
    | zero => exact hxs
    | succ n ih =>
      intro x hx
      rw [loopTo_succ, stepAt] at hx
      split_ifs at hx with hn
      · exact ih x hx
      · cases hask : (loopTo f xs n)[n - 1]?.bind f with
        | none =>
          rw [hask] at hx
          exact ih x hx
        | some y =>
          rw [hask] at hx
          obtain ⟨a, -, ha⟩ := Option.bind_eq_some_iff.1 hask
          rcases List.mem_or_eq_of_mem_set hx with hx | rfl
          · exact ih x hx
          · exact hf a _ ha
  exact hto xs.length

end InPlace
