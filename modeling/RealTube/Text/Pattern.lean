import Mathlib.Data.List.DropRight
import Mathlib.Data.List.Infix
import Mathlib.Data.List.ReduceOption

/-!
# Texts and patterns

What programs do with the texts they are sent: trim them, put them in lower case, match them against
a regular expression, and use them in a `LIKE` pattern. A text is read character by character, and
may hold pieces that are no character at all.

The regular expressions are `^[…]+$` for a class of characters. Implementations agree on everything
but the end anchor, which in some of them also matches before a newline that ends the text. A text
that does not end in a newline is accepted exactly when it is not empty and all its characters are
in the class (`matchesClass_iff`), and trimming makes sure of that (`getLast?_trim_ne`).
-/

/-- A text as a program reads it. A piece that is no character is `none`: a byte that is not UTF-8,
or a surrogate without its other half. -/
abbrev Text : Type := List (Option Char)

namespace Text

/-- The text of a string. -/
def ofString (s : String) : Text := s.toList.map some

/-- The characters of a text. -/
def toString (s : Text) : String := String.ofList s.reduceOption

@[simp] theorem toString_ofString (s : String) : toString (ofString s) = s := by
  rw [toString, ofString, List.reduceOption, List.filterMap_map]
  exact (congrArg String.ofList List.filterMap_some).trans String.ofList_toList

@[simp] theorem length_ofString (s : String) : (ofString s).length = s.length := by
  rw [ofString, List.length_map, String.length_toList]

/-- All pieces are characters of the class. -/
def In (cls : List Char) (s : Text) : Prop := ∀ x ∈ s, ∃ c ∈ cls, x = some c

theorem in_ofString {cls : List Char} {s : String} :
    In cls (ofString s) ↔ ∀ c ∈ s.toList, c ∈ cls := by
  constructor
  · intro h c hc
    obtain ⟨c', hc', heq⟩ := h (some c) (List.mem_map_of_mem hc)
    exact Option.some.inj heq ▸ hc'
  · intro h x hx
    obtain ⟨c, hc, rfl⟩ := List.mem_map.1 hx
    exact ⟨c, h c hc, rfl⟩

/-- A text in a class is made of characters. -/
theorem In.eq_ofString {cls : List Char} {s : Text} (h : In cls s) : ofString (toString s) = s := by
  have hmap : s.reduceOption.map some = s := by
    induction s with
    | nil => rfl
    | cons x s ih =>
      obtain ⟨⟨c, -, rfl⟩, hs⟩ := List.forall_mem_cons.1 h
      rw [List.reduceOption_cons_of_some, List.map_cons, ih hs]
  rw [ofString, toString, String.toList_ofList, hmap]

theorem In.length_toString {cls : List Char} {s : Text} (h : In cls s) :
    (toString s).length = s.length := by
  rw [← length_ofString, h.eq_ofString]

/-! ### Trimming -/

/-- Remove spaces at both ends. -/
def trim (space : Char → Bool) (s : Text) : Text :=
  (s.dropWhile (·.any space)).rdropWhile (·.any space)

/-- A trimmed text does not end in a space. -/
theorem getLast?_trim_ne {space : Char → Bool} {c : Char} (hc : space c) (s : Text) :
    (trim space s).getLast? ≠ some (some c) := by
  intro h
  have hne : trim space s ≠ [] := fun hnil ↦ by
    rw [hnil] at h
    exact Option.some_ne_none _ h.symm
  have hnot : ¬ ((trim space s).getLast hne).any space := List.rdropWhile_last_not _ _ hne
  rw [List.getLast?_eq_some_getLast hne, Option.some_inj] at h
  rw [h] at hnot
  exact hnot hc

/-- A text without spaces is left as it is. -/
theorem trim_eq_self {space : Char → Bool} {s : Text} (h : ∀ x ∈ s, x.any space = false) :
    trim space s = s := by
  have hdrop : s.dropWhile (·.any space) = s := by
    refine List.dropWhile_eq_self_iff.2 fun hpos ↦ ?_
    rw [h _ (List.getElem_mem hpos)]
    exact Bool.false_ne_true
  rw [trim, hdrop, List.rdropWhile_eq_self_iff]
  intro hne
  rw [h _ (List.getLast_mem hne)]
  exact Bool.false_ne_true

/-- What is removed are spaces. -/
theorem exists_trim (space : Char → Bool) (s : Text) :
    ∃ u w, s = u ++ trim space s ++ w ∧ ∀ x ∈ u ++ w, x.any space := by
  refine ⟨s.takeWhile (·.any space), (s.dropWhile (·.any space)).rtakeWhile (·.any space), ?_, ?_⟩
  · rw [trim, List.append_assoc, List.rdropWhile_append_rtakeWhile, List.takeWhile_append_dropWhile]
  · intro x hx
    rcases List.mem_append.1 hx with hx | hx
    · exact List.mem_takeWhile_imp hx
    · exact List.mem_rtakeWhile_imp hx

theorem mem_of_mem_trim {space : Char → Bool} {x : Option Char} {s : Text}
    (h : x ∈ trim space s) : x ∈ s :=
  (List.dropWhile_sublist _).mem ((List.rdropWhile_prefix _ _).mem h)

/-- What is not left is a space. -/
theorem mem_trim_or_space {x : Option Char} {s : Text} (space : Char → Bool) (h : x ∈ s) :
    x ∈ trim space s ∨ ∃ c, x = some c ∧ space c := by
  obtain ⟨u, w, heq, hspace⟩ := exists_trim space s
  have hend : x ∈ u ++ w → ∃ c, x = some c ∧ space c :=
    fun hmem ↦ (Option.any_eq_true _ _).1 (hspace x hmem)
  rw [heq, List.append_assoc, List.mem_append, List.mem_append] at h
  rcases h with h | h | h
  · exact Or.inr (hend (List.mem_append_left w h))
  · exact Or.inl h
  · exact Or.inr (hend (List.mem_append_right u h))

/-- **All spaces around** a text without spaces are removed. -/
theorem trim_append {space : Char → Bool} {u t w : Text} (hspace : ∀ x ∈ u ++ w, x.any space)
    (ht : ∀ x ∈ t, x.any space = false) : trim space (u ++ t ++ w) = t := by
  obtain ⟨hu, hw⟩ := List.forall_mem_append.1 hspace
  have hright : ∀ s : Text, trim space (s ++ w) = trim space s := by
    intro s
    have hnil : w.dropWhile (·.any space) = [] := List.dropWhile_eq_nil_iff.2 hw
    rw [trim, List.dropWhile_append]
    split_ifs with hempty
    · rw [trim, List.isEmpty_iff.1 hempty, hnil]
    · rw [List.rdropWhile, List.reverse_append, List.dropWhile_append_of_pos]
      · rfl
      · exact fun x hx ↦ hw x (List.mem_reverse.1 hx)
  rw [hright, trim, List.dropWhile_append_of_pos hu]
  exact trim_eq_self ht

/-- A text may be trimmed before its characters are changed, if spaces stay spaces. -/
theorem trim_map {space : Char → Bool} {f : Option Char → Option Char}
    (hf : ∀ x, (f x).any space = x.any space) (s : Text) :
    trim space (s.map f) = (trim space s).map f := by
  have hcomp : ((fun x : Option Char ↦ x.any space) ∘ f) = fun x ↦ x.any space := funext hf
  rw [trim, trim, List.rdropWhile, List.rdropWhile, List.dropWhile_map, ← List.map_reverse,
    List.dropWhile_map, ← List.map_reverse, hcomp]

/-! ### Lower case -/

/-- A way to put texts in lower case. The letters of ASCII have their small ones, and nothing but a
newline becomes a newline at the end. -/
structure LowerCase where
  /-- The text in lower case. -/
  apply : Text → Text
  apply_ascii : ∀ s : List Char, (∀ c ∈ s, c.toNat < 128) →
    apply (s.map some) = s.map fun c ↦ some c.toLower
  getLast?_apply : ∀ s, (apply s).getLast? = some (some '\n') → s.getLast? = some (some '\n')

/-- The letters of ASCII only. -/
def LowerCase.ascii : LowerCase where
  apply s := s.map (Option.map Char.toLower)
  apply_ascii s _ := by
    rw [List.map_map]
    rfl
  getLast?_apply s h := by
    rw [List.getLast?_map, Option.map_eq_some_iff] at h
    obtain ⟨x, hx, hlower⟩ := h
    obtain ⟨c, rfl, hc⟩ := Option.map_eq_some_iff.1 hlower
    rw [hx]
    refine congrArg (some ∘ some) ?_
    -- a letter has a letter for its small one
    delta Char.toLower at hc
    split_ifs at hc with hupper
    · have hval : (c.val + 32).toNat = 10 := congrArg Char.toNat hc
      have hge : 65 ≤ c.val.toNat := hupper.1
      have hle : c.val.toNat ≤ 90 := hupper.2
      rw [UInt32.toNat_add, show (32 : UInt32).toNat = 32 from rfl] at hval
      omega
    · exact hc

/-! ### Classes of characters -/

/-- What the end anchor of a regular expression matches besides the end. -/
inductive EndAnchor where
  /-- Nothing. -/
  | strict
  /-- A newline that ends the text. -/
  | beforeNewline

/-- The end anchor matches before the rest of a text. -/
def EndAnchor.accepts : EndAnchor → Text → Bool
  | _, [] => true
  | .beforeNewline, [some '\n'] => true
  | _, _ => false

/-- The text matches `^[cls]+$`: some of its beginnings is in the class, and followed by the end. -/
def matchesClass (anchor : EndAnchor) (cls : List Char) (s : Text) : Bool :=
  (List.range s.length).any fun n ↦
    (s.take (n + 1)).all (·.any (· ∈ cls)) && anchor.accepts (s.drop (n + 1))

theorem in_iff_all {cls : List Char} {s : Text} : In cls s ↔ s.all (·.any (· ∈ cls)) := by
  rw [List.all_eq_true]
  refine forall₂_congr fun x _ ↦ ?_
  cases x with
  | none => simp
  | some c => simp

/-- **What a class accepts.** With a text that does not end in a newline, the anchors agree. -/
theorem matchesClass_iff {anchor : EndAnchor} {cls : List Char} {s : Text}
    (hnewline : anchor = .strict ∨ s.getLast? ≠ some (some '\n')) :
    matchesClass anchor cls s ↔ s ≠ [] ∧ In cls s := by
  rw [matchesClass, List.any_eq_true]
  constructor
  · rintro ⟨n, hn, h⟩
    rw [Bool.and_eq_true, ← in_iff_all] at h
    have hrest : s.drop (n + 1) = [] := by
      have haccepts := h.2
      rw [EndAnchor.accepts.eq_def] at haccepts
      split at haccepts
      · assumption
      · -- what is left is a newline, so the text ends in one
        refine absurd ?_ (hnewline.resolve_left (by rintro ⟨⟩))
        rw [← List.take_append_drop (n + 1) s, show s.drop (n + 1) = [some '\n'] from by assumption,
          List.getLast?_append, List.getLast?_singleton]
        rfl
      · exact absurd haccepts Bool.false_ne_true
    have hall : s.take (n + 1) = s := List.take_of_length_le (List.drop_eq_nil_iff.1 hrest)
    rw [hall] at h
    refine ⟨fun hnil ↦ ?_, h.1⟩
    rw [hnil] at hn
    exact List.not_mem_nil hn
  · rintro ⟨hne, h⟩
    have hpos : 0 < s.length := List.length_pos_of_ne_nil hne
    refine ⟨s.length - 1, List.mem_range.2 (by omega), ?_⟩
    rw [Nat.sub_add_cancel hpos, List.take_length, List.drop_length, Bool.and_eq_true, ← in_iff_all]
    exact ⟨h, rfl⟩

end Text

/-! ### `LIKE` -/

/-- The characters with a meaning in a pattern. -/
def likeSpecial : List Char := ['%', '_', '\\']

/-- The string has a first character, and it and the rest are as required. -/
def onHead (f : Char → List Char → Bool) : List Char → Bool
  | [] => false
  | d :: s => f d s

/-- The string matches the pattern, in the sense of SQL. A pattern that ends in the escape
character, which is an error, matches nothing. -/
def like : (pattern s : List Char) → Bool
  | [], s => s.isEmpty
  | c :: p, s =>
    if c = '%' then s.tails.any (like p)
    else if c = '_' then onHead (fun _ s ↦ like p s) s
    else if c = '\\' then
      match p with
      | [] => false
      | e :: p => onHead (fun d s ↦ e = d && like p s) s
    else onHead (fun d s ↦ c = d && like p s) s

/-- A lone `%` matches everything. -/
theorem like_percent (s : List Char) : like ['%'] s := by
  rw [like, if_pos rfl, List.any_eq_true]
  exact ⟨[], (List.mem_tails _ _).2 List.nil_suffix, rfl⟩

/-- A character without a meaning stands for itself. -/
theorem like_cons {c : Char} (hc : c ∉ likeSpecial) (p s : List Char) :
    like (c :: p) s = onHead (fun d s ↦ c = d && like p s) s := by
  have hne : c ≠ '%' ∧ c ≠ '_' ∧ c ≠ '\\' := by simpa [likeSpecial] using hc
  rw [like.eq_def]
  simp only [hne.1, hne.2.1, hne.2.2, if_false]

/-- **A pattern whose only special character is a `%` at the end** matches what begins with the
rest. -/
theorem like_append_percent {p : List Char} (hp : ∀ c ∈ p, c ∉ likeSpecial) (s : List Char) :
    like (p ++ ['%']) s ↔ p <+: s := by
  induction p generalizing s with
  | nil => exact iff_of_true (like_percent s) List.nil_prefix
  | cons c p ih =>
    obtain ⟨hc, hp⟩ := List.forall_mem_cons.1 hp
    rw [List.cons_append, like_cons hc]
    cases s with
    | nil => simp [onHead]
    | cons d s =>
      rw [List.cons_prefix_cons, ← ih hp s]
      simp [onHead]
