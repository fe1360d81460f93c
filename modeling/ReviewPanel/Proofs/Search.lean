import Mathlib.Data.List.Infix
import Mathlib.Data.List.TakeWhile
import ReviewPanel.Text.Search

/-!
# Searching — what is found

A text holds another exactly when the characters of the other stand in it as
one unbroken stretch (`occursIn_iff`). Where the text is cut at a character that the
other does not have, the stretch stands on one side of the cut (`infix_iff_of_cut`).

A part between two separators, the first and the last one aside, is what stands between
two of them in the text (`mem_inner_splitAt_iff`).
-/

namespace ReviewPanel.Text

theorem startsWith_iff {needle text : List Char} :
    startsWith needle text = true ↔ needle <+: text :=
  List.isPrefixOf_iff_prefix

/-- The search is that for a piece of the text. -/
theorem occursIn_iff {needle text : List Char} :
    occursIn needle text = true ↔ needle <:+: text := by
  induction text with
  | nil => rw [occursIn, List.isEmpty_iff, List.infix_nil]
  | cons c rest ih => rw [occursIn, Bool.or_eq_true, startsWith_iff, ih, List.infix_cons_iff]

theorem contains_iff {text needle : String} :
    contains text needle = true ↔ needle.toList <:+: text.toList :=
  occursIn_iff

/-- A piece stands at some place of a text. -/
theorem infix_iff_exists_drop {α : Type} {piece text : List α} :
    piece <:+: text ↔ ∃ k, piece <+: text.drop k := by
  constructor
  · rintro ⟨before, after, rfl⟩
    refine ⟨before.length, after, ?_⟩
    rw [List.append_assoc, List.drop_left]
  · rintro ⟨k, hPrefix⟩
    exact hPrefix.isInfix.trans (List.drop_suffix k text).isInfix

/-- A piece that does not hold the character at which a text is cut stands in front of the cut,
or behind it. -/
theorem infix_iff_of_cut {α : Type} {p : α → Bool} {piece text : List α}
    (hPiece : ∀ x ∈ piece, p x = true) :
    piece <:+: text ↔ piece <:+: text.takeWhile p ∨ piece <:+: text.dropWhile p := by
  constructor
  · rintro ⟨before, after, rfl⟩
    rw [List.append_assoc]
    by_cases hBefore : ∀ x ∈ before, p x = true
    · -- the cut comes after the piece
      refine Or.inl ⟨before, after.takeWhile p, ?_⟩
      rw [List.takeWhile_append_of_pos hBefore, List.takeWhile_append_of_pos hPiece,
        List.append_assoc]
    · -- the cut comes before the piece
      refine Or.inr ⟨before.dropWhile p, after, ?_⟩
      have hCut : (before.dropWhile p).isEmpty = false := by
        rw [Bool.eq_false_iff, ne_eq, List.isEmpty_iff, List.dropWhile_eq_nil_iff]
        exact hBefore
      rw [List.dropWhile_append, if_neg (by simp [hCut]), List.append_assoc]
  · rintro (hFront | hRest)
    · exact hFront.trans (List.takeWhile_prefix p).isInfix
    · exact hRest.trans (List.dropWhile_suffix p).isInfix

/-! ## Parts between separators -/

variable {separator : Char} {part text : List Char}

/-- Cutting at a character is what the library calls splitting. -/
theorem splitAt_eq_splitOn (separator : Char) (text : List Char) :
    splitAt separator text = text.splitOn separator := by
  induction text with
  | nil => rfl
  | cons c rest ih =>
    rw [List.splitOn_eq_splitOnP, List.splitOnP_cons_eq_if_modifyHead, ← List.splitOn_eq_splitOnP,
      ← ih, splitAt]
    cases hParts : splitAt separator rest with
    | nil => exact absurd (ih.symm.trans hParts) (List.splitOn_ne_nil _ _)
    | cons first parts => simp [beq_iff_eq]

/-- A text is cut at a separator in it. -/
theorem splitAt_append_cons (before after : List Char) :
    splitAt separator (before ++ separator :: after) =
      splitAt separator before ++ splitAt separator after := by
  simp only [splitAt_eq_splitOn, List.splitOn_eq_splitOnP]
  exact List.splitOnP_append_cons _ _ (beq_self_eq_true separator)

theorem splitAt_of_not_mem (hNone : separator ∉ part) : splitAt separator part = [part] := by
  rw [splitAt_eq_splitOn, List.splitOn_eq_splitOnP, List.splitOnP_eq_singleton]
  intro x hx
  rw [beq_eq_false_iff_ne]
  rintro rfl
  exact hNone hx

theorem splitAt_ne_nil (text : List Char) : splitAt separator text ≠ [] := by
  rw [splitAt_eq_splitOn]
  exact List.splitOn_ne_nil _ _

/-- The parts are made of characters of the text. -/
theorem mem_of_mem_splitAt {x : Char} (hPart : part ∈ splitAt separator text) (hx : x ∈ part) :
    x ∈ text := by
  induction text generalizing part with
  | nil =>
    rw [List.mem_singleton.mp hPart] at hx
    exact hx
  | cons c rest ih =>
    rw [splitAt] at hPart
    cases hParts : splitAt separator rest with
    | nil => exact absurd hParts (splitAt_ne_nil rest)
    | cons first parts =>
      rw [hParts] at hPart ih
      simp only at hPart
      split at hPart
      · -- the text is cut here, and the first part is empty
        rcases List.mem_cons.mp hPart with rfl | hLater
        · cases hx
        · exact List.mem_cons_of_mem _ (ih hLater hx)
      · rcases List.mem_cons.mp hPart with rfl | hLater
        · -- the first part has the new character in front
          rcases List.mem_cons.mp hx with rfl | hFirst
          · exact List.mem_cons_self ..
          · exact List.mem_cons_of_mem _ (ih (List.mem_cons_self ..) hFirst)
        · exact List.mem_cons_of_mem _ (ih (List.mem_cons_of_mem _ hLater) hx)

/-- Where parts are put together, there is nothing beside the parts and what stands between. -/
theorem mem_of_mem_intercalate {α : Type} {x : α} {between : List α} {parts : List (List α)}
    (hMem : x ∈ between.intercalate parts) : x ∈ between ∨ ∃ part ∈ parts, x ∈ part := by
  induction parts with
  | nil => cases hMem
  | cons first rest ih =>
    cases rest with
    | nil => exact Or.inr ⟨first, List.mem_singleton_self _, by simpa using hMem⟩
    | cons second more =>
      rw [List.intercalate_cons_cons, List.mem_append, List.mem_append] at hMem
      rcases hMem with (hFirst | hBetween) | hLater
      · exact Or.inr ⟨first, List.mem_cons_self .., hFirst⟩
      · exact Or.inl hBetween
      · exact (ih hLater).imp_right fun ⟨part, hPart, hx⟩ =>
          ⟨part, List.mem_cons_of_mem _ hPart, hx⟩

/-- Where parts are put together, one that is not the last has a separator behind it. -/
theorem infix_intercalate_of_mem_dropLast {parts : List (List Char)}
    (hMem : part ∈ parts.dropLast) :
    separator :: (part ++ [separator]) <:+: separator :: [separator].intercalate parts := by
  induction parts with
  | nil => cases hMem
  | cons first rest ih =>
    cases rest with
    | nil => cases hMem
    | cons second more =>
      rw [List.intercalate_cons_cons]
      rcases List.mem_cons.mp hMem with rfl | hLater
      · exact ⟨[], [separator].intercalate (second :: more), by simp⟩
      · -- the separator in front of the later parts is the one behind the first
        refine (ih hLater).trans ⟨separator :: first, [], ?_⟩
        simp

/-- What stands between two separators of a text is a part of it, neither the first nor the
last. -/
theorem mem_inner_splitAt_iff (hNone : separator ∉ part) :
    part ∈ (splitAt separator text).tail.dropLast ↔
      separator :: (part ++ [separator]) <:+: text := by
  constructor
  · intro hMem
    -- the text is its parts with separators between them
    obtain ⟨first, rest, hParts⟩ := List.exists_cons_of_ne_nil (@splitAt_ne_nil separator text)
    have hText : [separator].intercalate (first :: rest) = text := by
      rw [← hParts, splitAt_eq_splitOn]
      exact List.intercalate_splitOn separator
    rw [hParts, List.tail_cons] at hMem
    rw [← hText]
    cases rest with
    | nil => cases hMem
    | cons second more =>
      rw [List.intercalate_cons_cons]
      exact (infix_intercalate_of_mem_dropLast hMem).trans ⟨first, [], by simp⟩
  · rintro ⟨before, after, rfl⟩
    -- cut at both separators
    have hCut : before ++ separator :: (part ++ [separator]) ++ after =
        before ++ separator :: (part ++ separator :: after) := by simp
    rw [hCut, splitAt_append_cons, splitAt_append_cons, splitAt_of_not_mem hNone,
      List.tail_append_of_ne_nil (splitAt_ne_nil before), ← List.append_assoc,
      List.dropLast_append_of_ne_nil (splitAt_ne_nil after)]
    simp

end ReviewPanel.Text
