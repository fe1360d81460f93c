import Mathlib.Data.List.Infix
import ReviewPanel.Pattern.Classes

/-!
# Patterns — places and blank text

A piece of a pattern has the characters between its start and its end, and each of them
is one that the pattern takes (`Pattern.exists_piece`); so what follows it is the end of
what followed its start (`Pattern.rest_suffix`). Many patterns ask for a
character that is not blank at some point; `Pattern.needsText` looks for such a
point, branch by branch, and a pattern in which it finds one holds no piece of
blank text (`Pattern.occursIn_eq_false_of_blank`). The look-up is computed, so that a
table of patterns is checked by evaluation.
-/

namespace ReviewPanel

/-! ## Blank characters -/

/-- Every blank character. -/
def Text.blankChars : List Char :=
  Text.blankRanges.flatMap fun r => (List.range' r.1 (r.2 + 1 - r.1)).map Char.ofNat

theorem Text.mem_blankChars {x : Char} (hBlank : Text.isBlank x = true) : x ∈ Text.blankChars := by
  rw [isBlank, inRanges, List.any_eq_true] at hBlank
  obtain ⟨r, hr, hIn⟩ := hBlank
  rw [Bool.and_eq_true, decide_eq_true_iff, decide_eq_true_iff] at hIn
  refine List.mem_flatMap.mpr ⟨r, hr, List.mem_map.mpr ⟨x.toNat, ?_, Char.ofNat_toNat x⟩⟩
  rw [List.mem_range'_1]
  omega

/-- Characters none of which is anything but blank. -/
def Text.AllBlank (cs : List Char) : Prop := ∀ x ∈ cs, Text.isBlank x = true

namespace Cursor

/-- Leaving out the repeated ends adds none. -/
theorem mem_of_mem_distinct {e : Cursor} {cs : List Cursor} :
    ∀ {seen : Nat}, e ∈ distinct seen cs → e ∈ cs := by
  induction cs with
  | nil =>
    intro seen hMem
    exact hMem
  | cons c rest ih =>
    intro seen hMem
    rw [distinct] at hMem
    split at hMem
    · exact List.mem_cons_of_mem _ (ih hMem)
    · rcases List.mem_cons.mp hMem with rfl | hRest
      · exact List.mem_cons_self ..
      · exact List.mem_cons_of_mem _ (ih hRest)

end Cursor

namespace Pattern

variable {p : Pattern} {c e : Cursor}

/-! ## The text of a piece -/

/-- Every character that a pattern takes has a property. -/
def TakesOnly (Q : Char → Prop) : Pattern → Prop
  | one test => ∀ x, test x = true → Q x
  | run test _ _ => ∀ x, test x = true → Q x
  | seq p q => p.TakesOnly Q ∧ q.TakesOnly Q
  | either p q => p.TakesOnly Q ∧ q.TakesOnly Q
  | nothing | wordEdge | textStart | lineStart => True

variable {Q : Char → Prop}

/-- From one place to another there are these characters. -/
def Spans (c e : Cursor) (piece : List Char) : Prop :=
  c.rest = piece ++ e.rest ∧ e.offset = c.offset + piece.length

theorem spans_nil (c : Cursor) : Spans c c [] := ⟨rfl, rfl⟩

/-- Two pieces, one behind the other, are one. -/
theorem Spans.append {c m e : Cursor} {first second : List Char} (hFirst : Spans c m first)
    (hSecond : Spans m e second) : Spans c e (first ++ second) := by
  obtain ⟨hRest, hOffset⟩ := hFirst
  obtain ⟨hRest', hOffset'⟩ := hSecond
  refine ⟨by rw [hRest, hRest', List.append_assoc], ?_⟩
  rw [hOffset', hOffset, List.length_append]
  omega

/-- A run ends behind a piece whose characters all pass the test. -/
theorem exists_piece_of_mem_runEnds {test : Char → Bool} {cs : List Char}
    (hTest : ∀ x, test x = true → Q x) :
    ∀ {offset least : Nat} {before : Option Char} {room : Option Nat},
      e ∈ runEnds test offset before least room cs →
        ∃ piece, (∀ x ∈ piece, Q x) ∧ Spans ⟨offset, before, cs⟩ e piece := by
  induction cs with
  | nil =>
    intro offset least before room hMem
    rw [runEnds] at hMem
    split at hMem
    · obtain rfl := List.mem_singleton.mp hMem
      exact ⟨[], by simp, spans_nil _⟩
    · cases hMem
  | cons x rest ih =>
    intro offset least before room hMem
    -- the run stops here or goes on
    have hStop : e ∈ (if least = 0 then [⟨offset, before, x :: rest⟩] else []) →
        ∃ piece, (∀ x ∈ piece, Q x) ∧ Spans ⟨offset, before, x :: rest⟩ e piece := by
      split
      · intro hHere
        obtain rfl := List.mem_singleton.mp hHere
        exact ⟨[], by simp, spans_nil _⟩
      · intro hNone
        cases hNone
    rw [runEnds] at hMem
    split at hMem
    · rename_i hTake
      rcases List.mem_append.mp hMem with hOn | hHere
      · obtain ⟨piece, hPiece, hSpans⟩ := ih hOn
        have hFirst : Spans ⟨offset, before, x :: rest⟩ ⟨offset + 1, some x, rest⟩ [x] :=
          ⟨rfl, rfl⟩
        rw [Bool.and_eq_true] at hTake
        exact ⟨x :: piece, List.forall_mem_cons.mpr ⟨hTest x hTake.1, hPiece⟩,
          hFirst.append hSpans⟩
      · exact hStop hHere
    · exact hStop hMem

/-- The text of a piece, in which every character is one that the pattern takes. -/
theorem exists_piece (hOnly : p.TakesOnly Q) (hMem : e ∈ p.ends c) :
    ∃ piece, (∀ x ∈ piece, Q x) ∧ Spans c e piece := by
  -- what ends where it starts took nothing
  have hHere : ∀ {c e : Cursor} {b : Bool}, e ∈ (if b then [c] else []) →
      ∃ piece, (∀ x ∈ piece, Q x) ∧ Spans c e piece := by
    intro c e b hMem
    split at hMem
    · obtain rfl := List.mem_singleton.mp hMem
      exact ⟨[], by simp, spans_nil _⟩
    · cases hMem
  induction p generalizing c e with
  | nothing =>
    obtain rfl := List.mem_singleton.mp hMem
    exact ⟨[], by simp, spans_nil _⟩
  | one test =>
    -- one character is taken, if it passes the test
    obtain ⟨offset, before, _ | ⟨x, rest⟩⟩ := c
    · cases hMem
    · simp only [ends] at hMem
      split at hMem
      · rename_i hTake
        obtain rfl := List.mem_singleton.mp hMem
        refine ⟨[x], ?_, rfl, rfl⟩
        intro y hy
        rw [List.mem_singleton.mp hy]
        exact hOnly x hTake
      · cases hMem
  | run test least most => exact exists_piece_of_mem_runEnds hOnly hMem
  | seq p q ihp ihq =>
    -- the two pieces are one, with what the parts take in both
    obtain ⟨m, hm, hEnd⟩ := List.mem_flatMap.mp (Cursor.mem_of_mem_distinct hMem)
    obtain ⟨first, hFirst, hSpans⟩ := ihp hOnly.1 hm
    obtain ⟨second, hSecond, hSpans'⟩ := ihq hOnly.2 hEnd
    refine ⟨first ++ second, ?_, hSpans.append hSpans'⟩
    intro x hx
    exact (List.mem_append.mp hx).elim (hFirst x) (hSecond x)
  | either p q ihp ihq =>
    rcases List.mem_append.mp hMem with hFirst | hSecond
    · exact ihp hOnly.1 hFirst
    · exact ihq hOnly.2 hSecond
  | wordEdge => exact hHere hMem
  | textStart => exact hHere hMem
  | lineStart => exact hHere hMem

theorem takesOnly_true (p : Pattern) : p.TakesOnly fun _ => True := by
  induction p with
  | one test => exact fun _ _ => trivial
  | run test least most => exact fun _ _ => trivial
  | seq p q ihp ihq => exact ⟨ihp, ihq⟩
  | either p q ihp ihq => exact ⟨ihp, ihq⟩
  | nothing => trivial
  | wordEdge => trivial
  | textStart => trivial
  | lineStart => trivial

/-- What follows a piece is the end of what followed its start. -/
theorem rest_suffix (p : Pattern) {c e : Cursor} (hMem : e ∈ p.ends c) : e.rest <:+ c.rest := by
  obtain ⟨piece, -, hRest, -⟩ := exists_piece p.takesOnly_true hMem
  exact ⟨piece, hRest.symm⟩

/-! ## Blank text -/

/-- Whether every piece is sure to hold a character that is not blank. -/
def needsText : Pattern → Bool
  | one test => Text.blankChars.all fun x => !test x
  | run test least _ => 0 < least && Text.blankChars.all fun x => !test x
  | seq p q => p.needsText || q.needsText
  | either p q => p.needsText && q.needsText
  | nothing | wordEdge | textStart | lineStart => false

/-- A test that none of the blanks passes is not passed by a blank. -/
theorem test_eq_false_of_blank {test : Char → Bool} {x : Char}
    (hTest : (Text.blankChars.all fun x => !test x) = true) (hBlank : Text.isBlank x = true) :
    test x = false := by
  have hNot := List.all_eq_true.mp hTest x (Text.mem_blankChars hBlank)
  rwa [Bool.not_eq_true'] at hNot

/-- No piece of such a pattern starts where blank text follows. -/
theorem ends_eq_nil_of_blank (p : Pattern) :
    ∀ {c : Cursor}, p.needsText = true → Text.AllBlank c.rest → p.ends c = [] := by
  induction p with
  | one test =>
    intro c hNeeds hBlank
    rw [ends]
    cases hRest : c.rest with
    | nil => rfl
    | cons x rest =>
      rw [hRest] at hBlank
      simp [test_eq_false_of_blank hNeeds (hBlank x (List.mem_cons_self ..))]
  | run test least most =>
    intro c hNeeds hBlank
    rw [needsText, Bool.and_eq_true, decide_eq_true_iff] at hNeeds
    obtain ⟨hLeast, hTest⟩ := hNeeds
    rw [ends]
    cases hRest : c.rest with
    | nil => simp [runEnds, Nat.ne_of_gt hLeast]
    | cons x rest =>
      rw [hRest] at hBlank
      simp [runEnds, Nat.ne_of_gt hLeast,
        test_eq_false_of_blank hTest (hBlank x (List.mem_cons_self ..))]
  | seq p q ihp ihq =>
    intro c hNeeds hBlank
    have hNone : (p.ends c).flatMap q.ends = [] := by
      rcases Bool.or_eq_true_iff.mp hNeeds with hFirst | hSecond
      · rw [ihp hFirst hBlank, List.flatMap_nil]
      · -- what follows the first part is blank, too
        refine List.flatMap_eq_nil_iff.mpr fun m hm => ihq hSecond fun x hx => ?_
        exact hBlank x ((p.rest_suffix hm).subset hx)
    rw [ends, hNone, Cursor.distinct]
  | either p q ihp ihq =>
    intro c hNeeds hBlank
    rw [needsText, Bool.and_eq_true] at hNeeds
    rw [ends, ihp hNeeds.1 hBlank, ihq hNeeds.2 hBlank, List.append_nil]
  -- the other patterns take nothing, so they need no text
  | nothing => intro _ hNeeds; cases hNeeds
  | wordEdge => intro _ hNeeds; cases hNeeds
  | textStart => intro _ hNeeds; cases hNeeds
  | lineStart => intro _ hNeeds; cases hNeeds

/-- A pattern that needs text does not occur among blanks, wherever the search is. -/
theorem occursFrom_eq_false_of_blank (hNeeds : p.needsText = true) {text : List Char} :
    ∀ {offset : Nat} {before : Option Char}, Text.AllBlank text →
      p.occursFrom offset before text = false := by
  have hStart : ∀ {c : Cursor}, Text.AllBlank c.rest → p.startsAt c = false := by
    intro c hBlank
    rw [startsAt, p.ends_eq_nil_of_blank hNeeds hBlank]
    rfl
  induction text with
  | nil =>
    intro offset before hBlank
    exact hStart hBlank
  | cons x rest ih =>
    intro offset before hBlank
    rw [occursFrom, hStart hBlank, Bool.false_or]
    exact ih fun y hy => hBlank y (List.mem_cons_of_mem _ hy)

/-- Blank text holds no piece of such a pattern. -/
theorem occursIn_eq_false_of_blank (hNeeds : p.needsText = true) {text : List Char}
    (hBlank : Text.AllBlank text) : p.occursIn text = false :=
  occursFrom_eq_false_of_blank hNeeds hBlank

end Pattern

end ReviewPanel
