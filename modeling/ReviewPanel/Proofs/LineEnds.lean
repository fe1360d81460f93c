import ReviewPanel.Proofs.Scan
import ReviewPanel.Proofs.Search

/-!
# Line ends — texts with and without returns

The same text can be kept in two ways: with a line feed at the end of every line, or with a
return and a line feed (`Text.withReturns`). Whoever looks at the lines of a text, searches it
for a piece of one line, or skips its blank characters sees no difference. What follows says so
for each of these; none but the lines needs to know that the text had no returns before.

* `dropWhile_withReturns`  — skipping characters, if both or none of the two are skipped.
* `occursIn_withReturns`   — searching for what stands on one line.
* `lines_withReturns`      — the lines.
-/

namespace ReviewPanel.Text

variable {text needle : List Char} {c : Char} {test : Char → Bool}

/-- A character as it is written when lines end in two characters. -/
def spell (c : Char) : List Char := if c = '\n' then ['\r', '\n'] else [c]

/-- A text with a return before every line feed. -/
def withReturns (text : List Char) : List Char := text.flatMap spell

@[simp]
theorem withReturns_nil : withReturns [] = [] := rfl

@[simp]
theorem withReturns_feed : withReturns ('\n' :: text) = '\r' :: '\n' :: withReturns text := rfl

/-- Characters that end no line stay. -/
theorem withReturns_cons (hText : c ≠ '\n') : withReturns (c :: text) = c :: withReturns text := by
  show spell c ++ withReturns text = _
  rw [spell, if_neg hText]
  rfl

/-- Pieces are spelled apart. -/
theorem withReturns_append {before after : List Char} :
    withReturns (before ++ after) = withReturns before ++ withReturns after :=
  List.flatMap_append

/-- A text of one line stays as it is. -/
theorem withReturns_eq_self (hLine : '\n' ∉ text) : withReturns text = text := by
  induction text with
  | nil => rfl
  | cons c rest ih =>
    obtain ⟨hText, hRest⟩ := List.ne_and_not_mem_of_not_mem_cons hLine
    rw [withReturns_cons (Ne.symm hText), ih hRest]

theorem isEmpty_withReturns : (withReturns text).isEmpty = text.isEmpty := by
  cases text with
  | nil => rfl
  | cons c rest =>
    by_cases hFeed : c = '\n'
    · subst hFeed
      rfl
    · rw [withReturns_cons hFeed]
      rfl

/-- Nothing gets lost. -/
theorem length_le_withReturns : text.length ≤ (withReturns text).length := by
  induction text with
  | nil => exact Nat.le_refl _
  | cons c rest ih =>
    by_cases hFeed : c = '\n'
    · subst hFeed
      simp only [withReturns_feed, List.length_cons]
      omega
    · simp only [withReturns_cons hFeed, List.length_cons]
      omega

/-! ## Skipping -/

/-- A test that a return passes with a feed holds throughout in either spelling. -/
theorem all_withReturns (hSame : test '\r' = test '\n') :
    (withReturns text).all test = text.all test := by
  induction text with
  | nil => rfl
  | cons c rest ih =>
    by_cases hFeed : c = '\n'
    · -- the return passes the test if the feed does, so asking twice changes nothing
      subst hFeed
      rw [withReturns_feed, List.all_cons, List.all_cons, List.all_cons, ih, hSame,
        ← Bool.and_assoc, Bool.and_self]
    · rw [withReturns_cons hFeed, List.all_cons, List.all_cons, ih]

/-- What is skipped at the front is skipped in either spelling. -/
theorem dropWhile_withReturns (hSame : test '\r' = test '\n') :
    (withReturns text).dropWhile test = withReturns (text.dropWhile test) := by
  induction text with
  | nil => rfl
  | cons c rest ih =>
    by_cases hTest : test c = true
    · rw [List.dropWhile_cons_of_pos hTest, ← ih]
      by_cases hFeed : c = '\n'
      · -- both characters of the line end are skipped, or (below) neither
        subst hFeed
        rw [withReturns_feed, List.dropWhile_cons_of_pos (hSame.trans hTest),
          List.dropWhile_cons_of_pos hTest]
      · rw [withReturns_cons hFeed, List.dropWhile_cons_of_pos hTest]
    · rw [List.dropWhile_cons_of_neg hTest]
      by_cases hFeed : c = '\n'
      · subst hFeed
        rw [withReturns_feed, List.dropWhile_cons_of_neg (hSame ▸ hTest)]
      · rw [withReturns_cons hFeed, List.dropWhile_cons_of_neg hTest]

/-- Characters of one line that are gathered at the front. -/
theorem takeWhile_withReturns (hReturn : test '\r' = false) (hFeed : test '\n' = false) :
    (withReturns text).takeWhile test = text.takeWhile test := by
  induction text with
  | nil => rfl
  | cons c rest ih =>
    by_cases hLast : c = '\n'
    · -- at a line end both stop, the one before the return
      subst hLast
      rw [withReturns_feed, List.takeWhile_cons_of_neg (Bool.eq_false_iff.mp hReturn),
        List.takeWhile_cons_of_neg (Bool.eq_false_iff.mp hFeed)]
    · rw [withReturns_cons hLast, List.takeWhile_cons, List.takeWhile_cons, ih]

/-! ## Cutting -/

variable {n : Nat}

/-- The beginning of a text up to its first line end stays. -/
theorem take_withReturns (hLine : '\n' ∉ text.take n) :
    (withReturns text).take n = text.take n := by
  induction text generalizing n with
  | nil => rfl
  | cons c rest ih =>
    cases n with
    | zero => rfl
    | succ n =>
      rw [List.take_succ_cons] at hLine
      obtain ⟨hFeed, hRest⟩ := List.ne_and_not_mem_of_not_mem_cons hLine
      rw [withReturns_cons (Ne.symm hFeed), List.take_succ_cons, List.take_succ_cons, ih hRest]

/-- What follows a piece of one line is spelled as it would be alone. -/
theorem drop_withReturns (hLine : '\n' ∉ text.take n) :
    (withReturns text).drop n = withReturns (text.drop n) := by
  induction text generalizing n with
  | nil => rw [withReturns_nil, List.drop_nil, withReturns_nil]
  | cons c rest ih =>
    cases n with
    | zero => rfl
    | succ n =>
      rw [List.take_succ_cons] at hLine
      obtain ⟨hFeed, hRest⟩ := List.ne_and_not_mem_of_not_mem_cons hLine
      rw [withReturns_cons (Ne.symm hFeed), List.drop_succ_cons, List.drop_succ_cons, ih hRest]

/-- A line that ends among the first characters does so with returns, too. -/
theorem return_mem_take_withReturns (hFeed : '\n' ∈ text.take n) :
    '\r' ∈ (withReturns text).take n := by
  induction text generalizing n with
  | nil => simp at hFeed
  | cons c rest ih =>
    cases n with
    | zero => simp at hFeed
    | succ n =>
      by_cases hHere : c = '\n'
      · -- the return comes first, so it is not cut off
        subst hHere
        exact List.mem_cons_self
      · rw [List.take_succ_cons] at hFeed
        rw [withReturns_cons hHere, List.take_succ_cons]
        refine List.mem_cons_of_mem _ (ih ?_)
        rcases List.mem_cons.mp hFeed with hEq | hRest
        · exact absurd hEq.symm hHere
        · exact hRest

/-! ## Searching -/

/-- Whether a text has no character that ends a line. -/
def isOneLine (cs : List Char) : Bool := cs.all fun c => c != '\n' && c != '\r'

theorem startsWith_cons_cons {x : Char} :
    startsWith (x :: needle) (c :: text) = (x == c && startsWith needle text) := rfl

/-- Where a line ends, only the empty needle is found. -/
theorem startsWith_of_lineEnd (hLine : isOneLine needle = true) (hEnd : c = '\n' ∨ c = '\r') :
    startsWith needle (c :: text) = needle.isEmpty := by
  cases needle with
  | nil => rfl
  | cons x rest =>
    rw [isOneLine, List.all_cons, Bool.and_eq_true, Bool.and_eq_true, bne_iff_ne,
      bne_iff_ne] at hLine
    have hOther : x ≠ c := by
      rcases hEnd with rfl | rfl
      · exact hLine.1.1
      · exact hLine.1.2
    rw [startsWith_cons_cons, beq_false_of_ne hOther]
    rfl

/-- A text of one line starts either spelling or neither. -/
theorem startsWith_withReturns (hLine : isOneLine needle = true) :
    startsWith needle (withReturns text) = startsWith needle text := by
  induction needle generalizing text with
  | nil => cases hText : withReturns text <;> cases text <;> rfl
  | cons x rest ih =>
    cases text with
    | nil => rfl
    | cons c tail =>
      by_cases hFeed : c = '\n'
      · subst hFeed
        rw [withReturns_feed, startsWith_of_lineEnd hLine (.inr rfl),
          startsWith_of_lineEnd hLine (.inl rfl)]
      · have hRest : isOneLine rest = true := (Bool.and_eq_true_iff.mp hLine).2
        rw [withReturns_cons hFeed, startsWith_cons_cons, startsWith_cons_cons, ih hRest]

/-- A piece of one line is found in either spelling. -/
theorem occursIn_withReturns (hLine : isOneLine needle = true) :
    occursIn needle (withReturns text) = occursIn needle text := by
  induction text with
  | nil => rfl
  | cons c rest ih =>
    by_cases hFeed : c = '\n'
    · -- at a line end there is one place more to look at, and nothing to be found
      subst hFeed
      rw [withReturns_feed, occursIn, occursIn, occursIn, ih,
        startsWith_of_lineEnd hLine (.inr rfl), startsWith_of_lineEnd hLine (.inl rfl),
        startsWith_of_lineEnd hLine (.inl rfl), ← Bool.or_assoc, Bool.or_self]
    · have hHere : startsWith needle (withReturns (c :: rest)) = startsWith needle (c :: rest) :=
        startsWith_withReturns hLine
      rw [withReturns_cons hFeed] at hHere ⊢
      rw [occursIn, occursIn, hHere, ih]

/-! ## Lines -/

/-- A line without a return has none to drop. -/
theorem dropReturn_of_not_mem {line : List Char} (hNone : '\r' ∉ line) :
    dropReturn line = line := by
  rw [dropReturn]
  split
  · -- what is dropped was the last character of the line
    rename_i rest hReverse
    refine absurd ?_ hNone
    rw [← List.mem_reverse, hReverse]
    exact List.mem_cons_self
  · rfl

/-- The return of a line end is dropped. -/
theorem dropReturn_concat {line : List Char} : dropReturn (line ++ ['\r']) = line := by
  rw [dropReturn, List.reverse_append]
  exact List.reverse_reverse line

/-- By induction on the text; what is read of the current line has no return. -/
theorem linesFrom_withReturns {current : List Char} (hCurrent : '\r' ∉ current)
    (hText : '\r' ∉ text) : linesFrom current (withReturns text) = linesFrom current text := by
  induction text generalizing current with
  | nil => rfl
  | cons c rest ih =>
    obtain ⟨hHead, hRest⟩ := List.ne_and_not_mem_of_not_mem_cons hText
    by_cases hFeed : c = '\n'
    · -- the return ends up at the end of the line, and is dropped
      subst hFeed
      have hReverse : '\r' ∉ current.reverse := fun hMem => hCurrent (List.mem_reverse.mp hMem)
      rw [withReturns_feed, linesFrom_cons (by decide), linesFrom, linesFrom, List.reverse_cons,
        dropReturn_concat, dropReturn_of_not_mem hReverse, ih List.not_mem_nil hRest]
    · rw [withReturns_cons hFeed, linesFrom_cons hFeed, linesFrom_cons hFeed]
      exact ih (List.not_mem_cons_of_ne_of_not_mem hHead hCurrent) hRest

/-- **Lines.** A text without returns has the same lines with them. -/
theorem lines_withReturns (hText : '\r' ∉ text) : lines (withReturns text) = lines text :=
  linesFrom_withReturns List.not_mem_nil hText

end ReviewPanel.Text
