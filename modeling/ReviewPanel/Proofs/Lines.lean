import Mathlib.Data.List.Basic
import ReviewPanel.Text.Lines

/-!
# Lines — where things stand, and what is made line by line

* `Text.mem_of_mem_lines`     — a character of a line is one of the text.
* `Text.exists_line_of_piece` — a piece of the text without line ends stands on the line that
  the line feeds before it tell.
* `Text.lines_unlines`        — whole lines, each with a line feed behind it, are read back.
* `Text.lines_append`         — a text that is cut behind a line feed has the lines of its parts.
* `walk_eq_flatMap`           — a walk over the lines makes the parts of all of them.
* `exists_of_mem_walk`        — whatever a walk makes is made at one line.
-/

namespace ReviewPanel

/-! ## Characters of lines -/

namespace Text

variable {text line : List Char} {x : Char}

theorem dropReturn_subset (line : List Char) : dropReturn line ⊆ line := by
  rw [dropReturn]
  split
  · rename_i rest hReverse
    intro x hx
    have hMem : x ∈ line.reverse := by
      rw [hReverse]
      exact List.mem_cons_of_mem _ (List.mem_reverse.mp hx)
    exact List.mem_reverse.mp hMem
  · exact List.Subset.refl line

/-- A character that ends no line belongs to the current one. -/
theorem linesFrom_cons {current : List Char} (hFeed : x ≠ '\n') :
    linesFrom current (x :: text) = linesFrom (x :: current) text := by
  rw [linesFrom]
  exact hFeed

/-- Lines are made of characters of the text. -/
theorem mem_of_mem_linesFrom :
    ∀ {current : List Char}, line ∈ linesFrom current text → x ∈ line → x ∈ current ∨ x ∈ text := by
  induction text with
  | nil =>
    intro current hLine hx
    rw [linesFrom] at hLine
    split at hLine
    · simp at hLine
    · rw [List.mem_singleton.mp hLine] at hx
      exact Or.inl (List.mem_reverse.mp hx)
  | cons c rest ih =>
    intro current hLine hx
    by_cases hFeed : c = '\n'
    · subst hFeed
      rcases List.mem_cons.mp hLine with rfl | hRest
      · -- the line ends here, and all of it was read before
        exact Or.inl (List.mem_reverse.mp (dropReturn_subset _ hx))
      · rcases ih hRest hx with hNone | hText
        · simp at hNone
        · exact Or.inr (List.mem_cons_of_mem _ hText)
    · -- the line goes on with this character
      rw [linesFrom_cons hFeed] at hLine
      rcases ih hLine hx with hCurrent | hText
      · rcases List.mem_cons.mp hCurrent with rfl | hBefore
        · exact Or.inr (List.mem_cons_self ..)
        · exact Or.inl hBefore
      · exact Or.inr (List.mem_cons_of_mem _ hText)

/-- A character of a line is one of the text. -/
theorem mem_of_mem_lines (hLine : line ∈ lines text) (hx : x ∈ line) : x ∈ text := by
  rcases mem_of_mem_linesFrom hLine hx with hNone | hText
  · simp at hNone
  · exact hText

/-! ## Places in lines -/

theorem dropReturn_reverse_cons {c : Char} {before : List Char} :
    dropReturn (c :: before).reverse =
      if c = '\r' then before.reverse else (c :: before).reverse := by
  rw [dropReturn, List.reverse_reverse]
  split
  · rename_i rest hEq
    obtain ⟨rfl, rfl⟩ := List.cons_eq_cons.mp hEq
    rfl
  · rename_i hOther
    rw [if_neg]
    rintro rfl
    exact hOther before rfl

/-- A text that goes on is some whole lines and the start of a line, whatever it goes on with. -/
theorem exists_linesFrom_append (before : List Char) :
    ∀ current, ∃ done start, done.length = before.count '\n' ∧
      ∀ rest, linesFrom current (before ++ rest) = done ++ linesFrom start rest := by
  induction before with
  | nil => exact fun current => ⟨[], current, rfl, fun _ => rfl⟩
  | cons c before ih =>
    intro current
    by_cases hFeed : c = '\n'
    · -- a line is done, and the next one starts empty
      subst hFeed
      obtain ⟨done, start, hLength, hRest⟩ := ih []
      refine ⟨dropReturn current.reverse :: done, start, ?_, ?_⟩
      · rw [List.count_cons_self, List.length_cons, hLength]
      · intro rest
        show dropReturn current.reverse :: linesFrom [] (before ++ rest) = _
        rw [hRest, List.cons_append]
    · obtain ⟨done, start, hLength, hRest⟩ := ih (c :: current)
      refine ⟨done, start, ?_, ?_⟩
      · rw [List.count_cons_of_ne hFeed, hLength]
      · intro rest
        rw [List.cons_append, linesFrom_cons hFeed, hRest]

/-- What was read of a line stays at its front, if it does not end with a return. -/
theorem exists_linesFrom_eq_cons {c : Char} {before : List Char} (hReturn : c ≠ '\r')
    (rest : List Char) :
    ∀ more, ∃ stop later,
      linesFrom (more ++ c :: before) rest = ((c :: before).reverse ++ stop) :: later := by
  induction rest with
  | nil =>
    intro more
    refine ⟨more.reverse, [], ?_⟩
    rw [linesFrom, ← List.reverse_append, if_neg (by simp)]
  | cons d rest ih =>
    intro more
    by_cases hFeed : d = '\n'
    · -- the line is done; of its end only a return may be missing
      subst hFeed
      show ∃ stop later, dropReturn (more ++ c :: before).reverse :: linesFrom [] rest = _
      cases more with
      | nil =>
        refine ⟨[], _, congrArg (· :: linesFrom [] rest) ?_⟩
        rw [List.nil_append, dropReturn_reverse_cons, if_neg hReturn, List.append_nil]
      | cons e more =>
        rw [List.cons_append, dropReturn_reverse_cons]
        split
        · exact ⟨more.reverse, _, by rw [List.reverse_append]⟩
        · exact ⟨(e :: more).reverse, _, by rw [← List.reverse_append, List.cons_append]⟩
    · -- the line goes on
      rw [linesFrom_cons hFeed, ← List.cons_append]
      exact ih (d :: more)

/-- A piece without a line end belongs to the current line. -/
theorem linesFrom_append {piece : List Char} (hFeed : '\n' ∉ piece) (rest : List Char) :
    ∀ current, linesFrom current (piece ++ rest) = linesFrom (piece.reverse ++ current) rest := by
  induction piece with
  | nil => exact fun _ => rfl
  | cons c piece ih =>
    intro current
    obtain ⟨hFirst, hMore⟩ := not_or.mp (List.mem_cons.not.mp hFeed)
    rw [List.cons_append, linesFrom_cons (Ne.symm hFirst), ih hMore, List.reverse_cons,
      List.append_assoc]
    rfl

/-- A piece of a text without line ends stands on one line, and the line feeds before the piece
tell on which. -/
theorem exists_line_of_piece (before piece rest : List Char) (hSome : piece ≠ [])
    (hFeed : '\n' ∉ piece) (hReturn : '\r' ∉ piece) :
    ∃ line, (lines (before ++ (piece ++ rest)))[before.count '\n']? = some line ∧
      piece <:+: line := by
  obtain ⟨done, start, hLength, hRest⟩ := exists_linesFrom_append before []
  obtain ⟨c, earlier, hReverse⟩ : ∃ c earlier, piece.reverse = c :: earlier :=
    List.exists_cons_of_ne_nil (mt List.reverse_eq_nil_iff.mp hSome)
  have hLast : c ≠ '\r' := by
    rintro rfl
    exact hReturn (List.mem_reverse.mp (hReverse ▸ List.mem_cons_self ..))
  obtain ⟨stop, later, hLine⟩ : ∃ stop later, linesFrom ([] ++ c :: (earlier ++ start)) rest =
      ((c :: (earlier ++ start)).reverse ++ stop) :: later :=
    exists_linesFrom_eq_cons hLast rest []
  refine ⟨(c :: (earlier ++ start)).reverse ++ stop, ?_, start.reverse, stop, ?_⟩
  · rw [lines, hRest, linesFrom_append hFeed, hReverse, ← hLength,
      List.getElem?_append_right (Nat.le_refl _), Nat.sub_self]
    exact congrArg (·[0]?) hLine
  · rw [← List.cons_append, ← hReverse, List.reverse_append, List.reverse_reverse]

/-! ## Whole lines -/

/-- Lines as they stand in a text, each with a line feed behind it. -/
def unlines (rows : List (List Char)) : List Char := rows.flatMap (· ++ ['\n'])

theorem unlines_append (rows later : List (List Char)) :
    unlines (rows ++ later) = unlines rows ++ unlines later :=
  List.flatMap_append

theorem unlines_flatMap {α : Type} (xs : List α) (f : α → List (List Char)) :
    unlines (xs.flatMap f) = xs.flatMap fun x => unlines (f x) :=
  List.flatMap_assoc

/-- A line that stays as it is with a line feed behind it. -/
def IsWhole (row : List Char) : Prop := '\n' ∉ row ∧ row.getLast? ≠ some '\r'

instance : DecidablePred IsWhole := fun row =>
  inferInstanceAs (Decidable ('\n' ∉ row ∧ row.getLast? ≠ some '\r'))

variable {row : List Char} {rows : List (List Char)}

/-- A row without either character of a line end is a line. -/
theorem isWhole_of_not_mem (hFeed : '\n' ∉ row) (hReturn : '\r' ∉ row) : IsWhole row :=
  ⟨hFeed, fun hLast => hReturn (List.mem_of_getLast? hLast)⟩

/-- Whatever has no line feed may stand in front of the end of a line. -/
theorem IsWhole.append {front : List Char} (hWhole : IsWhole row) (hSome : row ≠ [])
    (hFeed : '\n' ∉ front) : IsWhole (front ++ row) := by
  refine ⟨?_, ?_⟩
  · rw [List.mem_append, not_or]
    exact ⟨hFeed, hWhole.1⟩
  · rw [List.getLast?_append_of_ne_nil _ hSome]
    exact hWhole.2

theorem dropReturn_of_getLast? (hReturn : line.getLast? ≠ some '\r') : dropReturn line = line := by
  rw [dropReturn]
  split
  · rename_i rest hReverse
    rw [← List.head?_reverse, hReverse] at hReturn
    exact absurd rfl hReturn
  · rfl

/-- A line ends at the line feed behind it. -/
theorem linesFrom_row {current : List Char} (hFeed : '\n' ∉ row)
    (hReturn : (current.reverse ++ row).getLast? ≠ some '\r') (rest : List Char) :
    linesFrom current (row ++ '\n' :: rest) = (current.reverse ++ row) :: lines rest := by
  rw [linesFrom_append hFeed]
  show dropReturn (row.reverse ++ current).reverse :: lines rest = _
  rw [List.reverse_append, List.reverse_reverse, dropReturn_of_getLast? hReturn]

/-- Whole lines at the front of a text are lines of it. -/
theorem lines_unlines_append (hWhole : ∀ row ∈ rows, IsWhole row) (rest : List Char) :
    lines (unlines rows ++ rest) = rows ++ lines rest := by
  induction rows with
  | nil => rfl
  | cons row rows ih =>
    obtain ⟨⟨hFeed, hReturn⟩, hRows⟩ := List.forall_mem_cons.mp hWhole
    have hText : unlines (row :: rows) ++ rest = row ++ '\n' :: (unlines rows ++ rest) := by
      simp [unlines]
    have hRow : lines (row ++ '\n' :: (unlines rows ++ rest)) =
        row :: lines (unlines rows ++ rest) := @linesFrom_row row [] hFeed hReturn _
    rw [hText, hRow, ih hRows, List.cons_append]

/-- Rows that are written are read back as lines. -/
theorem lines_unlines (hWhole : ∀ row ∈ rows, IsWhole row) : lines (unlines rows) = rows := by
  have hAll := lines_unlines_append hWhole []
  rwa [List.append_nil, show lines [] = [] from rfl, List.append_nil] at hAll

/-- Where a text is cut behind a line feed, no line is cut. -/
theorem lines_append {front : List Char} (hSeam : front = [] ∨ front.getLast? = some '\n')
    (rest : List Char) : lines (front ++ rest) = lines front ++ lines rest := by
  rcases hSeam with rfl | hLast
  · rfl
  · obtain ⟨before, rfl⟩ := List.getLast?_eq_some_iff.mp hLast
    -- the line that ends at the cut is the same with and without what follows
    obtain ⟨done, start, -, hRest⟩ := exists_linesFrom_append before []
    have hEnds : ∀ later, lines (before ++ '\n' :: later) =
        done ++ dropReturn start.reverse :: lines later := fun later => hRest ('\n' :: later)
    have hAlone := hEnds []
    rw [show lines [] = [] from rfl] at hAlone
    rw [List.append_assoc, List.singleton_append, hEnds, hAlone, List.append_assoc,
      List.singleton_append]

/-- The end of a line is a line, or the end of one, whatever stands in front of it. -/
theorem exists_lines_append_row (hWhole : IsWhole row) (hSome : row ≠ [])
    (before rest : List Char) :
    ∃ done start, lines (before ++ (row ++ '\n' :: rest)) = done ++ (start ++ row) :: lines rest := by
  obtain ⟨done, start, -, hRest⟩ := exists_linesFrom_append before []
  refine ⟨done, start.reverse, ?_⟩
  rw [lines, hRest, linesFrom_row hWhole.1]
  rw [List.getLast?_append_of_ne_nil _ hSome]
  exact hWhole.2

end Text

/-! ## Walks

Much of a review is made line by line, from the first line to the last: each step looks at
its line and at those that follow, and counts on. -/

section Walks

variable {β : Type} {walk : Nat → List (List Char) → List β}

/-- What holds of one thing holds of all that is there under a condition. -/
theorem forall_mem_ite {b : Prop} [Decidable b] {x : β} {P : β → Prop} (hHolds : P x) :
    ∀ y ∈ (if b then [x] else []), P y := by
  intro y hMem
  split at hMem
  · rwa [List.mem_singleton.mp hMem]
  · cases hMem

/-- A walk makes the parts of all lines, one after the other. -/
theorem walk_eq_flatMap (walk part : Nat → List (List Char) → List β)
    (hNil : ∀ index, walk index [] = [])
    (hCons : ∀ index line rest,
      walk index (line :: rest) = part index (line :: rest) ++ walk (index + 1) rest)
    (lines : List (List Char)) :
    ∀ index, walk index lines =
      (List.range lines.length).flatMap fun k => part (index + k) (lines.drop k) := by
  induction lines with
  | nil => exact hNil
  | cons line rest ih =>
    intro index
    rw [hCons, ih, List.length_cons, List.range_succ_eq_map, List.flatMap_cons, List.flatMap_map]
    -- the index of the rest is one ahead, and so are the places in it
    have hShift : ∀ k, part (index + 1 + k) (rest.drop k) =
        part (index + (k + 1)) ((line :: rest).drop (k + 1)) := by
      intro k
      rw [List.drop_succ_cons, Nat.add_right_comm, Nat.add_assoc]
    simp only [hShift]
    rfl

/-- A walk that looks at one line at a time makes the parts of all numbered lines. -/
theorem walk_eq_flatMap_zipIdx {part : Nat → List Char → List β}
    (hNil : ∀ index, walk index [] = [])
    (hCons : ∀ index line rest,
      walk index (line :: rest) = part index line ++ walk (index + 1) rest)
    (lines : List (List Char)) :
    ∀ index, walk index lines = (lines.zipIdx index).flatMap fun e => part e.2 e.1 := by
  induction lines with
  | nil => exact hNil
  | cons line rest ih =>
    intro index
    rw [hCons, ih, List.zipIdx_cons, List.flatMap_cons]

/-- Parts of at most one thing each, under a condition. -/
theorem flatMap_ite {α : Type} {p : α → Prop} [DecidablePred p] {f : α → β} (xs : List α) :
    (xs.flatMap fun x => if p x then [f x] else []) = (xs.filter fun x => p x).map f := by
  induction xs with
  | nil => rfl
  | cons x rest ih =>
    rw [List.flatMap_cons, ih, List.filter_cons]
    by_cases hHolds : p x
    · simp only [if_pos hHolds, decide_eq_true_eq]
      rfl
    · simp only [if_neg hHolds, decide_eq_true_eq]
      rfl

/-- What a walk makes is made at one of the lines. -/
theorem exists_of_mem_walk {P : Nat → β → Prop} (hNil : ∀ index, walk index [] = [])
    (hCons : ∀ index line rest, ∃ here, (∀ x ∈ here, P index x) ∧
      walk index (line :: rest) = here ++ walk (index + 1) rest)
    {lines : List (List Char)} {x : β} :
    ∀ {index : Nat}, x ∈ walk index lines → ∃ k < lines.length, P (index + k) x := by
  induction lines with
  | nil =>
    intro index hMem
    rw [hNil] at hMem
    cases hMem
  | cons line rest ih =>
    intro index hMem
    obtain ⟨here, hHolds, hEq⟩ := hCons index line rest
    rw [hEq] at hMem
    rcases List.mem_append.mp hMem with hHere | hRest
    · exact ⟨0, by simp, hHolds x hHere⟩
    · obtain ⟨k, hk, hLater⟩ := ih hRest
      refine ⟨k + 1, by simpa using hk, ?_⟩
      rwa [show index + (k + 1) = index + 1 + k by omega]

end Walks

end ReviewPanel
