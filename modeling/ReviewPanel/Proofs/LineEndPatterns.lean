import ReviewPanel.Proofs.LineEndPlaces
import ReviewPanel.Proofs.Pattern

/-!
# Line ends in patterns

A pattern that runs over a whole text may hold line ends, as blank characters. If it treats the
two characters of a line end alike, the pieces from a place and from its twin end at places
that stand for one another; and what ends in the middle of a line end leads nowhere.

Whether a pattern is of this kind is computed (`Pattern.isEven`, `NamePattern.isEven`), so that
a pattern in use is checked by evaluation.

* `Pattern.ends_of_split`       — pieces from the middle of a line end.
* `Pattern.doubles_ends`        — pieces from a place and from its twin.
* `NamePattern.all_withReturns` — the names in a text.
-/

namespace ReviewPanel

open Text

variable {text : List Char} {m n : Nat} {x : Char} {rest : List Char}

/-! ## Patterns -/

namespace Pattern

open Cursor

variable {p : Pattern} {c d e : Cursor} {test : Char → Bool}

/-- Whether no piece starts in the middle of a line end. -/
def halts : Pattern → Bool
  | one test => !test '\n'
  | run test least _ => 0 < least && !test '\n'
  | seq p _ => p.halts
  | either p q => p.halts && q.halts
  | wordEdge | textStart | lineStart => true
  | nothing => false

/-- Whether no piece starts in the middle of a line end but the empty one. -/
def rests : Pattern → Bool
  | one test => !test '\n'
  | run test _ _ => !test '\n'
  | seq p q => p.halts || p.rests && q.rests
  | either p q => p.rests && q.rests
  | nothing | wordEdge | textStart | lineStart => true

/-- Whether no piece ends in the middle of a line end, unless it starts there. -/
def isWhole : Pattern → Bool
  | one test => !test '\r'
  | run test _ _ => !test '\r'
  | seq p q => q.isWhole && (p.isWhole || q.halts)
  | either p q => p.isWhole && q.isWhole
  | nothing | wordEdge | textStart | lineStart => true

/-- Whether no piece has a line feed. -/
def isUnbroken : Pattern → Bool
  | one test => !test '\n'
  | run test _ _ => !test '\n'
  | seq p q => p.isUnbroken && q.isUnbroken
  | either p q => p.isUnbroken && q.isUnbroken
  | nothing | wordEdge | textStart | lineStart => true

/-- Whether a line end makes no difference by its spelling: a repetition takes neither of its
characters or both, any number of them, and what follows a piece that ends in its middle is
nothing. -/
def isEven : Pattern → Bool
  | one test => !test '\r' && !test '\n'
  | run test least most =>
    if test '\n' then test '\r' && least ≤ 1 && most.isNone else !test '\r'
  | seq p q => p.isEven && q.isEven && (p.isWhole || q.rests)
  | either p q => p.isEven && q.isEven
  | nothing | wordEdge | textStart | lineStart => true

/-! ## Pieces from the middle of a line end -/

/-- At a character that fails the test a run ends, if it is long enough. -/
theorem runEnds_of_stop {offset least : Nat} {before : Option Char} {room : Option Nat}
    (hStop : test x = false) : runEnds test offset before least room (x :: rest) =
      if least = 0 then [⟨offset, before, x :: rest⟩] else [] := by
  rw [runEnds, hStop]
  rfl

/-- At one that passes it a run goes on, and may end if it is long enough. -/
theorem runEnds_of_take {offset least : Nat} {before : Option Char} (hTake : test x = true) :
    runEnds test offset before least none (x :: rest) =
      runEnds test (offset + 1) (some x) (least - 1) none rest ++
        if least = 0 then [⟨offset, before, x :: rest⟩] else [] := by
  rw [runEnds, hTake]
  rfl

/-- A pattern that halts at line ends does not get off such a place. -/
theorem ends_of_split (hSplit : Split text d) (hHalts : p.halts = true) : p.ends d = [] := by
  obtain ⟨hDrop⟩ := hSplit
  -- the next character is a line feed, which nothing that halts takes
  induction p with
  | one test =>
    rw [halts, Bool.not_eq_true'] at hHalts
    simp [ends, hHalts]
  | run test least most =>
    rw [halts, Bool.and_eq_true, decide_eq_true_iff, Bool.not_eq_true'] at hHalts
    rw [ends, runEnds_of_stop hHalts.2, if_neg (by omega)]
  | seq p q ihp _ =>
    rw [ends, ihp hHalts]
    rfl
  | either p q ihp ihq =>
    rw [halts, Bool.and_eq_true] at hHalts
    rw [ends, ihp hHalts.1, ihq hHalts.2, List.append_nil]
  | wordEdge => rfl
  | textStart => rfl
  | lineStart => rfl
  | nothing => cases hHalts

/-- One that rests there may end where it starts. -/
theorem eq_of_mem_ends_of_split (hSplit : Split text d) (hRests : p.rests = true)
    (hMem : e ∈ p.ends d) : e = d := by
  -- by induction on the pattern; the place is in front of a feed, behind its return
  induction p generalizing e with
  | one test =>
    rw [ends_of_split (p := one test) hSplit hRests] at hMem
    cases hMem
  | run test least most =>
    obtain ⟨hDrop⟩ := hSplit
    rw [rests, Bool.not_eq_true'] at hRests
    rw [ends, runEnds_of_stop hRests] at hMem
    split at hMem
    · exact List.mem_singleton.mp hMem
    · cases hMem
  | seq p q ihp ihq =>
    obtain ⟨m, hm, hEnd⟩ := List.mem_flatMap.mp (mem_of_mem_distinct hMem)
    -- the first part does not get off the place, or both stay on it
    rcases Bool.or_eq_true_iff.mp hRests with hHalts | hBoth
    · rw [ends_of_split hSplit hHalts] at hm
      cases hm
    · rw [Bool.and_eq_true] at hBoth
      obtain rfl := ihp hBoth.1 hm
      exact ihq hBoth.2 hEnd
  | either p q ihp ihq =>
    rw [rests, Bool.and_eq_true] at hRests
    rcases List.mem_append.mp hMem with hFirst | hSecond
    · exact ihp hRests.1 hFirst
    · exact ihq hRests.2 hSecond
  | nothing => exact List.mem_singleton.mp hMem
  | wordEdge =>
    rw [ends_of_split hSplit rfl] at hMem
    cases hMem
  | textStart =>
    rw [ends_of_split hSplit rfl] at hMem
    cases hMem
  | lineStart =>
    rw [ends_of_split hSplit rfl] at hMem
    cases hMem

/-! ## Pieces from a place and from its twin -/

/-- No place within a line end has a spelled text left. -/
theorem not_split_of_rest {cs : List Char} (hRest : d.rest = withReturns cs) : ¬ Split text d := by
  rintro ⟨hDrop⟩
  exact withReturns_ne_feed hRest.symm

/-- A run that returns do not pass ends in front of a spelled text. -/
theorem rest_of_mem_runEnds {cs : List Char} {offset least : Nat} {before : Option Char}
    {room : Option Nat} (hReturn : test '\r' = false)
    (hMem : e ∈ runEnds test offset before least room (withReturns cs)) :
    ∃ left, e.rest = withReturns left := by
  induction cs generalizing offset before least room with
  | nil =>
    rw [withReturns_nil, runEnds] at hMem
    split at hMem
    · exact ⟨[], by rw [List.mem_singleton.mp hMem]; rfl⟩
    · cases hMem
  | cons x rest ih =>
    -- where the run may end, a spelled text is left
    have hStop : e ∈ (if least = 0 then [⟨offset, before, withReturns (x :: rest)⟩] else []) →
        ∃ left, e.rest = withReturns left := by
      split
      · intro hHere
        exact ⟨x :: rest, by rw [List.mem_singleton.mp hHere]⟩
      · intro hNone
        cases hNone
    by_cases hFeed : x = '\n'
    · -- the run stops before the return
      subst hFeed
      rw [withReturns_feed, runEnds_of_stop hReturn] at hMem
      exact hStop hMem
    · rw [withReturns_cons hFeed] at hMem hStop
      rw [runEnds] at hMem
      split at hMem
      · rcases List.mem_append.mp hMem with hOn | hHere
        · exact ih hOn
        · exact hStop hHere
      · exact hStop hMem

/-- An even run over line ends takes returns, too, and is open-ended. -/
theorem eq_of_isEven_run {least : Nat} {most : Option Nat}
    (hEven : (run test least most).isEven = true) (hTake : test '\n' = true) :
    test '\r' = true ∧ least ≤ 1 ∧ most = none := by
  rw [isEven, if_pos hTake, Bool.and_eq_true, Bool.and_eq_true, decide_eq_true_iff,
    Option.isNone_iff_eq_none] at hEven
  exact ⟨hEven.1.1, hEven.1.2, hEven.2⟩

/-- A run stays even after a step. -/
theorem isEven_run_next {least : Nat} {room : Option Nat}
    (hEven : (run test least room).isEven = true) :
    (run test (least - 1) (room.map (· - 1))).isEven = true := by
  by_cases hTake : test '\n' = true
  · obtain ⟨hReturn, hLeast, rfl⟩ := eq_of_isEven_run hEven hTake
    rw [isEven, if_pos hTake, hReturn, decide_eq_true (by omega : least - 1 ≤ 1)]
    rfl
  · rw [isEven, if_neg hTake] at hEven ⊢
    exact hEven

/-- A run that takes both characters of a line end may stop between them, and a run that takes
neither stops before. -/
theorem doubles_runEnds {least : Nat} {before : Option Char} {room : Option Nat}
    (hEven : (run test least room).isEven = true) (hAt : IsAt text ⟨n, before, rest⟩) :
    Doubles text (runEnds test n before least room rest)
      (runEnds test (spelledOffset text n) before least room (withReturns rest)) := by
  induction rest generalizing n before least room with
  | nil => exact .ite hAt
  | cons x rest ih =>
    have hStop : Doubles text (if least = 0 then [⟨n, before, x :: rest⟩] else [])
        (if least = 0 then [⟨spelledOffset text n, before, withReturns (x :: rest)⟩] else []) :=
      .ite hAt
    have hOn := isEven_run_next hEven
    by_cases hFeed : x = '\n'
    · subst hFeed
      rw [withReturns_feed] at hStop ⊢
      by_cases hTake : test '\n' = true
      · obtain ⟨hReturn, hLeast, rfl⟩ := eq_of_isEven_run hEven hTake
        -- at the return, the run has what it needs, so it may stop before the feed
        have hEnough : least - 1 = 0 := by omega
        have hRest := ih hOn hAt.next
        rw [spelledOffset_feed hAt.rest, hEnough] at hRest
        have hSplit : Doubles text []
            [⟨spelledOffset text n + 1, some '\r', '\n' :: withReturns rest⟩] :=
          .of_splits (List.forall_mem_singleton.mpr ⟨hAt.rest⟩)
        rw [runEnds_of_take hTake, runEnds_of_take hReturn, runEnds_of_take hTake, hEnough]
        have hBoth := (hRest.append hSplit).append hStop
        rwa [List.append_nil] at hBoth
      · -- the run stops before the feed in one spelling and before the return in the other
        rw [Bool.not_eq_true] at hTake
        have hReturn : test '\r' = false := by
          rw [isEven, if_neg (by rw [hTake]; decide), Bool.not_eq_true'] at hEven
          exact hEven
        rw [runEnds_of_stop hTake, runEnds_of_stop hReturn]
        exact hStop
    · rw [withReturns_cons hFeed] at hStop ⊢
      rw [runEnds, runEnds]
      split
      · have hRest := ih hOn hAt.next
        rw [spelledOffset_succ hAt.rest hFeed] at hRest
        exact hRest.append hStop
      · exact hStop

theorem atWordEdge_twin : (c.twin text).atWordEdge = c.atWordEdge := by
  have hAfter : (c.twin text).afterWord = c.afterWord := by
    unfold afterWord twin
    cases c.rest with
    | nil => rfl
    | cons x rest =>
      by_cases hFeed : x = '\n'
      · subst hFeed
        rfl
      · rw [withReturns_cons hFeed]
  rw [atWordEdge, atWordEdge, hAfter]
  rfl

theorem not_split_ite {P : Prop} [Decidable P] : ∀ d ∈ (if P then [c.twin text] else []),
    ¬ Split text d := by
  intro d hMem
  split at hMem
  · rw [List.mem_singleton.mp hMem]
    exact not_split_of_rest rfl
  · cases hMem

/-- **Pieces.** The pieces of an even pattern from a place and from its twin end at the same
places, up to splits; and if the pattern is whole, there are none of these. -/
theorem doubles_ends (hEven : p.isEven = true) (hAt : IsAt text c) :
    Doubles text (p.ends c) (p.ends (c.twin text)) ∧
      (p.isWhole = true → ∀ d ∈ p.ends (c.twin text), ¬ Split text d) := by
  induction p generalizing c with
  | nothing =>
    exact ⟨.single hAt, fun _ => List.forall_mem_singleton.mpr (not_split_of_rest rfl)⟩
  | one test =>
    rw [isEven, Bool.and_eq_true, Bool.not_eq_true', Bool.not_eq_true'] at hEven
    obtain ⟨offset, before, rest⟩ := c
    cases rest with
    | nil => exact ⟨.nil, fun _ _ hMem => absurd hMem List.not_mem_nil⟩
    | cons x rest =>
      by_cases hFeed : x = '\n'
      · subst hFeed
        simp only [ends, twin, withReturns_feed, hEven.1, hEven.2]
        exact ⟨.nil, fun _ _ hMem => absurd hMem List.not_mem_nil⟩
      · simp only [ends, twin, withReturns_cons hFeed, ← twin_next hAt hFeed]
        exact ⟨.ite hAt.next, fun _ => not_split_ite (c := ⟨offset + 1, some x, rest⟩)⟩
  | run test least most =>
    refine ⟨doubles_runEnds hEven hAt, fun hWhole d hMem => ?_⟩
    rw [isWhole, Bool.not_eq_true'] at hWhole
    obtain ⟨left, hRest⟩ := rest_of_mem_runEnds hWhole hMem
    exact not_split_of_rest hRest
  | seq p q ihp ihq =>
    rw [isEven, Bool.and_eq_true, Bool.and_eq_true, Bool.or_eq_true] at hEven
    obtain ⟨⟨hp, hq⟩, hBetween⟩ := hEven
    obtain ⟨hFirst, hFirstWhole⟩ := ihp hp hAt
    have hReached : Doubles text ((p.ends c).flatMap q.ends)
        ((p.ends (c.twin text)).flatMap q.ends) := by
      refine hFirst.flatMap (fun b hb => (ihq hq hb).1) fun d hd hSplit => .of_splits fun e he => ?_
      -- a first part that ends in the middle of a line end goes nowhere from there
      rcases hBetween with hWhole | hRests
      · exact absurd hSplit (hFirstWhole hWhole d hd)
      · rwa [eq_of_mem_ends_of_split hSplit hRests he]
    refine ⟨hReached.distinct fun n _ => ?_, fun hWhole d hMem => ?_⟩
    · rw [Nat.zero_testBit, Nat.zero_testBit]
    · rw [isWhole, Bool.and_eq_true, Bool.or_eq_true] at hWhole
      obtain ⟨m, hm, hEnd⟩ := List.mem_flatMap.mp (mem_of_mem_distinct hMem)
      -- the first part ends at a twin, or at a split from which the second one does not start
      rcases hFirst.twin_or_split hm with ⟨b, -, hb, rfl⟩ | hSplit
      · exact (ihq hq hb).2 hWhole.1 d hEnd
      · rcases hWhole.2 with hNone | hHalts
        · exact absurd hSplit (hFirstWhole hNone m hm)
        · rw [ends_of_split hSplit hHalts] at hEnd
          cases hEnd
  | either p q ihp ihq =>
    rw [isEven, Bool.and_eq_true] at hEven
    obtain ⟨hFirst, hFirstWhole⟩ := ihp hEven.1 hAt
    obtain ⟨hSecond, hSecondWhole⟩ := ihq hEven.2 hAt
    refine ⟨hFirst.append hSecond, fun hWhole => ?_⟩
    rw [isWhole, Bool.and_eq_true] at hWhole
    exact List.forall_mem_append.mpr ⟨hFirstWhole hWhole.1, hSecondWhole hWhole.2⟩
  | wordEdge =>
    rw [ends, ends, atWordEdge_twin]
    exact ⟨.ite hAt, fun _ => not_split_ite⟩
  | textStart => exact ⟨.ite hAt, fun _ => not_split_ite⟩
  | lineStart => exact ⟨.ite hAt, fun _ => not_split_ite⟩

/-- The ends of pieces from a twin, where the pattern has no splits. -/
theorem ends_twin (hEven : p.isEven = true) (hWhole : p.isWhole = true) (hAt : IsAt text c) :
    p.ends (c.twin text) = (p.ends c).map (Cursor.twin text) :=
  (doubles_ends hEven hAt).1.eq_map ((doubles_ends hEven hAt).2 hWhole)

/-! ## The text of a piece -/

/-- What an unbroken pattern takes has no line end in it. -/
theorem takesOnly_of_isUnbroken (hUnbroken : p.isUnbroken = true) : p.TakesOnly (· ≠ '\n') := by
  have hOther : ∀ {test : Char → Bool}, (!test '\n') = true → ∀ x, test x = true → x ≠ '\n' := by
    rintro test hFeed x hTake rfl
    rw [hTake] at hFeed
    cases hFeed
  induction p with
  | one test => exact hOther hUnbroken
  | run test least most => exact hOther hUnbroken
  | seq p q ihp ihq =>
    rw [isUnbroken, Bool.and_eq_true] at hUnbroken
    exact ⟨ihp hUnbroken.1, ihq hUnbroken.2⟩
  | either p q ihp ihq =>
    rw [isUnbroken, Bool.and_eq_true] at hUnbroken
    exact ⟨ihp hUnbroken.1, ihq hUnbroken.2⟩
  | nothing => trivial
  | wordEdge => trivial
  | textStart => trivial
  | lineStart => trivial

/-- The text of a piece without line feeds. -/
theorem exists_unbroken_piece (hUnbroken : p.isUnbroken = true) (hMem : e ∈ p.ends c) :
    ∃ piece, '\n' ∉ piece ∧ Spans c e piece := by
  obtain ⟨piece, hPiece, hSpans⟩ := exists_piece (takesOnly_of_isUnbroken hUnbroken) hMem
  exact ⟨piece, fun hFeed => hPiece _ hFeed rfl, hSpans⟩

end Pattern

/-! ## Names in a text -/

namespace NamePattern

open Cursor

variable {p : NamePattern} {c : Cursor}

/-- Whether a line end makes no difference to the names by its spelling: all three parts are
even, nothing starts in the middle of a line end, names are of one line, and what follows a
name ends nowhere in the middle of a line end. -/
def isEven (p : NamePattern) : Bool :=
  p.lead.isEven && p.lead.halts && p.name.isEven && p.name.halts && p.name.isWhole
    && p.name.isUnbroken && p.trail.isEven && p.trail.isWhole

/-- The conditions of an even pattern, one by one. -/
structure Even (p : NamePattern) : Prop where
  lead       : p.lead.isEven = true
  leadHalts  : p.lead.halts = true
  name       : p.name.isEven = true
  nameHalts  : p.name.halts = true
  nameWhole  : p.name.isWhole = true
  unbroken   : p.name.isUnbroken = true
  trail      : p.trail.isEven = true
  trailWhole : p.trail.isWhole = true

/-- By induction on the pattern: each way to build one keeps the places in step. -/
theorem even_of_isEven (hEven : p.isEven = true) : p.Even := by
  simp only [isEven, Bool.and_eq_true] at hEven
  obtain ⟨⟨⟨⟨⟨⟨⟨h1, h2⟩, h3⟩, h4⟩, h5⟩, h6⟩, h7⟩, h8⟩ := hEven
  exact ⟨h1, h2, h3, h4, h5, h6, h7, h8⟩

/-- A name, and the twin of the place where its piece ends. -/
def twinMatch (text : List Char) (found : List Char × Cursor) : List Char × Cursor :=
  (found.1, found.2.twin text)

namespace Even

/-- Pieces from the middle of a line end: there are none. -/
theorem match?_of_split (hEven : p.Even) {d : Cursor} (hSplit : Split text d) :
    p.match? d = none := by
  rw [match?, Pattern.ends_of_split hSplit hEven.leadHalts]
  rfl

/-- The text of a name is the same in both spellings. -/
theorem take_twin (hEven : p.Even) {s e : Cursor} (hAt : IsAt text s)
    (hMem : e ∈ p.name.ends s) :
    (s.twin text).rest.take ((e.twin text).offset - (s.twin text).offset) =
      s.rest.take (e.offset - s.offset) := by
  -- names are of one line, so their texts are as long in either spelling
  obtain ⟨piece, hPiece, hRest, hOffset⟩ := Pattern.exists_unbroken_piece hEven.unbroken hMem
  have hTake : s.rest.take piece.length = piece := by rw [hRest, List.take_left]
  have hSpelled : spelledOffset text e.offset = spelledOffset text s.offset + piece.length := by
    rw [hOffset, spelledOffset_add, hAt.rest, hTake, withReturns_eq_self hPiece]
  show (withReturns s.rest).take (spelledOffset text e.offset - spelledOffset text s.offset) = _
  rw [hSpelled, hOffset, Nat.add_sub_cancel_left, Nat.add_sub_cancel_left, hTake, take_withReturns]
  · exact hTake
  · rwa [hTake]

/-- The preferred piece from a place and from its twin. -/
theorem match?_twin (hEven : p.Even) (hAt : IsAt text c) :
    p.match? (c.twin text) = (p.match? c).map (twinMatch text) := by
  rw [match?, match?]
  refine (Pattern.doubles_ends hEven.lead hAt).1.findSome? (fun s _ hs => ?_)
    fun d _ hSplit => ?_
  · -- every end of a name has its twin, and what may follow is the same there
    have hName := Pattern.doubles_ends hEven.name hs
    refine hName.1.findSome? (fun e hMem he => ?_) fun d hd hSplit => ?_
    · rw [hEven.take_twin hs hMem, Pattern.ends_twin hEven.trail hEven.trailWhole he,
        List.head?_map, Option.map_map, Option.map_map]
      rfl
    · exact absurd hSplit (hName.2 hEven.nameWhole d hd)
  · -- no name starts in the middle of a line end
    rw [Pattern.ends_of_split hSplit hEven.nameHalts]
    rfl

/-- The names from a place on, where no piece is being passed over. -/
theorem allFrom_zero {offset : Nat} {before : Option Char} :
    p.allFrom offset before 0 (x :: rest) =
      match p.match? ⟨offset, before, x :: rest⟩ with
      | some (name, e) => name :: p.allFrom (offset + 1) (some x) (e.offset - (offset + 1)) rest
      | none => p.allFrom (offset + 1) (some x) 0 rest := by
  rw [allFrom]
  cases p.match? ⟨offset, before, x :: rest⟩ with
  | none => rfl
  | some found =>
    show found.1 :: p.allFrom _ _ (found.2.offset - offset - 1) _ = _
    rw [Nat.sub_sub]

/-- Nothing is found in the middle of a line end. -/
theorem allFrom_split (hEven : p.Even) {skip : Nat} (hDrop : text.drop n = '\n' :: rest) :
    p.allFrom (spelledOffset text n + 1) (some '\r') skip ('\n' :: withReturns rest) =
      p.allFrom (spelledOffset text (n + 1)) (some '\n') (skip - 1) (withReturns rest) := by
  rw [spelledOffset_feed hDrop]
  cases skip with
  | zero =>
    rw [allFrom_zero, hEven.match?_of_split ⟨hDrop⟩]
  | succ k => rfl

/-- One character of the text, as one or two of the other spelling. -/
theorem allFrom_spelled (hEven : p.Even) {before : Option Char}
    (hAt : IsAt text ⟨n, before, x :: rest⟩) :
    p.allFrom (spelledOffset text n) before 0 (withReturns (x :: rest)) =
      match p.match? (twin text ⟨n, before, x :: rest⟩) with
      | some (name, e) =>
        name :: p.allFrom (spelledOffset text (n + 1)) (some x)
          (e.offset - spelledOffset text (n + 1)) (withReturns rest)
      | none => p.allFrom (spelledOffset text (n + 1)) (some x) 0 (withReturns rest) := by
  rw [twin]
  dsimp only
  by_cases hFeed : x = '\n'
  · subst hFeed
    rw [withReturns_feed, allFrom_zero]
    simp only [hEven.allFrom_split hAt.rest, Nat.sub_sub, ← spelledOffset_feed hAt.rest]
  · rw [withReturns_cons hFeed, allFrom_zero, spelledOffset_succ hAt.rest hFeed]

/-- **Names.** From a place and from its twin on, and after as much of the text as the piece
before has, the names are the same. -/
theorem allFrom_twin (hEven : p.Even) {before : Option Char} {skip : Nat}
    (hAt : IsAt text ⟨n, before, rest⟩) :
    p.allFrom (spelledOffset text n) before (withReturns (rest.take skip)).length
        (withReturns rest) = p.allFrom n before skip rest := by
  induction rest generalizing n before skip with
  | nil => rfl
  | cons x rest ih =>
    cases skip with
    | zero =>
      show p.allFrom (spelledOffset text n) before 0 (withReturns (x :: rest)) = _
      rw [hEven.allFrom_spelled hAt, hEven.match?_twin hAt, allFrom_zero]
      cases p.match? ⟨n, before, x :: rest⟩ with
      | none => exact @ih (n + 1) (some x) 0 hAt.next
      | some found =>
        show found.1 :: p.allFrom _ _
          (spelledOffset text found.2.offset - spelledOffset text (n + 1)) _ = found.1 :: _
        rw [spelledOffset_sub, hAt.next.rest, ih hAt.next]
    | succ k =>
      -- the character is passed over, with the return before it
      rw [List.take_succ_cons]
      by_cases hFeed : x = '\n'
      · subst hFeed
        show p.allFrom (spelledOffset text n + 2) (some '\n') (withReturns (rest.take k)).length
          (withReturns rest) = p.allFrom (n + 1) (some '\n') k rest
        rw [← spelledOffset_feed hAt.rest, ih hAt.next]
      · rw [withReturns_cons hFeed, withReturns_cons hFeed]
        show p.allFrom (spelledOffset text n + 1) (some x) (withReturns (rest.take k)).length
          (withReturns rest) = p.allFrom (n + 1) (some x) k rest
        rw [← spelledOffset_succ hAt.rest hFeed, ih hAt.next]

end Even

/-- The names of an even pattern in a text are those in its other spelling. -/
theorem all_withReturns (hEven : p.isEven = true) : p.all (withReturns text) = p.all text := by
  have hAt : IsAt text ⟨0, none, text⟩ := ⟨Nat.zero_le _, rfl⟩
  have hTwin : p.allFrom (spelledOffset text 0) none (withReturns (text.take 0)).length
      (withReturns text) = p.allFrom 0 none 0 text := (even_of_isEven hEven).allFrom_twin hAt
  exact hTwin

end NamePattern

end ReviewPanel
