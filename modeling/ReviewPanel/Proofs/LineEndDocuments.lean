import ReviewPanel.Proofs.Fuel
import ReviewPanel.Proofs.LineEnds

/-!
# Line ends in data texts

Between the parts of a data text a line end is space, and inside of a part it is a fault; so a
data text means the same whether its lines end with returns or without. Both of its spellings
are read step by step. Each step finds the same in either, and what it leaves of the one is the
other spelling of what it leaves of the other; so the readers agree with the same fuel
(`readsAlike`), and fuel makes no difference (`ofText_eq`).

* `readText_withReturns`      — texts between quotes, which have no line ends.
* `readNumeral_withReturns`   — nor have numerals.
* `readsAlike`                — values, items and members.
* `ofText_withReturns`        — the document of a data text.
-/

namespace ReviewPanel

open Text Numeric

/-! ## Digits -/

namespace Numeric

/-- Digits are taken together one by one, so one that is none spoils the number. -/
theorem foldlM_eq_none {base : Nat} {c : Char} {ds : List Char} (hMem : c ∈ ds)
    (hNone : digitValue? base c = none) (n : Nat) :
    ds.foldlM (fun n c => (digitValue? base c).map (n * base + ·)) n = none := by
  induction ds generalizing n with
  | nil => cases hMem
  | cons d rest ih =>
    rw [List.foldlM_cons]
    rcases List.mem_cons.mp hMem with rfl | hRest
    · rw [hNone]
      rfl
    · cases digitValue? base d with
      | none => rfl
      | some value => exact ih hRest _

/-- What holds no digit writes no natural. -/
theorem natOfDigits?_eq_none {base : Nat} {c : Char} {ds : List Char} (hMem : c ∈ ds)
    (hNone : digitValue? base c = none) : natOfDigits? base ds = none :=
  foldlM_eq_none hMem hNone 0

/-- Nor is it read as hexadecimal digits. -/
theorem readHex?_eq_none {count : Nat} {c : Char} {cs : List Char} (hMem : c ∈ cs.take count)
    (hNone : digitValue? 16 c = none) : readHex? count cs = none := by
  rw [readHex?, natOfDigits?_eq_none hMem hNone]
  rfl

/-- Hexadecimal digits have no line end among them. -/
theorem readHex?_withReturns {count : Nat} {cs : List Char} :
    readHex? count (withReturns cs) = (readHex? count cs).map (Prod.map id withReturns) := by
  by_cases hFeed : '\n' ∈ cs.take count
  · -- in either spelling a character of the line end is among the digits
    rw [readHex?_eq_none hFeed (by decide),
      readHex?_eq_none (return_mem_take_withReturns hFeed) (by decide)]
    rfl
  · rw [readHex?, readHex?, take_withReturns hFeed, drop_withReturns hFeed]
    cases natOfDigits? 16 (cs.take count) with
    | none => rfl
    | some n =>
      show (if (cs.take count).length = count then _ else none) =
        Option.map _ (if _ then _ else none)
      split <;> rfl

end Numeric

namespace Json

variable {cs rest chars : List Char} {whole negative : Bool} {depth fuel : Nat} {c : Char}

/-! ## Spaces -/

/-- Both characters of a line end are space. -/
theorem skipSpaces_withReturns : skipSpaces (withReturns cs) = withReturns (skipSpaces cs) :=
  dropWhile_withReturns rfl

/-- So no part of a document starts with a line end. -/
theorem ne_feed_of_skipSpaces (hSkip : skipSpaces cs = c :: rest) : c ≠ '\n' := by
  have hHead := List.head?_dropWhile_not isSpace cs
  rw [show cs.dropWhile isSpace = c :: rest from hSkip] at hHead
  rintro rfl
  cases hHead

/-! ## Texts between quotes -/

/-- A step of the other spelling. -/
def TextStep.withReturns : TextStep → TextStep
  | .close => .close
  | .character c rest => .character c (Text.withReturns rest)
  | .half rest => .half (Text.withReturns rest)
  | .fault => .fault

def TextPart.withReturns : TextPart → TextPart
  | .read chars rest => .read chars (Text.withReturns rest)
  | .unreadable rest => .unreadable (Text.withReturns rest)
  | .broken => .broken

/-- The second half of a pair is found in either spelling. -/
theorem lowHalf?_withReturns :
    lowHalf? (withReturns cs) = (lowHalf? cs).map (Prod.map id withReturns) := by
  cases cs with
  | nil => rfl
  | cons c tail =>
    -- the other half is written as an escape: neither of its first two characters ends a line
    by_cases hFeed : c = '\n'
    · subst hFeed
      rfl
    rw [withReturns_cons hFeed]
    by_cases hEscape : c = '\\'
    · subst hEscape
      cases tail with
      | nil => rfl
      | cons e rest =>
        by_cases hLast : e = '\n'
        · subst hLast
          rfl
        rw [withReturns_cons hLast]
        by_cases hUnit : e = 'u'
        · subst hUnit
          simp only [lowHalf?, hexUnit?, readHex?_withReturns]
          cases readHex? 4 rest with
          | none => rfl
          | some found =>
            simp only [Option.map_some, Prod.map_fst, Prod.map_snd, id]
            split <;> rfl
        · simp [lowHalf?, hUnit]
    · simp [lowHalf?, hEscape]

/-- A code unit stands for the same in either spelling. -/
theorem unitStep_withReturns {unit : Nat} :
    unitStep unit (withReturns cs) = (unitStep unit cs).withReturns := by
  rw [unitStep, unitStep, lowHalf?_withReturns]
  cases isHighSurrogate unit with
  | true => cases lowHalf? cs <;> rfl
  | false => cases isLowSurrogate unit <;> rfl

/-- So does an escape, since neither character of a line end can be escaped. -/
theorem escapeStep_withReturns : escapeStep (withReturns cs) = (escapeStep cs).withReturns := by
  cases cs with
  | nil => rfl
  | cons e rest =>
    by_cases hFeed : e = '\n'
    · -- neither character of a line end can be escaped
      subst hFeed
      rfl
    rw [withReturns_cons hFeed]
    by_cases hUnit : e = 'u'
    · subst hUnit
      simp only [escapeStep, hexUnit?, readHex?_withReturns]
      cases readHex? 4 rest with
      | none => rfl
      | some found => exact unitStep_withReturns
    · simp only [escapeStep]
      cases escaped? e <;> rfl

/-- A step of a text between quotes takes the same from either spelling. -/
theorem textStep_withReturns :
    textStep c (withReturns rest) = (textStep c rest).withReturns := by
  rw [textStep, textStep, escapeStep_withReturns]
  split_ifs <;> rfl

/-- A text between quotes is read alike: it breaks off at a line end in either spelling. -/
theorem readText_withReturns : readText chars whole fuel (withReturns cs) =
    (readText chars whole fuel cs).withReturns := by
  induction fuel generalizing chars whole cs with
  | zero => rfl
  | succ fuel ih =>
    cases cs with
    | nil => rfl
    | cons c rest =>
      by_cases hFeed : c = '\n'
      · -- a text breaks off at either character of a line end
        subst hFeed
        rfl
      rw [withReturns_cons hFeed, readText_succ, readText_succ, textStep_withReturns]
      cases textStep c rest with
      | close => cases whole <;> rfl
      | character d left => exact ih
      | half left => exact ih
      | fault => rfl

/-- A text is read with fuel for all of its characters, of which one spelling has more. -/
theorem readText_length_withReturns :
    readText [] true ((withReturns cs).length + 1) (withReturns cs) =
      (readText [] true (cs.length + 1) cs).withReturns := by
  have hLength : cs.length ≤ (withReturns cs).length := length_le_withReturns
  rw [readText_withReturns, readText_of_le (Nat.lt_succ_self cs.length) (by omega)]

/-! ## Numerals and words -/

/-- What was found, and the other spelling of what is left. -/
def respellRest (found : Datum × Rest) : Datum × Rest := (found.1, found.2.map withReturns)

/-- Digits stop before either character of a line end. -/
theorem spanDigits_withReturns :
    spanDigits (withReturns cs) = ((spanDigits cs).1, withReturns (spanDigits cs).2) := by
  rw [spanDigits, takeWhile_withReturns rfl rfl, dropWhile_withReturns rfl]
  rfl

/-- A fraction is the same in either spelling. -/
theorem fractionPart_withReturns : fractionPart (withReturns cs) =
    ((fractionPart cs).1, (fractionPart cs).2.1, withReturns (fractionPart cs).2.2) := by
  cases cs with
  | nil => rfl
  | cons c rest =>
    by_cases hFeed : c = '\n'
    · subst hFeed
      rfl
    rw [withReturns_cons hFeed]
    by_cases hPoint : c = '.'
    · subst hPoint
      show ((spanDigits (withReturns rest)).1, true, (spanDigits (withReturns rest)).2) = _
      rw [spanDigits_withReturns]
      rfl
    · rw [fractionPart_cons hPoint, fractionPart_cons hPoint, withReturns_cons hFeed]

/-- So is a sign. -/
theorem signPart_withReturns :
    signPart (withReturns cs) = ((signPart cs).1, withReturns (signPart cs).2) := by
  cases cs with
  | nil => rfl
  | cons c rest =>
    by_cases hFeed : c = '\n'
    · subst hFeed
      rfl
    rw [withReturns_cons hFeed]
    by_cases hPlus : c = '+'
    · subst hPlus
      rfl
    by_cases hMinus : c = '-'
    · subst hMinus
      rfl
    rw [signPart_cons hPlus hMinus, signPart_cons hPlus hMinus, withReturns_cons hFeed]

/-- So is an exponent. -/
theorem readExponent_withReturns : readExponent (withReturns cs) =
    ((readExponent cs).1, (readExponent cs).2.map withReturns) := by
  cases cs with
  | nil => rfl
  | cons c rest =>
    by_cases hFeed : c = '\n'
    · subst hFeed
      rfl
    rw [withReturns_cons hFeed, readExponent_cons, readExponent_cons, signPart_withReturns]
    dsimp only
    rw [spanDigits_withReturns]
    split_ifs
    · rfl
    · rfl
    · rw [Option.map_some, withReturns_cons hFeed]

/-- A numeral ends before a line end, so its number is the same. -/
theorem readNumeral_withReturns :
    readNumeral negative (withReturns cs) = respellRest (readNumeral negative cs) := by
  rw [readNumeral_eq, readNumeral_eq, spanDigits_withReturns]
  dsimp only
  rw [fractionPart_withReturns]
  dsimp only
  rw [readExponent_withReturns]
  split_ifs
  · rfl
  · rfl
  · rcases readExponent (fractionPart (spanDigits cs).2).2.2 with ⟨exponent, _ | left⟩
    · rfl
    · dsimp only [Option.map_some]
      rw [numeralOf, numeralOf]
      split <;> rfl

/-- A word without line ends is found in both spellings or in neither. -/
theorem readWord_withReturns {word : String} {value : Datum}
    (hLine : isOneLine word.toList = true) :
    readWord word value (withReturns cs) = respellRest (readWord word value cs) := by
  have hStarts : word.toList.isPrefixOf (withReturns cs) = word.toList.isPrefixOf cs :=
    startsWith_withReturns hLine
  rw [readWord, readWord, hStarts]
  by_cases hWord : word.toList.isPrefixOf cs = true
  · -- the characters of the word are on one line
    have hTake : cs.take word.length = word.toList := by
      rw [← String.length_toList]
      exact (List.prefix_iff_eq_take.mp (List.isPrefixOf_iff_prefix.mp hWord)).symm
    have hFeed : '\n' ∉ cs.take word.length := by
      rw [hTake]
      intro hMem
      cases List.all_eq_true.mp hLine '\n' hMem
    rw [if_pos hWord, if_pos hWord, drop_withReturns hFeed]
    rfl
  · rw [if_neg hWord, if_neg hWord]
    rfl

/-! ## Values -/

def Opening.withReturns : Opening → Opening
  | .found value => .found (respellRest value)
  | .items rest => .items (Text.withReturns rest)
  | .members rest => .members (Text.withReturns rest)

def Closing.withReturns : Closing → Closing
  | .next rest => .next (Text.withReturns rest)
  | .last rest => .last (Text.withReturns rest)
  | .fault => .fault

def Naming.withReturns : Naming → Naming
  | .fault => .fault
  | .only name => .only name
  | .value name rest => .value name (Text.withReturns rest)

/-- How deep a container lies is the same in either spelling. -/
theorem atDepth_respellRest (found : Datum × Rest) :
    atDepth depth (respellRest found) = respellRest (atDepth depth found) := by
  rw [atDepth, atDepth]
  split
  · rfl
  · obtain ⟨x, _ | rest⟩ := found <;> rfl

/-- A text between quotes leaves the other spelling of what it leaves. -/
theorem quoted_withReturns {part : TextPart} :
    quoted part.withReturns = respellRest (quoted part) := by
  cases part <;> rfl

/-- Values that are no containers are read alike. -/
theorem scalar_withReturns (hFeed : c ≠ '\n') :
    scalar c (withReturns rest) = respellRest (scalar c rest) := by
  unfold scalar
  -- the character itself stays, and each kind of value has its lemma for what follows
  rw [readText_length_withReturns, quoted_withReturns, readNumeral_withReturns,
    ← withReturns_cons hFeed, readNumeral_withReturns, readWord_withReturns (by decide),
    readWord_withReturns (by decide), readWord_withReturns (by decide)]
  split_ifs <;> rfl

/-- Containers start alike, since line ends between brackets are space. -/
theorem container_withReturns {close : Char} {empty : Datum} {parts : List Char → Opening}
    (hParts : parts (withReturns cs) = (parts cs).withReturns) :
    container close empty parts depth (withReturns cs) =
      (container close empty parts depth cs).withReturns := by
  rw [container, container, skipSpaces_withReturns]
  cases hSkip : skipSpaces cs with
  | nil => exact hParts
  | cons c rest =>
    rw [withReturns_cons (ne_feed_of_skipSpaces hSkip)]
    dsimp only
    split_ifs
    · exact congrArg Opening.found (atDepth_respellRest (empty, some rest))
    · exact hParts

/-- So values start alike. -/
theorem opening_withReturns : opening depth (withReturns cs) = (opening depth cs).withReturns := by
  rw [opening, opening, skipSpaces_withReturns]
  cases hSkip : skipSpaces cs with
  | nil => rfl
  | cons c rest =>
    -- spaces are skipped, so the value does not start with a line end
    have hFeed := ne_feed_of_skipSpaces hSkip
    rw [withReturns_cons hFeed]
    dsimp only
    split_ifs
    · exact container_withReturns rfl
    · exact container_withReturns rfl
    · exact congrArg Opening.found (scalar_withReturns hFeed)

/-- What follows a part of a container is the same. -/
theorem closing_withReturns {close : Char} :
    closing close (withReturns cs) = (closing close cs).withReturns := by
  rw [closing, closing, skipSpaces_withReturns]
  cases hSkip : skipSpaces cs with
  | nil => rfl
  | cons c rest =>
    rw [withReturns_cons (ne_feed_of_skipSpaces hSkip)]
    dsimp only
    split_ifs <;> rfl

/-- So is what follows a name. -/
theorem afterName_withReturns {name : Option String} :
    afterName name (withReturns cs) = (afterName name cs).withReturns := by
  rw [afterName, afterName, skipSpaces_withReturns]
  cases hSkip : skipSpaces cs with
  | nil => rfl
  | cons c rest =>
    rw [withReturns_cons (ne_feed_of_skipSpaces hSkip)]
    dsimp only
    split_ifs <;> rfl

/-- Members have the same names in either spelling. -/
theorem naming_withReturns : naming (withReturns cs) = (naming cs).withReturns := by
  rw [naming, naming, skipSpaces_withReturns]
  cases hSkip : skipSpaces cs with
  | nil => rfl
  | cons c rest =>
    rw [withReturns_cons (ne_feed_of_skipSpaces hSkip)]
    dsimp only
    rw [readText_length_withReturns]
    split_ifs
    · cases readText [] true (rest.length + 1) rest with
      | read chars left => exact afterName_withReturns
      | unreadable left => exact afterName_withReturns
      | broken => rfl
    · rfl

/-- With this much fuel, the readers find the same in both spellings of a text, and leave both
spellings of one rest. -/
structure ReadsAlike (fuel : Nat) : Prop where
  value   : ∀ depth cs, readValue depth fuel (withReturns cs) =
              respellRest (readValue depth fuel cs)
  items   : ∀ depth found cs, readItems depth found fuel (withReturns cs) =
              respellRest (readItems depth found fuel cs)
  members : ∀ depth found cs, readMembers depth found fuel (withReturns cs) =
              respellRest (readMembers depth found fuel cs)

namespace ReadsAlike

/-- One more step of a value, if its parts are read alike. -/
theorem value_succ (hLess : ReadsAlike fuel) :
    readValue depth (fuel + 1) (withReturns cs) = respellRest (readValue depth (fuel + 1) cs) := by
  rw [readValue_succ, readValue_succ, opening_withReturns]
  cases opening depth cs with
  | found found => rfl
  | items rest =>
    show atDepth depth (readItems (depth + 1) [] fuel (withReturns rest)) = _
    rw [hLess.items, atDepth_respellRest]
  | members rest =>
    show atDepth depth (readMembers (depth + 1) [] fuel (withReturns rest)) = _
    rw [hLess.members, atDepth_respellRest]

/-- One more item. -/
theorem items_succ (hLess : ReadsAlike fuel) {found : List Datum} :
    readItems depth found (fuel + 1) (withReturns cs) =
      respellRest (readItems depth found (fuel + 1) cs) := by
  rw [readItems_succ, readItems_succ, hLess.value]
  obtain ⟨x, _ | rest⟩ := readValue depth fuel cs
  · rfl
  · dsimp only [respellRest, Option.map_some]
    rw [closing_withReturns]
    cases closing ']' rest with
    | next rest => exact hLess.items _ _ _
    | last rest => rfl
    | fault => rfl

/-- One more member. -/
theorem members_succ (hLess : ReadsAlike fuel) {found : List (Option String × Datum)} :
    readMembers depth found (fuel + 1) (withReturns cs) =
      respellRest (readMembers depth found (fuel + 1) cs) := by
  rw [readMembers_succ, readMembers_succ, naming_withReturns]
  cases naming cs with
  | fault => rfl
  | only name => rfl
  | value name start =>
    dsimp only [Naming.withReturns]
    rw [hLess.value]
    obtain ⟨x, _ | rest⟩ := readValue depth fuel start
    · rfl
    · dsimp only [respellRest, Option.map_some]
      rw [closing_withReturns]
      cases closing '\x7d' rest with
      | next rest => exact hLess.members _ _ _
      | last rest => rfl
      | fault => rfl

end ReadsAlike

/-- **Read alike.** With any fuel, all three readers find the same in either spelling. -/
theorem readsAlike (fuel : Nat) : ReadsAlike fuel := by
  induction fuel with
  | zero => exact ⟨fun _ _ => rfl, fun _ _ _ => rfl, fun _ _ _ => rfl⟩
  | succ fuel ih =>
    exact ⟨fun _ _ => ih.value_succ, fun _ _ _ => ih.items_succ, fun _ _ _ => ih.members_succ⟩

/-- **Documents.** Both spellings of a data text are read into the same document. -/
theorem ofText_withReturns {text spelling : String}
    (hSpelling : spelling.toList = withReturns text.toList) :
    Source.ofText spelling = Source.ofText text := by
  have hLength : text.toList.length ≤ (withReturns text.toList).length := length_le_withReturns
  -- both are read with the fuel that the longer one needs
  have hEnough : 2 * text.toList.length + 1 ≤ 2 * spelling.toList.length + 1 := by
    rw [hSpelling]
    omega
  rw [ofText_eq (Nat.le_refl (2 * spelling.toList.length + 1)), ofText_eq hEnough, hSpelling,
    (readsAlike _).value]
  obtain ⟨x, _ | rest⟩ :=
    readValue 0 (2 * (withReturns text.toList).length + 1) text.toList
  · rfl
  · dsimp only [respellRest, Option.map_some]
    rw [skipSpaces_withReturns, isEmpty_withReturns]

end Json

end ReviewPanel
