import Mathlib.Data.List.Infix
import ReviewPanel.Proofs.Reader

/-!
# Fuel — enough for every data text

The reader of data texts is run with fuel, twice as much of it as the text has characters and a
little more. That is enough. No step of the reader leaves more of a text than it was given, and
between two calls for less fuel a character is read; so the fuel lasts to the end of the text,
and with more of it the document is the same.

* `leaves`    — what values, items and members leave of a text is no longer than the text.
* `settles`   — with enough fuel, more of it makes no difference.
* `ofText_eq` — a document is read with as much fuel as one likes, if it is enough.
-/

namespace ReviewPanel.Json

open Numeric

variable {cs rest chars : List Char} {whole negative : Bool} {depth fuel : Nat} {c : Char}

/-! ## What is left of a text -/

/-- What is left of a text of some length: less of it before the parts of a container, and no
more of it after a value. -/
def Opening.Within (length : Nat) : Opening → Prop
  | .found value => ∀ rest, value.2 = some rest → rest.length ≤ length
  | .items rest | .members rest => rest.length < length

def TextStep.rest? : TextStep → Rest
  | .character _ rest | .half rest => some rest
  | .close | .fault => none

def TextPart.rest? : TextPart → Rest
  | .read _ rest | .unreadable rest => some rest
  | .broken => none

def Closing.rest? : Closing → Rest
  | .next rest | .last rest => some rest
  | .fault => none

/-- Digits are taken from the front. -/
theorem length_spanDigits (cs : List Char) : (spanDigits cs).2.length ≤ cs.length :=
  (List.dropWhile_suffix _).length_le

/-- Behind the first character that is no space there is less than the text. -/
theorem length_lt_of_skipSpaces (hSkip : skipSpaces cs = c :: rest) : rest.length < cs.length := by
  have hLength : (skipSpaces cs).length ≤ cs.length := (List.dropWhile_suffix _).length_le
  rw [hSkip, List.length_cons] at hLength
  omega

/-- Hexadecimal digits are dropped from the front. -/
theorem length_readHex? {count n : Nat} (hRead : readHex? count cs = some (n, rest)) :
    rest.length ≤ cs.length := by
  unfold readHex? at hRead
  simp only [Option.bind_eq_bind, Option.bind_eq_some_iff] at hRead
  obtain ⟨value, -, hRest⟩ := hRead
  split at hRest
  · cases hRest
    exact (List.drop_suffix _ _).length_le
  · cases hRest

/-- The second half of a pair drops its escape, too. -/
theorem length_lowHalf? {n : Nat} (hRead : lowHalf? cs = some (n, rest)) :
    rest.length ≤ cs.length := by
  unfold lowHalf? at hRead
  split at hRead
  · split at hRead
    · rename_i hHex
      split at hRead
      · cases hRead
        have hDigits := length_readHex? hHex
        simp only [List.length_cons]
        omega
      · cases hRead
    · cases hRead
  · cases hRead

/-- A code unit leaves what follows it, without the second half of its pair if there is one. -/
theorem length_unitStep {unit : Nat} (hRest : (unitStep unit cs).rest? = some rest) :
    rest.length ≤ cs.length := by
  unfold unitStep at hRest
  split at hRest
  · split at hRest
    · rename_i hLow
      cases hRest
      exact length_lowHalf? hLow
    · cases hRest
      exact Nat.le_refl _
  · split at hRest <;> cases hRest <;> exact Nat.le_refl _

/-- An escape leaves no more than what stands after its backslash. -/
theorem length_escapeStep (hRest : (escapeStep cs).rest? = some rest) :
    rest.length ≤ cs.length := by
  unfold escapeStep at hRest
  split at hRest
  · split at hRest
    · -- a code unit, behind its digits
      rename_i hHex
      have hUnit := length_unitStep hRest
      have hDigits := length_readHex? hHex
      simp only [List.length_cons]
      omega
    · cases hRest
  · -- a character that stands for another one
    split at hRest
    · cases hRest
      simp only [List.length_cons]
      omega
    · cases hRest
  · cases hRest

/-- No step of a text between quotes leaves more than what follows its first character. -/
theorem length_textStep (hRest : (textStep c cs).rest? = some rest) : rest.length ≤ cs.length := by
  unfold textStep at hRest
  split_ifs at hRest
  · cases hRest
  · exact length_escapeStep hRest
  · cases hRest
  · cases hRest
    exact Nat.le_refl _

/-- Nor do all steps together. -/
theorem length_readText (hRest : (readText chars whole fuel cs).rest? = some rest) :
    rest.length ≤ cs.length := by
  induction fuel generalizing chars whole cs with
  | zero => cases hRest
  | succ fuel ih =>
    cases cs with
    | nil => cases hRest
    | cons c tail =>
      -- a step takes the character and leaves no more than what follows it
      have hStep : ∀ left, (textStep c tail).rest? = some left → left.length ≤ tail.length :=
        fun _ => length_textStep
      rw [readText_succ] at hRest
      rw [List.length_cons]
      cases hNext : textStep c tail with
      | close =>
        rw [hNext] at hRest
        cases whole <;> cases hRest <;> omega
      | character d left =>
        rw [hNext] at hRest hStep
        have hLeft := ih hRest
        have hShort := hStep left rfl
        omega
      | half left =>
        rw [hNext] at hRest hStep
        have hLeft := ih hRest
        have hShort := hStep left rfl
        omega
      | fault =>
        rw [hNext] at hRest
        cases hRest

/-- A fraction takes its point and digits away, or nothing. -/
theorem length_fractionPart (cs : List Char) : (fractionPart cs).2.2.length ≤ cs.length := by
  cases cs with
  | nil => exact Nat.le_refl _
  | cons c tail =>
    by_cases hPoint : c = '.'
    · subst hPoint
      have hDigits := length_spanDigits tail
      show (spanDigits tail).2.length ≤ tail.length + 1
      omega
    · rw [fractionPart_cons hPoint]

/-- A sign is one character or none. -/
theorem length_signPart (cs : List Char) : (signPart cs).2.length ≤ cs.length := by
  unfold signPart
  split <;> simp

/-- An exponent takes its letter, sign and digits away, or nothing. -/
theorem length_readExponent (hRest : (readExponent cs).2 = some rest) :
    rest.length ≤ cs.length := by
  cases cs with
  | nil =>
    cases hRest
    exact Nat.le_refl _
  | cons c tail =>
    have hSign := length_signPart tail
    have hDigits := length_spanDigits (signPart tail).2
    rw [readExponent_cons] at hRest
    rw [List.length_cons]
    split_ifs at hRest
    · cases hRest
      omega
    · cases hRest
      rw [List.length_cons]

/-- What a numeral leaves is what its last part leaves. -/
theorem length_readNumeral (hRest : (readNumeral negative cs).2 = some rest) :
    rest.length ≤ cs.length := by
  have hWhole := length_spanDigits cs
  have hFraction := length_fractionPart (spanDigits cs).2
  -- each part leaves no more than it was given, and the exponent comes last
  rw [readNumeral_eq] at hRest
  dsimp only at hRest
  split_ifs at hRest
  rcases hExponent : readExponent (fractionPart (spanDigits cs).2).2.2 with ⟨exponent, _ | left⟩
  · rw [hExponent] at hRest
    cases hRest
  · have hLeft := length_readExponent (congrArg Prod.snd hExponent)
    rw [hExponent, numeralOf] at hRest
    split at hRest <;> cases hRest <;> omega

/-- A word is dropped from the front. -/
theorem length_readWord {word : String} {value : Datum}
    (hRest : (readWord word value cs).2 = some rest) : rest.length ≤ cs.length := by
  unfold readWord at hRest
  split at hRest
  · cases hRest
    exact (List.drop_suffix _ _).length_le
  · cases hRest

/-- How deep a container lies does not matter for what follows it. -/
@[simp]
theorem atDepth_snd {found : Datum × Rest} : (atDepth depth found).2 = found.2 := by
  unfold atDepth
  split <;> rfl

/-- What follows a part of a container is one character at least. -/
theorem length_closing {close : Char} (hRest : (closing close cs).rest? = some rest) :
    rest.length < cs.length := by
  unfold closing at hRest
  cases hSkip : skipSpaces cs with
  | nil =>
    rw [hSkip] at hRest
    cases hRest
  | cons c tail =>
    have hTail := length_lt_of_skipSpaces hSkip
    rw [hSkip] at hRest
    dsimp only at hRest
    split_ifs at hRest <;> cases hRest <;> exact hTail

/-- So is the colon behind a name. -/
theorem length_afterName {name found : Option String}
    (hNamed : afterName name cs = .value found rest) : rest.length < cs.length := by
  unfold afterName at hNamed
  cases hSkip : skipSpaces cs with
  | nil =>
    rw [hSkip] at hNamed
    cases hNamed
  | cons c tail =>
    have hTail := length_lt_of_skipSpaces hSkip
    rw [hSkip] at hNamed
    dsimp only at hNamed
    split_ifs at hNamed
    cases hNamed
    exact hTail

/-- The name of a member and its colon leave less than the text. -/
theorem length_naming {name : Option String} (hNamed : naming cs = .value name rest) :
    rest.length < cs.length := by
  unfold naming at hNamed
  cases hSkip : skipSpaces cs with
  | nil =>
    rw [hSkip] at hNamed
    cases hNamed
  | cons c tail =>
    have hTail := length_lt_of_skipSpaces hSkip
    rw [hSkip] at hNamed
    dsimp only at hNamed
    split_ifs at hNamed
    -- the name is read with as much fuel as its text has characters
    have hText : ∀ left, (readText [] true (tail.length + 1) tail).rest? = some left →
        left.length ≤ tail.length := fun _ => length_readText
    cases hRead : readText [] true (tail.length + 1) tail with
    | read chars left =>
      rw [hRead] at hNamed hText
      have hLeft := hText left rfl
      have hRest := length_afterName hNamed
      omega
    | unreadable left =>
      rw [hRead] at hNamed hText
      have hLeft := hText left rfl
      have hRest := length_afterName hNamed
      omega
    | broken =>
      rw [hRead] at hNamed
      cases hNamed

/-- A text between quotes leaves what its steps leave. -/
theorem quoted_snd {part : TextPart} : (quoted part).2 = part.rest? := by
  cases part <;> rfl

/-- A value that is no container leaves no more than its text, first character included. -/
theorem length_scalar (hRest : (scalar c cs).2 = some rest) : rest.length ≤ cs.length + 1 := by
  unfold scalar at hRest
  split_ifs at hRest
  · rw [quoted_snd] at hRest
    exact Nat.le_succ_of_le (length_readText hRest)
  · exact Nat.le_succ_of_le (length_readNumeral hRest)
  · exact length_readNumeral hRest
  all_goals exact length_readWord hRest

/-- An empty container ends behind its start, and any other one goes on in front of its parts. -/
theorem container_within {close : Char} {empty : Datum} {parts : List Char → Opening} {length : Nat}
    (hLess : cs.length ≤ length) (hParts : (parts cs).Within length) :
    (container close empty parts depth cs).Within length := by
  unfold container
  cases hSkip : skipSpaces cs with
  | nil => exact hParts
  | cons c tail =>
    have hTail := length_lt_of_skipSpaces hSkip
    dsimp only
    split
    · -- an empty container ends right after its start
      intro rest hRest
      rw [atDepth_snd] at hRest
      cases hRest
      omega
    · exact hParts

/-- The bracket of a container is what pays for the fuel of its parts. -/
theorem opening_within (depth : Nat) (cs : List Char) : (opening depth cs).Within cs.length := by
  unfold opening
  cases hSkip : skipSpaces cs with
  | nil =>
    intro rest hRest
    cases hRest
  | cons c tail =>
    have hTail := length_lt_of_skipSpaces hSkip
    dsimp only
    split_ifs
    · exact container_within hTail.le hTail
    · exact container_within hTail.le hTail
    · intro rest hRest
      have hScalar := length_scalar hRest
      omega

/-- What readers with this much fuel leave of a text is no longer than the text. -/
structure Leaves (fuel : Nat) : Prop where
  value   : ∀ depth cs rest, (readValue depth fuel cs).2 = some rest → rest.length ≤ cs.length
  items   : ∀ depth found cs rest, (readItems depth found fuel cs).2 = some rest →
              rest.length ≤ cs.length
  members : ∀ depth found cs rest, (readMembers depth found fuel cs).2 = some rest →
              rest.length ≤ cs.length

namespace Leaves

/-- A value leaves no more than its text, if its parts leave no more than theirs. -/
theorem value_succ (hLess : Leaves fuel) (hRest : (readValue depth (fuel + 1) cs).2 = some rest) :
    rest.length ≤ cs.length := by
  have hWithin := opening_within depth cs
  rw [readValue_succ] at hRest
  cases hOpening : opening depth cs with
  | found found =>
    rw [hOpening] at hRest hWithin
    exact hWithin rest hRest
  | items left =>
    rw [hOpening] at hRest hWithin
    rw [atDepth_snd] at hRest
    have hLeft : left.length < cs.length := hWithin
    have hItems := hLess.items _ _ _ _ hRest
    omega
  | members left =>
    rw [hOpening] at hRest hWithin
    rw [atDepth_snd] at hRest
    have hLeft : left.length < cs.length := hWithin
    have hMembers := hLess.members _ _ _ _ hRest
    omega

/-- Items do, the comma between them being taken. -/
theorem items_succ (hLess : Leaves fuel) {found : List Datum}
    (hRest : (readItems depth found (fuel + 1) cs).2 = some rest) : rest.length ≤ cs.length := by
  rw [readItems_succ] at hRest
  rcases hValue : readValue depth fuel cs with ⟨x, _ | left⟩
  · rw [hValue] at hRest
    cases hRest
  · -- what the item leaves is shorter, and the closing takes a character more
    have hLeft := hLess.value _ _ _ (congrArg Prod.snd hValue)
    rw [hValue] at hRest
    dsimp only at hRest
    cases hClosing : closing ']' left with
    | next after =>
      have hAfter : after.length < left.length := length_closing (congrArg Closing.rest? hClosing)
      rw [hClosing] at hRest
      have hItems := hLess.items _ _ _ _ hRest
      omega
    | last after =>
      have hAfter : after.length < left.length := length_closing (congrArg Closing.rest? hClosing)
      rw [hClosing] at hRest
      cases hRest
      omega
    | fault =>
      rw [hClosing] at hRest
      cases hRest

/-- So do members. -/
theorem members_succ (hLess : Leaves fuel) {found : List (Option String × Datum)}
    (hRest : (readMembers depth found (fuel + 1) cs).2 = some rest) : rest.length ≤ cs.length := by
  rw [readMembers_succ] at hRest
  cases hNaming : naming cs with
  | fault =>
    rw [hNaming] at hRest
    cases hRest
  | only name =>
    rw [hNaming] at hRest
    cases hRest
  | value name start =>
    -- the name is behind the start, its value behind the name, and the closing behind that
    have hStart := length_naming hNaming
    rw [hNaming] at hRest
    dsimp only at hRest
    rcases hValue : readValue depth fuel start with ⟨x, _ | left⟩
    · rw [hValue] at hRest
      cases hRest
    · have hLeft := hLess.value _ _ _ (congrArg Prod.snd hValue)
      rw [hValue] at hRest
      dsimp only at hRest
      cases hClosing : closing '\x7d' left with
      | next after =>
        have hAfter : after.length < left.length := length_closing (congrArg Closing.rest? hClosing)
        rw [hClosing] at hRest
        have hMembers := hLess.members _ _ _ _ hRest
        omega
      | last after =>
        have hAfter : after.length < left.length := length_closing (congrArg Closing.rest? hClosing)
        rw [hClosing] at hRest
        cases hRest
        omega
      | fault =>
        rw [hClosing] at hRest
        cases hRest

end Leaves

/-- **Nothing grows.** With any fuel, what is left of a text is no longer than the text. -/
theorem leaves (fuel : Nat) : Leaves fuel := by
  induction fuel with
  | zero =>
    refine ⟨fun depth cs rest hRest => ?_, fun depth found cs rest hRest => ?_,
      fun depth found cs rest hRest => ?_⟩
    · rw [readValue] at hRest
      cases hRest
    · rw [readItems] at hRest
      cases hRest
    · rw [readMembers] at hRest
      cases hRest
  | succ fuel ih =>
    exact ⟨fun _ _ _ => ih.value_succ, fun _ _ _ _ => ih.items_succ, fun _ _ _ _ => ih.members_succ⟩

/-! ## Fuel -/

/-- A text between quotes is read alike with any fuel that exceeds its length. -/
theorem readText_of_le {more : Nat} (hEnough : cs.length < fuel) (hMore : fuel ≤ more) :
    readText chars whole more cs = readText chars whole fuel cs := by
  induction fuel generalizing chars whole cs more with
  | zero => omega
  | succ fuel ih =>
    obtain ⟨more, rfl⟩ := Nat.exists_eq_add_one_of_ne_zero (by omega : more ≠ 0)
    cases cs with
    | nil => rw [readText.eq_def, readText.eq_def]
    | cons c tail =>
      have hStep : ∀ left, (textStep c tail).rest? = some left → left.length ≤ tail.length :=
        fun _ => length_textStep
      rw [List.length_cons] at hEnough
      rw [readText_succ, readText_succ]
      -- what a step leaves is short enough for one unit of fuel less
      cases hNext : textStep c tail with
      | close => rfl
      | character d left =>
        have hLeft := hStep left (by rw [hNext]; rfl)
        exact ih (by omega) (by omega)
      | half left =>
        have hLeft := hStep left (by rw [hNext]; rfl)
        exact ih (by omega) (by omega)
      | fault => rfl

/-- The readers of this much fuel have enough of it for texts up to some length: with more of
it they read the same. -/
structure Settles (fuel : Nat) : Prop where
  value   : ∀ more depth cs, 2 * cs.length + 1 ≤ fuel → fuel ≤ more →
              readValue depth more cs = readValue depth fuel cs
  items   : ∀ more depth found cs, 2 * cs.length + 2 ≤ fuel → fuel ≤ more →
              readItems depth found more cs = readItems depth found fuel cs
  members : ∀ more depth found cs, 2 * cs.length + 2 ≤ fuel → fuel ≤ more →
              readMembers depth found more cs = readMembers depth found fuel cs

namespace Settles

variable {more : Nat}

/-- A value is read alike with more fuel than it needs, if its parts are. -/
theorem value_succ (hLess : Settles fuel) (hEnough : 2 * cs.length + 1 ≤ fuel + 1)
    (hMore : fuel + 1 ≤ more) : readValue depth more cs = readValue depth (fuel + 1) cs := by
  obtain ⟨more, rfl⟩ := Nat.exists_eq_add_one_of_ne_zero (by omega : more ≠ 0)
  -- the start of a container is read, which pays for its parts
  have hWithin := opening_within depth cs
  rw [readValue_succ, readValue_succ]
  cases hOpening : opening depth cs with
  | found found => rfl
  | items left =>
    rw [hOpening] at hWithin
    have hLeft : left.length < cs.length := hWithin
    dsimp only
    rw [hLess.items more _ _ _ (by omega) (by omega)]
  | members left =>
    rw [hOpening] at hWithin
    have hLeft : left.length < cs.length := hWithin
    dsimp only
    rw [hLess.members more _ _ _ (by omega) (by omega)]

/-- Items are: each comma that is read pays for the item behind it. -/
theorem items_succ (hLess : Settles fuel) {found : List Datum}
    (hEnough : 2 * cs.length + 2 ≤ fuel + 1) (hMore : fuel + 1 ≤ more) :
    readItems depth found more cs = readItems depth found (fuel + 1) cs := by
  obtain ⟨more, rfl⟩ := Nat.exists_eq_add_one_of_ne_zero (by omega : more ≠ 0)
  rw [readItems_succ, readItems_succ, hLess.value more _ _ (by omega) (by omega)]
  rcases hValue : readValue depth fuel cs with ⟨x, _ | left⟩
  · rfl
  · have hLeft := (leaves fuel).value _ _ _ (congrArg Prod.snd hValue)
    dsimp only
    cases hClosing : closing ']' left with
    | next after =>
      -- the comma is read, which pays for the next item
      have hAfter : after.length < left.length := length_closing (congrArg Closing.rest? hClosing)
      exact hLess.items more _ _ _ (by omega) (by omega)
    | last after => rfl
    | fault => rfl

/-- So are members. -/
theorem members_succ (hLess : Settles fuel) {found : List (Option String × Datum)}
    (hEnough : 2 * cs.length + 2 ≤ fuel + 1) (hMore : fuel + 1 ≤ more) :
    readMembers depth found more cs = readMembers depth found (fuel + 1) cs := by
  obtain ⟨more, rfl⟩ := Nat.exists_eq_add_one_of_ne_zero (by omega : more ≠ 0)
  rw [readMembers_succ, readMembers_succ]
  cases hNaming : naming cs with
  | fault => rfl
  | only name => rfl
  | value name start =>
    -- more fuel does not matter for the value, nor for the members behind it
    have hStart := length_naming hNaming
    dsimp only
    rw [hLess.value more _ _ (by omega) (by omega)]
    rcases hValue : readValue depth fuel start with ⟨x, _ | left⟩
    · rfl
    · have hLeft := (leaves fuel).value _ _ _ (congrArg Prod.snd hValue)
      dsimp only
      cases hClosing : closing '\x7d' left with
      | next after =>
        have hAfter : after.length < left.length := length_closing (congrArg Closing.rest? hClosing)
        exact hLess.members more _ _ _ (by omega) (by omega)
      | last after => rfl
      | fault => rfl

end Settles

/-- **More fuel, same document.** Every amount of fuel settles the texts that it is enough for. -/
theorem settles (fuel : Nat) : Settles fuel := by
  induction fuel with
  | zero =>
    exact ⟨fun _ _ _ hEnough => absurd hEnough (by omega),
      fun _ _ _ _ hEnough => absurd hEnough (by omega),
      fun _ _ _ _ hEnough => absurd hEnough (by omega)⟩
  | succ fuel ih =>
    exact ⟨fun _ _ _ => ih.value_succ, fun _ _ _ _ => ih.items_succ, fun _ _ _ _ => ih.members_succ⟩

/-- **Fuel enough.** A document is read with as much fuel as its text needs. -/
theorem ofText_eq {text : String} (hEnough : 2 * text.toList.length + 1 ≤ fuel) :
    Source.ofText text =
      match readValue 0 fuel text.toList with
      | (x, none) => ⟨x, false⟩
      | (x, some rest) => ⟨x, (skipSpaces rest).isEmpty⟩ := by
  -- the reader has some fuel to spare, and so may anyone else
  have hSettled := (settles (2 * text.toList.length + 1)).value
  rw [hSettled fuel _ _ (Nat.le_refl _) hEnough,
    ← hSettled (2 * text.toList.length + 2) _ _ (Nat.le_refl _) (Nat.le_succ _)]
  rfl

end ReviewPanel.Json
