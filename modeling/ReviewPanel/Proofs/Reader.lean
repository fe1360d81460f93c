import Mathlib.Tactic.SplitIfs
import ReviewPanel.Json.Reader

/-!
# The reader of data texts — one step at a time

The reader calls itself in few places: after a character of a text between quotes, at the start
of a container, and after each of its parts. What happens up to the next of these places does
not depend on the fuel, and is a function of its own here; the reader is put together from
these, and so is what is proved about it.

* `readText_succ`    — a text between quotes, by its next character (`textStep`).
* `readValue_succ`   — a value, by its start (`opening`).
* `readItems_succ`   — the items of a list, by what follows each of them (`closing`).
* `readMembers_succ` — the members of a record, likewise, each with its name (`naming`).
* `readNumeral_eq`   — a numeral, by its parts.
-/

namespace ReviewPanel.Json

open Numeric

variable {cs rest chars : List Char} {whole negative : Bool} {depth fuel : Nat} {c : Char}

/-! ## Texts -/

/-- What comes next in a text between quotes. -/
inductive TextStep
  | close
  /-- A character, and what follows it. -/
  | character (c : Char) (rest : List Char)
  /-- An escape for half a surrogate pair. -/
  | half (rest : List Char)
  | fault

/-- The step of an escape that gives a code unit. -/
def unitStep (unit : Nat) (rest : List Char) : TextStep :=
  if isHighSurrogate unit then
    match lowHalf? rest with
    | some (low, rest) =>
      .character (Char.ofNat (0x10000 + (unit - 0xD800) * 0x400 + (low - 0xDC00))) rest
    | none => .half rest
  else if isLowSurrogate unit then .half rest
  else .character (Char.ofNat unit) rest

/-- The step of what stands after a backslash. -/
def escapeStep : List Char → TextStep
  | 'u' :: rest =>
    match hexUnit? rest with
    | some (unit, rest) => unitStep unit rest
    | none => .fault
  | e :: rest =>
    match escaped? e with
    | some c => .character c rest
    | none => .fault
  | [] => .fault

/-- The step that starts with a character. -/
def textStep (c : Char) (rest : List Char) : TextStep :=
  if c = '"' then .close
  else if c = '\\' then escapeStep rest
  else if c.toNat < 32 then .fault
  else .character c rest

/-- A text between quotes is read on by its next step. -/
theorem readText_succ : readText chars whole (fuel + 1) (c :: rest) =
    match textStep c rest with
    | .close => if whole then .read chars.reverse rest else .unreadable rest
    | .character c rest => readText (c :: chars) whole fuel rest
    | .half rest => readText chars false fuel rest
    | .fault => .broken := by
  rw [readText.eq_def, textStep.eq_def]
  dsimp only
  by_cases hQuote : c = '"'
  · rw [if_pos hQuote, if_pos hQuote]
  rw [if_neg hQuote, if_neg hQuote]
  by_cases hEscape : c = '\\'
  · rw [if_pos hEscape, if_pos hEscape]
    cases rest with
    | nil => rfl
    | cons e tail =>
      -- only the escapes for code units go on after the escaped character
      by_cases hUnit : e = 'u'
      · subst hUnit
        simp only [escapeStep]
        cases hexUnit? tail with
        | none => rfl
        | some found =>
          simp only [unitStep]
          cases isHighSurrogate found.1 with
          | true => cases lowHalf? found.2 <;> rfl
          | false => cases isLowSurrogate found.1 <;> rfl
      · simp only [escapeStep]
        cases escaped? e <;> rfl
  · rw [if_neg hEscape, if_neg hEscape]
    split_ifs <;> rfl

/-! ## Values -/

/-- What a value starts with. -/
inductive Opening
  /-- The value has no parts, or the text breaks off. -/
  | found (found : Datum × Rest)
  | items (rest : List Char)
  | members (rest : List Char)

/-- The value of a text between quotes, with what follows it. -/
def quoted : TextPart → Datum × Rest
  | .read chars rest => (.text (String.ofList chars), some rest)
  | .unreadable rest => (.unreadable, some rest)
  | .broken => (.broken, none)

/-- The value that starts with a character and is no container. -/
def scalar (c : Char) (rest : List Char) : Datum × Rest :=
  if c = '"' then quoted (readText [] true (rest.length + 1) rest)
  else if c = '-' then readNumeral true rest
  else if c.isDigit then readNumeral false (c :: rest)
  else if c = 't' then readWord "true" (.bool true) (c :: rest)
  else if c = 'f' then readWord "false" (.bool false) (c :: rest)
  else if c = 'n' then readWord "null" .null (c :: rest)
  else (.broken, none)

/-- The start of a container: it is empty if its end follows at once, and has parts if not. -/
def container (close : Char) (empty : Datum) (parts : List Char → Opening) (depth : Nat)
    (cs : List Char) : Opening :=
  match skipSpaces cs with
  | [] => parts cs
  | c :: rest => if c = close then .found (atDepth depth (empty, some rest)) else parts cs

/-- The start of the value at the start of a text, inside `depth` containers. -/
def opening (depth : Nat) (cs : List Char) : Opening :=
  match skipSpaces cs with
  | [] => .found (.broken, none)
  | c :: rest =>
    if c = '[' then container ']' (.list []) .items depth rest
    else if c = '\x7b' then container '\x7d' (.record []) .members depth rest
    else .found (scalar c rest)

/-- What follows a part of a container. -/
inductive Closing
  | next (rest : List Char)
  | last (rest : List Char)
  | fault

/-- What follows a part of the container that ends with a character. -/
def closing (close : Char) (cs : List Char) : Closing :=
  match skipSpaces cs with
  | [] => .fault
  | c :: rest => if c = ',' then .next rest else if c = close then .last rest else .fault

/-- What a member starts with. -/
inductive Naming
  | fault
  /-- A name, and no value. -/
  | only (name : Option String)
  | value (name : Option String) (rest : List Char)

/-- What follows the name of a member. -/
def afterName (name : Option String) (cs : List Char) : Naming :=
  match skipSpaces cs with
  | [] => .only name
  | c :: rest => if c = ':' then .value name rest else .only name

/-- The start of the member at the start of a text. -/
def naming (cs : List Char) : Naming :=
  match skipSpaces cs with
  | [] => .fault
  | c :: rest =>
    if c = '"' then
      match readText [] true (rest.length + 1) rest with
      | .read chars rest => afterName (some (String.ofList chars)) rest
      | .unreadable rest => afterName none rest
      | .broken => .fault
    else .fault

/-- A value without parts is there at its start; a container is read part by part,
one deeper and with less fuel. -/
theorem readValue_succ : readValue depth (fuel + 1) cs =
    match opening depth cs with
    | .found found => found
    | .items rest => atDepth depth (readItems (depth + 1) [] fuel rest)
    | .members rest => atDepth depth (readMembers (depth + 1) [] fuel rest) := by
  rw [readValue, opening]
  cases skipSpaces cs with
  | nil => rfl
  | cons c rest =>
    dsimp only
    by_cases hList : c = '['
    · -- one more look at what follows tells whether the list is empty
      subst hList
      rw [if_pos rfl, container]
      cases skipSpaces rest with
      | nil => rfl
      | cons d tail => by_cases hEnd : d = ']' <;> simp [hEnd]
    rw [if_neg hList, if_neg hList]
    by_cases hRecord : c = '\x7b'
    · subst hRecord
      rw [if_pos rfl, if_pos rfl, container]
      cases skipSpaces rest with
      | nil => rfl
      | cons d tail => by_cases hEnd : d = '\x7d' <;> simp [hEnd]
    · rw [if_neg hRecord, if_neg hRecord]
      rfl

/-- An item is read with less fuel, and what follows it decides whether another one does. -/
theorem readItems_succ {found : List Datum} : readItems depth found (fuel + 1) cs =
    match readValue depth fuel cs with
    | (x, none) => (.list (x :: found).reverse, none)
    | (x, some rest) =>
      match closing ']' rest with
      | .next rest => readItems depth (x :: found) fuel rest
      | .last rest => (.list (x :: found).reverse, some rest)
      | .fault => (.list (.broken :: x :: found).reverse, none) := by
  rw [readItems]
  obtain ⟨x, _ | rest⟩ := readValue depth fuel cs
  · rfl
  · dsimp only [closing]
    cases skipSpaces rest with
    | nil => rfl
    | cons d tail => by_cases hNext : d = ',' <;> by_cases hEnd : d = ']' <;> simp_all

/-- So is a member, whose name comes before its value; a fault keeps what was read so far. -/
theorem readMembers_succ {found : List (Option String × Datum)} :
    readMembers depth found (fuel + 1) cs =
      match naming cs with
      | .fault => (.record ((none, .broken) :: found).reverse, none)
      | .only name => (.record ((name, .broken) :: found).reverse, none)
      | .value name rest =>
        match readValue depth fuel rest with
        | (x, none) => (.record ((name, x) :: found).reverse, none)
        | (x, some rest) =>
          match closing '\x7d' rest with
          | .next rest => readMembers depth ((name, x) :: found) fuel rest
          | .last rest => (.record ((name, x) :: found).reverse, some rest)
          | .fault => (.record ((none, .broken) :: (name, x) :: found).reverse, none) := by
  rw [readMembers, naming]
  dsimp only [closing]
  cases skipSpaces cs with
  | nil => rfl
  | cons c tail =>
    by_cases hQuote : c = '"'
    · subst hQuote
      simp only [if_true]
      cases readText [] true (tail.length + 1) tail
      case broken => rfl
      -- the rest is the same for a name that was read and one that was not
      all_goals
        rename_i rest
        simp only [afterName]
        cases skipSpaces rest with
        | nil => rfl
        | cons d tail =>
          by_cases hColon : d = ':'
          · subst hColon
            simp only [if_true]
            obtain ⟨x, _ | rest⟩ := readValue depth fuel tail
            · rfl
            · dsimp only
              cases skipSpaces rest with
              | nil => rfl
              | cons d tail =>
                by_cases hNext : d = ',' <;> by_cases hEnd : d = '\x7d' <;> simp_all
          · simp [hColon]
    · simp [hQuote]

/-! ## Numerals -/

/-- The digits after a point, whether there is a point, and what follows. -/
def fractionPart (cs : List Char) : List Char × Bool × List Char :=
  match cs with
  | '.' :: rest => ((spanDigits rest).1, true, (spanDigits rest).2)
  | _ => ([], false, cs)

/-- Without a point there is no fraction, and nothing is taken. -/
theorem fractionPart_cons (hPoint : c ≠ '.') :
    fractionPart (c :: rest) = ([], false, c :: rest) := by
  rw [fractionPart]
  exact fun _ hSame => hPoint (List.cons.inj hSame).1

/-- The sign of an exponent, and what follows. -/
def signPart (cs : List Char) : Bool × List Char :=
  match cs with
  | '+' :: rest => (true, rest)
  | '-' :: rest => (false, rest)
  | _ => (true, cs)

/-- Without a sign an exponent is positive, and nothing is taken. -/
theorem signPart_cons (hPlus : c ≠ '+') (hMinus : c ≠ '-') :
    signPart (c :: rest) = (true, c :: rest) := by
  rw [signPart]
  · exact fun _ hSame => hPlus (List.cons.inj hSame).1
  · exact fun _ hSame => hMinus (List.cons.inj hSame).1

/-- An exponent starts with its letter and has at least one digit behind its sign. -/
theorem readExponent_cons : readExponent (c :: rest) =
    if c = 'e' ∨ c = 'E' then
      if (spanDigits (signPart rest).2).1.isEmpty then (none, none)
      else (some ((signPart rest).1, (spanDigits (signPart rest).2).1),
        some (spanDigits (signPart rest).2).2)
    else (none, some (c :: rest)) := rfl

/-- The number of the parts of a numeral, with what follows it. -/
def numeralOf (negative : Bool) (whole fraction : List Char) (hasPoint : Bool) :
    Option (Bool × List Char) × Rest → Datum × Rest
  | (_, none) => (.broken, none)
  | (exponent, some rest) =>
    let isInteger := !hasPoint && exponent.isNone
    match (Numeral.mk negative whole fraction exponent isInteger).value? with
    | some n => (.number n, some rest)
    | none => (.unreadable, some rest)

/-- A numeral is read by its whole digits, its fraction and its exponent; a zero in front of
other digits is a fault, and so is a point without digits. -/
theorem readNumeral_eq : readNumeral negative cs =
    let whole := (spanDigits cs).1
    let fraction := fractionPart (spanDigits cs).2
    if whole.isEmpty ∨ (whole.head? = some '0' ∧ 1 < whole.length) then (.broken, none)
    else if fraction.2.1 && fraction.1.isEmpty then (.broken, none)
    else numeralOf negative whole fraction.1 fraction.2.1 (readExponent fraction.2.2) := rfl

end ReviewPanel.Json
