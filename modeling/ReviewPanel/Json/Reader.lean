import ReviewPanel.Json.Numeral
import ReviewPanel.Datum.Basic

/-!
# Reading data texts

A data text is read into a document in the order in which it is written. The
reader never fails: where the text stops being well formed the document holds
`Datum.broken`, and text that is well formed but holds no value, such as a
number beyond every float, half a surrogate pair or a container nested too
deeply, is `Datum.unreadable`. So whoever asks for a type finds the first of
several faults.
-/

namespace ReviewPanel.Json

/-- Containers may be nested this deep. -/
def depthLimit : Nat := 127

def isSpace (c : Char) : Bool := c == ' ' || c == '\n' || c == '\t' || c == '\r'

def skipSpaces (cs : List Char) : List Char := cs.dropWhile isSpace

/-- What is left of a text after one of its parts; none when it broke off. -/
abbrev Rest := Option (List Char)

/-- The characters of a text between quotes, as far as they are well formed. -/
inductive TextPart
  | read (chars : List Char) (rest : List Char)
  | unreadable (rest : List Char)
  | broken

/-- The code unit of four hexadecimal digits. -/
def hexUnit? (cs : List Char) : Option (Nat × List Char) := Numeric.readHex? 4 cs

def isHighSurrogate (n : Nat) : Bool := 0xD800 ≤ n && n < 0xDC00

def isLowSurrogate (n : Nat) : Bool := 0xDC00 ≤ n && n < 0xE000

/-- The character that a letter after a backslash stands for. -/
def escaped? (c : Char) : Option Char :=
  match c with
  | '"' => some '"'
  | '\\' => some '\\'
  | '/' => some '/'
  | 'b' => some (Char.ofNat 8)
  | 'f' => some (Char.ofNat 12)
  | 'n' => some '\n'
  | 'r' => some '\r'
  | 't' => some '\t'
  | _ => none

/-- The second half of a surrogate pair, written as an escape. -/
def lowHalf? : List Char → Option (Nat × List Char)
  | '\\' :: 'u' :: rest =>
    match hexUnit? rest with
    | some (low, rest) => if isLowSurrogate low then some (low, rest) else none
    | none => none
  | _ => none

/-- The rest of a text after its opening quote. `chars` holds what was read so
far, last first; `whole` tells whether every escape so far was a character. -/
def readText (chars : List Char) (whole : Bool) : Nat → List Char → TextPart
  | 0, _ => .broken
  | _, [] => .broken
  | fuel + 1, c :: rest =>
    if c = '"' then if whole then .read chars.reverse rest else .unreadable rest
    else if c = '\\' then
      match rest with
      | 'u' :: rest =>
        match hexUnit? rest with
        | none => .broken
        | some (unit, rest) =>
          if isHighSurrogate unit then
            match lowHalf? rest with
            | some (low, rest) =>
              let code := 0x10000 + (unit - 0xD800) * 0x400 + (low - 0xDC00)
              readText (Char.ofNat code :: chars) whole fuel rest
            | none => readText chars false fuel rest
          else if isLowSurrogate unit then readText chars false fuel rest
          else readText (Char.ofNat unit :: chars) whole fuel rest
      | e :: rest =>
        match escaped? e with
        | some c => readText (c :: chars) whole fuel rest
        | none => .broken
      | [] => .broken
    else if c.toNat < 32 then .broken
    else readText (c :: chars) whole fuel rest

/-- The digits at the start of a text, and the rest. -/
def spanDigits (cs : List Char) : List Char × List Char :=
  (cs.takeWhile Char.isDigit, cs.dropWhile Char.isDigit)

/-- The exponent of a numeral: none where there is no exponent, and no rest
where an exponent has no digits. -/
def readExponent (cs : List Char) : Option (Bool × List Char) × Rest :=
  match cs with
  | c :: rest =>
    if c = 'e' ∨ c = 'E' then
      let (positive, rest) :=
        match rest with
        | '+' :: rest => (true, rest)
        | '-' :: rest => (false, rest)
        | _ => (true, rest)
      let (digits, rest) := spanDigits rest
      if digits.isEmpty then (none, none) else (some (positive, digits), some rest)
    else (none, some cs)
  | [] => (none, some cs)

/-- A numeral without its sign. -/
def readNumeral (negative : Bool) (cs : List Char) : Datum × Rest :=
  let (whole, rest) := spanDigits cs
  if whole.isEmpty ∨ (whole.head? = some '0' ∧ 1 < whole.length) then (.broken, none)
  else
    let (fraction, hasPoint, rest) :=
      match rest with
      | '.' :: rest => let (digits, rest) := spanDigits rest; (digits, true, rest)
      | _ => ([], false, rest)
    if hasPoint && fraction.isEmpty then (.broken, none)
    else
      match readExponent rest with
      | (_, none) => (.broken, none)
      | (exponent, some rest) =>
        let numeral : Numeral :=
          { negative, whole, fraction, exponent, isInteger := !hasPoint && exponent.isNone }
        match numeral.value? with
        | some n => (.number n, some rest)
        | none => (.unreadable, some rest)

/-- A word that stands for a value. -/
def readWord (word : String) (value : Datum) (cs : List Char) : Datum × Rest :=
  if word.toList.isPrefixOf cs then (value, some (cs.drop word.length)) else (.broken, none)

/-- A container at a depth: one that lies too deep holds no value. -/
def atDepth (depth : Nat) (found : Datum × Rest) : Datum × Rest :=
  if depth < depthLimit then found
  else (if found.2.isSome then .unreadable else .broken, found.2)

mutual

/-- The value at the start of a text, inside `depth` containers. -/
def readValue (depth : Nat) : Nat → List Char → Datum × Rest
  | 0, _ => (.broken, none)
  | fuel + 1, cs =>
    match skipSpaces cs with
    | [] => (.broken, none)
    | c :: rest =>
      if c = '"' then
        match readText [] true (rest.length + 1) rest with
        | .read chars rest => (.text (String.ofList chars), some rest)
        | .unreadable rest => (.unreadable, some rest)
        | .broken => (.broken, none)
      else if c = '[' then
        match skipSpaces rest with
        | ']' :: rest => atDepth depth (.list [], some rest)
        | _ => atDepth depth (readItems (depth + 1) [] fuel rest)
      else if c = '\x7b' then
        match skipSpaces rest with
        | '\x7d' :: rest => atDepth depth (.record [], some rest)
        | _ => atDepth depth (readMembers (depth + 1) [] fuel rest)
      else if c = '-' then readNumeral true rest
      else if c.isDigit then readNumeral false (c :: rest)
      else if c = 't' then readWord "true" (.bool true) (c :: rest)
      else if c = 'f' then readWord "false" (.bool false) (c :: rest)
      else if c = 'n' then readWord "null" .null (c :: rest)
      else (.broken, none)

/-- The items of a list up to its end; `found` holds the items so far, last first. -/
def readItems (depth : Nat) (found : List Datum) : Nat → List Char → Datum × Rest
  | 0, _ => (.broken, none)
  | fuel + 1, cs =>
    match readValue depth fuel cs with
    | (x, none) => (.list (x :: found).reverse, none)
    | (x, some rest) =>
      match skipSpaces rest with
      | ',' :: rest => readItems depth (x :: found) fuel rest
      | ']' :: rest => (.list (x :: found).reverse, some rest)
      | _ => (.list (.broken :: x :: found).reverse, none)

/-- The members of a record up to its end, likewise. -/
def readMembers (depth : Nat) (found : List (Option String × Datum)) :
    Nat → List Char → Datum × Rest
  | 0, _ => (.broken, none)
  | fuel + 1, cs =>
    let stop := (.record ((none, .broken) :: found).reverse, none)
    match skipSpaces cs with
    | '"' :: rest =>
      let key : Option (Option String × List Char) :=
        match readText [] true (rest.length + 1) rest with
        | .read chars rest => some (some (String.ofList chars), rest)
        | .unreadable rest => some (none, rest)
        | .broken => none
      match key with
      | none => stop
      | some (name, rest) =>
        match skipSpaces rest with
        | ':' :: rest =>
          match readValue depth fuel rest with
          | (x, none) => (.record ((name, x) :: found).reverse, none)
          | (x, some rest) =>
            match skipSpaces rest with
            | ',' :: rest => readMembers depth ((name, x) :: found) fuel rest
            | '\x7d' :: rest => (.record ((name, x) :: found).reverse, some rest)
            | _ => (.record ((none, .broken) :: (name, x) :: found).reverse, none)
        | _ => (.record ((name, .broken) :: found).reverse, none)
    | _ => stop

end

/-- A data text as a document, and whether nothing but space follows it. -/
structure Source where
  root : Datum
  complete : Bool
  deriving Repr

/-- Reads a data text. -/
def Source.ofText (text : String) : Source :=
  let cs := text.toList
  match readValue 0 (2 * cs.length + 2) cs with
  | (x, none) => ⟨x, false⟩
  | (x, some rest) => ⟨x, (skipSpaces rest).isEmpty⟩

end ReviewPanel.Json
