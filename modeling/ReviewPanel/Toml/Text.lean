import ReviewPanel.Numeric.Digits

/-!
# TOML text

Spacing, comments, strings and keys of a TOML text. Each reader takes the
characters at which its part starts and gives those after it, or nothing where
the part is malformed.
-/

namespace ReviewPanel.Toml

def isBlank (c : Char) : Bool := c == ' ' || c == '\t'

def skipBlanks (cs : List Char) : List Char := cs.dropWhile isBlank

/-- The characters that a line may hold: no control characters but the tab. -/
def isLineChar (c : Char) : Bool := c == '\t' || (' ' ≤ c && c.toNat != 0x7F)

/-- Passes over a line break. -/
def skipBreak? : List Char → Option (List Char)
  | '\n' :: rest | '\r' :: '\n' :: rest => some rest
  | _ => none

def skipComment : List Char → List Char
  | '#' :: rest => rest.dropWhile isLineChar
  | cs => cs

/-- Passes over the end of a line that holds nothing more but a comment. -/
def endLine? (cs : List Char) : Option (List Char) :=
  match skipComment (skipBlanks cs) with
  | [] => some []
  | rest => skipBreak? rest

/-- Passes over blanks, line breaks and comments. -/
def skipLines : Nat → List Char → List Char
  | 0, cs => cs
  | fuel + 1, cs =>
    let cs := skipBlanks cs
    match skipBreak? (skipComment cs) with
    | some rest => skipLines fuel rest
    | none => cs

/-! ### Strings -/

def apostrophe : Char := '\x27'

/-- The character of an escape, after its backslash. -/
def readEscape? : List Char → Option (Char × List Char)
  | 'b' :: rest => some (Char.ofNat 8, rest)
  | 'f' :: rest => some (Char.ofNat 12, rest)
  | 'n' :: rest => some ('\n', rest)
  | 'r' :: rest => some ('\r', rest)
  | 't' :: rest => some ('\t', rest)
  | '"' :: rest => some ('"', rest)
  | '\\' :: rest => some ('\\', rest)
  | 'u' :: rest => Numeric.readCode? 4 rest
  | 'U' :: rest => Numeric.readCode? 8 rest
  | _ => none

/-- The rest of a string of one line after its opening quote. Only between
double quotes are there escapes. `chars` holds what was read so far, last first. -/
def readLineString (quote : Char) (chars : List Char) : Nat → List Char → Option (String × List Char)
  | 0, _ | _, [] => none
  | fuel + 1, c :: rest =>
    if c == quote then some (String.ofList chars.reverse, rest)
    else if c == '\\' && quote == '"' then do
      let (c, rest) ← readEscape? rest
      readLineString quote (c :: chars) fuel rest
    else if isLineChar c then readLineString quote (c :: chars) fuel rest
    else none

/-- Passes over blanks and line breaks. -/
def skipSpace (cs : List Char) : List Char :=
  match cs with
  | '\r' :: '\n' :: rest => skipSpace rest
  | c :: rest => if isBlank c || c == '\n' then skipSpace rest else cs
  | [] => []

/-- Passes over the space after a backslash at the end of a line. -/
def skipEscapedBreak? (cs : List Char) : Option (List Char) :=
  (skipBreak? (skipBlanks cs)).map skipSpace

/-- The rest of a string of many lines after its opening quotes and a line break
that may follow them. One or two quotes are text, and so are those before the
last three of up to five. -/
def readLongString (quote : Char) (chars : List Char) : Nat → List Char → Option (String × List Char)
  | 0, _ | _, [] => none
  | fuel + 1, c :: rest =>
    if c == quote then
      let count := 1 + (rest.takeWhile (· == quote)).length
      let rest := rest.drop (count - 1)
      if count < 3 then readLongString quote (List.replicate count quote ++ chars) fuel rest
      else if 5 < count then none
      else some (String.ofList (List.replicate (count - 3) quote ++ chars).reverse, rest)
    else if c == '\\' && quote == '"' then
      match skipEscapedBreak? rest with
      | some rest => readLongString quote chars fuel rest
      | none => do
        let (c, rest) ← readEscape? rest
        readLongString quote (c :: chars) fuel rest
    else
      match skipBreak? (c :: rest) with
      | some rest => readLongString quote ('\n' :: chars) fuel rest
      | none => if isLineChar c then readLongString quote (c :: chars) fuel rest else none

/-- A string at its opening quote. -/
def readString (quote : Char) (cs : List Char) : Option (String × List Char) :=
  let opening := [quote, quote, quote]
  if opening.isPrefixOf cs then
    let body := cs.drop 3
    let body := (skipBreak? body).getD body
    readLongString quote [] (body.length + 1) body
  else readLineString quote [] cs.length (cs.drop 1)

/-! ### Keys -/

def isBareKeyChar (c : Char) : Bool := c.isAlphanum || c == '_' || c == '-'

/-- A key without dots. -/
def readSimpleKey (cs : List Char) : Option (String × List Char) :=
  match cs with
  | [] => none
  | c :: rest =>
    if c == '"' || c == apostrophe then readLineString c [] cs.length rest
    else
      let name := cs.takeWhile isBareKeyChar
      if name.isEmpty then none else some (String.ofList name, cs.drop name.length)

/-- Keys, arrays and inline tables must be less deep than this. -/
def depthLimit : Nat := 80

/-- The parts of a key between dots, with blanks around each. -/
def readKeyParts : Nat → List Char → Option (List String × List Char)
  | 0, _ => none
  | fuel + 1, cs => do
    let (part, rest) ← readSimpleKey (skipBlanks cs)
    match skipBlanks rest with
    | '.' :: rest =>
      let (parts, rest) ← readKeyParts fuel rest
      return (part :: parts, rest)
    | rest => return ([part], rest)

/-- A key: the tables that it goes through, and the name in the last of them. -/
structure Key where
  path : List String
  name : String
  deriving Repr

def readKey (cs : List Char) : Option (Key × List Char) := do
  let (parts, rest) ← readKeyParts (cs.length + 1) cs
  let name ← parts.getLast?
  if parts.length < depthLimit then some (⟨parts.dropLast, name⟩, rest) else none

end ReviewPanel.Toml
