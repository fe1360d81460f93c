import ReviewPanel.Toml.Scalar
import ReviewPanel.Toml.Table

/-!
# Values

The values that keys are given. An array may go over several lines and end
with a comma; an inline table does neither.
-/

namespace ReviewPanel.Toml

/-- A word that stands for a value. -/
def readWord (word : String) (value : Datum) (cs : List Char) : ScalarRead :=
  if word.toList.isPrefixOf cs then some (value, cs.drop word.length) else none

/-- Whether a number or a date may start with a character. -/
def startsNumber (c : Char) : Bool :=
  c.isDigit || c == '+' || c == '-' || c == 'i' || c == 'n'

def readText (quote : Char) (cs : List Char) : ScalarRead :=
  (readString quote cs).map fun (text, rest) => (.text text, rest)

mutual

/-- The value at the start of a text, inside `depth` arrays and inline tables. -/
def readValue (depth : Nat) : Nat → List Char → ScalarRead
  | 0, _ | _, [] => none
  | fuel + 1, c :: rest =>
    if c == '"' || c == apostrophe then readText c (c :: rest)
    else if c == '[' then
      if depth + 1 < depthLimit then readItems (depth + 1) [] fuel rest else none
    else if c == '\x7b' then
      if depth + 1 < depthLimit then readMembers (depth + 1) true [] fuel rest else none
    else if c == 't' then readWord "true" (.bool true) (c :: rest)
    else if c == 'f' then readWord "false" (.bool false) (c :: rest)
    else if startsNumber c then readNumberOrDate (c :: rest)
    else none

/-- The items of an array up to its end; `found` holds the items so far, last first. -/
def readItems (depth : Nat) (found : List Datum) : Nat → List Char → ScalarRead
  | 0, _ => none
  | fuel + 1, cs =>
    match skipLines (cs.length + 1) cs with
    | ']' :: rest => some (.list found.reverse, rest)
    | cs => do
      let (x, rest) ← readValue depth fuel cs
      match skipLines (rest.length + 1) rest with
      | ',' :: rest => readItems depth (x :: found) fuel rest
      | ']' :: rest => return (.list (x :: found).reverse, rest)
      | _ => none

/-- The members of an inline table up to its end. -/
def readMembers (depth : Nat) (isFirst : Bool) (found : Members) : Nat → List Char → ScalarRead
  | 0, _ => none
  | fuel + 1, cs =>
    match skipBlanks cs, isFirst with
    | '\x7d' :: rest, true => some (.record (membersDatum found), rest)
    | cs, _ => do
      let (key, rest) ← readKey cs
      let rest ← expect '=' rest
      let (value, rest) ← readValue depth fuel (skipBlanks rest)
      let found ← found.addValue key value
      match skipBlanks rest with
      | ',' :: rest => readMembers depth false found fuel rest
      | '\x7d' :: rest => return (.record (membersDatum found), rest)
      | _ => none

end

end ReviewPanel.Toml
