import ReviewPanel.Datum.Reading
import ReviewPanel.Toml.Value

/-!
# TOML documents

A text is a sequence of headers and of keys with values. A header opens a
table, and the keys after it go into that table until the next header.
-/

namespace ReviewPanel.Toml

/-- A line of a text. -/
inductive Line
  | table (key : Key)
  | tables (key : Key)
  | value (key : Key) (value : Datum)
  deriving Repr

/-- Passes over some characters. -/
def expectAll (text : List Char) (cs : List Char) : Option (List Char) :=
  if text.isPrefixOf cs then some (cs.drop text.length) else none

/-- A header, or a key with its value. -/
def readStatement (cs : List Char) : Option (Line × List Char) :=
  match cs with
  | '[' :: '[' :: rest => do
    let (key, rest) ← readKey rest
    return (.tables key, ← expectAll [']', ']'] rest)
  | '[' :: rest => do
    let (key, rest) ← readKey rest
    return (.table key, ← expect ']' rest)
  | cs => do
    let (key, rest) ← readKey cs
    let rest := skipBlanks (← expect '=' rest)
    let (value, rest) ← readValue 0 (2 * rest.length + 2) rest
    return (.value key value, rest)

/-- A line that says something, and the lines after it. -/
def readLine (cs : List Char) : Option (Line × List Char) := do
  let (line, rest) ← readStatement cs
  return (line, ← endLine? rest)

/-- The lines of a text; none where one is malformed. -/
def readAll : Nat → List Char → Option (List Line)
  | 0, _ => none
  | fuel + 1, cs =>
    match skipLines (cs.length + 1) cs with
    | [] => some []
    | '#' :: rest => if skipComment ('#' :: rest) == [] then some [] else none
    | cs => do
      let (line, rest) ← readLine cs
      return line :: (← readAll fuel rest)

/-- The header in force. -/
inductive Header
  | none
  | table (key : Key)
  | tables (key : Key)
  deriving Repr

/-- A document under construction. -/
structure Draft where
  /-- What the headers before the one in force have defined. -/
  root : Members
  header : Header
  /-- The members of the table in force. -/
  current : Members
  deriving Repr

namespace Draft

def empty : Draft := ⟨[], .none, []⟩

/-- The members of the whole document, the table in force included. -/
def close (d : Draft) : Option Members :=
  match d.header with
  | .none => some d.current
  | .table key => d.root.closeTable key d.current
  | .tables key => d.root.closeTables key d.current

/-- Adds a line; none where it defines what is already defined. -/
def add (d : Draft) : Line → Option Draft
  | .value key value => do return { d with current := ← d.current.addValue key value }
  | .table key => do
    let (root, current) ← (← d.close).openTable key
    return ⟨root, .table key, current⟩
  | .tables key => do
    let root ← (← d.close).openTables key
    return ⟨root, .tables key, []⟩

end Draft

/-- The content of a text; none where it is malformed. A byte order mark may
stand in front. -/
def document? (text : String) : Option Datum := do
  let cs := text.toList
  let cs := if cs.head? == some '\ufeff' then cs.drop 1 else cs
  let lines ← readAll (cs.length + 1) cs
  let draft ← lines.foldlM Draft.add .empty
  let members ← draft.close
  return .record (membersDatum members)

/-- Reads a text as a type. -/
def decode {α : Type} (read : Datum → Reading α) (text : String) : Reading α := do
  read (← Datum.found (document? text))

end ReviewPanel.Toml
