import ReviewPanel.Numeric.Shortest
import ReviewPanel.Table

/-!
# Data values

The values of the data format that requests, results and reports are written
in: numbers, texts, lists and records. A number remembers whether it is an
integer or a floating-point number, and of which format. The members of a
record are in ascending order of their names, each name once.
-/

namespace ReviewPanel

open Numeric

/-- A number of a data value. -/
inductive Number
  | integer (value : Int)
  | double (value : Binary)
  | single (value : Binary)
  deriving Repr, DecidableEq

/-- A data value. -/
inductive Json
  | null
  | bool (value : Bool)
  | number (value : Number)
  | text (value : String)
  | list (items : List Json)
  | record (members : List (String × Json))
  deriving Repr

namespace Json

instance : Inhabited Json := ⟨.null⟩

/-- The record with these members; of two with one name the later counts. -/
def object (members : List (String × Json)) : Json :=
  .record (Table.ofList members).entries

def nat (n : Nat) : Json := .number (.integer n)

/-- A text, or null where there is none. -/
def textOrNull : Option String → Json
  | some s => .text s
  | none => .null

/-- The member of a record with a name. -/
def member? (name : String) : Json → Option Json
  | .record members => members.lookup name
  | _ => none

def text? : Json → Option String
  | .text s => some s
  | _ => none

/-- A member that is left out where there is none. -/
def ifSome (name : String) (value : Option Json) : List (String × Json) :=
  match value with
  | some v => [(name, v)]
  | none => []

def texts (items : List String) : Json := .list (items.map .text)

/-- The record of a table. -/
def ofTable (t : Table Json) : Json := .record t.entries

end Json

end ReviewPanel
