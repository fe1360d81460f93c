import ReviewPanel.Datum.Basic
import ReviewPanel.Toml.Text

/-!
# Tables under construction

A TOML text fills its tables piece by piece: headers and keys with dots make
tables, and each table may be defined in one place only. A table remembers how
it was made, since that decides what may still be added to it.
-/

namespace ReviewPanel.Toml

/-- How a table was made. -/
inductive Origin
  /-- By a header of its own. -/
  | header
  /-- On the way to the table of a header. -/
  | onTheWay
  /-- By a key with dots. -/
  | dotted
  deriving Repr, DecidableEq

/-- A member of a table under construction. -/
inductive Item
  /-- A value that nothing can be added to. -/
  | leaf (content : Datum)
  | table (origin : Origin) (members : List (String × Item))
  /-- An array of tables, each made by a header, the last one open. -/
  | tables (items : List (List (String × Item)))
  deriving Repr

instance : Inhabited Item := ⟨.leaf .null⟩

abbrev Members := List (String × Item)

namespace Members

/-- Puts an item in place of the one with its key, or last. -/
def put (key : String) (item : Item) : Members → Members
  | [] => [(key, item)]
  | (k, x) :: rest => if k = key then (k, item) :: rest else (k, x) :: put key item rest

def remove (key : String) (ms : Members) : Members := ms.filter (·.1 != key)

/-- Changes the table that a path leads to, and makes the tables that are
missing on the way. A path of a key with dots does not lead into the table of a
header, and no path leads into a value. -/
def alter {α : Type} (isDotted : Bool) (change : Origin → Members → Option (Members × α)) :
    List String → Origin → Members → Option (Members × α)
  | [], origin, ms => change origin ms
  | key :: path, _, ms =>
    match ms.lookup key with
    | none => do
      let origin := if isDotted then .dotted else .onTheWay
      let (inner, x) ← alter isDotted change path origin []
      return (put key (.table origin inner) ms, x)
    | some (.leaf _) => none
    | some (.tables items) => do
      let last ← items.getLast?
      let (inner, x) ← alter isDotted change path .header last
      return (put key (.tables (items.dropLast ++ [inner])) ms, x)
    | some (.table origin members) =>
      if isDotted && origin == .header then none
      else do
        let (inner, x) ← alter isDotted change path origin members
        return (put key (.table origin inner) ms, x)

/-- Adds a value under a key. Tables on the way must all come from keys with
dots, and the key must be new. -/
def addValue (key : Key) (value : Datum) (ms : Members) : Option Members :=
  let add (origin : Origin) (ms : Members) : Option (Members × Unit) :=
    if (!key.path.isEmpty && origin != .dotted) || (ms.lookup key.name).isSome then none
    else some (put key.name (.leaf value) ms, ())
  (alter true add key.path .header ms).map Prod.fst

/-- Takes out the table that a header is about to define; it may have been
made on the way to others. -/
def openTable (key : Key) (ms : Members) : Option (Members × Members) :=
  let take (_ : Origin) (ms : Members) : Option (Members × Members) :=
    match ms.lookup key.name with
    | none => some (ms, [])
    | some (.table .onTheWay inner) => some (remove key.name ms, inner)
    | some _ => none
  alter false take key.path .header ms

/-- Makes room for another table in an array. -/
def openTables (key : Key) (ms : Members) : Option Members :=
  let check (_ : Origin) (ms : Members) : Option (Members × Unit) :=
    match ms.lookup key.name with
    | none => some (put key.name (.tables []) ms, ())
    | some (.tables _) => some (ms, ())
    | some _ => none
  (alter false check key.path .header ms).map Prod.fst

/-- Puts a table back that a header has defined. -/
def closeTable (ms : Members) (key : Key) (inner : Members) : Option Members :=
  let add (_ : Origin) (ms : Members) : Option (Members × Unit) :=
    if (ms.lookup key.name).isSome then none
    else some (put key.name (.table .header inner) ms, ())
  (alter false add key.path .header ms).map Prod.fst

/-- Adds a table to an array. -/
def closeTables (ms : Members) (key : Key) (inner : Members) : Option Members :=
  let add (_ : Origin) (ms : Members) : Option (Members × Unit) :=
    match ms.lookup key.name with
    | some (.tables items) => some (put key.name (.tables (items ++ [inner])) ms, ())
    | _ => none
  (alter false add key.path .header ms).map Prod.fst

end Members

mutual

/-- The content of a finished item. -/
def Item.datum : Item → Datum
  | .leaf d => d
  | .table _ members => .record (membersDatum members)
  | .tables items => .list (tablesDatum items)

def membersDatum : List (String × Item) → List (Option String × Datum)
  | [] => []
  | (key, x) :: rest => (some key, x.datum) :: membersDatum rest

def tablesDatum : List (List (String × Item)) → List Datum
  | [] => []
  | ms :: rest => .record (membersDatum ms) :: tablesDatum rest

end

end ReviewPanel.Toml
