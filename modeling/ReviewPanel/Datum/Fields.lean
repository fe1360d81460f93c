import ReviewPanel.Datum.Reading

/-!
# Reading structures

A structure is read from a record, whose members may stand in any order and
may include unknown ones, or from a list of its fields in their declared
order. The fields are read independently and each fault keeps the position at
which it was found, so that the first fault in document order is the one that
is reported: `Located` combines readings by the earlier fault.
-/

namespace ReviewPanel

/-- A reading whose fault knows its position. -/
def Located (α : Type) : Type := Except (Nat × Fault) α

namespace Located

variable {α β : Type}

/-- Applies one reading to another; of two faults the earlier counts. -/
def apply (f : Located (α → β)) (x : Located α) : Located β :=
  match f, x with
  | .ok f, .ok x => Except.ok (f x)
  | .ok _, .error e => Except.error e
  | .error e, .ok _ => Except.error e
  | .error e, .error e' => Except.error (if e.1 ≤ e'.1 then e else e')

instance : Applicative Located where
  pure x := Except.ok x
  seq f x := apply f (x ())

end Located

/-- The fields of a structure as a document gives them. -/
structure Fields where
  /-- Each field that is present: its index, its position and its content. -/
  cells : List (Nat × Nat × Datum)
  /-- The position at which the document cannot be a structure of these fields. -/
  fault : Option Nat
  /-- The position after the last field. -/
  size : Nat
  /-- Whether the fields are the items of a list. -/
  isList : Bool

namespace Fields

/-- Finds the fields among the members of a record. -/
def ofMembers (names : List String) (position : Nat) (cells : List (Nat × Nat × Datum)) :
    List (Option String × Datum) → Fields
  | [] => ⟨cells, none, position, false⟩
  | (none, _) :: _ => ⟨cells, some position, position, false⟩
  | (some name, d) :: rest =>
    match names.idxOf? name with
    | none =>
      if d.breaksOff then ⟨cells, some position, position, false⟩
      else ofMembers names (position + 1) cells rest
    | some i =>
      if cells.any (·.1 == i) then ⟨cells, some position, position, false⟩
      else ofMembers names (position + 1) ((i, position, d) :: cells) rest

/-- The fields in their declared order. -/
def ofItems (dialect : Dialect) (count : Nat) (items : List Datum) : Fields :=
  let cells := (items.take count).mapIdx fun i d => (i, i, d)
  let surplus := count < items.length && !dialect.passesSurplus
  ⟨cells, if surplus then some count else none, items.length, true⟩

variable {α : Type}

def cell? (fs : Fields) (index : Nat) : Option (Nat × Datum) := fs.cells.lookup index

/-- Reads a field, with `absent` for one that is missing. -/
def read (fs : Fields) (index : Nat) (reader : Datum → Reading α) (absent : Option α) :
    Located α :=
  match fs.cell? index with
  | some (position, d) => (reader d).mapError (position, ·)
  | none =>
    match absent with
    | some x => Except.ok x
    | none => Except.error (fs.size, .mismatch)

/-- A field that has to be there. -/
def required (fs : Fields) (index : Nat) (reader : Datum → Reading α) : Located α :=
  fs.read index reader none

/-- A field with a value of its own where it is missing. -/
def orElse (fs : Fields) (index : Nat) (reader : Datum → Reading α) (default : α) : Located α :=
  fs.read index reader (some default)

/-- A field that may be null, and that a record may leave out. -/
def optional (fs : Fields) (index : Nat) (reader : Datum → Reading α) : Located (Option α) :=
  fs.read index (Datum.asOption reader) (if fs.isList then none else some none)

/-- A field that may be null, and that may be left out of a list as well. -/
def optionalOrElse (fs : Fields) (index : Nat) (reader : Datum → Reading α) :
    Located (Option α) :=
  fs.read index (Datum.asOption reader) (some none)

/-- The structure made of the fields, or the first fault. -/
def build (fs : Fields) (x : Located α) : Reading α :=
  match x, fs.fault with
  | .ok x, none => .ok x
  | .ok _, some _ => .error .mismatch
  | .error e, none => .error e.2
  | .error e, some position => .error (if e.1 < position then e.2 else .mismatch)

end Fields

/-- Reads a structure with fields of these names. -/
def Datum.asStructure {α : Type} (dialect : Dialect) (names : List String)
    (make : Fields → Located α) : Datum → Reading α
  | .record members => let fs := Fields.ofMembers names 0 [] members; fs.build (make fs)
  | .list items => let fs := Fields.ofItems dialect names.length items; fs.build (make fs)
  | .plain "" => let fs := Fields.ofMembers names 0 [] []; fs.build (make fs)
  | .tagged _ d => d.asStructure dialect names make
  | _ => .error .mismatch

end ReviewPanel
