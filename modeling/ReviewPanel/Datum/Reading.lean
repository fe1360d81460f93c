import ReviewPanel.Datum.Basic
import ReviewPanel.Datum.Plain
import ReviewPanel.Deadline

/-!
# Reading types from documents

A reader takes a document to a value of the type that it is asked for, or to
the first fault in document order. A `Dialect` holds the few decisions that
the formats make differently.
-/

namespace ReviewPanel

open Numeric

/-- Why a document does not hold a value of the type that is asked for. -/
inductive Fault
  /-- The text is malformed, or of another type. -/
  | mismatch
  /-- A number of seconds that is no deadline. -/
  | deadline (fault : DeadlineFault)
  deriving Repr, DecidableEq

abbrev Reading (α : Type) := Except Fault α

/-- What the documents of a format accept where a type leaves room. -/
structure Dialect where
  /-- Items beyond the fields of a structure that is given as a list are passed over. -/
  passesSurplus : Bool
  /-- What may stand beside the name of a variant in a record of one member. -/
  isVariantContent : Datum → Bool

def Dialect.json : Dialect :=
  { passesSurplus := false
    isVariantContent := fun
      | .null => true
      | _ => false }

def Dialect.yaml : Dialect :=
  { passesSurplus := false
    isVariantContent := fun _ => false }

def Dialect.toml : Dialect :=
  { passesSurplus := true
    isVariantContent := fun
      | .list [] | .record [] => true
      | _ => false }

namespace Datum

def mismatch {α : Type} : Reading α := .error .mismatch

/-- A value that is there, or the fault of another type. -/
def found {α : Type} : Option α → Reading α
  | some x => .ok x
  | none => mismatch

def asBool : Datum → Reading Bool
  | .bool b => .ok b
  | .plain s | .tagged .bool (.block s) => found (Plain.bool? s)
  | .tagged _ d => d.asBool
  | _ => mismatch

def asText : Datum → Reading String
  | .text s | .plain s | .block s => .ok s
  | .tagged _ d => d.asText
  | _ => mismatch

/-- A natural below a bound. -/
def asNat (bound : Nat) : Datum → Reading Nat
  | .number (.integer n) => if 0 ≤ n ∧ n < bound then .ok n.toNat else mismatch
  | .plain s | .tagged .int (.block s) =>
    match Plain.nat? s with
    | some n => if n < bound then .ok n else mismatch
    | none => mismatch
  | .tagged _ d => d.asNat bound
  | _ => mismatch

/-- The naturals of 32 bits are below this bound. -/
def bound32 : Nat := Nat.pow 2 32

/-- The naturals of 64 bits are below this bound. -/
def bound64 : Nat := Nat.pow 2 64

/-- An integer of 64 bits with a sign. -/
def asInt : Datum → Reading Int
  | .number (.integer n) => if -signedBound ≤ n ∧ n < signedBound then .ok n else mismatch
  | _ => mismatch

/-- A number, rounded to a format when it is not of that format. -/
def asBinary (f : Format) : Datum → Reading Binary
  | .number (.integer n) => .ok (.ofInt f n)
  | .number (.double x) => .ok (if f = .double then x else x.convert f)
  | .number (.single x) => .ok (if f = .single then x else x.convert f)
  | .plain s | .tagged .float (.block s) =>
    found ((Plain.double? s).map fun x => if f = .double then x else x.convert f)
  | .tagged _ d => d.asBinary f
  | _ => mismatch

/-- A value that may be absent. A scalar that is marked as null has to be spelled
as null, and one with any other mark is present. -/
def asOption {α : Type} (read : Datum → Reading α) : Datum → Reading (Option α)
  | .null => .ok none
  | .plain s => if s = "" ∨ Plain.isNull s then .ok none else (read (.plain s)).map some
  | .tagged .null (.plain s) => if Plain.isNull s then .ok none else mismatch
  | d => (read d).map some

/-- A list of values; an empty scalar is an empty list. -/
def asList {α : Type} (read : Datum → Reading α) : Datum → Reading (List α)
  | .list items => items.mapM read
  | .plain "" => .ok []
  | .tagged _ d => d.asList read
  | _ => mismatch

def readEntry {α : Type} (read : Datum → Reading α) :
    Option String × Datum → Reading (String × α)
  | (some name, d) => (read d).map (name, ·)
  | (none, _) => mismatch

/-- The members of a record in document order; an empty scalar has none. -/
def asEntries {α : Type} (read : Datum → Reading α) : Datum → Reading (List (String × α))
  | .record members => members.mapM (readEntry read)
  | .plain "" => .ok []
  | .tagged _ d => d.asEntries read
  | _ => mismatch

/-- A table of values; of two entries with one key the later counts. -/
def asTable {α : Type} (read : Datum → Reading α) (d : Datum) : Reading (Table α) :=
  (d.asEntries read).map Table.ofList

mutual

/-- Any data value. -/
def asJson : Datum → Reading Json
  | .null => .ok .null
  | .bool b => .ok (.bool b)
  | .number n => .ok (.number n)
  | .text s | .plain s | .block s => .ok (.text s)
  | .tagged _ d => d.asJson
  | .list items => (asJsonItems items).map .list
  | .record members => (asJsonMembers members).map .object
  | .unreadable | .broken => mismatch

def asJsonItems : List Datum → Reading (List Json)
  | [] => .ok []
  | d :: rest => do
    let x ← d.asJson
    let xs ← asJsonItems rest
    return x :: xs

def asJsonMembers : List (Option String × Datum) → Reading (List (String × Json))
  | [] => .ok []
  | (none, _) :: _ => mismatch
  | (some name, d) :: rest => do
    let x ← d.asJson
    let xs ← asJsonMembers rest
    return (name, x) :: xs

end

/-- The variant with a name, out of those that `parse?` knows. -/
def asVariant {α : Type} (dialect : Dialect) (parse? : String → Option α) : Datum → Reading α
  | .text s | .plain s | .block s => found (parse? s)
  | .record [(some name, content)] =>
    if dialect.isVariantContent content then found (parse? name) else mismatch
  | .tagged (.variant name) (.plain s) =>
    if s = "" ∨ Plain.isNull s then found (parse? name) else mismatch
  | .tagged (.variant _) _ => mismatch
  | .tagged _ d => d.asVariant dialect parse?
  | _ => mismatch

mutual

/-- Whether a document holds values throughout. -/
def isReadable : Datum → Bool
  | .unreadable | .broken => false
  | .list items => areReadable items
  | .record members => membersAreReadable members
  | .tagged _ d => d.isReadable
  | _ => true

def areReadable : List Datum → Bool
  | [] => true
  | d :: rest => d.isReadable && areReadable rest

def membersAreReadable : List (Option String × Datum) → Bool
  | [] => true
  | (name, d) :: rest => name.isSome && d.isReadable && membersAreReadable rest

end

mutual

/-- Whether the text broke off inside a document; nothing comes after the place
where it did. -/
def breaksOff : Datum → Bool
  | .broken => true
  | .list items => lastBreaksOff items
  | .record members => lastMemberBreaksOff members
  | .tagged _ d => d.breaksOff
  | _ => false

def lastBreaksOff : List Datum → Bool
  | [] => false
  | [d] => d.breaksOff
  | _ :: d :: rest => lastBreaksOff (d :: rest)

def lastMemberBreaksOff : List (Option String × Datum) → Bool
  | [] => false
  | [(_, d)] => d.breaksOff
  | _ :: m :: rest => lastMemberBreaksOff (m :: rest)

end

end Datum

end ReviewPanel
