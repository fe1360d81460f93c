import ReviewPanel.Json.Value

/-!
# Documents

A document is what a text says before anyone asks for a type: a tree with the
members of its records in the order in which the text gives them. Three
formats are read into such trees, so the tree holds what they have between
them: an unquoted scalar whose meaning depends on the type that is asked for,
a block of text that a tag may turn into such a scalar, text that is well formed
but holds no value, and the place where the text breaks off.
-/

namespace ReviewPanel

/-- What a node is marked with. -/
inductive Tag
  /-- The name of a variant. -/
  | variant (name : String)
  | null
  | bool
  | int
  | float
  /-- Any other mark; it says nothing. -/
  | other
  deriving Repr, DecidableEq

/-- The tree of a document. -/
inductive Datum
  | null
  | bool (value : Bool)
  | number (value : Number)
  | text (value : String)
  /-- An unquoted scalar, read as the type that is asked for. -/
  | plain (value : String)
  /-- A block of text, read as text unless a tag says otherwise. -/
  | block (value : String)
  | tagged (tag : Tag) (content : Datum)
  | list (items : List Datum)
  /-- Members in order; a member whose key is no text has no name. -/
  | record (members : List (Option String × Datum))
  /-- Well-formed text that holds no value: it may be passed over, not read. -/
  | unreadable
  /-- The place where the text stops being well formed. -/
  | broken
  deriving Repr

instance : Inhabited Datum := ⟨.null⟩

namespace Datum

/-- The integers of 64 bits with a sign are below this bound, and none of them
is below its negative. -/
def signedBound : Int := Int.ofNat (Nat.pow 2 63)

mutual

/-- A data value as a document. -/
def ofJson : Json → Datum
  | .null => .null
  | .bool b => .bool b
  | .number n => .number n
  | .text s => .text s
  | .list items => .list (ofItems items)
  | .record members => .record (ofMembers members)

def ofItems : List Json → List Datum
  | [] => []
  | x :: rest => ofJson x :: ofItems rest

def ofMembers : List (String × Json) → List (Option String × Datum)
  | [] => []
  | (name, x) :: rest => (some name, ofJson x) :: ofMembers rest

end

end Datum

end ReviewPanel
