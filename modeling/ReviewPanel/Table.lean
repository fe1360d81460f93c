/-!
# Tables

A finite map from texts to values, kept as an association list in ascending
order of the keys, so that equal tables list their entries alike.
-/

namespace ReviewPanel

/-- A finite map from texts, its entries in ascending order of the keys. -/
structure Table (α : Type) where
  entries : List (String × α)
  deriving Repr, DecidableEq

namespace Table

variable {α β : Type}

def empty : Table α := ⟨[]⟩

instance : Inhabited (Table α) := ⟨empty⟩

/-- Puts an entry where its key belongs, in place of one with the same key. -/
def place (key : String) (value : α) : List (String × α) → List (String × α)
  | [] => [(key, value)]
  | (k, v) :: rest =>
    if key = k then (key, value) :: rest
    else if key < k then (key, value) :: (k, v) :: rest
    else (k, v) :: place key value rest

def insert (t : Table α) (key : String) (value : α) : Table α :=
  ⟨place key value t.entries⟩

def get? (t : Table α) (key : String) : Option α :=
  t.entries.lookup key

def keys (t : Table α) : List String := t.entries.map Prod.fst

def size (t : Table α) : Nat := t.entries.length

def isEmpty (t : Table α) : Bool := t.entries.isEmpty

/-- The table of a list of entries; of two with one key the later counts. -/
def ofList (entries : List (String × α)) : Table α :=
  entries.foldl (fun t e => t.insert e.1 e.2) empty

def map (f : α → β) (t : Table α) : Table β :=
  ⟨t.entries.map fun e => (e.1, f e.2)⟩

end Table

end ReviewPanel
