import ReviewPanel.Outcome
import ReviewPanel.Roster

/-!
# Slots

The outcomes of a run, one slot for each agent, under keys. A slot keeps the
position at which its key was first inserted.
-/

namespace ReviewPanel

/-- One keyed outcome. -/
structure Slot where
  key : String
  outcome : Outcome
  deriving Repr

namespace Slot

def toJson (s : Slot) : Json :=
  .object [("key", .text s.key), ("outcome", s.outcome.toJson)]

def ofDatum (d : Datum) : Reading Slot :=
  d.asStructure .json ["key", "outcome"] fun fs =>
    Slot.mk <$> fs.required 0 Datum.asText <*> fs.required 1 Outcome.ofDatum

end Slot

/-- Outcomes in the order in which their keys were first inserted. -/
structure Slots where
  toList : List Slot
  deriving Repr

namespace Slots

def empty : Slots := ⟨[]⟩

instance : Inhabited Slots := ⟨empty⟩

/-- Puts an outcome under a key; a key that is there keeps its position. -/
def insert (s : Slots) (key : String) (outcome : Outcome) : Slots :=
  ⟨Roster.put Slot.key ⟨key, outcome⟩ s.toList⟩

def get? (s : Slots) (key : String) : Option Outcome :=
  (Roster.find? Slot.key key s.toList).map Slot.outcome

def contains (s : Slots) (key : String) : Bool := (s.get? key).isSome

def keys (s : Slots) : List String := s.toList.map Slot.key

def size (s : Slots) : Nat := s.toList.length

def isEmpty (s : Slots) : Bool := s.toList.isEmpty

/-- The results of the slots that succeeded. -/
def successes (s : Slots) : List (String × RawResult) :=
  s.toList.filterMap fun slot => slot.outcome.result?.map (slot.key, ·)

/-- The messages of the slots that failed. -/
def failures (s : Slots) : List (String × String) :=
  s.toList.filterMap fun slot => slot.outcome.error?.map (slot.key, ·)

def toJson (s : Slots) : Json := .list (s.toList.map Slot.toJson)

def ofDatum (d : Datum) : Reading Slots := (d.asList Slot.ofDatum).map .mk

end Slots

end ReviewPanel
