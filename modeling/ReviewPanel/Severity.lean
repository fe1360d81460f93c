import ReviewPanel.Datum.Fields
import ReviewPanel.Text.Blank
import ReviewPanel.Text.Lowercase

/-!
# Severities

How grave a finding is. A label is read leniently: blank characters around it
and the case of its letters do not matter, and a label that is not known, or
absent, means the lowest severity.
-/

namespace ReviewPanel

/-- How grave a finding is, the least grave first. -/
inductive Severity
  | info
  | low
  | medium
  | high
  | critical
  deriving Repr, DecidableEq

namespace Severity

instance : Inhabited Severity := ⟨.info⟩

def label : Severity → String
  | .info => "info"
  | .low => "low"
  | .medium => "medium"
  | .high => "high"
  | .critical => "critical"

/-- The place of a severity among all, counted from the least grave. -/
def rank : Severity → Nat
  | .info => 0
  | .low => 1
  | .medium => 2
  | .high => 3
  | .critical => 4

/-- Every severity, the gravest first. -/
def all : List Severity := [.critical, .high, .medium, .low, .info]

/-- The severity of a label. -/
def parse (text : String) : Severity :=
  match Text.lowercase (Text.trim text) with
  | "critical" => .critical
  | "high" => .high
  | "medium" => .medium
  | "low" => .low
  | _ => .info

/-- Whether a severity is as grave as another or graver. -/
def atLeast (s least : Severity) : Bool := least.rank ≤ s.rank

def toJson (s : Severity) : Json := .text s.label

def ofDatum (d : Datum) : Reading Severity :=
  (d.asOption Datum.asText).map fun
    | some label => parse label
    | none => .info

end Severity

end ReviewPanel
