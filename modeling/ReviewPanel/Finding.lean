import ReviewPanel.Severity

/-!
# Findings

A finding is one issue or one suggestion. Issues and suggestions have one
shape; which of the two a finding is shows in the list that holds it. The
confidence is a number of 32 bits between zero and one.
-/

namespace ReviewPanel

open Numeric

/-- One issue or suggestion. -/
structure Finding where
  kind : String
  severity : Severity
  title : String
  description : String
  agent : String
  confidence : Binary
  line : Option UInt32
  suggestion : Option String
  deriving Repr, DecidableEq

namespace Finding

/-- The confidence of a finding that gives none. -/
def fullConfidence : Binary := .ofNat .single 1

/-- A finding with nothing but its kind, severity and title. -/
def plain (kind : String) (severity : Severity) (title : String) : Finding :=
  { kind, severity, title, description := "", agent := "", confidence := fullConfidence,
    line := none, suggestion := none }

/-- A confidence in hundredths. -/
def hundredths (n : Nat) : Binary := .ofQuotient .single false n 100

/-- The finding with a confidence, moved to the nearer end when it lies outside
the range from zero to one. -/
def withConfidence (x : Binary) (f : Finding) : Finding :=
  { f with confidence := x.clampToUnit .single }

def confidenceJson (x : Binary) : Json :=
  if x.isFinite then .number (.single x) else .null

def toJson (f : Finding) : Json :=
  .object <|
    [("type", .text f.kind), ("severity", f.severity.toJson), ("title", .text f.title),
      ("description", .text f.description), ("source_agent", .text f.agent),
      ("confidence_score", confidenceJson f.confidence)]
      ++ Json.ifSome "line_number" (f.line.map fun n => .nat n.toNat)
      ++ Json.ifSome "suggestion_text" (f.suggestion.map .text)

def fieldNames : List String :=
  ["type", "severity", "title", "description", "source_agent", "confidence_score",
    "line_number", "suggestion_text"]

def lineOfDatum (d : Datum) : Reading UInt32 := (d.asNat Datum.bound32).map .ofNat

def ofDatum (d : Datum) : Reading Finding :=
  d.asStructure .json fieldNames fun fs =>
    Finding.mk <$> fs.required 0 Datum.asText
      <*> fs.orElse 1 Severity.ofDatum .info
      <*> fs.required 2 Datum.asText
      <*> fs.orElse 3 Datum.asText ""
      <*> fs.orElse 4 Datum.asText ""
      <*> fs.orElse 5 (Datum.asBinary .single) fullConfidence
      <*> fs.optionalOrElse 6 lineOfDatum
      <*> fs.optionalOrElse 7 Datum.asText

end Finding

end ReviewPanel
