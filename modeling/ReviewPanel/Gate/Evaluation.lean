import ReviewPanel.Gate.Basic
import ReviewPanel.Roster
import ReviewPanel.Text.Quoted

/-!
# Evaluating gates

An evaluator holds gates under distinct names. It judges a report by a list
of names: every known name is judged, in order and as often as it is listed,
even after a failure; unknown names are passed over.
-/

namespace ReviewPanel

/-- The judgement of a list of gates. -/
structure GateReport where
  passed : Bool
  errors : List String
  results : List GateResult
  deriving Repr, DecidableEq

namespace GateReport

def toJson (r : GateReport) : Json :=
  .object
    [("passed", .bool r.passed), ("errors", .texts r.errors),
      ("results", .list (r.results.map GateResult.toJson))]

def ofDatum (d : Datum) : Reading GateReport :=
  d.asStructure .json ["passed", "errors", "results"] fun fs =>
    GateReport.mk <$> fs.required 0 Datum.asBool
      <*> fs.required 1 (Datum.asList Datum.asText)
      <*> fs.required 2 (Datum.asList GateResult.ofDatum)

end GateReport

/-- Gates under distinct names. -/
structure Evaluator where
  gates : List Gate

namespace Evaluator

def empty : Evaluator := ⟨[]⟩

/-- Registers a gate, in place of one of the same name. -/
def register (e : Evaluator) (g : Gate) : Evaluator := ⟨Roster.put Gate.name g e.gates⟩

def registerAll (e : Evaluator) (gs : List Gate) : Evaluator := gs.foldl register e

/-- The built-in gates with these thresholds. -/
def ofConfig (c : GateConfig) : Evaluator :=
  empty.registerAll
    [.codeQuality c.maxHighSeverity, .securityCompliance c.blockedKinds, .testCoverage]

instance : Inhabited Evaluator := ⟨ofConfig .default⟩

def names (e : Evaluator) : List String := e.gates.map Gate.name

def find? (e : Evaluator) (name : String) : Option Gate := Roster.find? Gate.name name e.gates

/-- The message about a gate that failed. -/
def failureText (name : String) (result : GateResult) : String :=
  s!"Quality gate '{name}' failed: {result.detail}"

/-- The judgement of the known gates among the names, each with its name. -/
def judgements (e : Evaluator) (report : Report) (names : List String) :
    List (String × GateResult) :=
  names.filterMap fun name => (e.find? name).map fun g => (name, g.evaluate report)

/-- Judges a report by the named gates. -/
def evaluate (e : Evaluator) (report : Report) (names : List String) : GateReport :=
  let judged := e.judgements report names
  { passed := judged.all fun j => j.2.passed
    errors := (judged.filter fun j => !j.2.passed).map fun j => failureText j.1 j.2
    results := judged.map Prod.snd }

/-- An evaluator in one line. -/
def describe (e : Evaluator) : String :=
  "QualityGateEvaluator \x7b gates: " ++ Text.quotedList e.names ++ " \x7d"

end Evaluator

end ReviewPanel
