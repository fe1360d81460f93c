import ReviewPanel.AgentError
import ReviewPanel.Finding

/-!
# Results and outcomes

What one successful analysis found, why another one failed, and the outcome
that is either of the two. A written outcome does not say which of the two it
is: one that can be read as a failure is a failure.
-/

namespace ReviewPanel

/-- What one successful analysis found. -/
structure RawResult where
  agent : String
  issues : List Finding
  suggestions : List Finding
  summary : Option String
  /-- Numbers and notes of the agent's own. -/
  metrics : Table Json
  deriving Repr

namespace RawResult

def empty (agent : String) : RawResult := ⟨agent, [], [], none, .empty⟩

instance : Inhabited RawResult := ⟨empty ""⟩

def withSummary (summary : String) (r : RawResult) : RawResult := { r with summary := some summary }

def withMetric (name : String) (value : Json) (r : RawResult) : RawResult :=
  { r with metrics := r.metrics.insert name value }

def toJson (r : RawResult) : Json :=
  .object <|
    [("agent", .text r.agent), ("issues", .list (r.issues.map Finding.toJson)),
      ("suggestions", .list (r.suggestions.map Finding.toJson)),
      ("metrics", .ofTable r.metrics)]
      ++ Json.ifSome "summary" (r.summary.map .text)

def fieldNames : List String := ["agent", "issues", "suggestions", "summary", "metrics"]

def ofDatum (d : Datum) : Reading RawResult :=
  d.asStructure .json fieldNames fun fs =>
    RawResult.mk <$> fs.required 0 Datum.asText
      <*> fs.orElse 1 (Datum.asList Finding.ofDatum) []
      <*> fs.orElse 2 (Datum.asList Finding.ofDatum) []
      <*> fs.optionalOrElse 3 Datum.asText
      <*> fs.orElse 4 (Datum.asTable Datum.asJson) .empty

end RawResult

/-- The kinds of failure. -/
inductive FailureKind
  | timeout
  | execution
  | unsupported
  | panicked
  deriving Repr, DecidableEq

namespace FailureKind

def label : FailureKind → String
  | .timeout => "timeout"
  | .execution => "execution"
  | .unsupported => "unsupported"
  | .panicked => "panicked"

def all : List FailureKind := [.timeout, .execution, .unsupported, .panicked]

def ofLabel? (text : String) : Option FailureKind := all.find? (·.label == text)

/-- The kind of failure that an error is recorded as. -/
def ofError : AgentError → FailureKind
  | .timeout .. => .timeout
  | .unsupported .. => .unsupported
  | _ => .execution

end FailureKind

/-- A recorded failure of an agent. -/
structure Failure where
  message : String
  kind : FailureKind
  deriving Repr, DecidableEq

namespace Failure

def ofError (e : AgentError) : Failure := ⟨e.message, .ofError e⟩

def toJson (f : Failure) : Json :=
  .object [("error", .text f.message), ("kind", .text f.kind.label)]

def ofDatum (d : Datum) : Reading Failure :=
  d.asStructure .json ["error", "kind"] fun fs =>
    Failure.mk <$> fs.required 0 Datum.asText
      <*> fs.required 1 (Datum.asVariant .json FailureKind.ofLabel?)

end Failure

/-- How the analysis of one agent came out. -/
inductive Outcome
  | failure (failure : Failure)
  | success (result : RawResult)
  deriving Repr

namespace Outcome

instance : Inhabited Outcome := ⟨.success default⟩

def ofExcept : Except AgentError RawResult → Outcome
  | .ok r => .success r
  | .error e => .failure (.ofError e)

def isSuccess : Outcome → Bool
  | .success _ => true
  | .failure _ => false

def result? : Outcome → Option RawResult
  | .success r => some r
  | .failure _ => none

/-- The message of a failure. -/
def error? : Outcome → Option String
  | .success _ => none
  | .failure f => some f.message

def toJson : Outcome → Json
  | .success r => r.toJson
  | .failure f => f.toJson

/-- Reads an outcome, as a failure if that is possible. The document is read
as a whole before the two are told apart. -/
def ofDatum (d : Datum) : Reading Outcome :=
  if !d.isReadable then .error .mismatch
  else
    match Failure.ofDatum d with
    | .ok f => .ok (.failure f)
    | .error _ => (RawResult.ofDatum d).map .success

end Outcome

end ReviewPanel
