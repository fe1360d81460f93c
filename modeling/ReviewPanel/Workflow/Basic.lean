import ReviewPanel.Capability

/-!
# Workflows

The closed set of workflows, and the errors that keep a workflow from running.
-/

namespace ReviewPanel

/-- The kinds of workflow. -/
inductive Workflow
  | codeDevelopment
  | testingAnalysis
  | securityAudit
  | fullAnalysis
  | chatAssistance
  deriving Repr, DecidableEq

namespace Workflow

def label : Workflow → String
  | .codeDevelopment => "code_development"
  | .testingAnalysis => "testing_analysis"
  | .securityAudit => "security_audit"
  | .fullAnalysis => "full_analysis"
  | .chatAssistance => "chat_assistance"

def all : List Workflow :=
  [.codeDevelopment, .testingAnalysis, .securityAudit, .fullAnalysis, .chatAssistance]

/-- The workflow with exactly this label. -/
def ofLabel? (text : String) : Option Workflow := all.find? (·.label == text)

def toJson (w : Workflow) : Json := .text w.label

def ofDatum (d : Datum) : Reading Workflow := d.asVariant .json ofLabel?

end Workflow

/-- Why a workflow cannot run. -/
inductive WorkflowError
  | noSuitableAgent (category : Category)
  | templateNotFound (workflow : Workflow)
  | unknownWorkflow (name : String)
  | invalidTemplate (name reason : String)
  deriving Repr, DecidableEq

namespace WorkflowError

def message : WorkflowError → String
  | .noSuitableAgent c => s!"No suitable agent registered for required category: {c.label}"
  | .templateNotFound w => s!"Workflow template not found: {w.label}"
  | .unknownWorkflow name => s!"Unknown workflow type: {name}"
  | .invalidTemplate name reason => s!"Invalid workflow template {name}: {reason}"

end WorkflowError

/-- The workflow that a text names, blank characters around it and the case of
its letters aside. -/
def Workflow.parse (text : String) : Except WorkflowError Workflow :=
  match ofLabel? (Text.lowercase (Text.trim text)) with
  | some w => .ok w
  | none => .error (.unknownWorkflow text)

end ReviewPanel
