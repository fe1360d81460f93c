import ReviewPanel.Workflow.Basic

/-!
# Templates

A template says which categories of agents a workflow needs and which it may
use, whether the agents run side by side or one after the other, how long
each may take and which quality gates apply.
-/

namespace ReviewPanel

open Numeric

/-- The plan of a workflow. -/
structure Template where
  required : List Category
  optional : List Category
  parallel : Bool
  /-- How long each agent may take. -/
  deadline : Duration
  gates : List String
  deriving Repr, DecidableEq

namespace Template

def defaultDeadline : Duration := .ofSeconds 30

/-- A template with these required categories and defaults for the rest. -/
def ofRequired (required : List Category) : Template :=
  { required, optional := [], parallel := true, deadline := defaultDeadline, gates := [] }

instance : Inhabited Template := ⟨ofRequired []⟩

/-- Adds the categories that are not listed yet. -/
def addCategories (required : Bool) (seen : List (Category × Bool)) (cs : List Category) :
    List (Category × Bool) :=
  cs.foldl (fun seen c => if seen.any (·.1 == c) then seen else seen ++ [(c, required)]) seen

/-- The categories of a template, each once, the required ones first. A
category that is listed as both counts as required. -/
def categories (t : Template) : List (Category × Bool) :=
  addCategories false (addCategories true [] t.required) t.optional

/-- Refuses a template that could never run. -/
def validate (t : Template) (name : String) : Except WorkflowError Unit :=
  if t.deadline = .zero then .error (.invalidTemplate name "max_execution_time must be positive")
  else if t.required.isEmpty && t.optional.isEmpty then
    .error (.invalidTemplate name "no agent categories")
  else .ok ()

/-- A deadline as a number of seconds: an integer when it is a whole number. -/
def deadlineJson (t : Duration) : Json :=
  if t.subsecond = 0 then .nat t.wholeSeconds else .number (.double t.toBinary)

def toJson (t : Template) : Json :=
  .object
    [("required_categories", .list (t.required.map Category.toJson)),
      ("optional_categories", .list (t.optional.map Category.toJson)),
      ("parallel", .bool t.parallel), ("max_execution_time", deadlineJson t.deadline),
      ("quality_gates", .texts t.gates)]

def deadlineOfDatum (d : Datum) : Reading Duration := do
  let seconds ← d.asBinary .double
  (deadlineOfSeconds seconds).mapError .deadline

def fieldNames : List String :=
  ["required_categories", "optional_categories", "parallel", "max_execution_time",
    "quality_gates"]

def ofDatum (dialect : Dialect) (d : Datum) : Reading Template :=
  let categories := Datum.asList (Category.ofDatum dialect)
  d.asStructure dialect fieldNames fun fs =>
    Template.mk <$> fs.orElse 0 categories []
      <*> fs.orElse 1 categories []
      <*> fs.orElse 2 Datum.asBool true
      <*> fs.orElse 3 deadlineOfDatum defaultDeadline
      <*> fs.orElse 4 (Datum.asList Datum.asText) []

end Template

/-- The templates of workflows; a workflow may have none. -/
structure TemplateSet where
  get? : Workflow → Option Template

namespace TemplateSet

def empty : TemplateSet := ⟨fun _ => none⟩

def insert (s : TemplateSet) (w : Workflow) (t : Template) : TemplateSet :=
  ⟨fun x => if x = w then some t else s.get? x⟩

/-- The built-in template of a workflow. -/
def builtinTemplate : Workflow → Template
  | .codeDevelopment =>
    { Template.ofRequired [.code] with
      optional := [.testing], deadline := .ofSeconds 30, gates := ["code_quality"] }
  | .testingAnalysis =>
    { Template.ofRequired [.testing] with
      optional := [.code], parallel := false, deadline := .ofSeconds 45,
      gates := ["test_coverage"] }
  | .securityAudit =>
    { Template.ofRequired [.security] with
      optional := [.code], deadline := .ofSeconds 60, gates := ["security_compliance"] }
  | .fullAnalysis =>
    { Template.ofRequired [.code, .testing, .security] with
      deadline := .ofSeconds 120,
      gates := ["code_quality", "security_compliance", "test_coverage"] }
  | .chatAssistance =>
    { Template.ofRequired [.code] with
      optional := [.testing, .security], deadline := .ofSeconds 30 }

/-- The built-in templates, one for every workflow. -/
def builtin : TemplateSet := ⟨fun w => some (builtinTemplate w)⟩

instance : Inhabited TemplateSet := ⟨builtin⟩

/-- The template of a workflow, or the error that it has none. -/
def require (s : TemplateSet) (w : Workflow) : Except WorkflowError Template :=
  match s.get? w with
  | some t => .ok t
  | none => .error (.templateNotFound w)

/-- The workflows that have templates, with these. -/
def toList (s : TemplateSet) : List (Workflow × Template) :=
  Workflow.all.filterMap fun w => (s.get? w).map (w, ·)

def size (s : TemplateSet) : Nat := s.toList.length

/-- The override that an entry stands for. -/
def checkOverride (entry : String × Template) : Except WorkflowError (Workflow × Template) := do
  let w ← Workflow.parse entry.1
  entry.2.validate entry.1
  return (w, entry.2)

def insertAll (s : TemplateSet) (entries : List (Workflow × Template)) : TemplateSet :=
  entries.foldl (fun s e => s.insert e.1 e.2) s

/-- Replaces templates by the name of their workflow, in ascending order of the
names. Every override is checked before the first is applied. -/
def applyOverrides (s : TemplateSet) (overrides : Table Template) :
    Except WorkflowError TemplateSet :=
  (overrides.entries.mapM checkOverride).map s.insertAll

def toJson (s : TemplateSet) : Json :=
  .object (s.toList.map fun (w, t) => (w.label, t.toJson))

/-- Reads one member of a set. -/
def readMember : Option String × Datum → Reading (Workflow × Template)
  | (some name, d) =>
    match Workflow.ofLabel? name with
    | some w => (Template.ofDatum .json d).map (w, ·)
    | none => .error .mismatch
  | (none, _) => .error .mismatch

def ofDatum : Datum → Reading TemplateSet
  | .record members => (members.mapM readMember).map empty.insertAll
  | _ => .error .mismatch

end TemplateSet

end ReviewPanel
