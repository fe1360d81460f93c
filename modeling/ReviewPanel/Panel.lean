import ReviewPanel.Config.Basic
import ReviewPanel.Gate.Evaluation
import ReviewPanel.Llm.Http
import ReviewPanel.Stack.Detection
import ReviewPanel.Workflow.Execution

/-!
# Review panels

A panel answers requests: it runs workflows over files and lets agents chat.
Its agents, templates and gates are fixed when it is set up. A request takes
the session so far and gives back the session with what the agents were asked
to do, so that one request leaves nothing behind for the next but its record.
-/

namespace ReviewPanel

open Numeric

/-- Why a request has no answer. -/
inductive RequestError
  | workflow (error : WorkflowError)
  | chat (error : ChatError)
  deriving Repr, DecidableEq

/-- The result of a workflow. -/
structure WorkflowResult where
  workflow : Workflow
  /-- Whether the gates passed and some agent succeeded. -/
  success : Bool
  report : Report
  agentsUsed : List String
  /-- The failures of gates, then those of agents. -/
  errors : List String
  gateReport : GateReport
  state : RunState
  /-- The keys under which times are recorded. -/
  timed : List String
  deriving Repr

namespace WorkflowResult

/-- The written form; the keys of the recorded times stand for the times. -/
def toJson (r : WorkflowResult) : Json :=
  .object
    [("workflow_type", r.workflow.toJson), ("success", .bool r.success),
      ("report", r.report.toJson), ("agents_used", .texts r.agentsUsed),
      ("errors", .texts r.errors), ("gate_report", r.gateReport.toJson),
      ("state", r.state.toJson), ("timing_keys", .texts r.timed)]

end WorkflowResult

/-- A panel of agents with its templates and gates. -/
structure Panel where
  templates : TemplateSet
  evaluator : Evaluator
  router : Router
  detect : (path content : String) → Stack

namespace Panel

/-- A panel with built-in templates, gates and keywords. -/
def ofRegistry (registry : Registry) : Panel :=
  ⟨.builtin, .ofConfig .default, .ofRegistry registry, Stack.detect⟩

/-- A panel that is set up as a configuration says. -/
def ofConfig (registry : Registry) (c : Config) : Except ConfigError Panel := do
  c.validate
  let templates ← c.templateSet
  return ⟨templates, .ofConfig c.gates,
    ⟨registry, c.chat.keywordTable, .ofSeconds c.chat.timeoutSeconds⟩, Stack.detect⟩

/-- The client of a language model that the environment asks for, if any; the
server is the one that the settings name. -/
def clientOf (env : Table String) (faultOf : String → String)
    (server : Llm.Settings → Nat → Llm.Http.Behaviour) : Option Llm.Client :=
  match Llm.Settings.ofEnvironment env with
  | .ok settings => some (Llm.Http.client faultOf settings (server settings))
  | .error _ => none

/-- A panel of the built-in agents. -/
def builtin (c : Config) (client : Option Llm.Client) : Except ConfigError Panel :=
  ofConfig (.builtin client) c

def registry (p : Panel) : Registry := p.router.registry

/-- The panel with another way to detect stacks. -/
def withDetector (detect : (path content : String) → Stack) (p : Panel) : Panel :=
  { p with detect }

/-- The panel with one more gate. -/
def withGate (g : Gate) (p : Panel) : Panel := { p with evaluator := p.evaluator.register g }

/-- The context that the agents of a workflow get: the stack of the file is
added where the caller gives none. -/
def contextFor (stack : Stack) (context : Option Context) : Context :=
  let context := context.getD .empty
  if context.stack.isNone then context.withStack stack else context

/-- The message about a failed slot. -/
def slotError (failure : String × String) : String := failure.1 ++ ": " ++ failure.2

/-- The result of the steps of a run. -/
def resultOf (p : Panel) (w : Workflow) (t : Template) (steps : List Step) : WorkflowResult :=
  let slots := Execution.slots steps
  let report := Report.ofSlots slots
  let gateReport := p.evaluator.evaluate report t.gates
  { workflow := w
    success := gateReport.passed && !slots.successes.isEmpty
    report
    agentsUsed := slots.keys
    errors := gateReport.errors ++ slots.failures.map slotError
    gateReport
    state := Execution.finalState slots
    timed := (Table.ofList ((Execution.timingKeys steps).map (·, ()))).keys }

/-- The event of a step. -/
def stepEvent (s : Step) : Event := Session.event s.selected.choice.id .analyze s.run

/-- Runs a workflow over a file. -/
def execute (p : Panel) (session : Session) (w : Workflow) (path content : String)
    (context : Option Context) : Session × Except RequestError WorkflowResult :=
  let stack := p.detect path content
  let planned : Except WorkflowError (Template × List Selected) := do
    let t ← p.templates.require w
    let selected ← Selection.select t stack p.registry
    return (t, selected)
  match planned with
  | .error e => (session, .error (.workflow e))
  | .ok (t, selected) =>
    let steps := Execution.run t path content (contextFor stack context) selected
    (session.append (steps.map stepEvent), .ok (p.resultOf w t steps))

/-- Runs the workflow of a name over a file. -/
def executeNamed (p : Panel) (session : Session) (name path content : String)
    (context : Option Context) : Session × Except RequestError WorkflowResult :=
  match Workflow.parse name with
  | .error e => (session, .error (.workflow e))
  | .ok w => p.execute session w path content context

/-- Asks the relevant agents about a message. -/
def chat (p : Panel) (session : Session) (message chatType : String)
    (context : Option Context) : Session × Except RequestError ChatResponse :=
  match ChatType.parse chatType with
  | .error e => (session, .error (.chat e))
  | .ok t =>
    let (session, answer) := p.router.chat session message t context
    (session, answer.mapError .chat)

/-- The agents of a registry under the keys of their slots. -/
def keyedAgents (r : Registry) : List (String × Instance) :=
  r.categories.flatMap fun c => (r.agents c).map fun i => (slotKey c i.name, i)

/-- The counters of every registered agent. -/
def counters (p : Panel) (session : Session) : Table Counters :=
  .ofList ((keyedAgents p.registry).map fun (key, i) => (key, session.counters i.id))

end Panel

end ReviewPanel
