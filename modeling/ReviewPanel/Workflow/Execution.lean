import ReviewPanel.Workflow.Selection

/-!
# Execution

The selected agents are run once each, side by side or one after the other.
Each run has the deadline of the template; whatever an agent does, its slot
is filled, and a failure stops nobody else. An agent that takes exactly as
long as it may still succeeds. Agents that run one after the other see the
slots filled before them.
-/

namespace ReviewPanel

open Numeric

/-- How a completed run ended. -/
inductive Completion
  /-- Every slot holds a result. -/
  | full
  /-- Some slot holds a failure. -/
  | withFailures
  deriving Repr, DecidableEq

namespace Completion

def label : Completion → String
  | .full => "full"
  | .withFailures => "partial"

def ofLabel? (text : String) : Option Completion :=
  [full, withFailures].find? (·.label == text)

end Completion

/-- The stages of a run. -/
inductive RunState
  | notStarted
  | agentsSelected
  | executing
  | completed (completion : Completion)
  deriving Repr, DecidableEq

namespace RunState

instance : Inhabited RunState := ⟨.notStarted⟩

/-- Whether a stage may follow another. -/
def canAdvanceTo : RunState → RunState → Bool
  | .notStarted, .agentsSelected => true
  | .agentsSelected, .executing => true
  | .executing, .completed _ => true
  | _, _ => false

def isCompleted : RunState → Bool
  | .completed _ => true
  | _ => false

def label : RunState → String
  | .notStarted => "not_started"
  | .agentsSelected => "agents_selected"
  | .executing => "executing"
  | .completed _ => "completed"

def labels : List String := ["not_started", "agents_selected", "executing", "completed"]

def toJson : RunState → Json
  | .completed c => .object [("state", .text "completed"), ("completion", .text c.label)]
  | s => .object [("state", .text s.label)]

/-- The stage with a label and a content that stands beside it. -/
def ofParts (label : String) (content : Option Datum) : Reading RunState :=
  if label = "completed" then
    match content with
    | some d => (d.asVariant .json Completion.ofLabel?).map .completed
    | none => .error .mismatch
  else
    match content with
    | none | some .null =>
      Datum.found ([notStarted, agentsSelected, executing].find? (·.label == label))
    | some _ => .error .mismatch

/-- The label of a stage. -/
def labelOfDatum (d : Datum) : Reading String :=
  d.asVariant .json fun text => if labels.contains text then some text else none

/-- Reads a stage from a record with its label and its content, or from the
list of the two. -/
def ofDatum : Datum → Reading RunState
  | .record members => do
    let fs := Fields.ofMembers ["state", "completion"] 0 [] members
    if fs.fault.isSome then .error .mismatch
    match fs.cell? 0 with
    | some (_, d) => ofParts (← labelOfDatum d) ((fs.cell? 1).map Prod.snd)
    | none => .error .mismatch
  | .list [label, content] => do ofParts (← labelOfDatum label) (some content)
  | _ => .error .mismatch

end RunState

/-- What happened to one selected agent. -/
structure Step where
  selected : Selected
  /-- The context that its analysis was called with. -/
  context : Context
  /-- The tick of the clock at which it was started. -/
  started : Nat
  /-- The tick at which its slot was settled. -/
  settled : Nat
  run : Run RawResult
  outcome : Outcome

namespace Run

/-- What is recorded of an analysis under a deadline. -/
def outcome (name : String) (limit : Duration) (r : Run RawResult) : Outcome :=
  if r.endsWithin limit then
    match r.ending with
    | .answered result => .success result
    | .failed e => .failure (.ofError e)
    | .panicked => .failure ⟨s!"Agent {name} panicked", .panicked⟩
  else .failure (.ofError (.overdue name limit))

end Run

/-- What the agents are run on. -/
structure Assignment where
  path : String
  content : String
  limit : Duration
  deriving Repr

namespace Execution

/-- Runs one agent from a tick on. -/
def step (a : Assignment) (started : Nat) (context : Context) (s : Selected) : Step :=
  let run := s.choice.agent.analyze a.path a.content context
  { selected := s
    context
    started
    settled := started + run.waited a.limit
    run
    outcome := run.outcome s.choice.name a.limit }

/-- Fills a slot for each step. -/
def slots (steps : List Step) : Slots :=
  steps.foldl (fun slots s => slots.insert s.selected.key s.outcome) .empty

/-- Runs the agents side by side. -/
def sideBySide (a : Assignment) (context : Context) (selected : List Selected) : List Step :=
  selected.map (step a 0 context)

/-- Runs one agent after the steps of others. -/
def stepAfter (a : Assignment) (context : Context) (done : List Step) (s : Selected) :
    List Step :=
  let started := (done.getLast?.map Step.settled).getD 0
  done ++ [step a started (context.withPrevious (slots done)) s]

/-- Runs the agents one after the other. -/
def oneByOne (a : Assignment) (context : Context) (selected : List Selected) : List Step :=
  selected.foldl (stepAfter a context) []

/-- Runs the selected agents as the template says. -/
def run (t : Template) (path content : String) (context : Context) (selected : List Selected) :
    List Step :=
  let a : Assignment := ⟨path, content, t.deadline⟩
  if t.parallel then sideBySide a context selected else oneByOne a context selected

/-- The keys under which times are recorded, in order. -/
def timingKeys (steps : List Step) : List String := steps.map fun s => s.selected.key

/-- The stage that a run ends in. -/
def finalState (slots : Slots) : RunState :=
  .completed (if slots.failures.isEmpty then .full else .withFailures)

end Execution

end ReviewPanel
