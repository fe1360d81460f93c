import ReviewPanel.Context
import ReviewPanel.Llm.Message
import ReviewPanel.Text.Path
import ReviewPanel.Usage

/-!
# Agents

An agent analyzes files and may chat, generate tests and optimize. An
operation is a value, not an effect: a `Run` holds what the operation counts
and asks of a language model when it starts, how long it takes, and how it
ends. Whoever starts an operation decides how long to wait for it.

An optional operation is reached through `Agent.chatThrough` and its
companions, which refuse it when the agent does not declare the capability it
is bound to.
-/

namespace ReviewPanel

open Numeric

/-- How an operation ends. -/
inductive Ending (α : Type)
  | answered (value : α)
  | failed (error : AgentError)
  | panicked
  deriving Repr

/-- One run of an operation. -/
structure Run (α : Type) where
  /-- What the operation counts when it starts. -/
  usage : List Usage
  /-- What it asks of a language model. -/
  queries : List Llm.Query
  /-- How long it takes; none when it never ends. -/
  duration : Option Duration
  ending : Ending α
  deriving Repr

namespace Run

variable {α : Type}

/-- A run that ends at once. -/
def immediate (usage : List Usage) (ending : Ending α) : Run α :=
  ⟨usage, [], some .zero, ending⟩

/-- A run that fails at once and counts nothing. -/
def refused (error : AgentError) : Run α := immediate [] (.failed error)

/-- Whether a run has ended when its deadline passes. -/
def endsWithin (r : Run α) (limit : Duration) : Bool :=
  match r.duration with
  | some d => d.ticks ≤ limit.ticks
  | none => false

/-- How long a run is waited for, in ticks. -/
def waited (r : Run α) (limit : Duration) : Nat :=
  match r.duration with
  | some d => min d.ticks limit.ticks
  | none => limit.ticks

instance : Inhabited (Run α) := ⟨immediate [] .panicked⟩

end Run

/-- The operations of an agent. -/
inductive Operation
  | analyze
  | chat
  | generateTests
  | optimize
  deriving Repr, DecidableEq

namespace Operation

def label : Operation → String
  | .analyze => "analyze"
  | .chat => "chat"
  | .generateTests => "generate_tests"
  | .optimize => "optimize"

end Operation

/-- An agent. The chat of an agent may ask a language model; it is told how
many queries the model has been sent before. -/
structure Agent where
  name : String
  version : String
  capabilities : CapabilitySet
  /-- The extensions of the files it understands; none stands for all files. -/
  extensions : List String
  frameworks : List String
  analyze : (path content : String) → Context → Run RawResult
  chat : (asked : Nat) → Context → Run String
  generateTests : (path content : String) → Context → Run String
  optimize : (path content : String) → Context → Run RawResult

instance : Inhabited Agent :=
  ⟨⟨"", "", .empty, [], [], fun _ _ _ => default, fun _ _ => default, fun _ _ _ => default,
    fun _ _ _ => default⟩⟩

/-- Whether a file with these extensions and this content is one to look at:
it has something beside blank characters, and an extension of the list, the
case of ASCII letters aside. -/
def acceptsFile (extensions : List String) (path content : String) : Bool :=
  !Text.isBlankText content &&
    (extensions.isEmpty ||
      match Text.extension? path with
      | some ext => extensions.any fun e => Text.lowerAscii e == Text.lowerAscii ext
      | none => false)

namespace Agent

def validate (a : Agent) (path content : String) : Bool := acceptsFile a.extensions path content

def supports (a : Agent) (c : Capability) : Bool := a.capabilities.contains c

/-- Fails unless the agent declares the capability. -/
def require (a : Agent) (c : Capability) : Except AgentError Unit :=
  if a.supports c then .ok () else .error (.unsupported a.name c)

/-- An operation behind the check of its capability; none when it is not entered. -/
def guarded {α : Type} (a : Agent) (c : Capability) (run : Run α) : Except AgentError (Run α) :=
  (a.require c).map fun _ => run

/-- Chat with an agent that declares to support it. -/
def chatThrough (a : Agent) (asked : Nat) (context : Context) : Except AgentError (Run String) :=
  a.guarded .chatSupport (a.chat asked context)

/-- Test generation by an agent that declares to support it. -/
def generateTestsThrough (a : Agent) (path content : String) (context : Context) :
    Except AgentError (Run String) :=
  a.guarded .testGeneration (a.generateTests path content context)

/-- Optimization by an agent that declares to support it. -/
def optimizeThrough (a : Agent) (path content : String) (context : Context) :
    Except AgentError (Run RawResult) :=
  a.guarded .codeOptimization (a.optimize path content context)

end Agent

end ReviewPanel
