import ReviewPanel.Capability
import ReviewPanel.Numeric.Duration

/-!
# Errors of agents

Why an operation of an agent, or the look-up of an agent, fails, and the text
that reports it.
-/

namespace ReviewPanel

open Numeric

/-- Why an agent gives no answer. -/
inductive AgentError
  | unsupported (agent : String) (capability : Capability)
  | executionFailed (agent reason : String)
  | invalidInput (agent reason : String)
  | timeout (agent : String) (seconds : Binary)
  | notFound (what : String)
  | llm (reason : String)
  /-- A data text could not be read. -/
  | serialization (reason : String)
  deriving Repr, DecidableEq

namespace AgentError

/-- The text of an error. -/
def message : AgentError → String
  | .unsupported agent capability => s!"Agent {agent} does not support {capability.label}"
  | .executionFailed agent reason => s!"Agent execution failed: {agent} - {reason}"
  | .invalidInput agent reason => s!"Invalid input for agent {agent}: {reason}"
  | .timeout agent seconds =>
    "Agent " ++ agent ++ " timed out after " ++ seconds.plainText .double ++ "s"
  | .notFound what => s!"Agent not found: {what}"
  | .llm reason => s!"LLM error: {reason}"
  | .serialization reason => s!"Serialization error: {reason}"

def isUnsupported : AgentError → Bool
  | .unsupported .. => true
  | _ => false

end AgentError

/-- An agent has not answered before its deadline. -/
def AgentError.overdue (agent : String) (limit : Duration) : AgentError :=
  .timeout agent limit.toBinary

/-- No category has the name that was given. -/
def AgentError.unknownCategory (text : String) : AgentError :=
  .notFound ("category '" ++ Category.normalize text ++ "'")

end ReviewPanel
