import ReviewPanel.Registry

/-!
# Sessions

The record of all that has been asked of the agents so far: the operations
that were entered, with what each counted, and the queries that reached a
language model. Everything an agent is known to have done is read off the
record.
-/

namespace ReviewPanel

/-- An operation that was entered. -/
structure Event where
  /-- The number of the agent. -/
  agent : Nat
  operation : Operation
  usage : List Usage
  queries : List Llm.Query
  deriving Repr, DecidableEq

/-- The events so far, in order. -/
structure Session where
  events : List Event
  deriving Repr, DecidableEq

namespace Session

def empty : Session := ⟨[]⟩

instance : Inhabited Session := ⟨empty⟩

def append (s : Session) (events : List Event) : Session := ⟨s.events ++ events⟩

/-- The event of a run. -/
def event {α : Type} (agent : Nat) (operation : Operation) (run : Run α) : Event :=
  ⟨agent, operation, run.usage, run.queries⟩

/-- The queries that reached the language model. -/
def queries (s : Session) : List Llm.Query := s.events.flatMap Event.queries

/-- The number of queries that reached the language model. -/
def asked (s : Session) : Nat := s.queries.length

/-- The operations of an agent that were entered. -/
def calls (s : Session) (agent : Nat) : List Operation :=
  (s.events.filter (·.agent == agent)).map Event.operation

/-- What an agent counted. -/
def usage (s : Session) (agent : Nat) : List Usage :=
  (s.events.filter (·.agent == agent)).flatMap Event.usage

/-- The counters of an agent. -/
def counters (s : Session) (agent : Nat) : Counters := .ofUsage (s.usage agent)

end Session

end ReviewPanel
