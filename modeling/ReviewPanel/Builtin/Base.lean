import ReviewPanel.Agent
import ReviewPanel.Llm.Client
import ReviewPanel.Rule

/-!
# What the built-in agents share

Every built-in agent rejects files that it does not accept, answers a chat
through a language model where it has one, and otherwise with a fixed text.
The test agents also look back at the findings of earlier agents.
-/

namespace ReviewPanel.Builtin

open Numeric

/-- The fixed parts of a built-in agent. -/
structure Profile where
  name : String
  /-- What a language model is told about its role. -/
  instruction : String
  /-- What the agent says without a model's answer. -/
  fallback : String
  extensions : List String
  frameworks : List String
  capabilities : List Capability

/-- The version of every built-in agent. -/
def version : String := "1.0.0"

namespace Profile

/-- The error about a file that the agent does not accept. -/
def rejection (p : Profile) (path : String) : AgentError :=
  .invalidInput p.name ("unsupported or empty input: " ++ path)

/-- An operation on a file that the agent accepts; other files are rejected and
counted as failures. -/
def onFile {α : Type} (p : Profile) (path content : String) (run : Run α) : Run α :=
  if acceptsFile p.extensions path content then run
  else .immediate [.failure] (.failed (p.rejection path))

/-- A finished analysis, which counts its issues. -/
def finished (result : RawResult) : Run RawResult :=
  .immediate [.analysis result.issues.length] (.answered result)

/-- The operation that the agent does not have. -/
def lacking {α : Type} (p : Profile) (c : Capability) : Run α := .refused (.unsupported p.name c)

/-- The query that a chat sends: the message, after the instruction and the
earlier messages of the context. -/
def query (p : Profile) (message : String) (context : Context) : Llm.Query :=
  { prompt := message
    history := ⟨.system, p.instruction⟩ ::
      (context.get? (Datum.asList Llm.Message.ofDatum) Context.historyKey).getD [] }

/-- The message of a context, where it is not blank. -/
def messageOf? (context : Context) : Option String :=
  match context.message? with
  | some m => if Text.isBlankText m then none else some m
  | none => none

/-- Answers the message of a context. -/
def chat (p : Profile) (client : Option Llm.Client) (asked : Nat) (context : Context) :
    Run String :=
  match messageOf? context with
  | none => .refused (.invalidInput p.name "chat requires a message")
  | some message =>
    match client with
    | none => .immediate [.chat] (.answered p.fallback)
    | some client =>
      let query := p.query message context
      let timed := client.answer asked query
      { usage := [.chat]
        queries := [query]
        duration := some timed.delay
        ending := .answered (timed.reply.text?.getD p.fallback) }

/-- A finding in the name of the agent. -/
def finding (p : Profile) (kind : String) (severity : Severity) (title : String) : Finding :=
  { Finding.plain kind severity title with agent := p.name }

/-- The result that an analysis starts from. -/
def blank (p : Profile) : RawResult := .empty p.name

end Profile

/-- Names without repetitions, in order of first occurrence, except those that
start with an underscore. -/
def publicNames (names : List (List Char)) : List String :=
  (names.filter fun n => n.head? != some '_').eraseDups.map String.ofList

/-- The earlier agents that succeeded and reported grave issues, with the
number of these. -/
def graveFindings (context : Context) : List (String × Nat) :=
  match context.previous with
  | none => []
  | some slots =>
    (slots.successes.map fun (key, result) =>
        (key, (result.issues.filter fun i => i.severity.atLeast .high).length)).filter
      fun entry => 0 < entry.2

/-- The suggestions that the earlier findings give rise to. -/
def regressionSuggestions (p : Profile) (advice : Option String) (context : Context) :
    List Finding :=
  (graveFindings context).map fun (key, count) =>
    { p.finding "test_coverage" .info "Add regression tests" with
      description := s!"{key} reported {count} high severity issues"
      confidence := Finding.hundredths 70
      suggestion := advice }

/-- The number of lines of a content. -/
def lineCount (content : String) : Nat := (Text.lines content.toList).length

/-- The number of a line, counted from one. -/
def lineNumber (index : Nat) : UInt32 := .ofNat (index + 1)

end ReviewPanel.Builtin
