import ReviewPanel.AgentError
import ReviewPanel.Table

/-!
# Settings of a client

How a client reaches a language model, and how the settings are found in the
environment: a key has to be there, and everything else has a default.
-/

namespace ReviewPanel.Llm

open Numeric

/-- How a client reaches a model. -/
structure Settings where
  apiKey : String
  model : String
  baseUrl : String
  timeout : Duration
  maxTokens : Nat
  deriving Repr, DecidableEq

namespace Settings

def defaultModel : String := "gpt-4o-mini"

def defaultBaseUrl : String := "https://api.openai.com/v1"

def ofKey (apiKey : String) : Settings :=
  { apiKey, model := defaultModel, baseUrl := defaultBaseUrl, timeout := .ofSeconds 60,
    maxTokens := 2048 }

def withModel (model : String) (s : Settings) : Settings := { s with model }

/-- A text without slashes at its end. -/
def dropSlashes (url : String) : String :=
  String.ofList (url.toList.reverse.dropWhile (· == '/')).reverse

def withBaseUrl (url : String) (s : Settings) : Settings := { s with baseUrl := dropSlashes url }

/-- The variables that may hold the key, in the order in which they are tried. -/
def keyVariables : List String := ["ARBITER_LLM_API_KEY", "OPENAI_API_KEY"]

def modelVariable : String := "ARBITER_LLM_MODEL"

def baseUrlVariable : String := "ARBITER_LLM_BASE_URL"

/-- The value of a variable, where it is set and not empty. -/
def setting? (env : Table String) (name : String) : Option String :=
  (env.get? name).filter (· != "")

/-- Changes the settings by the value of a variable, where it has one. -/
def adjust (change : String → Settings → Settings) (value : Option String) (s : Settings) :
    Settings :=
  match value with
  | some v => change v s
  | none => s

/-- The settings that the environment gives. -/
def ofEnvironment (env : Table String) : Except AgentError Settings :=
  match keyVariables.findSome? (setting? env) with
  | none =>
    .error (.llm "LLM not configured. Set ARBITER_LLM_API_KEY or OPENAI_API_KEY")
  | some key =>
    .ok (adjust withBaseUrl (setting? env baseUrlVariable)
      (adjust withModel (setting? env modelVariable) (ofKey key)))

end Settings

end ReviewPanel.Llm
