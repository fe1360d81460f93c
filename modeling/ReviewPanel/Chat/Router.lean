import ReviewPanel.Chat.Keyword
import ReviewPanel.Session

/-!
# Routing chats

A message goes to the relevant agents of the categories that its type of chat
consults, or, when no agent is relevant, to the first agent of each of these
categories. The agents answer side by side; their answers are merged in the
order of routing, and the failure of one does not touch the others.
-/

namespace ReviewPanel

open Numeric

/-- The types of chat. -/
inductive ChatType
  | code
  | analysis
  | general
  deriving Repr, DecidableEq

/-- Why a chat is refused. -/
inductive ChatError
  | unknownChatType (name : String)
  | emptyMessage
  | noAgents (categories : List Category)
  deriving Repr, DecidableEq

namespace ChatError

def message : ChatError → String
  | .unknownChatType name =>
    s!"Unknown chat type: {name} (expected code, analysis or general)"
  | .emptyMessage => "Chat message is empty"
  | .noAgents categories =>
    "No agents registered for: " ++ String.intercalate ", " (categories.map Category.label)

end ChatError

namespace ChatType

def label : ChatType → String
  | .code => "code"
  | .analysis => "analysis"
  | .general => "general"

def all : List ChatType := [.code, .analysis, .general]

/-- The type with exactly this label. -/
def ofLabel? (text : String) : Option ChatType := all.find? (·.label == text)

/-- The categories that a type of chat consults. -/
def categories : ChatType → List Category
  | .code => [.code]
  | .analysis => [.code, .testing, .security]
  | .general => [.code, .testing]

/-- The type that a text names, blank characters around it and the case of its
letters aside. -/
def parse (text : String) : Except ChatError ChatType :=
  match ofLabel? (Text.lowercase (Text.trim text)) with
  | some t => .ok t
  | none => .error (.unknownChatType text)

def toJson (t : ChatType) : Json := .text t.label

def ofDatum (d : Datum) : Reading ChatType := d.asVariant .json ofLabel?

end ChatType

/-- The merged answer of the consulted agents. -/
structure ChatResponse where
  response : String
  agentsUsed : List String
  success : Bool
  errors : List String
  deriving Repr, DecidableEq

namespace ChatResponse

def toJson (r : ChatResponse) : Json :=
  .object <|
    [("response", .text r.response), ("agents_used", .texts r.agentsUsed),
      ("success", .bool r.success)]
      ++ (if r.errors.isEmpty then [] else [("errors", .texts r.errors)])

def ofDatum (d : Datum) : Reading ChatResponse :=
  d.asStructure .json ["response", "agents_used", "success", "errors"] fun fs =>
    ChatResponse.mk <$> fs.required 0 Datum.asText
      <*> fs.required 1 (Datum.asList Datum.asText)
      <*> fs.required 2 Datum.asBool
      <*> fs.orElse 3 (Datum.asList Datum.asText) []

end ChatResponse

/-- What became of one agent's answer. -/
inductive ChatTurn
  | answered (text : String)
  /-- The agent does not chat after all; nothing is said about it. -/
  | declined
  | failed (message : String)
  deriving Repr, DecidableEq

/-- The turn of an agent whose run has a deadline. -/
def Run.chatTurn (name : String) (limit : Duration) (r : Run String) : ChatTurn :=
  if r.endsWithin limit then
    match r.ending with
    | .answered text => .answered text
    | .failed e => if e.isUnsupported then .declined else .failed e.message
    | .panicked => .failed s!"Agent {name} panicked during chat"
  else .failed (AgentError.overdue name limit).message

/-- What a router needs to know. -/
structure Router where
  registry : Registry
  keywords : KeywordTable
  limit : Duration

namespace Router

/-- The deadline of each agent in a chat, in seconds, unless another is set. -/
def defaultLimitSeconds : Nat := 30

/-- A router with the built-in keywords and the usual deadline. -/
def ofRegistry (registry : Registry) : Router :=
  ⟨registry, .builtin, .ofSeconds defaultLimitSeconds⟩

/-- Adds an agent unless the same one is listed already. -/
def addOnce (listed : List Instance) (i : Instance) : List Instance :=
  if listed.any (·.id == i.id) then listed else listed ++ [i]

/-- The agents of the categories, category by category. -/
def candidates (r : Router) (t : ChatType) : List Instance :=
  t.categories.flatMap r.registry.agents

/-- The agents that a message goes to. -/
def route (r : Router) (message : String) (t : ChatType) : List Instance :=
  let relevant := (r.candidates t).filter fun i => r.keywords.isRelevant i.name message
  let listed := relevant.foldl addOnce []
  if listed.isEmpty then (t.categories.filterMap r.registry.first?).foldl addOnce [] else listed

/-- The context that the consulted agents get. -/
def contextFor (message : String) (t : ChatType) (context : Context) : Context :=
  (context.withMessage message).withValue Context.chatTypeKey (.text t.label)

/-- Starts the chats of agents one after the other; each is told how many
queries the ones before it have sent. -/
def startAll (context : Context) (asked : Nat) : List Instance → List (Instance × Run String)
  | [] => []
  | i :: rest =>
    let run := i.agent.chat asked context
    (i, run) :: startAll context (asked + run.queries.length) rest

def section? (entry : String × ChatTurn) : Option String :=
  match entry.2 with
  | .answered text => some s!"## {entry.1}\n{Text.trim text}"
  | _ => none

def error? (entry : String × ChatTurn) : Option String :=
  match entry.2 with
  | .failed message => some message
  | _ => none

/-- The answer made of the turns of the agents, in order. -/
def merge (turns : List (String × ChatTurn)) : ChatResponse :=
  let sections := turns.filterMap section?
  { response := String.intercalate "\n\n" sections
    agentsUsed := turns.map Prod.fst
    success := !sections.isEmpty
    errors := turns.filterMap error? }

/-- Asks the routed agents that support chat. -/
def chat (r : Router) (session : Session) (message : String) (t : ChatType)
    (context : Option Context) : Session × Except ChatError ChatResponse :=
  if Text.isBlankText message then (session, .error .emptyMessage)
  else
    let routed := r.route message t
    if routed.isEmpty then (session, .error (.noAgents t.categories))
    else
      let agents := routed.filter fun i => i.agent.supports .chatSupport
      let runs := startAll (contextFor message t (context.getD .empty)) session.asked agents
      let turns := runs.map fun (i, run) => (i.name, run.chatTurn i.name r.limit)
      (session.append (runs.map fun (i, run) => Session.event i.id .chat run), .ok (merge turns))

end Router

end ReviewPanel
