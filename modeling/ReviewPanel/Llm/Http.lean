import ReviewPanel.Json.Reader
import ReviewPanel.Llm.Client
import ReviewPanel.Llm.Settings

/-!
# Completions over HTTP

A client that sends a query as a completion request. A request that gets no
answer, or an answer that says the server is at fault or busy, is repeated
after a pause, three times in all. Every other answer settles the query.
Whatever happens, the result is a reply.

Requests are sent by a library that has its own words for what goes wrong:
why no answer came, and why a body is no completion (`faultOf`).
-/

namespace ReviewPanel.Llm.Http

open Numeric

/-- What a server does with a request. -/
inductive Behaviour
  /-- No answer comes, and the error says why. -/
  | unreachable (error : String)
  | answers (status : Nat) (body : String)
  deriving Repr, DecidableEq

/-- A request as it is sent. -/
structure Request where
  method : String
  url : String
  authorization : String
  contentType : String
  body : Json
  deriving Repr

/-- How many requests a query may take. -/
def maxAttempts : Nat := 3

/-- The pause before an attempt, counted from zero: none before the first, then
twice as long each time. -/
def pauseSeconds : Nat → Nat
  | 0 => 0
  | n + 1 => Nat.pow 2 n

/-- The messages that a query amounts to: its history, then the prompt. -/
def messages (q : Query) : List Message := q.history ++ [⟨.user, q.prompt⟩]

def requestFor (s : Settings) (q : Query) : Request :=
  { method := "POST"
    url := s.baseUrl ++ "/chat/completions"
    authorization := "Bearer " ++ s.apiKey
    contentType := "application/json"
    body := .object
      [("model", .text s.model), ("messages", .list ((messages q).map Message.toJson)),
        ("max_tokens", .nat s.maxTokens)] }

/-! ## Statuses -/

/-- The phrases of the statuses that have one. -/
def phrases : List (Nat × String) :=
  [(100, "Continue"), (101, "Switching Protocols"), (102, "Processing"), (200, "OK"),
    (201, "Created"), (202, "Accepted"), (203, "Non Authoritative Information"),
    (204, "No Content"), (205, "Reset Content"), (206, "Partial Content"), (207, "Multi-Status"),
    (208, "Already Reported"), (226, "IM Used"), (300, "Multiple Choices"),
    (301, "Moved Permanently"), (302, "Found"), (303, "See Other"), (304, "Not Modified"),
    (305, "Use Proxy"), (307, "Temporary Redirect"), (308, "Permanent Redirect"),
    (400, "Bad Request"), (401, "Unauthorized"), (402, "Payment Required"), (403, "Forbidden"),
    (404, "Not Found"), (405, "Method Not Allowed"), (406, "Not Acceptable"),
    (407, "Proxy Authentication Required"), (408, "Request Timeout"), (409, "Conflict"),
    (410, "Gone"), (411, "Length Required"), (412, "Precondition Failed"),
    (413, "Payload Too Large"), (414, "URI Too Long"), (415, "Unsupported Media Type"),
    (416, "Range Not Satisfiable"), (417, "Expectation Failed"), (418, "I'm a teapot"),
    (421, "Misdirected Request"), (422, "Unprocessable Entity"), (423, "Locked"),
    (424, "Failed Dependency"), (426, "Upgrade Required"), (428, "Precondition Required"),
    (429, "Too Many Requests"), (431, "Request Header Fields Too Large"),
    (451, "Unavailable For Legal Reasons"), (500, "Internal Server Error"),
    (501, "Not Implemented"), (502, "Bad Gateway"), (503, "Service Unavailable"),
    (504, "Gateway Timeout"), (505, "HTTP Version Not Supported"),
    (506, "Variant Also Negotiates"), (507, "Insufficient Storage"), (508, "Loop Detected"),
    (510, "Not Extended"), (511, "Network Authentication Required")]

/-- A status with its phrase. -/
def statusText (status : Nat) : String :=
  s!"{status} " ++ (phrases.lookup status).getD "<unknown status code>"

/-- Whether an answer with a status may be better the next time. -/
def isRetried (status : Nat) : Bool := (500 ≤ status && status < 600) || status == 429

def isSuccess (status : Nat) : Bool := 200 ≤ status && status < 300

/-! ## Answers -/

def contentOfDatum (d : Datum) : Reading String :=
  d.asStructure .json ["content"] fun fs => fs.required 0 Datum.asText

def choiceOfDatum (d : Datum) : Reading String :=
  d.asStructure .json ["message"] fun fs => fs.required 0 contentOfDatum

/-- The contents of the choices of a completion. -/
def choicesOfDatum (d : Datum) : Reading (List String) :=
  d.asStructure .json ["choices"] fun fs => fs.required 0 (Datum.asList choiceOfDatum)

/-- The contents of the choices in a body. -/
def choices? (body : String) : Option (List String) :=
  let source := Json.Source.ofText body
  match choicesOfDatum source.root with
  | .ok choices => if source.complete then some choices else none
  | .error _ => none

/-- The reply that a successful answer holds. -/
def replyOfBody (faultOf : String → String) (body : String) : Reply :=
  match choices? body with
  | none => .failed s!"Failed to parse response: {faultOf body}"
  | some [] => .failed "No choices in LLM response"
  | some (content :: _) => .ok content

/-- What one attempt comes to: a reply that settles the query, or the error to
report if no further attempt is made. -/
inductive AttemptResult
  | settled (reply : Reply)
  | retry (error : String)
  deriving Repr, DecidableEq

/-- What an attempt comes to, counted from zero. -/
def attemptResult (faultOf : String → String) (attempt : Nat) : Behaviour → AttemptResult
  | .unreachable error => .retry s!"Network error: {error}"
  | .answers status body =>
    if isRetried status then
      .retry s!"LLM API error {statusText status} (attempt {attempt + 1}/{maxAttempts}): {body}"
    else if isSuccess status then .settled (replyOfBody faultOf body)
    else .settled (.failed s!"LLM API error {statusText status}: {body}")

/-- What became of a query. -/
structure Exchange where
  reply : Reply
  requests : List Request
  delay : Duration
  deriving Repr

/-- Makes attempts while some are left. -/
def attemptsFrom (faultOf : String → String) (request : Request) (server : Nat → Behaviour)
    (lastError : String) (requests : List Request) (waited attempt : Nat) : Nat → Exchange
  | 0 => ⟨.failed lastError, requests, .ofSeconds waited⟩
  | left + 1 =>
    let waited := waited + pauseSeconds attempt
    let requests := requests ++ [request]
    match attemptResult faultOf attempt (server attempt) with
    | .settled reply => ⟨reply, requests, .ofSeconds waited⟩
    | .retry error => attemptsFrom faultOf request server error requests waited (attempt + 1) left

/-- Sends a query to a server, given what the server does with each request. -/
def generate (faultOf : String → String) (s : Settings) (q : Query) (server : Nat → Behaviour) :
    Exchange :=
  attemptsFrom faultOf (requestFor s q) server "Max retries exceeded" [] 0 0 maxAttempts

/-- A client whose server treats every query alike. -/
def client (faultOf : String → String) (s : Settings) (server : Nat → Behaviour) : Client :=
  ⟨fun _ q => let x := generate faultOf s q server; ⟨x.reply, x.delay⟩⟩

end ReviewPanel.Llm.Http
