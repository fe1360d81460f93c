import ReviewPanel.Datum.Fields
import ReviewPanel.Text.Blank

/-!
# Messages and replies

A language model is sent a history of messages and a prompt, and replies with
a text or a failure. A failure is a reply like any other.
-/

namespace ReviewPanel.Llm

/-- Who speaks. -/
inductive Role
  | system
  | user
  | assistant
  deriving Repr, DecidableEq

namespace Role

def label : Role → String
  | .system => "system"
  | .user => "user"
  | .assistant => "assistant"

def all : List Role := [.system, .user, .assistant]

def ofLabel? (text : String) : Option Role := all.find? (·.label == text)

end Role

/-- One message of a conversation. -/
structure Message where
  role : Role
  content : String
  deriving Repr, DecidableEq

namespace Message

def toJson (m : Message) : Json :=
  .object [("role", .text m.role.label), ("content", .text m.content)]

def ofDatum (d : Datum) : Reading Message :=
  d.asStructure .json ["role", "content"] fun fs =>
    Message.mk <$> fs.required 0 (Datum.asVariant .json Role.ofLabel?)
      <*> fs.required 1 Datum.asText

end Message

/-- What a model replies. -/
structure Reply where
  success : Bool
  text : String
  error : Option String
  deriving Repr, DecidableEq

namespace Reply

def ok (text : String) : Reply := ⟨true, text, none⟩

def failed (error : String) : Reply := ⟨false, "", some error⟩

/-- The text of a successful reply that is not blank. -/
def text? (r : Reply) : Option String :=
  if r.success && !Text.isBlankText r.text then some r.text else none

def toJson (r : Reply) : Json :=
  .object <|
    [("success", .bool r.success), ("text", .text r.text)]
      ++ Json.ifSome "error" (r.error.map .text)

def ofDatum (d : Datum) : Reading Reply :=
  d.asStructure .json ["success", "text", "error"] fun fs =>
    Reply.mk <$> fs.required 0 Datum.asBool
      <*> fs.required 1 Datum.asText
      <*> fs.optionalOrElse 2 Datum.asText

end Reply

/-- What a model is asked. -/
structure Query where
  prompt : String
  history : List Message
  deriving Repr, DecidableEq

def Query.toJson (q : Query) : Json :=
  .object [("prompt", .text q.prompt), ("history", .list (q.history.map Message.toJson))]

end ReviewPanel.Llm
