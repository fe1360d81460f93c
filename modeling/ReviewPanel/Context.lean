import ReviewPanel.Slots
import ReviewPanel.Stack.Basic

/-!
# Contexts

What an agent is told beside the file: values of the caller, the outcomes of
the agents that ran before it, and the stack of the file.
-/

namespace ReviewPanel

/-- What an agent is told beside the file. -/
structure Context where
  values : Table Json
  previous : Option Slots
  stack : Option Stack
  deriving Repr

namespace Context

/-- The name of the value that holds the message of a chat. -/
def messageKey : String := "message"

/-- The name of the value that holds the type of a chat. -/
def chatTypeKey : String := "chat_type"

/-- The name of the value that holds the earlier messages of a chat. -/
def historyKey : String := "history"

def empty : Context := ⟨.empty, none, none⟩

instance : Inhabited Context := ⟨empty⟩

def withValue (key : String) (value : Json) (c : Context) : Context :=
  { c with values := c.values.insert key value }

def withMessage (message : String) (c : Context) : Context :=
  c.withValue messageKey (.text message)

def withPrevious (slots : Slots) (c : Context) : Context := { c with previous := some slots }

def withStack (stack : Stack) (c : Context) : Context := { c with stack := some stack }

/-- A value, where there is one that can be read as the type that is asked for. -/
def get? {α : Type} (read : Datum → Reading α) (key : String) (c : Context) : Option α :=
  match c.values.get? key with
  | some v => (read (.ofJson v)).toOption
  | none => none

/-- A value that is a text. -/
def text? (key : String) (c : Context) : Option String :=
  (c.values.get? key).bind Json.text?

def message? (c : Context) : Option String := c.text? messageKey

def toJson (c : Context) : Json :=
  .object <|
    [("values", .ofTable c.values)]
      ++ Json.ifSome "previous_results" (c.previous.map Slots.toJson)
      ++ Json.ifSome "tech_stack" (c.stack.map Stack.toJson)

def ofDatum (d : Datum) : Reading Context :=
  d.asStructure .json ["values", "previous_results", "tech_stack"] fun fs =>
    Context.mk <$> fs.orElse 0 (Datum.asTable Datum.asJson) .empty
      <*> fs.optionalOrElse 1 Slots.ofDatum
      <*> fs.optionalOrElse 2 Stack.ofDatum

end Context

end ReviewPanel
