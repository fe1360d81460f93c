import ReviewPanel.Registry
import ReviewPanel.Workflow.Template

/-!
# Selection

For each category of a template one agent is selected: the first whose name
holds both the language and the framework of the file, else the first whose
name holds the language, else the first that is registered. Names are
compared in lowercase.
-/

namespace ReviewPanel

/-- How an agent came to be selected. -/
inductive MatchKind
  | exact
  | language
  | fallback
  deriving Repr, DecidableEq

/-- The name of a kind of match. -/
def MatchKind.title : MatchKind → String
  | .exact => "Exact"
  | .language => "Language"
  | .fallback => "Fallback"

/-- The key of the slot of an agent. -/
def slotKey (c : Category) (name : String) : String := c.label ++ "_" ++ name

/-- One selected agent. -/
structure Selected where
  category : Category
  required : Bool
  kind : MatchKind
  choice : Instance

namespace Selected

def key (s : Selected) : String := slotKey s.category s.choice.name

/-- A selected agent in one line. -/
def describe (s : Selected) : String :=
  "SelectedAgent \x7b key: " ++ Text.quoted s.key ++ ", category: " ++ s.category.title
    ++ ", required: " ++ (if s.required then "true" else "false")
    ++ ", match_kind: " ++ s.kind.title ++ " \x7d"

end Selected

namespace Selection

/-- Whether the name of an agent holds a text, in lowercase. -/
def nameHolds (i : Instance) (needle : String) : Bool :=
  Text.contains (Text.lowercase i.name) needle

/-- The first agent whose name holds both texts. -/
def findExact? (agents : List Instance) (language framework : Option String) : Option Instance :=
  match language, framework with
  | some l, some f => agents.find? fun i => nameHolds i l && nameHolds i f
  | _, _ => none

/-- The first agent whose name holds the text. -/
def findLanguage? (agents : List Instance) (language : Option String) : Option Instance :=
  match language with
  | some l => agents.find? fun i => nameHolds i l
  | none => none

/-- The agent for a file among the agents of a category. -/
def pick? (agents : List Instance) (stack : Stack) : Option (Instance × MatchKind) :=
  let language := stack.language.map Text.lowercase
  let framework := stack.framework.map Text.lowercase
  match findExact? agents language framework with
  | some i => some (i, .exact)
  | none =>
    match findLanguage? agents language with
    | some i => some (i, .language)
    | none => agents.head?.map (·, .fallback)

/-- What is selected for one category: none where an optional one has no agent. -/
def selectCategory (stack : Stack) (registry : Registry) (entry : Category × Bool) :
    Except WorkflowError (Option Selected) :=
  match pick? (registry.agents entry.1) stack with
  | some (choice, kind) => .ok (some ⟨entry.1, entry.2, kind, choice⟩)
  | none => if entry.2 then .error (.noSuitableAgent entry.1) else .ok none

/-- The agents for a file, one for each category of the template that has any. -/
def select (t : Template) (stack : Stack) (registry : Registry) :
    Except WorkflowError (List Selected) :=
  (t.categories.mapM (selectCategory stack registry)).map (·.filterMap id)

def keys (selected : List Selected) : List String := selected.map Selected.key

def get? (selected : List Selected) (key : String) : Option Selected :=
  Roster.find? Selected.key key selected

end Selection

end ReviewPanel
