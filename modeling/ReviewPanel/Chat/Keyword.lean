import ReviewPanel.Datum.Fields
import ReviewPanel.Text.Lowercase
import ReviewPanel.Text.Search

/-!
# Keywords

A table of technologies and the words by which messages mention them. An
agent is relevant to a message when its name holds a technology that the
message mentions. Words and technologies are compared in lowercase.
-/

namespace ReviewPanel

/-- The words of each technology. -/
structure KeywordTable where
  words : Table (List String)
  deriving Repr, DecidableEq

namespace KeywordTable

def empty : KeywordTable := ⟨.empty⟩

def builtin : KeywordTable :=
  ⟨.ofList
    [("react",
        ["react", "jsx", "tsx", "component", "hook", "usestate", "useeffect", "props", "redux"]),
      ("javascript", ["javascript", "node", "npm", "typescript", "es6", "promise"]),
      ("python", ["python", "django", "flask", "fastapi", "pip", "pytest", "pandas"]),
      ("test", ["test", "jest", "pytest", "coverage", "mock", "assert", "fixture"]),
      ("security",
        ["security", "vulnerab", "xss", "injection", "csrf", "secret", "password", "cve",
          "auth"])]⟩

instance : Inhabited KeywordTable := ⟨builtin⟩

/-- Adds a word in lowercase, unless it is empty or there already. -/
def addWord (words : List String) (word : String) : List String :=
  let word := Text.lowercase word
  if word = "" ∨ word ∈ words then words else words ++ [word]

/-- Adds words to a technology, which is created where it is missing. -/
def extend (t : KeywordTable) (technology : String) (words : List String) : KeywordTable :=
  let technology := Text.lowercase technology
  ⟨t.words.insert technology (words.foldl addWord ((t.words.get? technology).getD []))⟩

/-- Adds all words of another table. -/
def merge (t other : KeywordTable) : KeywordTable :=
  other.words.entries.foldl (fun t e => t.extend e.1 e.2) t

/-- The technologies that the name of an agent holds. -/
def technologiesOf (t : KeywordTable) (agent : String) : List String :=
  t.words.keys.filter (Text.contains (Text.lowercase agent))

/-- Whether a message mentions a technology. -/
def mentions (t : KeywordTable) (technology message : String) : Bool :=
  ((t.words.get? technology).getD []).any (Text.contains (Text.lowercase message))

/-- Whether an agent is relevant to a message. -/
def isRelevant (t : KeywordTable) (agent message : String) : Bool :=
  (t.technologiesOf agent).any fun technology => t.mentions technology message

def size (t : KeywordTable) : Nat := t.words.size

def toJson (t : KeywordTable) : Json := .ofTable (t.words.map .texts)

def ofDatum (d : Datum) : Reading KeywordTable :=
  (d.asTable (Datum.asList Datum.asText)).map .mk

end KeywordTable

end ReviewPanel
