import ReviewPanel.Agent
import ReviewPanel.Builtin.Python
import ReviewPanel.Builtin.React
import ReviewPanel.Builtin.Security
import ReviewPanel.Text.Quoted

/-!
# Registries

A registry lists, for each category, the agents registered under it. Within a
category an agent takes the place of an earlier one of the same name. One
agent may be registered under several categories; an `Instance` carries the
number by which it is recognized as the same.
-/

namespace ReviewPanel

/-- An agent with the number that tells it from every other. -/
structure Instance where
  id : Nat
  agent : Agent

namespace Instance

instance : Inhabited Instance := ⟨⟨0, default⟩⟩

def name (i : Instance) : String := i.agent.name

end Instance

/-- The agents registered under each category, in order of registration. -/
structure Registry where
  agents : Category → List Instance

namespace Registry

def empty : Registry := ⟨fun _ => []⟩

instance : Inhabited Registry := ⟨empty⟩

/-- Registers an agent under a category. -/
def register (r : Registry) (c : Category) (i : Instance) : Registry :=
  ⟨fun x => if x = c then Roster.put Instance.name i (r.agents c) else r.agents x⟩

/-- Registers agents under categories, one after the other. -/
def registerAll (r : Registry) (entries : List (Category × Instance)) : Registry :=
  entries.foldl (fun r e => r.register e.1 e.2) r

def get? (r : Registry) (c : Category) (name : String) : Option Instance :=
  Roster.find? Instance.name name (r.agents c)

/-- The agent of a name, or the error that names what is missing. -/
def require (r : Registry) (c : Category) (name : String) : Except AgentError Instance :=
  match r.get? c name with
  | some i => .ok i
  | none => .error (.notFound (c.label ++ "/" ++ name))

def first? (r : Registry) (c : Category) : Option Instance := (r.agents c).head?

def names (r : Registry) (c : Category) : List String := (r.agents c).map Instance.name

/-- The categories that have an agent. -/
def categories (r : Registry) : List Category :=
  Category.all.filter fun c => !(r.agents c).isEmpty

/-- The number of registrations. -/
def size (r : Registry) : Nat := (Category.all.flatMap r.agents).length

def isEmpty (r : Registry) : Bool := r.size == 0

/-- The names of every category that has some, in one line. -/
def describe (r : Registry) : String :=
  "\x7b" ++ String.intercalate ", "
    (r.categories.map fun c => c.title ++ ": " ++ Text.quotedList (r.names c)) ++ "\x7d"

/-- The built-in agents, numbered in order. -/
def builtinEntries (client : Option Llm.Client) : List (Category × Instance) :=
  [(.code, ⟨0, Builtin.React.codeAgent client⟩),
    (.code, ⟨1, Builtin.Python.codeAgent client⟩),
    (.testing, ⟨2, Builtin.React.testAgent client⟩),
    (.testing, ⟨3, Builtin.Python.testAgent client⟩),
    (.security, ⟨4, Builtin.Security.agent client⟩)]

/-- The registry of the built-in agents. -/
def builtin (client : Option Llm.Client) : Registry := empty.registerAll (builtinEntries client)

end Registry

end ReviewPanel
