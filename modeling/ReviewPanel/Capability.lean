import ReviewPanel.Datum.Fields
import ReviewPanel.Text.Blank
import ReviewPanel.Text.Lowercase

/-!
# Categories and capabilities

Agents are registered under categories and declare capabilities. Both sets
are closed. The capabilities of an agent form a set, listed in the order in
which they are declared here.
-/

namespace ReviewPanel

/-- What a group of agents looks at. -/
inductive Category
  | code
  | testing
  | security
  deriving Repr, DecidableEq

namespace Category

def label : Category → String
  | .code => "code"
  | .testing => "testing"
  | .security => "security"

/-- The name of a category as it is listed in descriptions. -/
def title : Category → String
  | .code => "Code"
  | .testing => "Testing"
  | .security => "Security"

def all : List Category := [.code, .testing, .security]

/-- The category with exactly this label. -/
def ofLabel? (text : String) : Option Category := all.find? (·.label == text)

/-- A text as it is compared with labels. -/
def normalize (text : String) : String := Text.lowercase (Text.trim text)

/-- The category that a text names; `test` is another name of testing. -/
def parse? (text : String) : Option Category :=
  let name := normalize text
  if name = "test" then some .testing else ofLabel? name

def toJson (c : Category) : Json := .text c.label

def ofDatum (dialect : Dialect) (d : Datum) : Reading Category := d.asVariant dialect ofLabel?

end Category

/-- What an agent may declare to do. -/
inductive Capability
  | codeAnalysis
  | testGeneration
  | codeOptimization
  | securityAnalysis
  | performanceAnalysis
  | styleCheck
  | docGeneration
  | refactoring
  | dependencyAnalysis
  | chatSupport
  deriving Repr, DecidableEq

namespace Capability

def label : Capability → String
  | .codeAnalysis => "code_analysis"
  | .testGeneration => "test_generation"
  | .codeOptimization => "code_optimization"
  | .securityAnalysis => "security_analysis"
  | .performanceAnalysis => "performance_analysis"
  | .styleCheck => "style_check"
  | .docGeneration => "doc_generation"
  | .refactoring => "refactoring"
  | .dependencyAnalysis => "dependency_analysis"
  | .chatSupport => "chat_support"

def all : List Capability :=
  [.codeAnalysis, .testGeneration, .codeOptimization, .securityAnalysis, .performanceAnalysis,
    .styleCheck, .docGeneration, .refactoring, .dependencyAnalysis, .chatSupport]

def ofLabel? (text : String) : Option Capability := all.find? (·.label == text)

def toJson (c : Capability) : Json := .text c.label

def ofDatum (d : Datum) : Reading Capability := d.asVariant .json ofLabel?

end Capability

/-- A set of capabilities. -/
structure CapabilitySet where
  contains : Capability → Bool

namespace CapabilitySet

def empty : CapabilitySet := ⟨fun _ => false⟩

instance : Inhabited CapabilitySet := ⟨empty⟩

def insert (s : CapabilitySet) (c : Capability) : CapabilitySet :=
  ⟨fun x => x == c || s.contains x⟩

def ofList (cs : List Capability) : CapabilitySet := cs.foldl insert empty

/-- The members in the order of declaration. -/
def toList (s : CapabilitySet) : List Capability := Capability.all.filter s.contains

def size (s : CapabilitySet) : Nat := s.toList.length

def toJson (s : CapabilitySet) : Json := .list (s.toList.map Capability.toJson)

def ofDatum (d : Datum) : Reading CapabilitySet :=
  (d.asList Capability.ofDatum).map ofList

end CapabilitySet

end ReviewPanel
