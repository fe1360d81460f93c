import ReviewPanel.Stack.Basic
import ReviewPanel.Text.Lowercase
import ReviewPanel.Text.Path

/-!
# Stack detection

The stack of a file is guessed from its path and from marks in its content:
the language from the extension, the framework from the extension or from what
is imported, the kind of file from its name and its directories. The first rule
that applies decides.
-/

namespace ReviewPanel.Stack

open Text

/-- The languages that extensions stand for. -/
def languages : List (String × List String) :=
  [("python", ["py", "pyi"]),
    ("javascript", ["js", "jsx", "mjs", "cjs"]),
    ("typescript", ["ts", "tsx"]),
    ("rust", ["rs"]),
    ("java", ["java"]),
    ("go", ["go"]),
    ("ruby", ["rb"]),
    ("csharp", ["cs"]),
    ("javascript", ["vue"])]

/-- The extension of a path in lowercase. -/
def lowerExtension? (path : String) : Option String := (extension? path).map lowercase

def detectLanguage (path : String) : Option String := do
  let ext ← lowerExtension? path
  let (language, _) ← languages.find? fun entry => entry.2.contains ext
  return language

/-- What gives a framework away. -/
structure FrameworkRule where
  framework : String
  extensions : List String
  marks : List String

/-- The rules in the order in which they are tried. -/
def frameworkRules : List FrameworkRule :=
  [⟨"react", ["jsx", "tsx"], ["from 'react'", "from \"react\"", "require('react')"]⟩,
    ⟨"vue", ["vue"], ["from 'vue'", "from \"vue\""]⟩,
    ⟨"angular", [], ["@angular/"]⟩,
    ⟨"django", [], ["from django", "import django"]⟩,
    ⟨"flask", [], ["from flask", "import flask"]⟩,
    ⟨"fastapi", [], ["from fastapi", "import fastapi"]⟩,
    ⟨"express", [], ["require('express')", "from 'express'"]⟩,
    ⟨"spring", [], ["org.springframework"]⟩]

def FrameworkRule.applies (r : FrameworkRule) (ext : Option String) (content : String) : Bool :=
  (match ext with
    | some e => r.extensions.contains e
    | none => false)
    || r.marks.any (contains content)

def detectFramework (path content : String) : Option String :=
  (frameworkRules.find? (·.applies (lowerExtension? path) content)).map (·.framework)

/-- The extensions of configuration files. -/
def configExtensions : List String := ["json", "yaml", "yml", "toml", "ini", "cfg"]

/-- Whether a path in lowercase is that of a test file. -/
def isTestPath (lower : String) : Bool :=
  let name := ((fileName? lower).getD "").toList
  startsWith "test_".toList name
    || occursIn ".test.".toList name
    || occursIn ".spec.".toList name
    || endsWith "_test.py".toList name
    || contains lower "/tests/"
    || contains lower "/__tests__/"

def detectFileType (path : String) : String :=
  let lower := lowercase path
  if isTestPath lower then "test"
  else
    match extension? ((fileName? lower).getD "") with
    | some ext => if configExtensions.contains ext then "config" else "source"
    | none => "source"

/-- The stack of a file. -/
def detect (path content : String) : Stack :=
  ⟨detectLanguage path, detectFramework path content, some (detectFileType path)⟩

end ReviewPanel.Stack
