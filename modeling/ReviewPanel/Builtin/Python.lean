import ReviewPanel.Builtin.Base

/-!
# Agents for Python

Two agents for files of Python: one reviews code, the other reviews tests and
writes skeletons of them.
-/

namespace ReviewPanel.Builtin.Python

open Pattern

def extensions : List String := ["py", "pyi"]

def frameworks : List String := ["django", "flask", "fastapi"]

/-- A name that does not start with a digit. -/
def identifier : Pattern := seq (one isNameStart) (many Text.isWord)

/-! ## The code agent -/

def codeProfile : Profile :=
  { name := "python_code"
    instruction := "You are an experienced Python reviewer. Prefer idiomatic, typed Python 3."
    fallback := "Catch specific exceptions, avoid mutable defaults, and log instead of printing."
    extensions
    frameworks
    capabilities := [.codeAnalysis, .styleCheck, .docGeneration, .chatSupport] }

def codeRules : List Rule :=
  [{ id := "bare-except"
     pattern := sequence [textStart, blanks, literal "except", blanks, literal ":"]
     kind := "error_handling"
     severity := .high
     title := "Bare except"
     description := "Catches SystemExit and KeyboardInterrupt too"
     suggestion := some "Catch a specific exception, or at least Exception"
     target := .issue
     confidence := 95 },
   { id := "mutable-default"
     pattern := sequence
       [literal "def", gap, word, literal "(", anything, literal "=", blanks,
         oneOf [literal "[]", literal "\x7b\x7d", literal "set()"]]
     kind := "bug_risk"
     severity := .high
     title := "Mutable default argument"
     description := "The default is shared between calls"
     suggestion := some "Default to None and create the value inside the function"
     target := .issue
     confidence := 90 },
   { id := "wildcard-import"
     pattern := sequence
       [textStart, blanks, literal "from", gap, atLeastOne notBlank, gap, literal "import", gap,
         literal "*"]
     kind := "style"
     severity := .medium
     title := "Wildcard import"
     description := "Pollutes the namespace and hides where names come from"
     suggestion := some "Import the names you use explicitly"
     target := .issue
     confidence := 95 },
   { id := "none-comparison"
     pattern := sequence [among "=!", literal "=", blanks, literal "None", wordEdge]
     kind := "style"
     severity := .low
     title := "Comparison to None with =="
     description := "Equality can be overridden; identity cannot"
     suggestion := some "Use `is None` / `is not None`"
     target := .issue
     confidence := 90 },
   { id := "print-call"
     pattern := sequence [textStart, blanks, literal "print("]
     kind := "style"
     severity := .info
     title := "print() call"
     description := "Output bypasses the logging configuration"
     suggestion := some "Use the logging module"
     target := .suggestion
     confidence := 60 }]

/-- Lines with more characters than this are too long. -/
def lineLimit : Nat := 120

/-- The lines that are too long, of which the first has the given index. -/
def longLines (index : Nat) : List (List Char) → List Finding
  | [] => []
  | line :: rest =>
    (if lineLimit < line.length then
        [{ codeProfile.finding "style" .low "Line too long" with
           description := s!"{line.length} characters (limit {lineLimit})"
           line := some (lineNumber index) }]
      else [])
      ++ longLines (index + 1) rest

/-- A definition of a function or a class at the start of a line. -/
def publicDefinition : NamePattern :=
  { lead := sequence [lineStart, oneOf [literal "def", literal "class"], gap]
    name := identifier
    trail := nothing }

/-- Whether a line opens a documentation text. -/
def opensDocumentation (line : List Char) : Bool :=
  let line := Text.trimLeft line
  Text.startsWith "\"\"\"".toList line || Text.startsWith "'''".toList line

def documentationSuggestion (index : Nat) (name : List Char) : Finding :=
  { codeProfile.finding "documentation" .info ("Document " ++ String.ofList name) with
    confidence := Finding.hundredths 50
    line := some (lineNumber index)
    suggestion := some "Add a docstring describing arguments and return value" }

/-- The public definitions that no documentation text follows. -/
def undocumented (index : Nat) : List (List Char) → List Finding
  | [] => []
  | line :: rest =>
    (match publicDefinition.first? line with
      | some name =>
        if name.head? == some '_' || (rest.head?.map opensDocumentation).getD false then []
        else [documentationSuggestion index name]
      | none => [])
      ++ undocumented (index + 1) rest

/-- What the code agent finds in a file that it accepts. -/
def reviewCode (path content : String) : RawResult :=
  let lines := Text.lines content.toList
  let (scanned, hits) := Rule.scan codeRules codeProfile.name content codeProfile.blank
  let issues := scanned.issues ++ longLines 0 lines
  let suggestions := scanned.suggestions ++ undocumented 0 lines
  ({ scanned with issues, suggestions }.withSummary s!"{issues.length} issues in {path}"
    |>.withMetric "lines" (.nat lines.length)
    |>.withMetric "rule_hits" (.nat hits))

def codeAgent (client : Option Llm.Client) : Agent :=
  { name := codeProfile.name
    version
    capabilities := .ofList codeProfile.capabilities
    extensions
    frameworks
    analyze := fun path content _ =>
      codeProfile.onFile path content (Profile.finished (reviewCode path content))
    chat := codeProfile.chat client
    generateTests := fun _ _ _ => codeProfile.lacking .testGeneration
    optimize := fun _ _ _ => codeProfile.lacking .codeOptimization }

/-! ## The test agent -/

def testProfile : Profile :=
  { name := "python_test"
    instruction := "You write focused pytest tests with fixtures and parametrize."
    fallback := "Keep each test to one behaviour, use fixtures for setup, and parametrize edge cases."
    extensions
    frameworks
    capabilities := [.codeAnalysis, .testGeneration, .chatSupport] }

def testRules : List Rule :=
  [{ id := "skip-marker"
     pattern := sequence [literal "@pytest.mark.skip", wordEdge]
     kind := "test_quality"
     severity := .low
     title := "Skipped test"
     description := "Unconditional skips hide regressions"
     suggestion := some "Use skipif with a reason, or delete the test"
     target := .issue
     confidence := 90 },
   { id := "sleep"
     pattern := literal "time.sleep("
     kind := "test_quality"
     severity := .medium
     title := "Sleep in test"
     description := "Wall-clock waits make tests slow and flaky"
     suggestion := some "Mock the clock or poll for the condition"
     target := .issue
     confidence := 80 },
   { id := "assert-true-literal"
     pattern := sequence [textStart, blanks, literal "assert", gap, literal "True", wordEdge]
     kind := "test_quality"
     severity := .medium
     title := "Assertion that always passes"
     description := "assert True checks nothing"
     suggestion := none
     target := .issue
     confidence := 95 }]

/-- Whether a path is that of a test file. -/
def isTestPath (path : String) : Bool :=
  let file := ((Text.fileName? path).getD path).toList
  Text.startsWith "test_".toList file || Text.endsWith "_test.py".toList file
    || file == "conftest.py".toList

/-- A function defined at the start of a line. -/
def topLevelFunction : NamePattern :=
  { lead := sequence [lineStart, literal "def", gap]
    name := identifier
    trail := seq blanks (literal "(") }

def functions (content : String) : List String :=
  publicNames (topLevelFunction.all content.toList)

def assertionFindings (content : String) : List Finding :=
  let tests := ((functions content).filter fun f => Text.startsWith "test_".toList f.toList).length
  if 0 < tests && !Text.contains content "assert" && !Text.contains content "pytest.raises" then
    [{ testProfile.finding "test_quality" .high "Tests without assertions" with
       description := s!"{tests} test functions assert nothing"
       confidence := Finding.hundredths 85 }]
  else []

def coverageSuggestion (function : String) : Finding :=
  { testProfile.finding "test_coverage" .info s!"Add tests for {function}" with
    confidence := Finding.hundredths 60
    suggestion := some s!"Write test_{function} covering normal and edge inputs" }

/-- What the test agent finds in a file that it accepts. -/
def reviewTests (path content : String) (context : Context) : RawResult :=
  let testFile := isTestPath path
  let (scanned, hits) :=
    if testFile then
      let (scanned, hits) := Rule.scan testRules testProfile.name content testProfile.blank
      ({ scanned with issues := scanned.issues ++ assertionFindings content }, hits)
    else
      ({ testProfile.blank with suggestions := (functions content).map coverageSuggestion }, 0)
  let suggestions := scanned.suggestions ++ regressionSuggestions testProfile none context
  ({ scanned with suggestions }.withSummary s!"{suggestions.length} suggestions for {path}"
    |>.withMetric "test_file" (.bool testFile)
    |>.withMetric "rule_hits" (.nat hits))

/-- The skeleton of the test of one function. -/
def testBlock (function : String) : String :=
  s!"\n\ndef test_{function}():\n    result = {function}()\n    assert result is not None\n"

/-- The import of the functions under test, nothing when there are none. -/
def importLine (path : String) (names : List String) : String :=
  if names.isEmpty then ""
  else
    "from " ++ (Text.fileStem? path).getD "module" ++ " import " ++ String.intercalate ", " names
      ++ "\n"

/-- The skeletons of tests for every top-level function. -/
def testText (path content : String) : String :=
  let names := functions content
  "import pytest\n\n" ++ importLine path names ++ String.join (names.map testBlock)

def testAgent (client : Option Llm.Client) : Agent :=
  { name := testProfile.name
    version
    capabilities := .ofList testProfile.capabilities
    extensions
    frameworks
    analyze := fun path content context =>
      testProfile.onFile path content (Profile.finished (reviewTests path content context))
    chat := testProfile.chat client
    generateTests := fun path content _ =>
      testProfile.onFile path content <|
        .immediate [.testGeneration] (.answered (testText path content))
    optimize := fun _ _ _ => testProfile.lacking .codeOptimization }

end ReviewPanel.Builtin.Python
