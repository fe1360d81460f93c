import ReviewPanel.Builtin.Base

/-!
# Agents for React

Two agents for files of JavaScript and TypeScript: one reviews components,
the other reviews tests and writes skeletons of them.
-/

namespace ReviewPanel.Builtin.React

open Pattern

def extensions : List String := ["js", "jsx", "ts", "tsx"]

def frameworks : List String := ["react", "next"]

/-! ## The code agent -/

def codeProfile : Profile :=
  { name := "javascript_react_code"
    instruction := "You are a senior React engineer. Answer concisely with code where useful."
    fallback := "Keep components small, give list items stable keys, and list every value an effect reads in its dependency array."
    extensions
    frameworks
    capabilities :=
      [.codeAnalysis, .styleCheck, .performanceAnalysis, .codeOptimization, .chatSupport] }

def codeRules : List Rule :=
  [{ id := "no-var"
     pattern := sequence [textStart, blanks, literal "var", gap, word]
     kind := "style"
     severity := .low
     title := "Use of var"
     description := "var is function scoped and hoisted"
     suggestion := some "Declare with const, or let when reassigned"
     target := .issue
     confidence := 95 },
   { id := "no-console"
     pattern := sequence [literal "console.", oneOf [literal "log", literal "debug"], literal "("]
     kind := "style"
     severity := .low
     title := "Console statement left in code"
     description := "Debug output ships to the browser console"
     suggestion := some "Remove it or route it through a logger"
     target := .issue
     confidence := 90 },
   { id := "dangerous-html"
     pattern := literal "dangerouslySetInnerHTML"
     kind := "best_practice"
     severity := .high
     title := "dangerouslySetInnerHTML used"
     description := "Raw HTML bypasses React's escaping"
     suggestion := some "Render structured content, or sanitize with DOMPurify first"
     target := .issue
     confidence := 90 },
   { id := "inline-handler"
     pattern := sequence
       [wordEdge, literal "on", one isUpperAscii, many Text.isWord, literal "=\x7b", blanks,
         literal "(", many (· != ')'), literal ")", blanks, literal "=>"]
     kind := "performance"
     severity := .info
     title := "Inline event handler"
     description := "A new function is created on every render"
     suggestion := some "Hoist the handler or wrap it in useCallback"
     target := .suggestion
     confidence := 60 },
   { id := "index-key"
     pattern := sequence
       [literal "key=\x7b", blanks, oneOf [literal "index", literal "idx", literal "i"], blanks,
         literal "\x7d"]
     kind := "best_practice"
     severity := .medium
     title := "Array index used as key"
     description := "Index keys break reconciliation when the list reorders"
     suggestion := some "Use a stable id from the item"
     target := .issue
     confidence := 80 }]

/-- How many lines from the call on may hold the end of an effect. -/
def effectWindow : Nat := 40

/-- Whether a line closes the call of an effect. -/
def closesEffect (line : List Char) : Bool :=
  let line := Text.trimLeft line
  Text.startsWith "\x7d)".toList line || Text.startsWith "\x7d, [".toList line

/-- Whether the effect that starts on the first of these lines is closed
without a list of dependencies. -/
def lacksDependencies (lines : List (List Char)) : Bool :=
  match (lines.take effectWindow).find? closesEffect with
  | some line => !line.contains '['
  | none => false

def effectFinding (index : Nat) : Finding :=
  { codeProfile.finding "performance" .medium "useEffect without dependency array" with
    description := "The effect runs after every render"
    confidence := Finding.hundredths 75
    line := some (lineNumber index)
    suggestion := some "Pass the values the effect reads as dependencies" }

/-- The effects without dependencies on lines of which the first has the given index. -/
def effectsWithoutDependencies (index : Nat) : List (List Char) → List Finding
  | [] => []
  | line :: rest =>
    (if Text.occursIn "useEffect(".toList line && lacksDependencies (line :: rest) then
        [effectFinding index]
      else [])
      ++ effectsWithoutDependencies (index + 1) rest

/-- A call of `map` whose function renders an element. -/
def renderingMap : Pattern :=
  sequence
    [literal ".map(", blanks, maybe (literal "("),
      many (fun c => Text.isWord c || Text.isBlank c || c == ','), maybe (literal ")"), blanks,
      literal "=>", blanks, maybe (literal "("), blanks, literal "<", word]

def keyFinding (index : Nat) : Finding :=
  { codeProfile.finding "best_practice" .medium "List item without key" with
    description := "React needs a key to track list items"
    confidence := Finding.hundredths 70
    line := some (lineNumber index)
    suggestion := some "Add a stable key prop to the mapped element" }

/-- The lines that render a list without keys. -/
def listsWithoutKey (index : Nat) : List (List Char) → List Finding
  | [] => []
  | line :: rest =>
    (if renderingMap.occursIn line && !Text.occursIn "key=".toList line then [keyFinding index]
      else [])
      ++ listsWithoutKey (index + 1) rest

/-- Files with more lines than this should be split. -/
def largeFileLines : Nat := 300

def sizeSuggestions (count : Nat) : List Finding :=
  if largeFileLines < count then
    [{ codeProfile.finding "maintainability" .info "Large component file" with
       description := s!"{count} lines in one file"
       confidence := Finding.hundredths 50
       suggestion := some "Split into smaller components or custom hooks" }]
  else []

/-- What the code agent finds in a file that it accepts. -/
def reviewCode (path content : String) : RawResult :=
  let lines := Text.lines content.toList
  let (scanned, hits) := Rule.scan codeRules codeProfile.name content codeProfile.blank
  let issues :=
    scanned.issues ++ effectsWithoutDependencies 0 lines ++ listsWithoutKey 0 lines
  let suggestions := scanned.suggestions ++ sizeSuggestions lines.length
  let summary := s!"{issues.length} issues, {suggestions.length} suggestions in {path}"
  (({ scanned with issues, suggestions }).withSummary summary
    |>.withMetric "lines" (.nat lines.length)
    |>.withMetric "rule_hits" (.nat hits))

def memoSuggestions (content : String) : List Finding :=
  if Text.contains content "export default function" && !Text.contains content "React.memo"
      && !Text.contains content "memo(" then
    [{ codeProfile.finding "performance" .info "Consider React.memo" with
       confidence := Finding.hundredths 40
       suggestion := some "Wrap pure components in React.memo to skip re-renders" }]
  else []

/-- The findings of a review that concern performance, as suggestions. -/
def optimizations (path content : String) : RawResult :=
  let review := reviewCode path content
  let suggestions :=
    (review.issues ++ review.suggestions).filter (·.kind == "performance")
      ++ memoSuggestions content
  { codeProfile.blank with suggestions }.withSummary
    s!"{suggestions.length} optimization opportunities"

def codeAgent (client : Option Llm.Client) : Agent :=
  { name := codeProfile.name
    version
    capabilities := .ofList codeProfile.capabilities
    extensions
    frameworks
    analyze := fun path content _ =>
      codeProfile.onFile path content (Profile.finished (reviewCode path content))
    chat := codeProfile.chat client
    generateTests := fun _ _ _ => codeProfile.lacking .testGeneration
    optimize := fun path content _ =>
      codeProfile.onFile path content <|
        .immediate [.analysis (reviewCode path content).issues.length]
          (.answered (optimizations path content)) }

/-! ## The test agent -/

def testProfile : Profile :=
  { name := "javascript_react_test"
    instruction := "You write Jest and React Testing Library tests. Prefer user-facing queries."
    fallback := "Test behaviour, not implementation: render the component, query by role or label, and assert on visible output."
    extensions
    frameworks
    capabilities := [.codeAnalysis, .testGeneration, .chatSupport] }

def testRules : List Rule :=
  [{ id := "focused-test"
     pattern := sequence
       [wordEdge, oneOf [literal "it", literal "test", literal "describe"], literal ".only("]
     kind := "test_quality"
     severity := .high
     title := "Focused test"
     description := ".only silently skips the rest of the suite"
     suggestion := some "Remove .only before committing"
     target := .issue
     confidence := 95 },
   { id := "skipped-test"
     pattern := oneOf
       [sequence
          [wordEdge, oneOf [literal "it", literal "test", literal "describe"], literal ".skip("],
        sequence [wordEdge, literal "x", oneOf [literal "it", literal "describe"], literal "("]]
     kind := "test_quality"
     severity := .low
     title := "Skipped test"
     description := "Skipped tests hide regressions"
     suggestion := none
     target := .issue
     confidence := 90 },
   { id := "real-timer"
     pattern := literal "setTimeout("
     kind := "test_quality"
     severity := .medium
     title := "Real timer in test"
     description := "Waiting on wall-clock time makes tests slow and flaky"
     suggestion := some "Use jest.useFakeTimers() or waitFor"
     target := .issue
     confidence := 70 }]

/-- Whether a path is that of a test file. -/
def isTestPath (path : String) : Bool :=
  let lower := Text.lowercase path
  Text.contains lower ".test." || Text.contains lower ".spec." || Text.contains lower "__tests__"

/-- The exported functions, constants and classes with a capital first letter. -/
def exportedComponents : NamePattern :=
  { lead := sequence
      [literal "export", gap, maybe (sequence [literal "default", gap]),
        oneOf [literal "function", literal "const", literal "class"], gap]
    name := seq (one isUpperAscii) (many Text.isWord)
    trail := nothing }

def components (content : String) : List String :=
  publicNames (exportedComponents.all content.toList)

/-- The texts that open a test case. -/
def testMarks : List String := ["it(", "test(", "it.only(", "test.only("]

def assertionFindings (content : String) : List Finding :=
  if testMarks.any (Text.contains content) && !Text.contains content "expect(" then
    [{ testProfile.finding "test_quality" .high "Tests without assertions" with
       description := "Test cases never call expect()"
       confidence := Finding.hundredths 85 }]
  else []

def coverageSuggestion (component : String) : Finding :=
  { testProfile.finding "test_coverage" .info s!"Add tests for {component}" with
    confidence := Finding.hundredths 60
    suggestion := some s!"render(<{component} />) and assert on what the user sees" }

def regressionAdvice : String := "Cover each reported issue with a failing test before fixing it"

/-- What the test agent finds in a file that it accepts. -/
def reviewTests (path content : String) (context : Context) : RawResult :=
  let testFile := isTestPath path
  let (scanned, hits) :=
    if testFile then
      let (scanned, hits) := Rule.scan testRules testProfile.name content testProfile.blank
      ({ scanned with issues := scanned.issues ++ assertionFindings content }, hits)
    else
      ({ testProfile.blank with suggestions := (components content).map coverageSuggestion }, 0)
  let suggestions :=
    scanned.suggestions ++ regressionSuggestions testProfile (some regressionAdvice) context
  let summary :=
    if testFile then s!"Reviewed test file {path}"
    else s!"{suggestions.length} test suggestions for {path}"
  ({ scanned with suggestions }.withSummary summary
    |>.withMetric "test_file" (.bool testFile)
    |>.withMetric "rule_hits" (.nat hits))

/-- The skeleton of the test of one component. -/
def testBlock (component : String) : String :=
  "\ndescribe('" ++ component ++ "', () => \x7b\n  it('renders', () => \x7b\n    render(<"
    ++ component ++ " />);\n    expect(screen.getByRole('main')).toBeInTheDocument();\n  \x7d);\n\x7d);\n"

/-- The import of the components under test, nothing when there are none. -/
def importLine (path : String) (names : List String) : String :=
  if names.isEmpty then ""
  else
    "import \x7b " ++ String.intercalate ", " names ++ " \x7d from './"
      ++ (Text.fileStem? path).getD "component" ++ "';\n"

/-- The skeletons of tests for every exported component. -/
def testText (path content : String) : String :=
  let names := components content
  "import \x7b render, screen \x7d from '@testing-library/react';\n"
    ++ importLine path names ++ String.join (names.map testBlock)

def testAgent (client : Option Llm.Client) : Agent :=
  { name := testProfile.name
    version
    capabilities := .ofList testProfile.capabilities
    extensions
    frameworks
    analyze := fun path content context =>
      testProfile.onFile path content (Profile.finished (reviewTests path content context))
    chat := testProfile.chat client
    generateTests := fun path content _ =>
      testProfile.onFile path content <|
        .immediate [.testGeneration] (.answered (testText path content))
    optimize := fun _ _ _ => testProfile.lacking .codeOptimization }

end ReviewPanel.Builtin.React
