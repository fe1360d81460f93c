import ReviewPanel.Slots
import ReviewPanel.Text.Search

/-!
# Reports

The merged report of a run: the issues and suggestions of all agents that
succeeded, in the order of the slots and without removing duplicates, views of
the results by category, and counts.
-/

namespace ReviewPanel

/-- The merged report of a run. -/
structure Report where
  issues : List Finding
  suggestions : List Finding
  slots : Slots
  codeAnalysis : Table RawResult
  testResults : Table RawResult
  securityFindings : Table RawResult
  metadata : Table Json
  deriving Repr

namespace Report

def empty : Report := ⟨[], [], .empty, .empty, .empty, .empty, .empty⟩

instance : Inhabited Report := ⟨empty⟩

/-- The number of issues of a severity. -/
def countSeverity (r : Report) (s : Severity) : Nat :=
  (r.issues.filter (·.severity == s)).length

/-- The number of issues of every severity, by its label. -/
def severityCounts (r : Report) : Table Nat :=
  .ofList (Severity.all.map fun s => (s.label, r.countSeverity s))

/-- The issues whose kind is in a list. -/
def issuesOfKinds (r : Report) (kinds : List String) : List Finding :=
  r.issues.filter fun i => kinds.contains i.kind

/-- The name under which the message of a failed slot is kept. -/
def errorKey (key : String) : String := key ++ "_error"

/-- The message of the failed slot of a key. -/
def agentError? (r : Report) (key : String) : Option String :=
  (r.metadata.get? (errorKey key)).bind Json.text?

/-! ## Merging -/

/-- The results whose key holds a word. -/
def view (word : String) (results : List (String × RawResult)) : Table RawResult :=
  .ofList (results.filter fun e => Text.contains e.1 word)

def countsJson (counts : Table Nat) : Json := .ofTable (counts.map .nat)

/-- The counts of a report, by name. -/
def totals (slots : Slots) (r : Report) : List (String × Json) :=
  let successful := slots.successes.length
  [("total_agents", .nat slots.size), ("successful_agents", .nat successful),
    ("failed_agents", .nat (slots.size - successful)), ("total_issues", .nat r.issues.length),
    ("total_suggestions", .nat r.suggestions.length),
    ("severity_counts", countsJson r.severityCounts)]

/-- The messages of the failed slots, by name. -/
def errorEntries (slots : Slots) : List (String × Json) :=
  slots.failures.map fun e => (errorKey e.1, .text e.2)

/-- The report of the slots of a run. -/
def ofSlots (slots : Slots) : Report :=
  let results := slots.successes
  let merged : Report :=
    { issues := results.flatMap fun e => e.2.issues
      suggestions := results.flatMap fun e => e.2.suggestions
      slots
      codeAnalysis := view "code" results
      testResults := view "test" results
      securityFindings := view "security" results
      metadata := .empty }
  { merged with metadata := .ofList (errorEntries slots ++ totals slots merged) }

/-! ## Written form -/

def viewJson (t : Table RawResult) : Json := .ofTable (t.map RawResult.toJson)

def toJson (r : Report) : Json :=
  .object
    [("issues", .list (r.issues.map Finding.toJson)),
      ("suggestions", .list (r.suggestions.map Finding.toJson)),
      ("agent_results", r.slots.toJson), ("code_analysis", viewJson r.codeAnalysis),
      ("test_results", viewJson r.testResults),
      ("security_findings", viewJson r.securityFindings), ("metadata", .ofTable r.metadata)]

def fieldNames : List String :=
  ["issues", "suggestions", "agent_results", "code_analysis", "test_results",
    "security_findings", "metadata"]

def ofDatum (d : Datum) : Reading Report :=
  let findings := Datum.asList Finding.ofDatum
  let views := Datum.asTable RawResult.ofDatum
  d.asStructure .json fieldNames fun fs =>
    Report.mk <$> fs.required 0 findings <*> fs.required 1 findings
      <*> fs.required 2 Slots.ofDatum <*> fs.required 3 views <*> fs.required 4 views
      <*> fs.required 5 views <*> fs.required 6 (Datum.asTable Datum.asJson)

end Report

end ReviewPanel
