import ReviewPanel.Gate.Config
import ReviewPanel.Report

/-!
# Quality gates

A gate is a named judgement on a report. Three gates are built in: one counts
the issues of high severity, one refuses issues of blocked kinds whatever
their severity, and one always passes.
-/

namespace ReviewPanel

/-- What one gate says about a report. -/
structure GateResult where
  gate : String
  passed : Bool
  detail : String
  recommendations : List String
  deriving Repr, DecidableEq

namespace GateResult

def toJson (r : GateResult) : Json :=
  .object <|
    [("gate", .text r.gate), ("passed", .bool r.passed), ("detail", .text r.detail)]
      ++ (if r.recommendations.isEmpty then []
          else [("recommendations", .texts r.recommendations)])

def ofDatum (d : Datum) : Reading GateResult :=
  d.asStructure .json ["gate", "passed", "detail", "recommendations"] fun fs =>
    GateResult.mk <$> fs.required 0 Datum.asText <*> fs.required 1 Datum.asBool
      <*> fs.required 2 Datum.asText
      <*> fs.orElse 3 (Datum.asList Datum.asText) []

end GateResult

/-- A named judgement on reports. -/
structure Gate where
  name : String
  evaluate : Report → GateResult

instance : Inhabited Gate := ⟨⟨"", fun _ => ⟨"", true, "", []⟩⟩⟩

namespace Gate

/-- Fails when more issues of high severity are reported than the limit. -/
def codeQuality (limit : Nat) : Gate :=
  { name := "code_quality"
    evaluate := fun report =>
      let high := report.countSeverity .high
      if limit < high then
        ⟨"code_quality", false, s!"{high} high severity issues exceed the limit of {limit}",
          ["Resolve high severity issues before merging"]⟩
      else ⟨"code_quality", true, s!"{high} high severity issues (limit {limit})", []⟩ }

/-- What to do about a blocked issue. -/
def fixAdvice (issue : Finding) : String :=
  match issue.line with
  | some n => s!"Fix: {issue.title} (line {n.toNat})"
  | none => s!"Fix: {issue.title}"

/-- Fails when an issue of a blocked kind is reported. -/
def securityCompliance (blockedKinds : List String) : Gate :=
  { name := "security_compliance"
    evaluate := fun report =>
      let blocked := report.issuesOfKinds blockedKinds
      if blocked.isEmpty then ⟨"security_compliance", true, "No security issues found", []⟩
      else
        ⟨"security_compliance", false, s!"{blocked.length} security issues found",
          blocked.map fixAdvice⟩ }

/-- Always passes, and says so. -/
def testCoverage : Gate :=
  { name := "test_coverage"
    evaluate := fun _ =>
      ⟨"test_coverage", true, "Coverage measurement is not implemented; gate always passes", []⟩ }

end Gate

end ReviewPanel
