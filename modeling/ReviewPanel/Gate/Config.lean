import ReviewPanel.Datum.Fields
import ReviewPanel.Text.Blank

/-!
# Thresholds of gates

How many grave issues the quality gate lets pass, and which kinds of issue
the security gate blocks.
-/

namespace ReviewPanel

/-- Why thresholds are refused. -/
inductive GateError
  | invalidConfiguration (gate reason : String)
  deriving Repr, DecidableEq

def GateError.message : GateError → String
  | .invalidConfiguration gate reason => s!"Invalid gate configuration: {gate} - {reason}"

/-- The thresholds of the built-in gates. -/
structure GateConfig where
  maxHighSeverity : Nat
  blockedKinds : List String
  deriving Repr, DecidableEq

namespace GateConfig

def default : GateConfig := ⟨5, ["security", "vulnerability"]⟩

instance : Inhabited GateConfig := ⟨default⟩

/-- Refuses blocked kinds without a name. -/
def validate (c : GateConfig) : Except GateError Unit :=
  if c.blockedKinds.any Text.isBlankText then
    .error (.invalidConfiguration "security_compliance"
      "blocked_types must not contain empty entries")
  else .ok ()

def toJson (c : GateConfig) : Json :=
  .object
    [("code_quality", .object [("max_high_severity", .nat c.maxHighSeverity)]),
      ("security_compliance", .object [("blocked_types", .texts c.blockedKinds)])]

def qualityOfDatum (dialect : Dialect) (d : Datum) : Reading Nat :=
  d.asStructure dialect ["max_high_severity"] fun fs =>
    fs.orElse 0 (Datum.asNat Datum.bound64) default.maxHighSeverity

def securityOfDatum (dialect : Dialect) (d : Datum) : Reading (List String) :=
  d.asStructure dialect ["blocked_types"] fun fs =>
    fs.orElse 0 (Datum.asList Datum.asText) default.blockedKinds

def ofDatum (dialect : Dialect) (d : Datum) : Reading GateConfig :=
  d.asStructure dialect ["code_quality", "security_compliance"] fun fs =>
    GateConfig.mk <$> fs.orElse 0 (qualityOfDatum dialect) default.maxHighSeverity
      <*> fs.orElse 1 (securityOfDatum dialect) default.blockedKinds

end GateConfig

end ReviewPanel
