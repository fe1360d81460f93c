import ReviewPanel.Outcome
import ReviewPanel.Pattern.Classes
import ReviewPanel.Text.Lines

/-!
# Line rules

A rule reports a finding for every line that holds a piece of its pattern.
Lines are looked at one by one, from the first to the last, and on each line
the rules in the order of their table.
-/

namespace ReviewPanel

/-- Where the findings of a rule go. -/
inductive RuleTarget
  | issue
  | suggestion
  deriving Repr, DecidableEq

/-- A rule about single lines. -/
structure Rule where
  id : String
  pattern : Pattern
  kind : String
  severity : Severity
  title : String
  description : String
  suggestion : Option String
  target : RuleTarget
  /-- The confidence of the findings, in hundredths. -/
  confidence : Nat

namespace Rule

def matchesLine (r : Rule) (line : List Char) : Bool := r.pattern.occursIn line

/-- What the rule reports about a line. -/
def finding (r : Rule) (agent : String) (line : UInt32) : Finding :=
  Finding.withConfidence (Finding.hundredths r.confidence)
    { Finding.plain r.kind r.severity r.title with
      description := r.description, agent, line := some line, suggestion := r.suggestion }

/-- The rules that match a line, with what they report. -/
def hitsOnLine (rules : List Rule) (agent : String) (index : Nat) (line : List Char) :
    List (RuleTarget × Finding) :=
  (rules.filter (·.matchesLine line)).map fun r =>
    (r.target, r.finding agent (.ofNat (index + 1)))

/-- The hits on lines of which the first has the given index. -/
def hitsFrom (rules : List Rule) (agent : String) (index : Nat) :
    List (List Char) → List (RuleTarget × Finding)
  | [] => []
  | line :: rest => hitsOnLine rules agent index line ++ hitsFrom rules agent (index + 1) rest

/-- Every hit of the rules on a content. -/
def hits (rules : List Rule) (agent : String) (content : String) : List (RuleTarget × Finding) :=
  hitsFrom rules agent 0 (Text.lines content.toList)

/-- The findings that go to one of the two lists. -/
def findingsFor (target : RuleTarget) (hits : List (RuleTarget × Finding)) : List Finding :=
  (hits.filter (·.1 == target)).map Prod.snd

/-- Adds every hit on a content to a result, and counts the hits. -/
def scan (rules : List Rule) (agent content : String) (result : RawResult) : RawResult × Nat :=
  let found := hits rules agent content
  ({ result with
      issues := result.issues ++ findingsFor .issue found
      suggestions := result.suggestions ++ findingsFor .suggestion found },
    found.length)

end Rule

end ReviewPanel
