import ReviewPanel.Datum.Fields
import ReviewPanel.Timestamp

/-!
# Usage

What an agent counts of its own work. Each operation counts towards some
counters when it starts; the counters hold 64 bits and wrap around.
-/

namespace ReviewPanel

/-- What one operation counts. -/
inductive Usage
  | analysis (issues : Nat)
  | failure
  | chat
  | testGeneration
  deriving Repr, DecidableEq

/-- The counters of an agent, and whether it ever counted anything. -/
structure Counters where
  analyses : UInt64
  failures : UInt64
  issuesReported : UInt64
  chats : UInt64
  testsGenerated : UInt64
  hasRun : Bool
  deriving Repr, DecidableEq

namespace Counters

def zero : Counters := ⟨0, 0, 0, 0, 0, false⟩

instance : Inhabited Counters := ⟨zero⟩

/-- Counts one use. -/
def record (c : Counters) : Usage → Counters
  | .analysis issues =>
    { c with analyses := c.analyses + 1, issuesReported := c.issuesReported + .ofNat issues,
             hasRun := true }
  | .failure => { c with failures := c.failures + 1, hasRun := true }
  | .chat => { c with chats := c.chats + 1, hasRun := true }
  | .testGeneration => { c with testsGenerated := c.testsGenerated + 1, hasRun := true }

/-- The counters after a sequence of uses. -/
def ofUsage (uses : List Usage) : Counters := uses.foldl record zero

end Counters

/-- The counters of an agent as they are exchanged, with the time of the last use. -/
structure Snapshot where
  analyses : Nat
  failures : Nat
  issuesReported : Nat
  chats : Nat
  testsGenerated : Nat
  lastRun : Option Timestamp
  deriving Repr, DecidableEq

namespace Snapshot

def timeOfDatum (d : Datum) : Reading Timestamp := do
  let text ← d.asText
  Datum.found (Timestamp.parse? text)

def toJson (s : Snapshot) : Json :=
  .object
    [("analyses", .nat s.analyses), ("failures", .nat s.failures),
      ("issues_reported", .nat s.issuesReported), ("chats", .nat s.chats),
      ("tests_generated", .nat s.testsGenerated),
      ("last_run", .textOrNull (s.lastRun.map Timestamp.write))]

def ofDatum (d : Datum) : Reading Snapshot :=
  let count := Datum.asNat Datum.bound64
  d.asStructure .json
      ["analyses", "failures", "issues_reported", "chats", "tests_generated", "last_run"]
      fun fs =>
    Snapshot.mk <$> fs.required 0 count <*> fs.required 1 count <*> fs.required 2 count
      <*> fs.required 3 count <*> fs.required 4 count <*> fs.optional 5 timeOfDatum

end Snapshot

end ReviewPanel
