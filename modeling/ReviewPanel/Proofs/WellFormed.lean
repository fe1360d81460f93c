import ReviewPanel.Proofs.Kinds
import ReviewPanel.Proofs.Rounding
import ReviewPanel.Proofs.Table

/-!
# Well-formed reviews — whose findings, how sure, and where

A built-in agent puts its own name on whatever it finds, is sure of it to a degree between
zero and one, and points at lines that the file has. Findings are made in three ways: by the
rules, line by line in walks of the agent's own, and about the file as a whole, without a line.
Each way is well formed for a reason of its own:

* `Finding.isWellFormed_of_rule`  — a rule, whose confidence is in hundredths.
* `Builtin.areWellFormed_walk`    — a walk, at each of its lines.
* `Builtin.isWellFormed_of_file`  — a finding without a line.

Main result:

* `Builtin.reviews_are_well_formed` — who accepts what, and what an accepted file is told.
-/

namespace ReviewPanel

open Numeric

/-! ## Confidences -/

/-- A finite number from zero to one. -/
def Numeric.Binary.IsInUnit (x : Binary) : Prop :=
  ∃ m e, x = .finite false m e ∧ (m : ℚ) * 2 ^ e ≤ 1

theorem Numeric.Binary.isInUnit_ofQuotient {num den : ℕ} (hDen : 0 < den) (hLe : num ≤ den) :
    (ofQuotient .single false num den).IsInUnit :=
  exists_ofQuotient_le_one (by decide) hDen (by decide) (by decide) hLe

/-- Whoever is moved into the range from zero to one stays there. -/
theorem Numeric.Binary.IsInUnit.clampToUnit {x : Binary} (hUnit : x.IsInUnit) :
    (x.clampToUnit .single).IsInUnit := by
  obtain ⟨m, e, rfl, hLe⟩ := hUnit
  unfold Binary.clampToUnit
  rw [show (Binary.finite false m e).isNegative = false from rfl]
  split
  · contradiction
  · split
    · exact isInUnit_ofQuotient Nat.one_pos le_rfl
    · exact ⟨m, e, rfl, hLe⟩

namespace Finding

/-- Confidences are given in hundredths. -/
theorem isInUnit_hundredths {n : Nat} (hLe : n ≤ 100) : (hundredths n).IsInUnit :=
  Binary.isInUnit_ofQuotient (by decide) hLe

theorem isInUnit_fullConfidence : fullConfidence.IsInUnit :=
  Binary.isInUnit_ofQuotient Nat.one_pos le_rfl

/-! ## Findings -/

/-- A finding of an agent in a content of so many lines. -/
structure IsWellFormed (name : String) (count : Nat) (f : Finding) : Prop where
  agent      : f.agent = name
  confidence : f.confidence.IsInUnit
  line       : ∀ n, f.line = some n → 1 ≤ n.toNat ∧ n.toNat ≤ count

end Finding

/-- A result of an agent on a content of so many lines. -/
structure RawResult.IsWellFormed (name : String) (count : Nat) (r : RawResult) : Prop where
  agent       : r.agent = name
  issues      : ∀ f ∈ r.issues, f.IsWellFormed name count
  suggestions : ∀ f ∈ r.suggestions, f.IsWellFormed name count

namespace Builtin

variable {client : Option Llm.Client} {name path content : String} {context : Context}
  {f : Finding} {fs gs : List Finding} {count k : Nat}

/-- What is said of a line, in the name of an agent. -/
theorem isWellFormed_of_line (hCount : count < 2 ^ 32) (hk : k < count) (hAgent : f.agent = name)
    (hConfidence : f.confidence.IsInUnit) (hLine : f.line = some (lineNumber k)) :
    f.IsWellFormed name count := by
  refine ⟨hAgent, hConfidence, ?_⟩
  intro n hn
  obtain rfl := Option.some.inj (hLine.symm.trans hn)
  have hNumber := toNat_lineNumber hCount hk
  omega

/-- What is said of the file as a whole. -/
theorem isWellFormed_of_file (hAgent : f.agent = name) (hConfidence : f.confidence.IsInUnit)
    (hLine : f.line = none) : f.IsWellFormed name count := by
  refine ⟨hAgent, hConfidence, ?_⟩
  intro n hn
  rw [hLine] at hn
  cases hn

/-- What is made line by line is well formed if it is made in the name of the agent, with the
number of its line. -/
theorem areWellFormed_walk {walk : Nat → List (List Char) → List Finding}
    (hNil : ∀ index, walk index [] = [])
    (hCons : ∀ index line rest, ∃ here,
      (∀ f ∈ here, f.agent = name ∧ f.confidence.IsInUnit ∧ f.line = some (lineNumber index)) ∧
        walk index (line :: rest) = here ++ walk (index + 1) rest)
    {lines : List (List Char)} (hCount : lines.length < 2 ^ 32) :
    ∀ f ∈ walk 0 lines, f.IsWellFormed name lines.length := by
  intro f hMem
  obtain ⟨k, hk, hAgent, hConfidence, hLine⟩ := exists_of_mem_walk hNil hCons hMem
  rw [Nat.zero_add] at hLine
  exact isWellFormed_of_line hCount hk hAgent hConfidence hLine

end Builtin

/-! ## Rules -/

open Builtin

variable {rules : List Rule} {agent content : String}

/-- A rule gives a severity, a confidence and a name that are fixed, and the line is the one it
was found in. -/
theorem Finding.isWellFormed_of_rule {r : Rule} {k count : Nat} (hConfidence : r.confidence ≤ 100)
    (hCount : count < 2 ^ 32) (hk : k < count) :
    (r.finding agent (.ofNat (k + 1))).IsWellFormed agent count :=
  isWellFormed_of_line hCount hk rfl (isInUnit_hundredths hConfidence).clampToUnit rfl

/-- Rules with a confidence in hundredths scan into well-formed issues and suggestions. -/
theorem Rule.areWellFormed_findingsFor (agent : String) (hRules : ∀ r ∈ rules, r.confidence ≤ 100)
    (hCount : lineCount content < 2 ^ 32) (target : RuleTarget) :
    ∀ f ∈ findingsFor target (hits rules agent content),
      f.IsWellFormed agent (lineCount content) := by
  intro f hMem
  obtain ⟨k, hk, r, hr, -, rfl⟩ := exists_rule_of_mem_findingsFor hMem
  exact Finding.isWellFormed_of_rule (hRules r hr) hCount hk

namespace Builtin

variable {client : Option Llm.Client} {path : String} {context : Context} {p : Profile}

/-! ## Reviews -/

/-- The number of pairs of a line and a rule that matches it. -/
def matchCount (rules : List Rule) (content : String) : Nat :=
  ((Text.lines content.toList ×ˢ rules).filter fun e => e.2.matchesLine e.1).length

/-- What is asked of a review: a well-formed result that says how many hits the rules had. -/
structure Conforms (name : String) (count hits : Nat) (r : RawResult) : Prop extends
    r.IsWellFormed name count where
  hits : r.metrics.get? "rule_hits" = some (.nat hits)

/-- A scan counts what it finds. -/
theorem snd_scan (name : String) :
    (Rule.scan rules name content (.empty name)).2 = matchCount rules content :=
  Rule.length_hits rules name content

/-- One metric more does not change the others. -/
theorem get?_withMetric {r : RawResult} {key wanted : String} {value : Json} :
    (r.withMetric key value).metrics.get? wanted =
      if wanted = key then some value else r.metrics.get? wanted :=
  Table.get?_insert

/-- What earlier agents found is not said of any line of the file. -/
theorem areWellFormed_regressions {advice : Option String} :
    ∀ f ∈ regressionSuggestions p advice context, f.IsWellFormed p.name count := by
  intro f hMem
  obtain ⟨earlier, -, rfl⟩ := List.mem_map.mp hMem
  exact isWellFormed_of_file rfl (Finding.isInUnit_hundredths (n := 70) (by decide)) rfl

/-- A file that is scanned: the findings of the rules come first, and more may follow. -/
theorem conforms_of_scan {r : RawResult} {issues suggestions : List Finding}
    (hRules : ∀ r ∈ rules, r.confidence ≤ 100) (hCount : lineCount content < 2 ^ 32)
    (hAgent : r.agent = p.name)
    (hIssues : r.issues = (Rule.scan rules p.name content p.blank).1.issues ++ issues)
    (hSuggestions : r.suggestions =
      (Rule.scan rules p.name content p.blank).1.suggestions ++ suggestions)
    (hHits : r.metrics.get? "rule_hits" = some (.nat (Rule.scan rules p.name content p.blank).2))
    (hMoreIssues : ∀ f ∈ issues, f.IsWellFormed p.name (lineCount content))
    (hMoreSuggestions : ∀ f ∈ suggestions, f.IsWellFormed p.name (lineCount content)) :
    Conforms p.name (lineCount content) (matchCount rules content) r where
  agent := hAgent
  issues := by
    rw [hIssues]
    exact List.forall_mem_append.mpr
      ⟨Rule.areWellFormed_findingsFor p.name hRules hCount .issue, hMoreIssues⟩
  suggestions := by
    rw [hSuggestions]
    exact List.forall_mem_append.mpr
      ⟨Rule.areWellFormed_findingsFor p.name hRules hCount .suggestion, hMoreSuggestions⟩
  hits := by
    rw [hHits, ← snd_scan p.name]
    rfl

/-- A review of tests scans a file of tests, and suggests tests for any other. -/
theorem conforms_tests {isTest : Bool} {r : RawResult} {assertions coverage : List Finding}
    {advice : Option String} (hRules : ∀ r ∈ rules, r.confidence ≤ 100)
    (hCount : lineCount content < 2 ^ 32) (hAgent : r.agent = p.name)
    (hIssues : r.issues =
      if isTest then (Rule.scan rules p.name content p.blank).1.issues ++ assertions else [])
    (hSuggestions : r.suggestions =
      (if isTest then (Rule.scan rules p.name content p.blank).1.suggestions else coverage) ++
        regressionSuggestions p advice context)
    (hHits : r.metrics.get? "rule_hits" =
      some (.nat (if isTest then (Rule.scan rules p.name content p.blank).2 else 0)))
    (hAssertions : ∀ f ∈ assertions, f.IsWellFormed p.name (lineCount content))
    (hCoverage : ∀ f ∈ coverage, f.IsWellFormed p.name (lineCount content)) :
    Conforms p.name (lineCount content) (if isTest then matchCount rules content else 0) r := by
  cases isTest with
  | false =>
    -- no rule is asked
    refine { agent := hAgent, issues := ?_, suggestions := ?_, hits := hHits }
    · rw [hIssues]
      exact List.forall_mem_nil _
    · rw [hSuggestions]
      exact List.forall_mem_append.mpr ⟨hCoverage, areWellFormed_regressions⟩
  | true =>
    exact conforms_of_scan hRules hCount hAgent hIssues hSuggestions hHits hAssertions
      areWellFormed_regressions

/-! ## The agents -/

namespace React

/-- The issues of rules and those of effects have lines of the file. -/
theorem conforms_reviewCode (hCount : lineCount content < 2 ^ 32) :
    Conforms codeProfile.name (lineCount content) (matchCount codeRules content)
      (reviewCode path content) := by
  have hEffects : ∀ f ∈ effectsWithoutDependencies 0 (Text.lines content.toList),
      f.IsWellFormed codeProfile.name (lineCount content) := by
    refine areWellFormed_walk (fun _ => rfl) (fun index line rest => ⟨_, ?_, rfl⟩) hCount
    exact forall_mem_ite ⟨rfl, Finding.isInUnit_hundredths (n := 75) (by decide), rfl⟩
  have hLists : ∀ f ∈ listsWithoutKey 0 (Text.lines content.toList),
      f.IsWellFormed codeProfile.name (lineCount content) := by
    refine areWellFormed_walk (fun _ => rfl) (fun index line rest => ⟨_, ?_, rfl⟩) hCount
    exact forall_mem_ite ⟨rfl, Finding.isInUnit_hundredths (n := 70) (by decide), rfl⟩
  have hSize : ∀ f ∈ sizeSuggestions (Text.lines content.toList).length,
      f.IsWellFormed codeProfile.name (lineCount content) :=
    forall_mem_ite <|
      isWellFormed_of_file rfl (Finding.isInUnit_hundredths (n := 50) (by decide)) rfl
  exact conforms_of_scan (by decide) hCount rfl (List.append_assoc ..) rfl get?_withMetric
    (List.forall_mem_append.mpr ⟨hEffects, hLists⟩) hSize

/-- A file that is none of tests is not scanned, and has no hits. -/
theorem conforms_reviewTests (hCount : lineCount content < 2 ^ 32) :
    Conforms testProfile.name (lineCount content)
      (if isTestPath path then matchCount testRules content else 0)
      (reviewTests path content context) := by
  have hAssertions : ∀ f ∈ assertionFindings content,
      f.IsWellFormed testProfile.name (lineCount content) :=
    forall_mem_ite <|
      isWellFormed_of_file rfl (Finding.isInUnit_hundredths (n := 85) (by decide)) rfl
  have hCoverage : ∀ f ∈ (components content).map coverageSuggestion,
      f.IsWellFormed testProfile.name (lineCount content) := by
    intro f hMem
    obtain ⟨component, -, rfl⟩ := List.mem_map.mp hMem
    exact isWellFormed_of_file rfl (Finding.isInUnit_hundredths (n := 60) (by decide)) rfl
  refine conforms_tests (by decide) hCount ?_ issues_reviewTests suggestions_reviewTests ?_
    hAssertions hCoverage
  · unfold reviewTests
    cases isTestPath path <;> rfl
  · unfold reviewTests
    cases isTestPath path <;> exact get?_withMetric

end React

namespace Python

/-- Here there are rules only. -/
theorem conforms_reviewCode (hCount : lineCount content < 2 ^ 32) :
    Conforms codeProfile.name (lineCount content) (matchCount codeRules content)
      (reviewCode path content) := by
  have hLong : ∀ f ∈ longLines 0 (Text.lines content.toList),
      f.IsWellFormed codeProfile.name (lineCount content) := by
    refine areWellFormed_walk (fun _ => rfl) (fun index line rest => ⟨_, ?_, rfl⟩) hCount
    exact forall_mem_ite ⟨rfl, Finding.isInUnit_fullConfidence, rfl⟩
  have hUndocumented : ∀ f ∈ undocumented 0 (Text.lines content.toList),
      f.IsWellFormed codeProfile.name (lineCount content) := by
    refine areWellFormed_walk (fun _ => rfl) (fun index line rest => ⟨_, ?_, rfl⟩) hCount
    intro f hMem
    -- at most one suggestion, where the line defines a public name
    split at hMem
    · split at hMem
      · cases hMem
      · rw [List.mem_singleton.mp hMem]
        exact ⟨rfl, Finding.isInUnit_hundredths (n := 50) (by decide), rfl⟩
    · cases hMem
  exact conforms_of_scan (by decide) hCount rfl rfl rfl get?_withMetric hLong hUndocumented

/-- A file that is none of tests is not scanned, and has no hits. -/
theorem conforms_reviewTests (hCount : lineCount content < 2 ^ 32) :
    Conforms testProfile.name (lineCount content)
      (if isTestPath path then matchCount testRules content else 0)
      (reviewTests path content context) := by
  have hAssertions : ∀ f ∈ assertionFindings content,
      f.IsWellFormed testProfile.name (lineCount content) :=
    forall_mem_ite <|
      isWellFormed_of_file rfl (Finding.isInUnit_hundredths (n := 85) (by decide)) rfl
  have hCoverage : ∀ f ∈ (functions content).map coverageSuggestion,
      f.IsWellFormed testProfile.name (lineCount content) := by
    intro f hMem
    obtain ⟨function, -, rfl⟩ := List.mem_map.mp hMem
    exact isWellFormed_of_file rfl (Finding.isInUnit_hundredths (n := 60) (by decide)) rfl
  refine conforms_tests (by decide) hCount ?_ issues_reviewTests suggestions_reviewTests ?_
    hAssertions hCoverage
  · unfold reviewTests
    cases isTestPath path <;> rfl
  · unfold reviewTests
    cases isTestPath path <;> exact get?_withMetric

end Python

namespace Security

/-- Whether the scanner asks its rules about a file: about all but manifests. -/
def isScanned (path : String) : Bool := !manifestNames.contains (manifestName path)

theorem agent_review : (review path content).agent = (findings path content).1.agent := by
  rw [review]
  cases findings path content
  rfl

theorem suggestions_review :
    (review path content).suggestions = (findings path content).1.suggestions := by
  rw [review]
  cases findings path content
  rfl

theorem hits_review : (review path content).metrics.get? "rule_hits" =
    some (.nat (findings path content).2) := by
  rw [review]
  cases findings path content
  rw [get?_withMetric, if_neg (by decide), get?_withMetric, if_pos rfl]

/-- The scanner asks no rules about a manifest. -/
theorem findings_of_manifest (hManifest : manifestName path ∈ manifestNames) :
    findings path content =
      if manifestName path = "requirements.txt" then
        ({ profile.blank with issues := openRequirements 0 (Text.lines content.toList) }, 0)
      else (reviewManifest content, 0) := by
  rw [findings]
  rcases List.mem_pair.mp hManifest with hName | hName
  · simp only [hName, if_true]
  · simp only [hName, if_true]

theorem findings_of_other (hOther : manifestName path ∉ manifestNames) :
    findings path content = Rule.scan Security.rules profile.name content profile.blank := by
  rw [manifestNames, List.mem_pair, not_or] at hOther
  rw [findings]
  simp only [if_neg hOther.1, if_neg hOther.2]

/-- An entry without a pin is reported with its line. -/
theorem areWellFormed_openRequirements (hCount : lineCount content < 2 ^ 32) :
    ∀ f ∈ openRequirements 0 (Text.lines content.toList),
      f.IsWellFormed profile.name (lineCount content) := by
  refine areWellFormed_walk (fun _ => rfl) (fun index line rest => ⟨_, ?_, rfl⟩) hCount
  intro f hMem
  -- at most one issue, where the line has a requirement
  split at hMem
  · split at hMem
    · cases hMem
    · rw [List.mem_singleton.mp hMem]
      exact ⟨rfl, Finding.isInUnit_fullConfidence, rfl⟩
  · cases hMem

/-- What is reported of a package manifest has no line. -/
theorem isWellFormed_reviewManifest :
    (reviewManifest content).IsWellFormed profile.name count := by
  unfold reviewManifest
  split
  · refine ⟨rfl, ?_, List.forall_mem_nil _⟩
    intro f hMem
    obtain ⟨table, -, hTable⟩ := List.mem_flatMap.mp hMem
    unfold openPackages at hTable
    split at hTable
    · obtain ⟨entry, -, rfl⟩ := List.mem_map.mp hTable
      exact isWellFormed_of_file rfl Finding.isInUnit_fullConfidence rfl
    · cases hTable
  · refine ⟨rfl, List.forall_mem_nil _, ?_⟩
    intro f hMem
    rw [List.mem_singleton.mp hMem]
    exact isWellFormed_of_file rfl Finding.isInUnit_fullConfidence rfl

/-- So whatever is found in a manifest is well-formed. -/
theorem isWellFormed_findings (hManifest : manifestName path ∈ manifestNames)
    (hCount : lineCount content < 2 ^ 32) :
    (findings path content).1.IsWellFormed profile.name (lineCount content) := by
  rw [findings_of_manifest hManifest]
  split
  · exact ⟨rfl, areWellFormed_openRequirements hCount, List.forall_mem_nil _⟩
  · exact isWellFormed_reviewManifest

/-- A manifest is not scanned, and has no hits. -/
theorem conforms_review (hCount : lineCount content < 2 ^ 32) :
    Conforms profile.name (lineCount content)
      (if isScanned path then matchCount Security.rules content else 0)
      (review path content) := by
  by_cases hManifest : manifestName path ∈ manifestNames
  · -- a manifest: all findings are about its dependencies
    have hScanned : isScanned path = false := by simp [isScanned, hManifest]
    have hFindings := isWellFormed_findings hManifest hCount
    rw [hScanned]
    refine { agent := ?_, issues := ?_, suggestions := ?_, hits := ?_ }
    · rw [agent_review]
      exact hFindings.agent
    · rw [issues_review]
      exact hFindings.issues
    · rw [suggestions_review]
      exact hFindings.suggestions
    · rw [hits_review, findings_of_manifest hManifest]
      split <;> rfl
  · -- any other file: all findings come from rules
    have hScanned : isScanned path = true := by simp [isScanned, hManifest]
    rw [hScanned]
    refine conforms_of_scan (by decide) hCount ?_ ?_ ?_ ?_ (List.forall_mem_nil _)
      (List.forall_mem_nil _)
    · rw [agent_review, findings_of_other hManifest]
      rfl
    · rw [issues_review, findings_of_other hManifest, List.append_nil]
    · rw [suggestions_review, findings_of_other hManifest, List.append_nil]
    · rw [hits_review, findings_of_other hManifest]

end Security

/-- A built-in agent with its table of rules and the files that it asks them about. -/
structure Reviewer where
  agent : Agent
  rules : List Rule
  asksRules : (path : String) → Bool

/-- The built-in agents, in the order of their registration. -/
def reviewers (client : Option Llm.Client) : List Reviewer :=
  [⟨React.codeAgent client, React.codeRules, fun _ => true⟩,
    ⟨Python.codeAgent client, Python.codeRules, fun _ => true⟩,
    ⟨React.testAgent client, React.testRules, React.isTestPath⟩,
    ⟨Python.testAgent client, Python.testRules, Python.isTestPath⟩,
    ⟨Security.agent client, Security.rules, Security.isScanned⟩]

/-- How many hits the rules of an agent have in a file, if it asks them. -/
def Reviewer.hitCount (r : Reviewer) (path content : String) : Nat :=
  if r.asksRules path then matchCount r.rules content else 0

/-- Every built-in agent is a reviewer whose reviews conform. -/
theorem exists_conforms {r : Reviewer} (hMem : r ∈ reviewers client) :
    ∃ p review, Reviews r.agent p review ∧
      ∀ path content context, lineCount content < 2 ^ 32 →
        Conforms p.name (lineCount content) (r.hitCount path content)
          (review path content context) := by
  simp only [reviewers, List.mem_cons, List.not_mem_nil, or_false] at hMem
  rcases hMem with rfl | rfl | rfl | rfl | rfl
  · exact ⟨_, _, reviews_reactCode, fun _ _ _ => React.conforms_reviewCode⟩
  · exact ⟨_, _, reviews_pythonCode, fun _ _ _ => Python.conforms_reviewCode⟩
  -- what an agent asks its rules about is read off its entry before it is compared
  · refine ⟨_, _, reviews_reactTest, fun path content context hCount => ?_⟩
    simp only [Reviewer.hitCount]
    exact React.conforms_reviewTests hCount
  · refine ⟨_, _, reviews_pythonTest, fun path content context hCount => ?_⟩
    simp only [Reviewer.hitCount]
    exact Python.conforms_reviewTests hCount
  · refine ⟨_, _, reviews_security, fun path content _ hCount => ?_⟩
    simp only [Reviewer.hitCount]
    exact Security.conforms_review hCount

/-- What is said of the analysis of a file by a built-in agent. -/
structure Reviewer.Says (r : Reviewer) (path content : String) (run : Run RawResult) : Prop where
  ends     : run.duration = some .zero
  accepted : (∃ result, run.ending = .answered result) ↔ r.agent.validate path content = true
  rejected : r.agent.validate path content = false → run.ending =
               .failed (.invalidInput r.agent.name ("unsupported or empty input: " ++ path))
  agent    : ∀ result, run.ending = .answered result → result.agent = r.agent.name
  findings : ∀ result, run.ending = .answered result →
               ∀ f ∈ result.issues ++ result.suggestions, f.agent = r.agent.name ∧
                 (∃ m e, f.confidence = .finite false m e ∧ (m : ℚ) * 2 ^ e ≤ 1) ∧
                 ∀ n, f.line = some n → 1 ≤ n.toNat ∧ n.toNat ≤ lineCount content
  hits     : ∀ result, run.ending = .answered result → result.metrics.get? "rule_hits" =
               some (.nat (if r.asksRules path then
                 ((Text.lines content.toList ×ˢ r.rules).filter fun e =>
                   e.2.matchesLine e.1).length
               else 0))

/--
**Reviews are well formed.** Take any of the built-in agents, with or without a language model,
any path, any context and any content of fewer than 2 ^ 32 lines. The analysis ends, with a
result iff the agent accepts the file, and else with the error that the input is invalid. The
result, each of its issues and each of its suggestions bear the name of the agent; their
confidences lie between zero and one; a line number that is given is between one and the number
of lines; and the result counts the pairs of a line and a rule of the agent that matches it, if
the agent asks its rules about the file, and none if not.
-/
theorem reviews_are_well_formed (client : Option Llm.Client) :
    (reviewers client).map Reviewer.agent =
        (Registry.builtinEntries client).map (fun e => e.2.agent) ∧
      ∀ r ∈ reviewers client, ∀ (path content : String) (context : Context),
        lineCount content < 2 ^ 32 →
          r.Says path content (r.agent.analyze path content context) := by
  refine ⟨rfl, ?_⟩
  intro r hMem path content context hCount
  obtain ⟨p, review, hReviews, hConforms⟩ := exists_conforms hMem
  have hValid : r.agent.validate path content = acceptsFile p.extensions path content := by
    rw [Agent.validate, hReviews.extensions]
  have hRun := hReviews.analyze path content context
  rw [Profile.onFile, ← hValid] at hRun
  cases hAccepts : r.agent.validate path content with
  | false =>
    -- the run fails at once
    rw [hAccepts] at hRun
    have hEnding : (r.agent.analyze path content context).ending =
        .failed (p.rejection path) := by
      rw [hRun]
      rfl
    have hNone : ∀ result, (r.agent.analyze path content context).ending ≠ .answered result := by
      intro result hAnswered
      rw [hEnding] at hAnswered
      cases hAnswered
    refine ⟨by rw [hRun]; rfl, ?_, ?_, ?_, ?_, ?_⟩
    · rw [hAccepts]
      constructor
      · rintro ⟨result, hAnswered⟩
        exact absurd hAnswered (hNone result)
      · intro hNever
        cases hNever
    · intro _
      rw [hEnding, hReviews.name]
      rfl
    · exact fun result hAnswered => absurd hAnswered (hNone result)
    · exact fun result hAnswered => absurd hAnswered (hNone result)
    · exact fun result hAnswered => absurd hAnswered (hNone result)
  | true =>
    rw [hAccepts] at hRun
    have hEnding := hReviews.ending_eq hAccepts context
    -- what is answered is the review
    have hReview : ∀ {result}, (r.agent.analyze path content context).ending =
        .answered result → Conforms r.agent.name (lineCount content) (r.hitCount path content)
          result := by
      intro result hAnswered
      rw [hEnding] at hAnswered
      rw [← Ending.answered.inj hAnswered, hReviews.name]
      exact hConforms path content context hCount
    refine ⟨by rw [hRun]; rfl, ?_, ?_, ?_, ?_, ?_⟩
    · rw [hAccepts]
      exact ⟨fun _ => rfl, fun _ => ⟨_, hEnding⟩⟩
    · intro hRejected
      rw [hAccepts] at hRejected
      cases hRejected
    · exact fun result hAnswered => (hReview hAnswered).agent
    · intro result hAnswered f hFinding
      have hFormed := List.forall_mem_append.mpr
        ⟨(hReview hAnswered).issues, (hReview hAnswered).suggestions⟩ f hFinding
      exact ⟨hFormed.agent, hFormed.confidence, hFormed.line⟩
    · exact fun result hAnswered => (hReview hAnswered).hits

/-- One rule of the scanner has a hit on one of two lines; the agent for Python does not accept the
file under another extension. -/
theorem reviews_are_well_formed_call :
    lineCount "def f():\n    eval(x)\n" < 2 ^ 32 ∧
      (∃ result, ((Security.agent none).analyze "a.py" "def f():\n    eval(x)\n" .empty).ending =
          .answered result ∧ result.metrics.get? "rule_hits" = some (.nat 1)) ∧
      ((Python.codeAgent none).analyze "a.js" "def f():\n    eval(x)\n" .empty).ending =
        .failed (.invalidInput "python_code" "unsupported or empty input: a.js") := by
  have hCount : lineCount "def f():\n    eval(x)\n" < 2 ^ 32 := by decide
  have hSays := fun (r : Reviewer) (hMem : r ∈ reviewers none) path =>
    (reviews_are_well_formed none).2 r hMem path "def f():\n    eval(x)\n" .empty hCount
  refine ⟨hCount, ?_, ?_⟩
  · have hScanner := hSays _ (List.mem_of_getElem? (i := 4) rfl) "a.py"
    obtain ⟨result, hAnswered⟩ := hScanner.accepted.mpr (by decide)
    have hMatches : matchCount Security.rules "def f():\n    eval(x)\n" = 1 := by decide +kernel
    refine ⟨result, hAnswered, ?_⟩
    rw [hScanner.hits result hAnswered, if_pos (by decide)]
    exact congrArg (fun n => some (Json.nat n)) hMatches
  · exact (hSays _ (List.mem_of_getElem? (i := 1) rfl) "a.js").rejected (by decide)

end Builtin

end ReviewPanel
