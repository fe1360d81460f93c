import ReviewPanel.Proofs.Coverage
import ReviewPanel.Proofs.Gates
import ReviewPanel.Proofs.Kinds
import ReviewPanel.Proofs.Report

/-!
# Compliance — what blocks a file

By default the security gate blocks issues of two kinds. Every rule of the
security scanner has one of them (`Builtin.Security.rules_blocked`), and nothing else that
a built-in agent reports has: not what the scanner says of manifests, and none of
the issues of the other agents. So of a whole run the gate sees the rule hits of the scanner
(`Panel.IsBuiltin.blocked_eq`), one for each line and rule that match. The
scanner rejects blank files, but in these no rule matches.

Main result:

* `Panel.blocks_what_is_matched` — the security gate fails iff a rule of the
  scanner matches a line, and gives as many recommendations as there are matches.
-/

namespace ReviewPanel

/-- Whether the security gate blocks an issue by default. -/
def Finding.isBlocked (f : Finding) : Bool := GateConfig.default.blockedKinds.contains f.kind

namespace Builtin

variable {client : Option Llm.Client} {path content : String} {kinds : List String}
  {fs : List Finding}

/-- Findings of kinds that are not blocked leave nothing to count. -/
theorem HasKinds.filter_isBlocked (hKinds : HasKinds kinds fs)
    (hApart : ∀ k ∈ kinds, k ∉ GateConfig.default.blockedKinds) :
    fs.filter Finding.isBlocked = [] := by
  refine List.filter_eq_nil_iff.mpr fun f hf => ?_
  rw [Finding.isBlocked, List.contains_iff_mem]
  exact hApart _ (hKinds f hf)

/-! ## The security scanner -/

namespace Security

/-- Every rule of the scanner reports issues of a blocked kind, and asks for a
character that is not blank. -/
theorem rules_blocked : ∀ r ∈ rules, r.target = .issue ∧
    r.kind ∈ GateConfig.default.blockedKinds ∧ r.pattern.needsText = true := by
  decide +kernel

/-- The lines of a content, each with every rule of the scanner that matches it. -/
def matchedRules (content : String) : List (List Char × Rule) :=
  (Text.lines content.toList ×ˢ rules).filter fun e => e.2.matchesLine e.1

/-- A rule matches something iff it matches a line. -/
theorem matchedRules_ne_nil_iff :
    matchedRules content ≠ [] ↔
      ∃ line ∈ Text.lines content.toList, ∃ r ∈ rules, r.matchesLine line = true := by
  rw [matchedRules, Ne, List.filter_eq_nil_iff]
  simp only [Prod.forall, List.mem_product]
  push Not
  exact ⟨fun ⟨line, r, hMem, hMatch⟩ => ⟨line, hMem.1, r, hMem.2, hMatch⟩,
    fun ⟨line, hLine, r, hr, hMatch⟩ => ⟨line, r, ⟨hLine, hr⟩, hMatch⟩⟩

/-- What the scanner reports of the lines of a file, nothing for a manifest. -/
def alarms (path content : String) : List Finding :=
  if manifestName path ∈ manifestNames then []
  else (Rule.hits rules profile.name content).map Prod.snd

/-- There is an alarm for each pair of a line and a rule; a manifest is not searched. -/
theorem length_alarms :
    (alarms path content).length =
      if manifestName path ∈ manifestNames then 0 else (matchedRules content).length := by
  rw [alarms]
  split
  · rfl
  · rw [List.length_map, Rule.length_hits]
    rfl

theorem alarms_ne_nil_iff :
    alarms path content ≠ [] ↔
      manifestName path ∉ manifestNames ∧
        ∃ line ∈ Text.lines content.toList, ∃ r ∈ rules, r.matchesLine line = true := by
  rw [← matchedRules_ne_nil_iff, ← List.length_pos_iff, length_alarms, ← List.length_pos_iff]
  split
  · rename_i hManifest
    simp [hManifest]
  · rename_i hOther
    simp [hOther]

/-- A file without text has no alarms. -/
theorem alarms_eq_nil_of_blank (hBlank : ¬ HasText content) : alarms path content = [] := by
  have hChars : Text.AllBlank content.toList := by
    intro x hx
    by_contra hNot
    exact hBlank ⟨x, hx, Bool.not_eq_true _ ▸ hNot⟩
  rw [alarms, Rule.hits_eq_nil_of_blank (fun r hr => (rules_blocked r hr).2.2) hChars]
  split <;> rfl

/-- What is blocked of a review is what the rules report. -/
theorem filter_isBlocked_review :
    (review path content).issues.filter Finding.isBlocked = alarms path content := by
  rw [alarms]
  split
  · rename_i hManifest
    exact (hasKinds_manifest hManifest).filter_isBlocked (by decide)
  · rename_i hOther
    have hIssues : (review path content).issues =
        (Rule.hits rules profile.name content).map Prod.snd := by
      rw [← Rule.findingsFor_issue_hits fun r hr => (rules_blocked r hr).1]
      simp only [manifestNames, List.mem_cons, List.not_mem_nil, or_false, not_or] at hOther
      rw [issues_review, findings, if_neg hOther.1, if_neg hOther.2, Rule.issues_scan]
      rfl
    rw [hIssues, List.filter_eq_self]
    -- every hit has the kind of its rule
    intro f hf
    obtain ⟨hit, hHit, rfl⟩ := List.mem_map.mp hf
    obtain ⟨-, -, r, hr, rfl⟩ := Rule.exists_line_of_mem_hits hHit
    rw [Finding.isBlocked, List.contains_iff_mem]
    exact (rules_blocked r hr).2.1

end Security

/-! ## What an agent brings before the gate -/

/-- Of what a built-in agent reports, only the alarms of the scanner are blocked. -/
theorem filter_isBlocked_outcome {c : Category} {i : Instance}
    (hMem : i ∈ (Registry.builtin client).agents c) (context : Context) (name : String)
    (limit : Numeric.Duration) :
    ((i.agent.analyze path content context).outcome name limit).issues.filter Finding.isBlocked =
      if c = .security then Security.alarms path content else [] := by
  by_cases hCategory : c = .security
  · subst hCategory
    rw [agents_security] at hMem
    rw [List.mem_singleton.mp hMem, reviews_security.outcome_eq, if_pos rfl]
    split
    · exact Security.filter_isBlocked_review
    · -- a file is rejected only where no rule has a hit
      rename_i hRejects
      exact (Security.alarms_eq_nil_of_blank (mt acceptsFile_nil_iff.mpr hRejects)).symm
  · obtain ⟨p, review, hReviews, hKinds⟩ := hasKinds_review hMem hCategory
    rw [hReviews.outcome_eq, if_neg hCategory]
    split
    · exact (hKinds path content context).filter_isBlocked (by decide)
    · rfl

end Builtin

/-! ## What a run brings before the gate -/

namespace Panel

open Builtin

variable {client : Option Llm.Client} {p : Panel} {session : Session} {w : Workflow}
  {path content : String} {context : Option Context} {t : Template} {selected : List Selected}

/-- The blocked issues of a run are the alarms of the scanner, where it is selected. -/
theorem IsBuiltin.blocked_eq (hPanel : IsBuiltin client p)
    (hSelect : Selection.select t (p.detect path content) p.registry = .ok selected) :
    (p.resultOf w t (p.stepsOf t path content context selected)).report.issuesOfKinds
        GateConfig.default.blockedKinds =
      (selected.map Selected.category).flatMap fun c =>
        if c = .security then Security.alarms path content else [] := by
  set steps := p.stepsOf t path content context selected
  have hDescribes : (p.resultOf w t steps).Describes p t selected steps :=
    resultOf_describes hSelect
  -- step by step, so that it does not matter who reports or fails beside the scanner
  have hStep : ∀ x ∈ steps, x.outcome.issues.filter Finding.isBlocked =
      if x.selected.category = .security then Security.alarms path content else [] := by
    intro x hx
    have hMem : x.selected ∈ selected := hDescribes.complete ▸ List.mem_map_of_mem hx
    rw [congrArg Step.outcome (Execution.eq_step_of_mem_run hx)]
    exact filter_isBlocked_outcome (hPanel.picks hSelect hMem).mem _ _ _
  change (Report.ofSlots _).issues.filter Finding.isBlocked = _
  rw [Report.issues_ofSlots, List.filter_flatMap]
  change (p.resultOf w t steps).report.slots.toList.flatMap _ = _
  rw [hDescribes.slots, ← hDescribes.complete, List.flatMap_map, List.map_map, List.flatMap_map]
  exact List.flatMap_congr hStep

/-- A panel of the built-in agents with the built-in gates as they are by default. -/
structure IsDefault (client : Option Llm.Client) (p : Panel) : Prop extends
    IsBuiltin client p where
  gates : p.evaluator = .ofConfig .default

theorem isDefault_ofRegistry : IsDefault client (ofRegistry (.builtin client)) :=
  ⟨isBuiltin_ofRegistry, rfl⟩

/-- The workflows that the security gate judges. -/
def audits : List Workflow := [.securityAudit, .fullAnalysis]

/-- Of a workflow that it judges, the security gate sees the alarms of the scanner. -/
theorem IsBuiltin.blocked_of_audit (hPanel : IsBuiltin client p) (hAudit : w ∈ audits)
    (hSelect : Selection.select (TemplateSet.builtinTemplate w) (p.detect path content)
      p.registry = .ok selected) :
    (p.resultOf w (TemplateSet.builtinTemplate w) <|
        p.stepsOf (TemplateSet.builtinTemplate w) path content context
          selected).report.issuesOfKinds GateConfig.default.blockedKinds =
      Security.alarms path content := by
  rw [hPanel.blocked_eq hSelect, hPanel.map_category hSelect]
  rcases List.mem_pair.mp hAudit with rfl | rfl <;>
    simp [TemplateSet.builtinTemplate, Template.ofRequired]

theorem security_mem_gates (hAudit : w ∈ audits) :
    "security_compliance" ∈ (TemplateSet.builtinTemplate w).gates := by
  rcases List.mem_pair.mp hAudit with rfl | rfl <;> decide

theorem find?_securityCompliance :
    (Evaluator.ofConfig .default).find? "security_compliance" =
      some (.securityCompliance GateConfig.default.blockedKinds) := rfl

/-- The security gate has one result on a workflow that it judges. -/
theorem results_of_audit (hAudit : w ∈ audits) (report : Report) :
    ((Evaluator.ofConfig .default).evaluate report
        (TemplateSet.builtinTemplate w).gates).results.filter (·.gate == "security_compliance") =
      [(Gate.securityCompliance GateConfig.default.blockedKinds).evaluate report] := by
  set security := (Gate.securityCompliance GateConfig.default.blockedKinds).evaluate report
  have hSecurity : security.gate = "security_compliance" := Gate.gate_securityCompliance
  rcases List.mem_pair.mp hAudit with rfl | rfl
  · change [security].filter _ = _
    simp [hSecurity]
  · -- the neighbours of the security gate have results under their own names
    change [(Gate.codeQuality _).evaluate report, security,
      Gate.testCoverage.evaluate report].filter _ = _
    simp [hSecurity, Gate.gate_codeQuality, Gate.testCoverage]

/--
**The scanner's findings block the security gate, and nothing else does.** On a
panel of the built-in agents and the built-in gates, the security gate has one
result for every request of a workflow that it judges. It fails iff the file is
not a manifest and a rule of the scanner matches one of its lines, whatever the
other agents report or fail with; the judgement and the request then fail, too,
and it gives one recommendation for each line and each rule that match.
-/
theorem blocks_what_is_matched (hPanel : IsDefault client p) (session : Session)
    (hWorkflow : w = .securityAudit ∨ w = .fullAnalysis) (path content : String)
    (context : Option Context) :
    ∃ result gate,
      (p.execute session w path content context).2 = .ok result ∧
        result.gateReport.results.filter (·.gate == "security_compliance") = [gate] ∧
        (gate.passed = false ↔
          (Text.fileName? path).getD path ∉ ["requirements.txt", "package.json"] ∧
            ∃ line ∈ Text.lines content.toList, ∃ r ∈ Security.rules,
              r.matchesLine line = true) ∧
        (gate.passed = false →
          result.gateReport.passed = false ∧ result.success = false ∧
            gate.recommendations.length =
              ((Text.lines content.toList ×ˢ Security.rules).filter fun e =>
                e.2.matchesLine e.1).length) := by
  have hAudit : w ∈ audits := List.mem_pair.mpr hWorkflow
  obtain ⟨selected, hSelect⟩ := hPanel.exists_select w path content
  set steps := p.stepsOf (TemplateSet.builtinTemplate w) path content context selected
  set result := p.resultOf w (TemplateSet.builtinTemplate w) steps
  set gate := (Gate.securityCompliance GateConfig.default.blockedKinds).evaluate result.report
  have hReport : result.gateReport =
      (Evaluator.ofConfig .default).evaluate result.report
        (TemplateSet.builtinTemplate w).gates := by
    rw [← hPanel.gates]
    rfl
  have hBlocked : result.report.issuesOfKinds GateConfig.default.blockedKinds =
      Security.alarms path content := hPanel.blocked_of_audit hAudit hSelect
  -- the gate fails iff something is left of the blocked kinds, and only alarms are
  have hFails : gate.passed = false ↔ Security.alarms path content ≠ [] := by
    rw [Gate.securityCompliance_fails_iff, hBlocked]
  refine ⟨result, gate, hPanel.execute_eq_ok hSelect, ?_, ?_, ?_⟩
  · rw [hReport]
    exact results_of_audit hAudit result.report
  · rw [hFails, Security.alarms_ne_nil_iff]
    rfl
  · intro hFailed
    have hJudged : result.gateReport.passed = false := by
      rw [hReport]
      exact Evaluator.evaluate_fails (security_mem_gates hAudit) find?_securityCompliance hFailed
    refine ⟨hJudged, ?_, ?_⟩
    · change (result.gateReport.passed && _) = false
      rw [hJudged, Bool.false_and]
    · -- there are alarms, so the file is no manifest
      have hOther := (Security.alarms_ne_nil_iff.mp (hFails.mp hFailed)).1
      rw [Gate.length_recommendations_securityCompliance, hBlocked, Security.length_alarms,
        if_neg hOther]
      rfl

/-- Three calls on two lines are three recommendations, in a file that neither
the agent for code nor the agent for tests accepts. -/
theorem blocks_what_is_matched_notes :
    IsDefault none (ofRegistry (.builtin none)) ∧
      ∃ (result : WorkflowResult) (gate : GateResult),
        ((ofRegistry (.builtin none)).execute .empty .fullAnalysis "notes.md"
            "pickle.load(x)\neval(y); os.system(z)" none).2 = .ok result ∧
          result.gateReport.results.filter (·.gate == "security_compliance") = [gate] ∧
          gate.passed = false ∧ result.success = false ∧ gate.recommendations.length = 3 := by
  have hPanel : IsDefault none (ofRegistry (.builtin none)) := isDefault_ofRegistry
  obtain ⟨result, gate, hOk, hGate, hIff, hFailed⟩ :=
    blocks_what_is_matched hPanel .empty (Or.inr rfl) "notes.md"
      "pickle.load(x)\neval(y); os.system(z)" none
  have hMatches :
      (Security.matchedRules "pickle.load(x)\neval(y); os.system(z)").length = 3 := by
    decide +kernel
  have hSome := Security.matchedRules_ne_nil_iff.mp
    (List.ne_nil_of_length_pos (Nat.lt_of_lt_of_eq (by decide) hMatches.symm))
  have hGateFails := hIff.mpr ⟨by decide, hSome⟩
  obtain ⟨-, hNoSuccess, hLength⟩ := hFailed hGateFails
  exact ⟨hPanel, result, gate, hOk, hGate, hGateFails, hNoSuccess, hLength.trans hMatches⟩

end Panel

end ReviewPanel
