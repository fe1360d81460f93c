import Mathlib.Data.List.Perm.Subperm
import Mathlib.Logic.Relation
import ReviewPanel.Proofs.Gates
import ReviewPanel.Proofs.Report

/-!
# Verdicts — more issues never help

The built-in gates see nothing of a report but its issues, and of these they see
how many there are of some kind: a gate fails when too many are. Hence a gate
that fails still fails when issues are added (`Gate.IsMonotone`), and does not
care for their order, since a list that is put in another order has all issues
of the list and the other way round.

Whatever is built from such gates has the same property
(`Evaluator.failedCount_mono`), and the issues of a run only become more when
an agent that failed succeeds after all (`Slots.Recovers`).

* `codeQuality_isMonotone`        — more issues of high severity, more reason to fail.
* `securityCompliance_isMonotone` — the same of blocked kinds.
* `failedCount_mono`              — judgements by such gates.
* `Recovers.issues_subperm`       — what a recovery adds to a report.
* `more_issues_never_help`        — all of this, for any thresholds.
-/

namespace ReviewPanel

open Report

/-! ## Single gates -/

namespace Gate

/-- A gate that passes a report passes every report with fewer issues. -/
def IsMonotone (g : Gate) : Prop :=
  ∀ r r' : Report, r.issues.Subperm r'.issues →
    (g.evaluate r').passed = true → (g.evaluate r).passed = true

/-- It counts issues of a severity, and more issues are not fewer. -/
theorem codeQuality_isMonotone (limit : Nat) : (codeQuality limit).IsMonotone := by
  intro r r' hIssues hPasses
  rw [← Bool.not_eq_false, codeQuality_fails_iff] at hPasses ⊢
  have hFewer : r.countSeverity .high ≤ r'.countSeverity .high := (hIssues.filter _).length_le
  omega

/-- It counts issues of some kinds. -/
theorem securityCompliance_isMonotone (kinds : List String) :
    (securityCompliance kinds).IsMonotone := by
  intro r r' hIssues hPasses
  rw [← Bool.not_eq_false, securityCompliance_fails_iff, not_not] at hPasses ⊢
  have hFewer : (r.issuesOfKinds kinds).Subperm (r'.issuesOfKinds kinds) := hIssues.filter _
  -- where none of more issues is blocked, none of fewer is
  rw [hPasses] at hFewer
  exact List.subperm_nil.mp hFewer

/-- It does not look at the issues at all. -/
theorem testCoverage_isMonotone : testCoverage.IsMonotone := fun _ _ _ _ => rfl

theorem isMonotone_of_mem_builtinGates {c : GateConfig} {g : Gate}
    (hMem : g ∈ Evaluator.builtinGates c) : g.IsMonotone := by
  simp only [Evaluator.builtinGates, List.mem_cons, List.not_mem_nil, or_false] at hMem
  obtain rfl | rfl | rfl := hMem
  · exact codeQuality_isMonotone _
  · exact securityCompliance_isMonotone _
  · exact testCoverage_isMonotone

end Gate

/-! ## Judgements -/

/-- How many gates a judgement found failing. -/
def GateReport.failedCount (r : GateReport) : Nat := r.results.countP fun x => !x.passed

namespace Evaluator

variable {e : Evaluator} {report r r' : Report} {names : List String}

/-- Every failed gate has one error. -/
theorem length_errors_evaluate :
    (e.evaluate report names).errors.length = (e.evaluate report names).failedCount := by
  rw [GateReport.failedCount, evaluate]
  simp only
  rw [List.length_map, List.countP_map, List.countP_eq_length_filter]
  rfl

theorem failedCount_eq_zero_iff :
    (e.evaluate report names).failedCount = 0 ↔ (e.evaluate report names).passed = true := by
  rw [← errors_eq_nil_iff, ← length_errors_evaluate, List.length_eq_zero_iff]

/-- The gates that fail are those with a complaint; an unknown name is one. -/
theorem failedCount_eq :
    (e.evaluate report names).failedCount =
      names.countP fun name => (e.complaint? report name).isSome := by
  rw [← length_errors_evaluate, errors_evaluate, List.length_filterMap_eq_countP]

/-- Where every gate is monotone, more issues make no gate pass that failed. -/
theorem failedCount_mono (hGates : ∀ g ∈ e.gates, g.IsMonotone)
    (hIssues : r.issues.Subperm r'.issues) (names : List String) :
    (e.evaluate r names).failedCount ≤ (e.evaluate r' names).failedCount := by
  rw [failedCount_eq, failedCount_eq]
  apply List.countP_mono_left
  intro name _ hComplaint
  rw [Option.isSome_iff_ne_none, Ne, complaint?_eq_none_iff] at hComplaint ⊢
  -- if all went well afterwards, it would have gone well before
  intro hAfter
  apply hComplaint
  intro g hKnown
  obtain ⟨hMem, -⟩ := Roster.mem_of_find? hKnown
  exact hGates g hMem r r' hIssues (hAfter g hKnown)

/-- Judgements fail with any issues added to those that they fail for. -/
theorem fails_mono (hGates : ∀ g ∈ e.gates, g.IsMonotone)
    (hIssues : r.issues.Subperm r'.issues) (hFails : (e.evaluate r names).passed = false) :
    (e.evaluate r' names).passed = false := by
  rw [← Bool.not_eq_true, ← failedCount_eq_zero_iff] at hFails ⊢
  have hMore := failedCount_mono hGates hIssues names
  omega

theorem gates_ofConfig (c : GateConfig) : (ofConfig c).gates = builtinGates c := rfl

theorem ofConfig_isMonotone {c : GateConfig} : ∀ g ∈ (ofConfig c).gates, g.IsMonotone :=
  fun _ hMem => Gate.isMonotone_of_mem_builtinGates (gates_ofConfig c ▸ hMem)

/-- Judgements by the built-in gates do not depend on the order of issues. -/
theorem failedCount_eq_of_perm {c : GateConfig} (hIssues : r.issues.Perm r'.issues) :
    ((ofConfig c).evaluate r' names).failedCount =
      ((ofConfig c).evaluate r names).failedCount := by
  -- each of two lists in another order has all issues of the other
  have hFewer := failedCount_mono (ofConfig_isMonotone (c := c)) hIssues.symm.subperm names
  have hMore := failedCount_mono (ofConfig_isMonotone (c := c)) hIssues.subperm names
  omega

end Evaluator

/-! ## Slots that recover -/

namespace Slots

variable {s s' : Slots}

/-- A slot that failed holds a result instead, or the slots stand in another order. -/
inductive RecoversOnce : Slots → Slots → Prop
  | succeeds {before after : List Slot} {key : String} {f : Failure} {result : RawResult} :
      RecoversOnce ⟨before ++ ⟨key, .failure f⟩ :: after⟩
        ⟨before ++ ⟨key, .success result⟩ :: after⟩
  | reordered {s s' : Slots} (hOrder : s.toList.Perm s'.toList) : RecoversOnce s s'

/-- Slots that failed hold results instead, and the order may be another. -/
def Recovers : Slots → Slots → Prop := Relation.ReflTransGen RecoversOnce

/-- A slot that recovers brings its issues, and the others keep theirs. -/
theorem RecoversOnce.issues_subperm (hStep : RecoversOnce s s') :
    (ofSlots s).issues.Subperm (ofSlots s').issues := by
  rw [issues_ofSlots, issues_ofSlots]
  cases hStep with
  | succeeds =>
    -- a failure brings in nothing, so all that there was stays where it was
    simp only [List.flatMap_append, List.flatMap_cons]
    exact ((List.sublist_append_right _ _).append_left _).subperm
  | reordered hOrder => exact (hOrder.flatMap_right _).subperm

/-- A recovery adds issues to a report and takes none away. -/
theorem Recovers.issues_subperm (hRecovers : s.Recovers s') :
    (ofSlots s).issues.Subperm (ofSlots s').issues := by
  induction hRecovers with
  | refl => exact List.Subperm.refl _
  | tail _ hStep ih => exact ih.trans hStep.issues_subperm

/-- Inserting a result where a failure is found is a recovery. -/
theorem recovers_insert {key : String} {f : Failure} (hFound : s.get? key = some (.failure f))
    (result : RawResult) : s.Recovers (s.insert key (.success result)) := by
  obtain ⟨⟨k, o⟩, hSlot, rfl⟩ := Option.map_eq_some_iff.mp hFound
  obtain ⟨-, rfl⟩ := Roster.mem_of_find? hSlot
  -- the new slot takes the place of the one that is found
  obtain ⟨before, after, hBefore, hAfter⟩ :=
    @Roster.exists_put_of_find? _ Slot.key ⟨k, .success result⟩ _ _ hSlot
  have hOld : s = ⟨before ++ ⟨k, .failure f⟩ :: after⟩ := congrArg Slots.mk hBefore
  have hNew : s.insert k (.success result) = ⟨before ++ ⟨k, .success result⟩ :: after⟩ :=
    congrArg Slots.mk hAfter
  rw [hNew, hOld]
  exact .single .succeeds

end Slots

namespace Evaluator

/--
**More issues never help.** Let the built-in gates have any thresholds, and let
any list of names be judged. If a report has all issues of another, each as often
at least, then no fewer gates fail, and if the judgement of the other fails, so
does its own. If two reports have the same issues, in whatever order, then both
judgements pass or both fail, with as many failing gates. So no recovery turns a
failing judgement of the slots of a run into a passing one: neither that slots
which failed hold results instead, as when results are inserted under their keys,
nor another order of the slots.
-/
theorem more_issues_never_help (c : GateConfig) (names : List String) :
    (∀ r r' : Report, r.issues.Subperm r'.issues →
      ((ofConfig c).evaluate r names).failedCount ≤ ((ofConfig c).evaluate r' names).failedCount ∧
        (((ofConfig c).evaluate r names).passed = false →
          ((ofConfig c).evaluate r' names).passed = false)) ∧
    (∀ r r' : Report, r.issues.Perm r'.issues →
      ((ofConfig c).evaluate r' names).failedCount = ((ofConfig c).evaluate r names).failedCount ∧
        ((ofConfig c).evaluate r' names).passed = ((ofConfig c).evaluate r names).passed) ∧
    (∀ s s' : Slots, s.Recovers s' →
      ((ofConfig c).evaluate (ofSlots s) names).passed = false →
        ((ofConfig c).evaluate (ofSlots s') names).passed = false) ∧
    (∀ (s : Slots) key f result, s.get? key = some (.failure f) →
      s.Recovers (s.insert key (.success result))) := by
  refine ⟨?_, ?_, ?_, fun s key f result hFound => Slots.recovers_insert hFound result⟩
  · intro r r' hIssues
    exact ⟨failedCount_mono ofConfig_isMonotone hIssues names,
      fails_mono ofConfig_isMonotone hIssues⟩
  · -- with as many failures, both pass or neither does
    intro r r' hIssues
    have hCount := @failedCount_eq_of_perm r r' names c hIssues
    refine ⟨hCount, ?_⟩
    rw [Bool.eq_iff_iff, ← failedCount_eq_zero_iff, ← failedCount_eq_zero_iff, hCount]
  · -- a recovery adds issues and takes none away
    intro s s' hRecovers
    exact fails_mono ofConfig_isMonotone hRecovers.issues_subperm

/-- A run in which one agent found something and another one failed. -/
def halfRun : Slots :=
  .ofInsertions
    [("security_scanner",
        .success { RawResult.empty "scanner" with
                     issues := [.plain "vulnerability" .low "eval"] }),
      ("code_linter", .failure ⟨"Agent linter timed out after 1s", .timeout⟩)]

/-- The same run, had the other agent found something too. -/
def wholeRun : Slots :=
  halfRun.insert "code_linter"
    (.success { RawResult.empty "linter" with issues := [.plain "style" .high "long line"] })

/-- And had it come first. -/
def turnedRun : Slots := ⟨wholeRun.toList.reverse⟩

theorem more_issues_never_help_turned :
    halfRun.get? "code_linter" = some (.failure ⟨"Agent linter timed out after 1s", .timeout⟩) ∧
      halfRun.Recovers turnedRun ∧
      ((ofConfig .default).evaluate (ofSlots halfRun) ["security_compliance"]).passed = false ∧
      ((ofConfig .default).evaluate (ofSlots turnedRun) ["security_compliance"]).passed = false ∧
      (ofSlots halfRun).issues.Subperm (ofSlots wholeRun).issues ∧
      ((ofConfig .default).evaluate (ofSlots wholeRun) ["security_compliance"]).passed = false ∧
      (ofSlots wholeRun).issues.Perm (ofSlots turnedRun).issues ∧
      ((ofConfig .default).evaluate (ofSlots turnedRun) ["security_compliance"]).failedCount =
        ((ofConfig .default).evaluate (ofSlots wholeRun) ["security_compliance"]).failedCount := by
  have hFound : halfRun.get? "code_linter" =
      some (.failure ⟨"Agent linter timed out after 1s", .timeout⟩) := rfl
  have hFails :
      ((ofConfig .default).evaluate (ofSlots halfRun) ["security_compliance"]).passed = false :=
    rfl
  have hMore : (ofSlots halfRun).issues.Subperm (ofSlots wholeRun).issues :=
    (List.sublist_append_left _ [_]).subperm
  have hTurned : (ofSlots wholeRun).issues.Perm (ofSlots turnedRun).issues := .swap _ _ _
  obtain ⟨hSubperm, hPerm, hRecovery, hInsert⟩ :=
    more_issues_never_help .default ["security_compliance"]
  -- the failed slot recovers, and the slots change places
  have hRecovers : halfRun.Recovers turnedRun :=
    (hInsert _ _ _ _ hFound).tail (.reordered (List.reverse_perm _).symm)
  exact ⟨hFound, hRecovers, hFails, hRecovery _ _ hRecovers hFails, hMore,
    (hSubperm _ _ hMore).2 hFails, hTurned, (hPerm _ _ hTurned).1⟩

end Evaluator

end ReviewPanel
