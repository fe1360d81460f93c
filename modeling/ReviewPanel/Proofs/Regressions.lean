import ReviewPanel.Proofs.Execution
import ReviewPanel.Proofs.Reviewer
import ReviewPanel.Proofs.Scan

/-!
# Regressions — what a test agent makes of the outcomes it is told

A test agent suggests regression tests for the earlier agents that reported something grave.
Two facts meet here. Inside the agent, the suggestions with that title are made from the
earlier outcomes alone: neither the rules nor the coverage of the file make any
(`Builtin.regressionTexts_tests`). Outside, the earlier outcomes are the first slots of the
run where the agents go one after the other, and the caller's where they go side by side
(`Execution.earlier_at`).

Main result:

* `Execution.regressions_recall_earlier_slots` — which slots a test agent recalls, and how.
-/

namespace ReviewPanel

/-! ## Grave issues -/

/-- The number of issues of high or critical severity in a slot; a failure has none. -/
def Slot.graveCount (s : Slot) : Nat :=
  match s.outcome with
  | .success result =>
    result.issues.countP fun i => i.severity = .high ∨ i.severity = .critical
  | .failure _ => 0

/-- The outcomes that a context tells of. -/
def Context.earlier (c : Context) : List Slot := (c.previous.map Slots.toList).getD []

/-- Grave is high or critical. -/
theorem Severity.atLeast_high_iff {s : Severity} :
    s.atLeast .high = true ↔ s = .high ∨ s = .critical := by
  cases s <;> decide

namespace Builtin

variable {p : Profile} {advice : Option String} {context : Context} {client : Option Llm.Client}
  {path content : String}

/-- The descriptions of the suggestions to add regression tests. -/
def regressionTexts (suggestions : List Finding) : List String :=
  (suggestions.filter fun f => f.title = "Add regression tests").map Finding.description

/-- What is said of the slots that hold something grave, in their order. -/
def recalled (slots : List Slot) : List String :=
  (slots.filter fun s => 0 < s.graveCount).map fun s =>
    s!"{s.key} reported {s.graveCount} high severity issues"

/-- The number that the agent counts in a result is that of the grave issues of its slot. -/
theorem length_filter_atLeast (key : String) (result : RawResult) :
    (result.issues.filter fun i => i.severity.atLeast .high).length =
      Slot.graveCount ⟨key, .success result⟩ := by
  rw [← List.countP_eq_length_filter]
  refine List.countP_congr fun i _ => ?_
  rw [Severity.atLeast_high_iff, decide_eq_true_iff]

/-- The agent sees the slots that hold something grave, each with its number of grave issues. -/
theorem graveFindings_eq : graveFindings context =
    (context.earlier.filter fun s => 0 < s.graveCount).map fun s => (s.key, s.graveCount) := by
  unfold graveFindings Context.earlier
  cases context.previous with
  | none => rfl
  | some slots =>
    obtain ⟨list⟩ := slots
    show List.filter _ (List.map _ (Slots.mk list).successes) = (list.filter _).map _
    -- slot by slot: what is collected from one does not depend on the others
    induction list with
    | nil => rfl
    | cons slot rest ih =>
      obtain ⟨key, outcome⟩ := slot
      cases outcome with
      | failure f => exact ih
      | success result =>
        have hCount := length_filter_atLeast key result
        show List.filter _ ((key, _) :: List.map _ (Slots.mk rest).successes) = _
        rw [List.filter_cons, List.filter_cons, ih, hCount]
        split
        · rfl
        · rfl

/-- Every suggestion that is made from the earlier outcomes asks for regression tests. -/
theorem regressionTexts_regressionSuggestions :
    regressionTexts (regressionSuggestions p advice context) = recalled context.earlier := by
  have hTitles : ∀ f ∈ regressionSuggestions p advice context,
      decide (f.title = "Add regression tests") = true := by
    intro f hMem
    obtain ⟨entry, -, rfl⟩ := List.mem_map.mp hMem
    rfl
  rw [regressionTexts, List.filter_eq_self.mpr hTitles, regressionSuggestions, graveFindings_eq,
    List.map_map, List.map_map]
  rfl

/-- Findings of other titles are not about regressions. -/
theorem regressionTexts_append {fs gs : List Finding}
    (hOther : ∀ f ∈ fs, f.title ≠ "Add regression tests") :
    regressionTexts (fs ++ gs) = regressionTexts gs := by
  have hNone : fs.filter (fun f => f.title = "Add regression tests") = [] :=
    List.filter_eq_nil_iff.mpr fun f hMem => by simpa using hOther f hMem
  rw [regressionTexts, List.filter_append, hNone, List.nil_append]
  rfl

/-! ## Test agents -/

/-- A suggestion to add tests for something has another title. -/
theorem coverageTitle_ne (name : String) : s!"Add tests for {name}" ≠ "Add regression tests" := by
  intro hEq
  -- the fifth letter tells them apart
  have hLetters : "Add tests for ".toList ++ name.toList = "Add regression tests".toList := by
    rw [← String.toList_append]
    exact congrArg String.toList hEq
  have hFifth : 't' = 'r' := Option.some.inj (congrArg (·[4]?) hLetters)
  cases hFifth

/-- Of all that a review of tests suggests, only what comes from the earlier outcomes asks for
regression tests. -/
theorem regressionTexts_tests {rules : List Rule} {isTest : Bool} {coverage : List Finding}
    (hTarget : ∀ r ∈ rules, r.target = .issue)
    (hCoverage : ∀ f ∈ coverage, f.title ≠ "Add regression tests") :
    regressionTexts
        ((if isTest then (Rule.scan rules p.name content p.blank).1.suggestions else coverage) ++
          regressionSuggestions p advice context) =
      recalled context.earlier := by
  rw [regressionTexts_append, regressionTexts_regressionSuggestions]
  cases isTest with
  | false => exact hCoverage
  | true =>
    -- a rule that reports issues suggests nothing
    intro f hMem
    obtain ⟨-, -, r, hr, hSuggests, -⟩ := Rule.exists_rule_of_mem_findingsFor hMem
    rw [hTarget r hr] at hSuggests
    cases hSuggests

/-- The regressions of a review are those it recalls, its skeletons apart. -/
theorem React.regressionTexts_reviewTests :
    regressionTexts (reviewTests path content context).suggestions = recalled context.earlier := by
  rw [suggestions_reviewTests]
  refine regressionTexts_tests (by decide) ?_
  intro f hMem
  obtain ⟨component, -, rfl⟩ := List.mem_map.mp hMem
  exact coverageTitle_ne component

/-- So are these. -/
theorem Python.regressionTexts_reviewTests :
    regressionTexts (reviewTests path content context).suggestions = recalled context.earlier := by
  rw [suggestions_reviewTests]
  refine regressionTexts_tests (by decide) ?_
  intro f hMem
  obtain ⟨function, -, rfl⟩ := List.mem_map.mp hMem
  exact coverageTitle_ne function

/-- The built-in test agents. -/
def testAgents (client : Option Llm.Client) : List Agent :=
  [React.testAgent client, Python.testAgent client]

/-- Every test agent is a reviewer that recalls what its context tells of. -/
theorem exists_regressionTexts {a : Agent} (hMem : a ∈ testAgents client) :
    ∃ p review, Reviews a p review ∧ ∀ path content context,
      regressionTexts (review path content context).suggestions = recalled context.earlier := by
  rcases List.mem_pair.mp hMem with rfl | rfl
  · exact ⟨_, _, reviews_reactTest, fun _ _ _ => React.regressionTexts_reviewTests⟩
  · exact ⟨_, _, reviews_pythonTest, fun _ _ _ => Python.regressionTexts_reviewTests⟩

end Builtin

/-! ## Runs -/

namespace Execution

variable {t : Template} {path content : String} {context : Context} {selected : List Selected}
  {steps : List Step} {i : Nat}

/-- The outcomes that the agent at a place is told of: those of the slots before it in a pipeline,
those that the caller gave if all go side by side. -/
def earlierSlots (t : Template) (context : Context) (steps : List Step) (i : Nat) : List Slot :=
  if t.parallel then context.earlier else (slots steps).toList.take i

/-- With distinct keys, the slot at a place is that of the step at this place. -/
theorem exists_step_of_slot (hKeys : (timingKeys steps).Nodup) {slot : Slot}
    (hSlot : (slots steps).toList[i]? = some slot) :
    ∃ s, steps[i]? = some s ∧ s.slot = slot := by
  rw [slots_toList hKeys, List.getElem?_map] at hSlot
  exact Option.map_eq_some_iff.mp hSlot

/-- The steps of a run are those of the selected agents, in their order. -/
theorem selected_at {s : Step} (hAt : (run t path content context selected)[i]? = some s) :
    selected[i]? = some s.selected := by
  have hMap : (run t path content context selected).map Step.selected = selected :=
    map_selected_run
  rw [← hMap, List.getElem?_map, hAt]
  rfl

/-- What the step at a place is told of. -/
theorem earlier_at (hKeys : (Selection.keys selected).Nodup) {s : Step}
    (hAt : (run t path content context selected)[i]? = some s) :
    s.context.earlier = earlierSlots t context (run t path content context selected) i := by
  unfold earlierSlots
  cases hMode : t.parallel with
  | true =>
    -- everyone is told what the caller said
    have hSteps : run t path content context selected =
        sideBySide ⟨path, content, t.deadline⟩ context selected := by
      simp [run, hMode]
    rw [hSteps] at hAt
    obtain ⟨x, -, rfl⟩ := List.mem_map.mp (List.mem_of_getElem? hAt)
    rfl
  | false =>
    have hSteps : run t path content context selected =
        oneByOne ⟨path, content, t.deadline⟩ context selected := by
      simp [run, hMode]
    have hTimes : timingKeys (run t path content context selected) = Selection.keys selected :=
      timingKeys_run
    rw [← hTimes] at hKeys
    rw [hSteps] at hAt hKeys ⊢
    -- whatever the caller said is replaced
    rw [congrArg Step.context (oneByOne_at hAt), slots_take hKeys]
    rfl

/--
**Recall of earlier slots.** Take any run of a selection, and a test agent at some place in it
whose slot is a success. Its suggestions to add regression tests are, one to one and in their
order, those that the slots with something grave give rise to: each says the key of the slot and
the number of its issues of high or critical severity. One after the other, these are the slots
before its own, whatever the caller said of earlier outcomes; side by side, they are the slots
that the caller gave, and none if the caller gave none.

`plan` is the template that the agents were selected for, `t` the one that
they are run under.
-/
theorem regressions_recall_earlier_slots {plan : Template} {stack : Stack} {registry : Registry}
    (hSelect : Selection.select plan stack registry = .ok selected)
    (client : Option Llm.Client) (t : Template) (path content : String) (context : Context) :
    let steps := run t path content context selected
    ∀ {i : Nat} {s : Selected} {key : String} {result : RawResult},
      selected[i]? = some s → s.choice.agent ∈ Builtin.testAgents client →
      (slots steps).toList[i]? = some ⟨key, .success result⟩ →
        (t.parallel = false →
          Builtin.regressionTexts result.suggestions =
            Builtin.recalled ((slots steps).toList.take i)) ∧
        (t.parallel = true →
          Builtin.regressionTexts result.suggestions =
            match context.previous with
            | some previous => Builtin.recalled previous.toList
            | none => []) := by
  intro steps i s key result hChosen hTests hSlot
  have hNodup := Selection.keys_nodup hSelect
  have hKeys : (timingKeys steps).Nodup := by
    rw [timingKeys_run]
    exact hNodup
  -- the slot is that of a step, which is an analysis by the agent
  obtain ⟨taken, hAt, hTaken⟩ := exists_step_of_slot hKeys hSlot
  have hSelected : taken.selected = s :=
    Option.some.inj ((selected_at hAt).symm.trans hChosen)
  have hOutcome : (s.choice.agent.analyze path content taken.context).outcome s.choice.name
      t.deadline = .success result := by
    have hStep := congrArg Step.outcome (eq_step_of_mem_run (List.mem_of_getElem? hAt))
    rw [← hSelected]
    exact hStep.symm.trans (congrArg Slot.outcome hTaken)
  obtain ⟨p, review, hReviews, hTexts⟩ := Builtin.exists_regressionTexts hTests
  rw [hReviews.outcome_eq] at hOutcome
  split at hOutcome
  · -- the file was accepted, and the result is the review of it
    rw [← Outcome.success.inj hOutcome, hTexts, earlier_at hNodup hAt, earlierSlots]
    refine ⟨fun hMode => ?_, fun hMode => ?_⟩
    · rw [hMode]
      rfl
    · rw [hMode]
      show Builtin.recalled context.earlier = _
      unfold Context.earlier
      cases context.previous with
      | none => rfl
      | some previous => rfl
  · cases hOutcome

end Execution

/-! ## An alarmed panel

One agent fails and another reports two grave issues, a slight one and a grave suggestion, before
the agent for Python tests looks at the file. The caller tells of an outcome of its own.
-/

def RawResult.alarming : RawResult :=
  { RawResult.empty "wary_scanner" with
    issues := [.plain "secret" .critical "Key", .plain "style" .low "Tab",
      .plain "injection" .high "Query"]
    suggestions := [.plain "injection" .high "Escape"] }

def Registry.alarmedEntries : List (Category × Instance) :=
  [(.code, ⟨0, .ofRun "broken_code" (.refused (.executionFailed "broken_code" "boom"))⟩),
    (.security, ⟨1, .ofRun "wary_scanner" (.immediate [] (.answered .alarming))⟩),
    (.testing, ⟨2, Builtin.Python.testAgent none⟩)]

def Template.alarmed : Template := .ofRequired [.code, .security, .testing]

def Selection.alarmed : List Selected :=
  Registry.alarmedEntries.map fun e => ⟨e.1, true, .fallback, e.2⟩

def Context.alarmed : Context :=
  Context.empty.withPrevious ⟨[⟨"code_wary_linter", .success .alarming⟩]⟩

namespace Execution

theorem regressions_recall_earlier_slots_alarmed :
    Selection.select .alarmed .unknown (Registry.empty.registerAll Registry.alarmedEntries) =
        .ok Selection.alarmed ∧
      (∃ key result,
        (slots (run { Template.alarmed with parallel := false } "a.py" "x" .alarmed
            Selection.alarmed)).toList[2]? = some ⟨key, .success result⟩ ∧
          Builtin.regressionTexts result.suggestions =
            ["security_wary_scanner reported 2 high severity issues"]) ∧
      ∃ key result,
        (slots (run { Template.alarmed with parallel := true } "a.py" "x" .alarmed
            Selection.alarmed)).toList[2]? = some ⟨key, .success result⟩ ∧
          Builtin.regressionTexts result.suggestions =
            ["code_wary_linter reported 2 high severity issues"] := by
  have hSelect : Selection.select .alarmed .unknown
      (Registry.empty.registerAll Registry.alarmedEntries) = .ok Selection.alarmed := rfl
  have hTests : Builtin.Python.testAgent none ∈ Builtin.testAgents none := by
    simp [Builtin.testAgents]
  refine ⟨hSelect, ⟨_, _, rfl, ?_⟩, ⟨_, _, rfl, ?_⟩⟩
  · -- one after the other, the slots of the run come before
    have hPipeline := (regressions_recall_earlier_slots hSelect none
      { Template.alarmed with parallel := false } "a.py" "x" .alarmed (i := 2)
      rfl hTests rfl).1 rfl
    exact hPipeline.trans rfl
  · -- side by side, only those of the given context do
    have hAbreast := (regressions_recall_earlier_slots hSelect none
      { Template.alarmed with parallel := true } "a.py" "x" .alarmed (i := 2)
      rfl hTests rfl).2 rfl
    exact hAbreast.trans rfl

end Execution

end ReviewPanel
