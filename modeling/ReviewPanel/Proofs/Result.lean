import ReviewPanel.Proofs.Gates
import ReviewPanel.Proofs.Panel
import ReviewPanel.Proofs.Report
import ReviewPanel.Proofs.Table

/-!
# Results — what they say of a run

The agents that a result names, the slots of its report, the keys of its times
and the failures among its errors are all read off the steps of one run; its
success and its other errors are read off the judgement of the gates on that
report. `WorkflowResult.Describes` says how the parts agree.

Success and errors are put together from different lists, so it is a question
whether a failure is always explained. It is, but for one run: where no agent
was there to be selected, nothing succeeded and nothing failed.

Main results:

* `resultOf_describes`    — the result of a run describes it.
* `result_describes_run`  — so does every result of a request.
* `failure_is_explained`  — a result without success has an error, unless no
  agent was selected.
-/

namespace ReviewPanel

/-! ## An audit that requires nobody -/

/-- A configuration under which an audit has a security agent if there is one. -/
def Config.optionalAudit : Config :=
  { Config.default with
    templates := .ofList
      [("security_audit", { Template.ofRequired [] with optional := [.security] })] }

/-! ## The failures of slots -/

/-- What is said of a slot that holds a failure. -/
def Slot.complaint? (s : Slot) : Option String :=
  match s.outcome with
  | .failure f => some (s.key ++ ": " ++ f.message)
  | .success _ => none

theorem Slot.complaint?_eq_none_iff {s : Slot} :
    s.complaint? = none ↔ s.outcome.isSuccess = true := by
  unfold complaint? Outcome.isSuccess
  cases s.outcome <;> simp

theorem Slots.map_slotError_failures {s : Slots} :
    s.failures.map Panel.slotError = s.toList.filterMap Slot.complaint? := by
  rw [failures, List.map_filterMap]
  apply List.filterMap_congr
  intro slot _
  unfold Slot.complaint? Outcome.error?
  cases slot.outcome <;> simp [Panel.slotError]

/-! ## The result of a run -/

/-- What a result says of the run of the agents that were selected for a template. -/
structure WorkflowResult.Describes (result : WorkflowResult) (p : Panel) (t : Template)
    (selected : List Selected) (steps : List Step) : Prop where
  /-- Every selected agent has its step. -/
  complete : steps.map Step.selected = selected
  agents   : result.agentsUsed = Selection.keys selected
  times    : result.timed.Perm result.agentsUsed
  report   : result.report = Report.ofSlots (Execution.slots steps)
  slots    : result.report.slots.toList = steps.map Step.slot
  /-- The report says what the slots say, in their order. -/
  findings : result.report.issues =
                 result.report.slots.toList.flatMap (fun slot => slot.outcome.issues) ∧
               result.report.suggestions =
                 result.report.slots.toList.flatMap fun slot => slot.outcome.suggestions
  /-- The errors are about gates and then about slots, and about nothing else. -/
  errors   : result.errors = t.gates.filterMap (p.evaluator.complaint? result.report) ++
               result.report.slots.toList.filterMap Slot.complaint?
  success  : result.success = true ↔
               (∀ name ∈ t.gates, ∀ g, p.evaluator.find? name = some g →
                 (g.evaluate result.report).passed = true) ∧
               ∃ slot ∈ result.report.slots.toList, slot.outcome.isSuccess = true
  state    : result.state = .completed .full ↔
               ∀ slot ∈ result.report.slots.toList, slot.outcome.isSuccess = true

namespace Panel

variable {p : Panel} {session : Session} {w : Workflow} {path content : String}
  {context : Option Context} {t : Template} {selected : List Selected} {result : WorkflowResult}
  {registry : Registry} {c : Config}

theorem resultOf_describes
    (hSelect : Selection.select t (p.detect path content) p.registry = .ok selected) :
    (p.resultOf w t (p.stepsOf t path content context selected)).Describes p t selected
      (p.stepsOf t path content context selected) := by
  set steps := p.stepsOf t path content context selected
  have hTimes : Execution.timingKeys steps = Selection.keys selected := Execution.timingKeys_run
  have hNodup : (Execution.timingKeys steps).Nodup := hTimes ▸ Selection.keys_nodup hSelect
  have hKeys : (Execution.slots steps).keys = Execution.timingKeys steps :=
    Execution.slots_keys hNodup
  refine ⟨Execution.map_selected_run, hKeys.trans hTimes, ?times, rfl,
    Execution.slots_toList hNodup, ⟨Report.issues_ofSlots _, Report.suggestions_ofSlots _⟩,
    ?errors, ?success, Execution.finalState_full_iff⟩
  case times =>
    -- the table of times sorts its keys, and so keeps them as a set
    have hEntries : ((Execution.timingKeys steps).map (·, ())).map Prod.fst =
        Execution.timingKeys steps := by
      rw [List.map_map]
      exact List.map_id _
    have hPerm := Table.keys_ofList_perm (hEntries.symm ▸ hNodup)
    rw [hEntries] at hPerm
    exact hPerm.trans (.of_eq hKeys.symm)
  case errors =>
    change (p.evaluator.evaluate _ t.gates).errors ++ _ = _
    rw [Evaluator.errors_evaluate, Slots.map_slotError_failures]
    rfl
  case success =>
    have hSome : (!(Execution.slots steps).successes.isEmpty) = true ↔
        ∃ slot ∈ (Execution.slots steps).toList, slot.outcome.isSuccess = true := by
      rw [Bool.not_eq_true', ← Bool.not_eq_true, List.isEmpty_iff, Slots.successes_eq_nil_iff]
      push Not
      simp
    change ((p.evaluator.evaluate _ t.gates).passed &&
      !(Execution.slots steps).successes.isEmpty) = true ↔ _
    rw [Bool.and_eq_true, Evaluator.passed_evaluate_iff, hSome]
    rfl

/--
**The meaning of a result.** The result of a request to run a workflow
describes the run of the agents that are selected for the template of the
workflow: it names all of them in the order of the selection, those that failed
included, and has a time for each and no other; its report holds all their
slots and the findings of these, slot by slot; its errors are one message for
each known gate of the template that fails on the report, in the order of the
template, and then one for each slot that holds a failure; it is a success iff
each known gate passes on the report and some slot holds a result; and it is
complete iff every slot holds one.
-/
theorem result_describes_run
    (hOk : (p.execute session w path content context).2 = .ok result) :
    ∃ t selected, p.templates.get? w = some t ∧
      Selection.select t (p.detect path content) p.registry = .ok selected ∧
      result.Describes p t selected (p.stepsOf t path content context selected) := by
  obtain ⟨t, selected, hTemplate, hSelect, rfl⟩ := execute_eq_ok_iff.mp hOk
  exact ⟨t, selected, hTemplate, hSelect, resultOf_describes hSelect⟩

/-- On the troubled panel every agent is named, and none succeeds. -/
theorem result_describes_run_troubled :
    ∃ result, ((ofRegistry .troubled).execute .empty .fullAnalysis "a.py" "x" none).2 = .ok result ∧
      result.agentsUsed = ["code_broken_code", "testing_panicky_test", "security_slow_scanner"] ∧
      result.timed.Perm result.agentsUsed ∧ result.success = false ∧
      result.state ≠ .completed .full := by
  have hOk : ((ofRegistry .troubled).execute .empty .fullAnalysis "a.py" "x" none).2 = .ok _ := rfl
  obtain ⟨t, selected, -, -, hDescribes⟩ := result_describes_run hOk
  refine ⟨_, hOk, rfl, hDescribes.times, rfl, ?_⟩
  intro hFull
  have hFirst := hDescribes.state.mp hFull ⟨"code_broken_code", _⟩ (List.mem_cons_self ..)
  cases hFirst

/-! ## Failures and their explanations -/

/-- A result without success and without errors is about nobody. -/
theorem selected_eq_nil_of_no_errors {steps : List Step}
    (hDescribes : result.Describes p t selected steps) (hFailed : result.success = false)
    (hErrors : result.errors = []) : selected = [] := by
  rw [hDescribes.errors, List.append_eq_nil_iff, List.filterMap_eq_nil_iff,
    List.filterMap_eq_nil_iff] at hErrors
  obtain ⟨hGates, hSlots⟩ := hErrors
  rw [← hDescribes.complete, List.map_eq_nil_iff, List.eq_nil_iff_forall_not_mem]
  intro s hs
  -- the slot of any step would be a success, beside gates that all pass
  have hMem : s.slot ∈ result.report.slots.toList :=
    hDescribes.slots ▸ List.mem_map_of_mem hs
  have hSuccess : result.success = true := hDescribes.success.mpr
    ⟨fun name hName => Evaluator.complaint?_eq_none_iff.mp (hGates name hName),
      s.slot, hMem, Slot.complaint?_eq_none_iff.mp (hSlots _ hMem)⟩
  rw [hFailed] at hSuccess
  cases hSuccess

/-- A request whose result has neither success nor errors has selected nobody:
its template requires nothing, and nothing that it allows has an agent. -/
theorem no_agents_of_no_errors (hSetUp : IsSetUp registry c p)
    (hOk : (p.execute session w path content context).2 = .ok result)
    (hFailed : result.success = false) (hErrors : result.errors = []) :
    (c.template w).required = [] ∧
      (∀ category ∈ (c.template w).optional, registry.agents category = []) ∧
      result.agentsUsed = [] := by
  obtain ⟨hRegistry, hTemplates⟩ := hSetUp.parts
  obtain ⟨t, selected, hTemplate, hSelect, rfl⟩ := execute_eq_ok_iff.mp hOk
  have hDescribes : (p.resultOf w t (p.stepsOf t path content context selected)).Describes p t
      selected _ := resultOf_describes hSelect
  cases (hTemplates w).symm.trans hTemplate
  cases selected_eq_nil_of_no_errors hDescribes hFailed hErrors
  rw [hRegistry] at hSelect
  obtain ⟨hRequired, hOptional⟩ := Selection.agents_eq_nil_of_select_eq_nil hSelect
  exact ⟨hRequired, hOptional, hDescribes.agents⟩

/-- Every built-in template requires some category. -/
theorem builtinTemplate_required_ne_nil : (TemplateSet.builtinTemplate w).required ≠ [] := by
  cases w <;> decide

/--
**Failures are explained.** On a panel that is set up, a result without success
has an error, unless nobody was selected: the template of the workflow requires
no category, none of its optional categories has an agent, and no agent was
used. No built-in template is such, so a workflow that keeps its built-in
template has an error in every result without success.
-/
theorem failure_is_explained (hSetUp : IsSetUp registry c p)
    (hOk : (p.execute session w path content context).2 = .ok result)
    (hFailed : result.success = false) :
    (result.errors ≠ [] ∨
      (c.template w).required = [] ∧
        (∀ category ∈ (c.template w).optional, registry.agents category = []) ∧
        result.agentsUsed = []) ∧
    ((∀ e ∈ c.templates.entries, ¬ w.IsNamedBy e.1) → result.errors ≠ []) := by
  by_cases hErrors : result.errors = []
  · have hNobody := no_agents_of_no_errors hSetUp hOk hFailed hErrors
    refine ⟨Or.inr hNobody, fun hNone => ?_⟩
    rw [Config.template_of_no_override hNone] at hNobody
    exact absurd hNobody.1 builtinTemplate_required_ne_nil
  · exact ⟨Or.inl hErrors, fun _ => hErrors⟩

/-- On the troubled panel each agent is said to have failed. -/
theorem failure_is_explained_troubled :
    IsSetUp .troubled .default (ofRegistry .troubled) ∧
      ∃ result, ((ofRegistry .troubled).execute .empty .fullAnalysis "a.py" "x" none).2 =
          .ok result ∧ result.success = false ∧ result.errors ≠ [] := by
  have hSetUp : IsSetUp .troubled .default (ofRegistry .troubled) := .plain
  have hOk : ((ofRegistry .troubled).execute .empty .fullAnalysis "a.py" "x" none).2 = .ok _ := rfl
  refine ⟨hSetUp, _, hOk, rfl, ?_⟩
  exact (failure_is_explained hSetUp hOk rfl).2 fun e he => absurd he List.not_mem_nil

/-- An audit that requires nobody has neither success nor errors on a panel with
nothing but a linter. -/
theorem failure_without_explanation :
    ∃ p, ofConfig .linter .optionalAudit = .ok p ∧
      ∃ result, (p.execute .empty .securityAudit "a.py" "x" none).2 = .ok result ∧
        result.success = false ∧ result.errors = [] :=
  ⟨_, rfl, _, rfl, rfl, rfl⟩

end Panel

end ReviewPanel
