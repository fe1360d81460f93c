import ReviewPanel.Proofs.Execution
import ReviewPanel.Proofs.Templates

/-!
# Panels — requests and what can be missing

A request to run a workflow looks up its template and selects the agents, and
only then runs them. On a panel that is set up (`Panel.IsSetUp`) the template is
always there, so the one thing that can be missing is an agent for a required
category; until that is clear nobody has been asked anything.

Main results:

* `IsSetUp.parts`        — what a panel has from its registry and configuration.
* `execute_eq_ok_iff`    — which result a request has.
* `aborts_before_agents` — when it has none, and that nothing has happened then.
-/

namespace ReviewPanel

/-! ## A panel with nothing but a linter -/

def Registry.linter : Registry :=
  empty.register .code ⟨0, .ofRun "linter" (.immediate [] (.answered (.empty "linter")))⟩

namespace Panel

variable {p : Panel} {session : Session} {w : Workflow} {path content : String}
  {context : Option Context} {t : Template} {selected : List Selected} {result : WorkflowResult}
  {registry : Registry} {c : Config}

/-! ## Requests -/

/-- The steps of the selected agents when a workflow is run over a file. -/
def stepsOf (p : Panel) (t : Template) (path content : String) (context : Option Context)
    (selected : List Selected) : List Step :=
  Execution.run t path content (contextFor (p.detect path content) context) selected

/-- A request for a workflow that has a template. -/
theorem execute_eq (hTemplate : p.templates.get? w = some t) :
    p.execute session w path content context =
      match Selection.select t (p.detect path content) p.registry with
      | .error e => (session, .error (.workflow e))
      | .ok selected =>
        (session.append ((p.stepsOf t path content context selected).map stepEvent),
          .ok (p.resultOf w t (p.stepsOf t path content context selected))) := by
  simp only [execute, TemplateSet.require, hTemplate, bind, Except.bind, pure, Except.pure]
  cases Selection.select t (p.detect path content) p.registry <;> rfl

/-- Without a template nothing is run or recorded. -/
theorem execute_of_no_template (hTemplate : p.templates.get? w = none) :
    p.execute session w path content context =
      (session, .error (.workflow (.templateNotFound w))) := by
  rw [execute, TemplateSet.require, hTemplate]
  rfl

/-- A request is answered iff there is a template and a selection for it. -/
theorem execute_eq_ok_iff :
    (p.execute session w path content context).2 = .ok result ↔
      ∃ t selected, p.templates.get? w = some t ∧
        Selection.select t (p.detect path content) p.registry = .ok selected ∧
        result = p.resultOf w t (p.stepsOf t path content context selected) := by
  cases hTemplate : p.templates.get? w with
  | none => simp [execute_of_no_template hTemplate]
  | some t =>
    rw [execute_eq hTemplate]
    cases hSelect : Selection.select t (p.detect path content) p.registry with
    | error e => simp [hSelect]
    | ok selected => simp [hSelect, eq_comm]

/-- A request for a workflow with a template fails iff the selection for it does. -/
theorem execute_eq_error_iff (hTemplate : p.templates.get? w = some t) {error : RequestError} :
    (p.execute session w path content context).2 = .error error ↔
      ∃ e, Selection.select t (p.detect path content) p.registry = .error e ∧
        error = .workflow e := by
  rw [execute_eq hTemplate]
  cases Selection.select t (p.detect path content) p.registry <;> simp [eq_comm]

/-- A request that fails is not recorded. -/
theorem session_of_execute_error {error : RequestError}
    (hError : (p.execute session w path content context).2 = .error error) :
    (p.execute session w path content context).1 = session := by
  cases hTemplate : p.templates.get? w with
  | none => rw [execute_of_no_template hTemplate]
  | some t =>
    rw [execute_eq hTemplate] at hError ⊢
    cases hSelect : Selection.select t (p.detect path content) p.registry with
    | error e => rfl
    | ok selected => simp [hSelect] at hError

/-- A workflow is executed under any of its names. -/
theorem executeNamed_of_named {name : String} (hNamed : w.IsNamedBy name) :
    p.executeNamed session name path content context =
      p.execute session w path content context := by
  rw [executeNamed, Workflow.parse_eq_ok_iff.mpr hNamed]

theorem executeNamed_of_unknown {name : String} (hUnknown : ∀ w : Workflow, ¬ w.IsNamedBy name) :
    p.executeNamed session name path content context =
      (session, .error (.workflow (.unknownWorkflow name))) := by
  rw [executeNamed, Workflow.parse_eq_error_iff.mpr ⟨rfl, hUnknown⟩]

/-- A request by name is a request for the workflow that is named, or else is refused. -/
theorem executeNamed_cases (p : Panel) (session : Session) (name path content : String)
    (context : Option Context) :
    (∃ w : Workflow, w.IsNamedBy name ∧ p.executeNamed session name path content context =
      p.execute session w path content context) ∨
    ((∀ w : Workflow, ¬ w.IsNamedBy name) ∧ p.executeNamed session name path content context =
      (session, .error (.workflow (.unknownWorkflow name)))) := by
  by_cases hNamed : ∃ w : Workflow, w.IsNamedBy name
  · obtain ⟨w, hw⟩ := hNamed
    exact Or.inl ⟨w, hw, executeNamed_of_named hw⟩
  · have hUnknown := not_exists.mp hNamed
    exact Or.inr ⟨hUnknown, executeNamed_of_unknown hUnknown⟩

/-- A request that fails leaves the session as it was. -/
theorem session_of_executeNamed_error {name : String} {error : RequestError}
    (hError : (p.executeNamed session name path content context).2 = .error error) :
    (p.executeNamed session name path content context).1 = session := by
  obtain ⟨w, -, hRequest⟩ | ⟨-, hRefused⟩ := executeNamed_cases p session name path content context
  · rw [hRequest] at hError ⊢
    exact session_of_execute_error hError
  · rw [hRefused]

/-! ## Panels that are set up -/

/-- The panels over a registry that a configuration gives, the default one
where there is none; another way to detect stacks, and more gates, may be added. -/
inductive IsSetUp (registry : Registry) : Config → Panel → Prop
  | plain : IsSetUp registry .default (ofRegistry registry)
  | configured {c : Config} {p : Panel} (hOk : ofConfig registry c = .ok p) : IsSetUp registry c p
  | withDetector {c : Config} {p : Panel} (detect : String → String → Stack)
      (hSetUp : IsSetUp registry c p) : IsSetUp registry c (p.withDetector detect)
  | withGate {c : Config} {p : Panel} (g : Gate) (hSetUp : IsSetUp registry c p) :
      IsSetUp registry c (p.withGate g)

/-- A panel has the parts that its configuration gives. -/
theorem ofConfig_eq_ok_iff :
    ofConfig registry c = .ok p ↔
      c.validate = .ok () ∧ ∃ templates, c.templateSet = .ok templates ∧
        p = ⟨templates, .ofConfig c.gates,
          ⟨registry, c.chat.keywordTable, .ofSeconds c.chat.timeoutSeconds⟩, Stack.detect⟩ := by
  rw [ofConfig]
  cases c.validate with
  | error e => simp [bind, Except.bind]
  | ok _ =>
    cases c.templateSet with
    | error e => simp [bind, Except.bind]
    | ok templates => simp [bind, Except.bind, pure, Except.pure, eq_comm]

namespace IsSetUp

/-- A panel that is set up asks the agents of its registry, and has for every
workflow the template that its configuration gives. -/
theorem parts (hSetUp : IsSetUp registry c p) :
    p.registry = registry ∧ ∀ w, p.templates.get? w = some (c.template w) := by
  induction hSetUp with
  | plain => exact ⟨rfl, fun _ => rfl⟩
  | configured hOk =>
    obtain ⟨-, templates, hTemplates, rfl⟩ := ofConfig_eq_ok_iff.mp hOk
    exact ⟨rfl, Config.get?_templateSet hTemplates⟩
  | withDetector _ _ ih => exact ih
  | withGate _ _ ih => exact ih

/-- A request has a result iff every required category has an agent. -/
theorem exists_result_iff (hSetUp : IsSetUp registry c p) :
    (∃ result, (p.execute session w path content context).2 = .ok result) ↔
      ∀ category ∈ (c.template w).required, registry.agents category ≠ [] := by
  obtain ⟨hRegistry, hTemplates⟩ := hSetUp.parts
  rw [← Selection.exists_select_iff, ← hRegistry]
  simp only [execute_eq_ok_iff, hTemplates, Option.some.injEq]
  constructor
  · rintro ⟨_, _, selected, rfl, hSelect, -⟩
    exact ⟨selected, hSelect⟩
  · rintro ⟨selected, hSelect⟩
    exact ⟨_, _, selected, rfl, hSelect, rfl⟩

/-- A request fails for the first required category that has no agent, and for
no other reason. -/
theorem execute_eq_error_iff (hSetUp : IsSetUp registry c p) {error : RequestError} :
    (p.execute session w path content context).2 = .error error ↔
      ∃ category, IsFirst (fun x => registry.agents x = []) (c.template w).required category ∧
        error = .workflow (.noSuitableAgent category) := by
  obtain ⟨hRegistry, hTemplates⟩ := hSetUp.parts
  simp only [Panel.execute_eq_error_iff (hTemplates w), hRegistry, Selection.select_eq_error_iff]
  constructor
  · rintro ⟨e, ⟨category, hFirst, rfl⟩, rfl⟩
    exact ⟨category, hFirst, rfl⟩
  · rintro ⟨category, hFirst, rfl⟩
    exact ⟨_, ⟨category, hFirst, rfl⟩, rfl⟩

/-- A request by name fails for the name only where no workflow has it. -/
theorem executeNamed_eq_unknown_iff (hSetUp : IsSetUp registry c p) {name text : String} :
    (p.executeNamed session name path content context).2 =
        .error (.workflow (.unknownWorkflow text)) ↔
      text = name ∧ ∀ w : Workflow, ¬ w.IsNamedBy name := by
  obtain ⟨w, hw, hRequest⟩ | ⟨hUnknown, hRefused⟩ :=
    executeNamed_cases p session name path content context
  · -- a request for a workflow fails for want of an agent, not for its name
    rw [hRequest, hSetUp.execute_eq_error_iff]
    constructor
    · rintro ⟨category, -, hError⟩
      cases hError
    · rintro ⟨-, hUnknown⟩
      exact absurd hw (hUnknown w)
  · rw [hRefused]
    constructor
    · intro hError
      cases hError
      exact ⟨rfl, hUnknown⟩
    · rintro ⟨rfl, -⟩
      rfl

end IsSetUp

/--
**Aborts come first, and for one reason.** On a panel that is set up, a request
to run a workflow has no result iff a category that the template of the
workflow requires has no agent: the error names the first such category. Then
nothing has been asked of any agent: the session, which all calls and counters
are read off, is as it was. A request by name is the request for the workflow
that is named, and fails, with no more effect, for a text that names none.
-/
theorem aborts_before_agents (hSetUp : IsSetUp registry c p) (session : Session)
    (path content : String) (context : Option Context) :
    (∀ w, ((∃ result, (p.execute session w path content context).2 = .ok result) ↔
        ∀ category ∈ (c.template w).required, registry.agents category ≠ []) ∧
      ∀ error, (p.execute session w path content context).2 = .error error ↔
        ∃ category, IsFirst (fun x => registry.agents x = []) (c.template w).required category ∧
          error = .workflow (.noSuitableAgent category)) ∧
    (∀ w error, (p.execute session w path content context).2 = .error error →
      (p.execute session w path content context).1 = session) ∧
    (∀ name w, w.IsNamedBy name →
      p.executeNamed session name path content context =
        p.execute session w path content context) ∧
    (∀ name text, (p.executeNamed session name path content context).2 =
        .error (.workflow (.unknownWorkflow text)) ↔
      text = name ∧ ∀ w : Workflow, ¬ w.IsNamedBy name) ∧
    (∀ name error, (p.executeNamed session name path content context).2 = .error error →
      (p.executeNamed session name path content context).1 = session) := by
  refine ⟨?_, ?_, ?_, ?_, ?_⟩
  · intro w
    exact ⟨hSetUp.exists_result_iff, fun error => hSetUp.execute_eq_error_iff⟩
  · intro w error hError
    exact session_of_execute_error hError
  · intro name w hNamed
    exact executeNamed_of_named hNamed
  · intro name text
    exact hSetUp.executeNamed_eq_unknown_iff
  · intro name error hError
    exact session_of_executeNamed_error hError

/-- A panel with nothing but a linter has no agent for tests, and what it has
been asked before is all that it has been asked. -/
theorem aborts_before_agents_linter :
    IsSetUp .linter .default (ofRegistry .linter) ∧
      (ofRegistry .linter).execute ⟨[⟨0, .analyze, [.analysis 2], []⟩]⟩ .fullAnalysis "a.py" "x"
          none =
        (⟨[⟨0, .analyze, [.analysis 2], []⟩]⟩, .error (.workflow (.noSuitableAgent .testing))) ∧
      ((ofRegistry .linter).executeNamed ⟨[⟨0, .analyze, [.analysis 2], []⟩]⟩ "deploy" "a.py" "x"
          none).2 =
        .error (.workflow (.unknownWorkflow "deploy")) := by
  have hSetUp : IsSetUp .linter .default (ofRegistry .linter) := .plain
  obtain ⟨hExecute, hQuiet, -, hUnknown, -⟩ :=
    aborts_before_agents hSetUp ⟨[⟨0, .analyze, [.analysis 2], []⟩]⟩ "a.py" "x" none
  have hCode : ∀ category ∈ [Category.code], ¬ Registry.linter.agents category = [] := by
    intro category hMem
    rw [List.mem_singleton.mp hMem]
    exact List.cons_ne_nil _ _
  have hFirst : IsFirst (fun x => Registry.linter.agents x = [])
      (Config.default.template .fullAnalysis).required .testing :=
    ⟨[.code], [.security], rfl, rfl, hCode⟩
  have hError := ((hExecute .fullAnalysis).2 _).mpr ⟨.testing, hFirst, rfl⟩
  refine ⟨hSetUp, Prod.ext (hQuiet _ _ hError) hError, ?_⟩
  exact (hUnknown "deploy" "deploy").mpr ⟨rfl, fun w => by cases w <;> decide⟩

end Panel

end ReviewPanel
