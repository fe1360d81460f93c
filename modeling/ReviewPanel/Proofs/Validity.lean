import ReviewPanel.Config.Loading
import ReviewPanel.Proofs.Overrides
import ReviewPanel.Proofs.Panel

/-!
# Validity — what loads can be run

A configuration is judged in three places: its gates, its chats, and the
templates that it overrides. The checks come in this order, and each is made
only where those before it have passed. Setting a panel up makes them all once
more and has no others, so a configuration that was accepted when it was loaded
sets up a panel over any registry, and one that is refused is refused for the
same reason wherever it is checked.

* `Template.validate_eq_ok_iff`    — which templates could run.
* `Config.validate_eq_ok_iff`      — which configurations are valid.
* `Config.validate_eq_error_iff`   — and for what any other one is refused.
* `Config.loadWith_eq_ok_iff`      — which configuration a file holds.
* `Panel.valid_configurations_run` — valid configurations are those that run.
-/

namespace ReviewPanel

/-- A template could run iff its agents get some time and there may be some. -/
theorem Template.validate_eq_ok_iff {t : Template} {name : String} :
    t.validate name = .ok () ↔ t.deadline ≠ .zero ∧ (t.required ≠ [] ∨ t.optional ≠ []) := by
  rw [validate]
  by_cases hTime : t.deadline = .zero
  · simp [hTime]
  · by_cases hCategories : t.required = [] ∧ t.optional = []
    · simp [hTime, hCategories]
    · have hSome : (t.required.isEmpty && t.optional.isEmpty) = false := by
        simpa [← not_and_or] using hCategories
      simpa [hTime, hSome, ← not_and_or] using hCategories

/-- Every built-in template passes its own check. -/
theorem TemplateSet.builtinTemplate_validate {w : Workflow} {name : String} :
    (builtinTemplate w).validate name = .ok () := by
  rw [Template.validate_eq_ok_iff]
  cases w <;> decide

/-- An override is not refused iff its name stands for a workflow and its template
could run. -/
theorem TemplateSet.not_refuses_iff {name : String} {t : Template} :
    (∀ error, ¬ Refuses name t error) ↔
      (∃ w : Workflow, w.IsNamedBy name) ∧ t.deadline ≠ .zero ∧
        (t.required ≠ [] ∨ t.optional ≠ []) := by
  have hRuns : t.validate name = .ok () ↔ _ := Template.validate_eq_ok_iff
  rw [← hRuns]
  constructor
  · -- refusal has two reasons, and neither is there
    intro hNone
    have hNamed : ∃ w : Workflow, w.IsNamedBy name := by
      by_contra hUnknown
      exact hNone _ (.unknown (not_exists.mp hUnknown))
    obtain ⟨w, hw⟩ := hNamed
    refine ⟨⟨w, hw⟩, ?_⟩
    cases hValid : t.validate name with
    | ok _ => rfl
    | error error => exact absurd (.invalid hw hValid) (hNone error)
  · rintro ⟨⟨w, hw⟩, hValid⟩ error hRefused
    cases hRefused with
    | unknown hUnknown => exact hUnknown w hw
    | invalid _ hInvalid =>
      rw [hValid] at hInvalid
      cases hInvalid

namespace GateConfig

variable {c : GateConfig}

/-- The one complaint about thresholds. -/
def blankKind : GateError :=
  .invalidConfiguration "security_compliance" "blocked_types must not contain empty entries"

theorem validate_eq : c.validate =
    if ∃ kind ∈ c.blockedKinds, Text.isBlankText kind = true then .error blankKind else .ok () := by
  rw [validate]
  by_cases hBlank : ∃ kind ∈ c.blockedKinds, Text.isBlankText kind = true
  · rw [if_pos hBlank, if_pos (List.any_eq_true.mpr hBlank)]
    rfl
  · rw [if_neg hBlank, if_neg fun hAny => hBlank (List.any_eq_true.mp hAny)]

end GateConfig

namespace Config

variable {c : Config} {error : ConfigError}

/-! ## Checking -/

/-- What a configuration has to hold: every blocked kind has a name, chats have
some time, and every override names a workflow and could run. -/
structure IsValid (c : Config) : Prop where
  kinds     : ∀ kind ∈ c.gates.blockedKinds, Text.isBlankText kind = false
  time      : 0 < c.chat.timeoutSeconds
  names     : ∀ e ∈ c.templates.entries, ∃ w : Workflow, w.IsNamedBy e.1
  deadlines : ∀ e ∈ c.templates.entries, e.2.deadline ≠ .zero
  agents    : ∀ e ∈ c.templates.entries, e.2.required ≠ [] ∨ e.2.optional ≠ []

/-- Why a configuration is refused: for its gates; or, where they are in order,
for its chats; or, where these are too, for the override whose name has the
smallest bytes among those that are refused. -/
inductive Fails (c : Config) : ConfigError → Prop
  | gates (hBlank : ∃ kind ∈ c.gates.blockedKinds, Text.isBlankText kind = true) :
      Fails c (.gates GateConfig.blankKind)
  | chat (hKinds : ∀ kind ∈ c.gates.blockedKinds, Text.isBlankText kind = false)
      (hTime : c.chat.timeoutSeconds = 0) : Fails c .chatTimeout
  | templates (hKinds : ∀ kind ∈ c.gates.blockedKinds, Text.isBlankText kind = false)
      (hTime : 0 < c.chat.timeoutSeconds) {name : String} {t : Template} {error : WorkflowError}
      (hThere : (name, t) ∈ c.templates.entries) (hRefused : TemplateSet.Refuses name t error)
      (hLeast : ∀ e ∈ c.templates.entries, (∃ error, TemplateSet.Refuses e.1 e.2 error) →
        Text.bytes name ≤ Text.bytes e.1) : Fails c (.templates error)

/-- The templates of a configuration fail as its overrides do. -/
theorem templateSet_eq_error_iff :
    c.templateSet = .error error ↔
      ∃ e, TemplateSet.builtin.applyOverrides c.templates = .error e ∧ error = .templates e := by
  rw [templateSet]
  cases TemplateSet.builtin.applyOverrides c.templates <;> simp [Except.mapError, eq_comm]

/-- They are there iff the overrides apply. -/
theorem exists_templateSet_iff :
    (∃ templates, c.templateSet = .ok templates) ↔
      ∃ result, TemplateSet.builtin.applyOverrides c.templates = .ok result := by
  rw [templateSet]
  cases TemplateSet.builtin.applyOverrides c.templates <;> simp [Except.mapError]

/-- The three checks, each made where those before it have passed. -/
theorem validate_eq : c.validate =
    if ∃ kind ∈ c.gates.blockedKinds, Text.isBlankText kind = true then
      .error (.gates GateConfig.blankKind)
    else if c.chat.timeoutSeconds = 0 then .error .chatTimeout
    else c.templateSet.map fun _ => () := by
  rw [validate, GateConfig.validate_eq, validateChat]
  split
  · rfl
  · split
    · rfl
    · cases c.templateSet <;> rfl

/-- The check of a configuration is that of its parts, one after the other. -/
theorem validate_eq_ok_iff : c.validate = .ok () ↔ c.IsValid := by
  have hPass : (∃ templates, c.templateSet = .ok templates) ↔
      ∀ e ∈ c.templates.entries, ∀ error, ¬ TemplateSet.Refuses e.1 e.2 error := by
    rw [exists_templateSet_iff, TemplateSet.exists_applyOverrides_iff]
  rw [validate_eq]
  constructor
  · -- no refusal is the reason: kinds, time and templates are all accepted
    intro hOk
    split at hOk
    · cases hOk
    · rename_i hKinds
      split at hOk
      · cases hOk
      · rename_i hTime
        have hSet : ∃ templates, c.templateSet = .ok templates := by
          cases hTemplates : c.templateSet with
          | error e =>
            rw [hTemplates] at hOk
            cases hOk
          | ok templates => exact ⟨templates, rfl⟩
        have hEntry : ∀ e ∈ c.templates.entries, _ := fun e he =>
          TemplateSet.not_refuses_iff.mp (hPass.mp hSet e he)
        refine ⟨?_, Nat.pos_of_ne_zero hTime, fun e he => (hEntry e he).1,
          fun e he => (hEntry e he).2.1, fun e he => (hEntry e he).2.2⟩
        intro kind hMem
        exact eq_false_of_ne_true fun hBlank => hKinds ⟨kind, hMem, hBlank⟩
  · -- and nothing that is checked is refused
    intro hValid
    have hKinds : ¬ ∃ kind ∈ c.gates.blockedKinds, Text.isBlankText kind = true := by
      rintro ⟨kind, hMem, hBlank⟩
      rw [hValid.kinds kind hMem] at hBlank
      cases hBlank
    rw [if_neg hKinds, if_neg (Nat.pos_iff_ne_zero.mp hValid.time)]
    obtain ⟨templates, hSet⟩ := hPass.mpr fun e he =>
      TemplateSet.not_refuses_iff.mpr ⟨hValid.names e he, hValid.deadlines e he, hValid.agents e he⟩
    rw [hSet]
    rfl

/-- Overrides in order are refused for the one whose name has the smallest bytes. -/
theorem templateSet_eq_error_iff_of_ascending (hOrder : Table.Ascending c.templates.entries) :
    c.templateSet = .error error ↔
      ∃ name t e, (name, t) ∈ c.templates.entries ∧ TemplateSet.Refuses name t e ∧
        (∀ x ∈ c.templates.entries, (∃ error, TemplateSet.Refuses x.1 x.2 error) →
          Text.bytes name ≤ Text.bytes x.1) ∧ error = .templates e := by
  rw [templateSet_eq_error_iff]
  simp only [TemplateSet.applyOverrides_eq_error_iff, TemplateSet.isFirst_entries_iff hOrder]
  constructor
  · rintro ⟨e, ⟨⟨name, t⟩, ⟨hThere, -, hLeast⟩, hRefused⟩, rfl⟩
    exact ⟨name, t, e, hThere, hRefused, hLeast, rfl⟩
  · rintro ⟨name, t, e, hThere, hRefused, hLeast, rfl⟩
    exact ⟨e, ⟨(name, t), ⟨hThere, ⟨e, hRefused⟩, hLeast⟩, hRefused⟩, rfl⟩

/-- A configuration whose overrides are in order is refused for its first fault. -/
theorem validate_eq_error_iff (hOrder : Table.Ascending c.templates.entries) :
    c.validate = .error error ↔ c.Fails error := by
  have hTemplates : ((c.templateSet.map fun _ => ()) = .error error) ↔
      c.templateSet = .error error := by
    cases c.templateSet <;> simp [Except.map]
  have hNamed : (¬ ∃ kind ∈ c.gates.blockedKinds, Text.isBlankText kind = true) ↔
      ∀ kind ∈ c.gates.blockedKinds, Text.isBlankText kind = false := by
    simp
  rw [validate_eq]
  by_cases hKinds : ∃ kind ∈ c.gates.blockedKinds, Text.isBlankText kind = true
  · rw [if_pos hKinds]
    constructor
    · intro hError
      cases hError
      exact .gates hKinds
    · intro hFails
      -- the other two faults count only where the gates are in order
      cases hFails with
      | gates _ => rfl
      | chat hNone _ => exact absurd hKinds (hNamed.mpr hNone)
      | templates hNone _ _ _ _ => exact absurd hKinds (hNamed.mpr hNone)
  · rw [if_neg hKinds]
    by_cases hTime : c.chat.timeoutSeconds = 0
    · rw [if_pos hTime]
      constructor
      · intro hError
        cases hError
        exact .chat (hNamed.mp hKinds) hTime
      · intro hFails
        cases hFails with
        | gates hBlank => exact absurd hBlank hKinds
        | chat _ _ => rfl
        | templates _ hSome _ _ _ => exact absurd hTime (Nat.pos_iff_ne_zero.mp hSome)
    · rw [if_neg hTime, hTemplates, templateSet_eq_error_iff_of_ascending hOrder]
      constructor
      · rintro ⟨name, t, e, hThere, hRefused, hLeast, rfl⟩
        exact .templates (hNamed.mp hKinds) (Nat.pos_of_ne_zero hTime) hThere hRefused hLeast
      · intro hFails
        cases hFails with
        | gates hBlank => exact absurd hBlank hKinds
        | chat _ hNone => exact absurd hNone hTime
        | templates _ _ hThere hRefused hLeast =>
          exact ⟨_, _, _, hThere, hRefused, hLeast, rfl⟩

/-! ## Templates of valid configurations -/

/-- The template of a workflow is one of the overrides, or the built-in one. -/
theorem template_cases (c : Config) (w : Workflow) :
    (∃ name, (name, c.template w) ∈ c.templates.entries) ∨
      c.template w = TemplateSet.builtinTemplate w := by
  rw [template, TemplateSet.lastOverride?]
  cases hFound : c.templates.entries.reverse.find? fun e => decide (w.IsNamedBy e.1) with
  | none => exact Or.inr rfl
  | some e => exact Or.inl ⟨e.1, List.mem_reverse.mp (List.mem_of_find?_eq_some hFound)⟩

/-- Under a valid configuration the template of every workflow could run. -/
theorem IsValid.validate_template (hValid : c.IsValid) (w : Workflow) (name : String) :
    (c.template w).validate name = .ok () := by
  obtain ⟨key, hThere⟩ | hBuiltin := c.template_cases w
  · exact Template.validate_eq_ok_iff.mpr ⟨hValid.deadlines _ hThere, hValid.agents _ hThere⟩
  · rw [hBuiltin, TemplateSet.builtinTemplate_validate]

/-- A set that has a template for every workflow lists them all. -/
theorem toList_templateSet {templates : TemplateSet} (hOk : c.templateSet = .ok templates) :
    templates.toList = Workflow.all.map fun w => (w, c.template w) := by
  rw [TemplateSet.toList]
  simp only [get?_templateSet hOk, Option.map_some]
  exact congrFun List.filterMap_eq_map _

/-! ## Loading -/

variable {decode : FileFormat → String → Reading Config} {files : FileSystem}

/-- A file holds a configuration iff it can be read, its name tells the format,
and its text is a valid configuration in this format. -/
theorem loadWith_eq_ok_iff {path : String} :
    loadWith decode files path = .ok c ↔
      ∃ text format, files.readText? path = some text ∧ FileFormat.ofPath? path = some format ∧
        decode format text = .ok c ∧ c.IsValid := by
  rw [loadWith, ← validate_eq_ok_iff]
  constructor
  · intro hOk
    cases hText : files.readText? path with
    | none => simp [hText, throw, throwThe, MonadExceptOf.throw] at hOk
    | some text =>
      cases hFormat : FileFormat.ofPath? path with
      | none => simp [hText, hFormat, throw, throwThe, MonadExceptOf.throw] at hOk
      | some format =>
        simp only [hText, hFormat] at hOk
        cases hRead : decode format text with
        | error fault => simp [hRead, Except.mapError, bind, Except.bind] at hOk
        | ok read =>
          cases hValid : read.validate with
          | error e => simp [hRead, hValid, Except.mapError, bind, Except.bind] at hOk
          | ok _ =>
            -- what was read is given back as it is
            simp only [hRead, hValid, Except.mapError, bind, Except.bind, pure, Except.pure,
              Except.ok.injEq] at hOk
            subst hOk
            exact ⟨text, format, rfl, rfl, hRead, hValid⟩
  · rintro ⟨text, format, hText, hFormat, hRead, hValid⟩
    simp only [hText, hFormat, hRead, hValid, Except.mapError, bind, Except.bind, pure,
      Except.pure]

theorem isValid_default : default.IsValid := by
  rw [← validate_eq_ok_iff]
  rfl

/-- A variable leads to a valid configuration, or to none. -/
theorem isValid_of_ofVariableWith {value : Option String}
    (hOk : ofVariableWith decode files value = .ok c) : c.IsValid := by
  cases value with
  | none =>
    cases hOk
    exact isValid_default
  | some path =>
    rw [ofVariableWith] at hOk
    split at hOk
    · cases hOk
      exact isValid_default
    · obtain ⟨_, _, -, -, -, hValid⟩ := loadWith_eq_ok_iff.mp hOk
      exact hValid

end Config

namespace Panel

variable {registry : Registry} {c : Config} {p : Panel} {error : ConfigError}

/-- A panel is refused as its configuration is. -/
theorem ofConfig_eq_error_iff : ofConfig registry c = .error error ↔ c.validate = .error error := by
  rw [ofConfig]
  cases hValid : c.validate with
  | error e => simp [bind, Except.bind]
  | ok _ =>
    -- the templates were looked at when the configuration was checked
    cases hSet : c.templateSet with
    | error e =>
      rw [Config.validate_eq, hSet] at hValid
      split at hValid
      · cases hValid
      · split at hValid <;> cases hValid
    | ok templates => simp [bind, Except.bind, pure, Except.pure]

/-- A panel is made of a configuration iff it is valid. -/
theorem exists_ofConfig_iff : (∃ p, ofConfig registry c = .ok p) ↔ c.IsValid := by
  rw [← Config.validate_eq_ok_iff]
  cases hValid : c.validate with
  | error e =>
    rw [ofConfig_eq_error_iff.mpr hValid]
    simp
  | ok _ =>
    cases hPanel : ofConfig registry c with
    | error e =>
      rw [ofConfig_eq_error_iff, hValid] at hPanel
      cases hPanel
    | ok p => simp

/--
**What loads can be run.** Let the map of overrides of a configuration be filled
in any way. The configuration is valid iff it sets up a panel, over any registry:
iff its blocked kinds all have names, its chats have some time, and each of its
overrides names a workflow, gives the agents some time and has a category. Any
other one is refused for its first fault, by both. A panel that is set up has one
template for each workflow, and every one of them could run. Whatever a file or
a variable leads to is valid, so it sets up a panel, whichever files there are and
however their texts are decoded.
-/
theorem valid_configurations_run (registry : Registry) (overrides : List (String × Template))
    (gates : GateConfig) (chat : ChatConfig) (telemetry : Telemetry) :
    let c : Config := ⟨.ofList overrides, gates, chat, telemetry⟩
    (c.validate = .ok () ↔ c.IsValid) ∧
    ((∃ p, ofConfig registry c = .ok p) ↔ c.IsValid) ∧
    (∀ error, c.validate = .error error ↔ c.Fails error) ∧
    (∀ error, ofConfig registry c = .error error ↔ c.Fails error) ∧
    (∀ p, ofConfig registry c = .ok p →
      p.templates.toList.map Prod.fst = Workflow.all ∧
      ∀ e ∈ p.templates.toList, ∀ name, e.2.validate name = .ok ()) ∧
    (∀ decode files path loaded, Config.loadWith decode files path = .ok loaded →
      loaded.validate = .ok () ∧ ∃ p, ofConfig registry loaded = .ok p) ∧
    (∀ files path loaded, Config.load files path = .ok loaded →
      loaded.validate = .ok () ∧ ∃ p, ofConfig registry loaded = .ok p) ∧
    (∀ decode files value loaded, Config.ofVariableWith decode files value = .ok loaded →
      loaded.validate = .ok () ∧ ∃ p, ofConfig registry loaded = .ok p) ∧
    (∀ files value loaded, Config.ofVariable files value = .ok loaded →
      loaded.validate = .ok () ∧ ∃ p, ofConfig registry loaded = .ok p) := by
  intro c
  have hOrder : Table.Ascending c.templates.entries := Table.ascending_ofList
  have hRuns : ∀ {loaded : Config}, loaded.IsValid →
      loaded.validate = .ok () ∧ ∃ p, ofConfig registry loaded = .ok p := fun hValid =>
    ⟨Config.validate_eq_ok_iff.mpr hValid, exists_ofConfig_iff.mpr hValid⟩
  -- whatever is decoded, it is checked before it is given back
  have hFile : ∀ decode files path loaded, Config.loadWith decode files path = .ok loaded →
      loaded.validate = .ok () ∧ ∃ p, ofConfig registry loaded = .ok p := by
    intro decode files path loaded hOk
    obtain ⟨_, _, -, -, -, hValid⟩ := Config.loadWith_eq_ok_iff.mp hOk
    exact hRuns hValid
  have hVariable : ∀ decode files value loaded,
      Config.ofVariableWith decode files value = .ok loaded →
      loaded.validate = .ok () ∧ ∃ p, ofConfig registry loaded = .ok p :=
    fun decode files value loaded hOk => hRuns (Config.isValid_of_ofVariableWith hOk)
  refine ⟨Config.validate_eq_ok_iff, exists_ofConfig_iff,
    fun error => Config.validate_eq_error_iff hOrder, ?refusal, ?templates, hFile,
    hFile FileFormat.decode, hVariable, hVariable FileFormat.decode⟩
  case refusal =>
    intro error
    rw [ofConfig_eq_error_iff, Config.validate_eq_error_iff hOrder]
  case templates =>
    intro p hOk
    obtain ⟨hValidated, templates, hSet, rfl⟩ := ofConfig_eq_ok_iff.mp hOk
    have hValid : c.IsValid := Config.validate_eq_ok_iff.mp hValidated
    rw [Config.toList_templateSet hSet]
    refine ⟨by rw [List.map_map]; exact List.map_id _, ?_⟩
    intro e hMem name
    obtain ⟨w, -, rfl⟩ := List.mem_map.mp hMem
    exact hValid.validate_template w name

/-- Of three faults the one of the gates counts. -/
example : Config.validate ⟨.ofList [("deploy", .ofRequired [])], ⟨5, ["style", " "]⟩, ⟨0, .empty⟩,
    .default⟩ = .error (.gates GateConfig.blankKind) := by decide

end Panel

end ReviewPanel
