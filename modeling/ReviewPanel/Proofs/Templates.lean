import ReviewPanel.Config.Basic
import ReviewPanel.Proofs.First

/-!
# Templates — which one a workflow has

A configuration may name one workflow in several ways, and override its
template as often. Overrides are applied in the order of their names, so the
last one that names the workflow counts; a workflow that none of them names
keeps its built-in template. No workflow is ever without a template.

* `Workflow.parse_eq_ok_iff`         — which workflow a text names.
* `TemplateSet.get?_applyOverrides`  — the last override of a workflow counts.
* `Config.get?_templateSet`          — every workflow has its template.
-/

namespace ReviewPanel

namespace Workflow

/-- A text names a workflow, blank characters around it and the case of its
letters aside. -/
def IsNamedBy (w : Workflow) (text : String) : Prop :=
  Text.lowercase (Text.trim text) = w.label

instance (w : Workflow) (text : String) : Decidable (w.IsNamedBy text) :=
  inferInstanceAs (Decidable (_ = _))

theorem ofLabel?_eq_some_iff {text : String} {w : Workflow} :
    ofLabel? text = some w ↔ text = w.label := by
  constructor
  · intro hFound
    rw [ofLabel?] at hFound
    have hLabel := List.find?_some hFound
    exact (beq_iff_eq.mp hLabel).symm
  · rintro rfl
    cases w <;> rfl

/-- A text names one workflow at most. -/
theorem IsNamedBy.unique {w w' : Workflow} {text : String} (hw : w.IsNamedBy text)
    (hw' : w'.IsNamedBy text) : w = w' :=
  Option.some.inj ((ofLabel?_eq_some_iff.mpr hw).symm.trans (ofLabel?_eq_some_iff.mpr hw'))

theorem parse_eq_ok_iff {text : String} {w : Workflow} : parse text = .ok w ↔ w.IsNamedBy text := by
  rw [IsNamedBy, ← ofLabel?_eq_some_iff, parse]
  cases ofLabel? (Text.lowercase (Text.trim text)) <;> simp

/-- A text that names no workflow is refused as it was given. -/
theorem parse_eq_error_iff {text : String} {error : WorkflowError} :
    parse text = .error error ↔ error = .unknownWorkflow text ∧ ∀ w : Workflow, ¬ w.IsNamedBy text := by
  simp only [← parse_eq_ok_iff]
  rw [parse]
  cases ofLabel? (Text.lowercase (Text.trim text)) <;> simp [eq_comm]

end Workflow

namespace TemplateSet

variable {s : TemplateSet} {w : Workflow}

/-- The last override among some entries that names a workflow. -/
def lastOverride? (entries : List (String × Template)) (w : Workflow) : Option Template :=
  (entries.reverse.find? fun e => decide (w.IsNamedBy e.1)).map Prod.snd

/-- Of several templates for a workflow the last one counts. -/
theorem get?_insertAll {entries : List (Workflow × Template)} :
    (s.insertAll entries).get? w =
      ((entries.reverse.find? fun e => decide (w = e.1)).map Prod.snd).or (s.get? w) := by
  induction entries generalizing s with
  | nil => rfl
  | cons e rest ih =>
    have hStep : s.insertAll (e :: rest) = (s.insert e.1 e.2).insertAll rest := rfl
    rw [hStep, ih, List.reverse_cons, List.find?_append]
    cases rest.reverse.find? fun e => decide (w = e.1) with
    | some x => rfl
    | none =>
      by_cases hw : w = e.1
      · simp [hw, insert]
      · simp [hw, insert]

/-- An override passes its check, as it is, iff its name is that of a workflow
and its template is valid. -/
theorem checkOverride_eq_ok_iff {entry : String × Template} {checked : Workflow × Template} :
    checkOverride entry = .ok checked ↔
      checked.1.IsNamedBy entry.1 ∧ entry.2.validate entry.1 = .ok () ∧ checked.2 = entry.2 := by
  rw [checkOverride, ← Workflow.parse_eq_ok_iff]
  cases hName : Workflow.parse entry.1 with
  | error e => simp [bind, Except.bind]
  | ok w =>
    cases hValid : entry.2.validate entry.1 with
    | error e => simp [bind, Except.bind]
    | ok _ =>
      obtain ⟨w', t⟩ := checked
      simp [bind, Except.bind, pure, Except.pure, eq_comm]

/-- Checking overrides does not change which of them is found for a workflow. -/
theorem find?_checked {entries : List (String × Template)} {checked : List (Workflow × Template)}
    (hChecked : List.Forall₂ (fun e c => checkOverride e = .ok c) entries checked) :
    (checked.find? fun c => decide (w = c.1)).map Prod.snd =
      (entries.find? fun e => decide (w.IsNamedBy e.1)).map Prod.snd := by
  induction hChecked with
  | nil => rfl
  | @cons e c entries checked hHead _ ih =>
    obtain ⟨hName, -, hTemplate⟩ := checkOverride_eq_ok_iff.mp hHead
    rw [List.find?_cons, List.find?_cons]
    by_cases hw : w = c.1
    · have hNamed : w.IsNamedBy e.1 := hw ▸ hName
      simp [hw, hName, hTemplate]
    · have hOther : ¬ w.IsNamedBy e.1 := fun hNamed => hw (hNamed.unique hName)
      simp [hw, hOther, ih]

/-- Applied overrides: the last one that names a workflow counts, and one that
is not named keeps its template. -/
theorem get?_applyOverrides {overrides : Table Template} {result : TemplateSet}
    (hOk : s.applyOverrides overrides = .ok result) :
    result.get? w = (lastOverride? overrides.entries w).or (s.get? w) := by
  rw [applyOverrides] at hOk
  cases hChecked : overrides.entries.mapM checkOverride with
  | error e => simp [hChecked, Except.map] at hOk
  | ok checked =>
    rw [hChecked] at hOk
    have hAll : result = s.insertAll checked := (Except.ok.inj hOk).symm
    have hReverse := List.rel_reverse (mapM_eq_ok_iff.mp hChecked)
    rw [hAll, get?_insertAll, find?_checked hReverse]
    rfl

end TemplateSet

/-- The template that a workflow has under a configuration: the last override
that names it, or else the built-in one. -/
def Config.template (c : Config) (w : Workflow) : Template :=
  (TemplateSet.lastOverride? c.templates.entries w).getD (TemplateSet.builtinTemplate w)

theorem Config.template_of_no_override {c : Config} {w : Workflow}
    (hNone : ∀ e ∈ c.templates.entries, ¬ w.IsNamedBy e.1) :
    c.template w = TemplateSet.builtinTemplate w := by
  have hFind : (c.templates.entries.reverse.find? fun e => decide (w.IsNamedBy e.1)) = none :=
    List.find?_eq_none.mpr fun e he => by simpa using hNone e (List.mem_reverse.mp he)
  rw [template, TemplateSet.lastOverride?, hFind]
  rfl

/-- Under a configuration every workflow has its template. -/
theorem Config.get?_templateSet {c : Config} {templates : TemplateSet}
    (hOk : c.templateSet = .ok templates) (w : Workflow) :
    templates.get? w = some (c.template w) := by
  rw [templateSet] at hOk
  cases hApplied : TemplateSet.builtin.applyOverrides c.templates with
  | error e => simp [hApplied, Except.mapError] at hOk
  | ok result =>
    rw [hApplied] at hOk
    rw [← Except.ok.inj hOk, TemplateSet.get?_applyOverrides hApplied, template]
    cases TemplateSet.lastOverride? c.templates.entries w <;> rfl

end ReviewPanel
