import ReviewPanel.Proofs.Bytes
import ReviewPanel.Proofs.Table
import ReviewPanel.Proofs.Templates

/-!
# Overrides — all of them or none

Templates are overridden under names of workflows, and the names are gone
through in the order of their bytes. A first pass only checks the overrides: it
stops at the first one that is refused, before any template has been replaced.
A second pass replaces templates, and since several names may stand for one
workflow, the last of them leaves its template there.

* `checkOverride_eq_error_iff` — why an override is refused.
* `afterOverrides_eq`          — the two passes, on a set that they change.
* `overrides_are_atomic`       — what they leave behind.
-/

namespace ReviewPanel.TemplateSet

variable {s : TemplateSet} {w : Workflow} {name : String} {t : Template} {error : WorkflowError}
  {overrides : Table Template}

/-! ## Refusals -/

/-- Why an override is refused: its name stands for no workflow; or, where it
stands for one, its template is invalid. -/
inductive Refuses (name : String) (t : Template) : WorkflowError → Prop
  | unknown (hUnknown : ∀ w : Workflow, ¬ w.IsNamedBy name) :
      Refuses name t (.unknownWorkflow name)
  | invalid {w : Workflow} {error : WorkflowError} (hNamed : w.IsNamedBy name)
      (hInvalid : t.validate name = .error error) : Refuses name t error

/-- The check refuses what is to be refused. -/
theorem checkOverride_eq_error_iff {entry : String × Template} :
    checkOverride entry = .error error ↔ Refuses entry.1 entry.2 error := by
  rw [checkOverride]
  cases hName : Workflow.parse entry.1 with
  | error e =>
    -- a name of no workflow is refused first
    obtain ⟨rfl, hUnknown⟩ := Workflow.parse_eq_error_iff.mp hName
    constructor
    · intro hError
      cases hError
      exact .unknown hUnknown
    · intro hRefused
      cases hRefused with
      | unknown _ => rfl
      | invalid hNamed _ => exact absurd hNamed (hUnknown _)
  | ok w =>
    -- one of a workflow is refused if its template is
    have hNamed := Workflow.parse_eq_ok_iff.mp hName
    constructor
    · intro hError
      cases hValid : entry.2.validate entry.1 with
      | error e =>
        rw [hValid] at hError
        cases hError
        exact .invalid hNamed hValid
      | ok _ =>
        rw [hValid] at hError
        cases hError
    · intro hRefused
      cases hRefused with
      | unknown hUnknown => exact absurd hNamed (hUnknown w)
      | invalid _ hInvalid =>
        rw [hInvalid]
        rfl

/-! ## Two passes over a set -/

/-- Replaces templates in place: a first pass checks every override, and a
second one puts the templates where they belong. -/
def overrideInPlace (overrides : Table Template) :
    ExceptT WorkflowError (StateM TemplateSet) Unit := do
  let checked ← overrides.entries.mapM fun entry => MonadExcept.ofExcept (checkOverride entry)
  checked.forM fun e => modify fun s => s.insert e.1 e.2

/-- What overriding in place answers, and the set that it leaves. -/
def afterOverrides (s : TemplateSet) (overrides : Table Template) :
    Except WorkflowError Unit × TemplateSet :=
  ((overrideInPlace overrides).run).run s

/-- The first pass checks the overrides as they come, and leaves the set as it is. -/
theorem run_checks {α β : Type} {f : α → Except WorkflowError β} {xs : List α} :
    ((xs.mapM fun x => (MonadExcept.ofExcept (f x) :
      ExceptT WorkflowError (StateM TemplateSet) β)).run).run s = (xs.mapM f, s) := by
  induction xs with
  | nil => rfl
  | cons x rest ih =>
    rw [List.mapM_cons, List.mapM_cons]
    cases f x with
    | error e => rfl
    | ok y =>
      have hPass : (MonadExcept.ofExcept (.ok y : Except WorkflowError β) :
          ExceptT WorkflowError (StateM TemplateSet) β) = pure y := rfl
      rw [hPass, pure_bind, ExceptT.run_bind, StateT.run_bind, ih]
      cases rest.mapM f <;> rfl

/-- The second pass puts every template where it belongs, and never fails. -/
theorem run_replacements {checked : List (Workflow × Template)} :
    ((checked.forM fun e => (modify fun s => s.insert e.1 e.2 :
      ExceptT WorkflowError (StateM TemplateSet) Unit)).run).run s =
        (.ok (), s.insertAll checked) := by
  induction checked generalizing s with
  | nil => rfl
  | cons e rest ih => exact ih

/-- Overriding in place leaves the set that `applyOverrides` gives, or, where
that gives none, the set as it was. -/
theorem afterOverrides_eq (s : TemplateSet) (overrides : Table Template) :
    s.afterOverrides overrides =
      match s.applyOverrides overrides with
      | .ok result => (.ok (), result)
      | .error error => (.error error, s) := by
  rw [afterOverrides, overrideInPlace, ExceptT.run_bind, StateT.run_bind, run_checks,
    applyOverrides]
  cases overrides.entries.mapM checkOverride with
  | error e => rfl
  | ok checked => exact run_replacements

/-- Setting overrides fails like applying them. -/
theorem afterOverrides_eq_error_iff :
    (s.afterOverrides overrides).1 = .error error ↔ s.applyOverrides overrides = .error error := by
  rw [afterOverrides_eq]
  cases s.applyOverrides overrides <;> simp

theorem afterOverrides_eq_ok_iff :
    (s.afterOverrides overrides).1 = .ok () ↔
      ∃ result, s.applyOverrides overrides = .ok result := by
  rw [afterOverrides_eq]
  cases s.applyOverrides overrides <;> simp

/-! ## Which override counts -/

/-- Overrides are refused for the first of them that is. -/
theorem applyOverrides_eq_error_iff :
    s.applyOverrides overrides = .error error ↔
      ∃ e, IsFirst (fun e => ∃ error, Refuses e.1 e.2 error) overrides.entries e ∧
        Refuses e.1 e.2 error := by
  have hChecks : s.applyOverrides overrides = .error error ↔
      overrides.entries.mapM checkOverride = .error error := by
    rw [applyOverrides]
    cases overrides.entries.mapM checkOverride <;> simp [Except.map]
  rw [hChecks, mapM_eq_error_iff]
  simp only [checkOverride_eq_error_iff]

/-- Overrides are applied iff none of them is refused. -/
theorem exists_applyOverrides_iff :
    (∃ result, s.applyOverrides overrides = .ok result) ↔
      ∀ e ∈ overrides.entries, ∀ error, ¬ Refuses e.1 e.2 error := by
  constructor
  · rintro ⟨result, hOk⟩ e hMem error hRefused
    rw [← checkOverride_eq_error_iff] at hRefused
    rw [applyOverrides] at hOk
    cases hChecks : overrides.entries.mapM checkOverride with
    | error _ =>
      rw [hChecks] at hOk
      cases hOk
    | ok checked =>
      -- every single check has passed, that of `e` too
      obtain ⟨y, hPassed⟩ := exists_ok_of_mem hChecks hMem
      rw [hRefused] at hPassed
      cases hPassed
  · intro hNone
    cases hApplied : s.applyOverrides overrides with
    | ok result => exact ⟨result, rfl⟩
    | error error =>
      obtain ⟨e, hFirst, hRefused⟩ := applyOverrides_eq_error_iff.mp hApplied
      exact absurd hRefused (hNone e hFirst.mem error)

/-- Where entries are in order, the first of a kind is the one whose name has
the smallest bytes. -/
theorem isFirst_entries_iff (hOrder : Table.Ascending overrides.entries)
    {P : String × Template → Prop} {e : String × Template} :
    IsFirst P overrides.entries e ↔ e ∈ overrides.entries ∧ P e ∧
      ∀ x ∈ overrides.entries, P x → Text.bytes e.1 ≤ Text.bytes x.1 := by
  rw [isFirst_iff_of_pairwise (fun a b => String.lt_asymm) hOrder]
  simp only [Text.bytes_le_iff]

/-- And the last of a kind is the one whose name has the greatest. -/
theorem isFirst_reverse_entries_iff (hOrder : Table.Ascending overrides.entries)
    {P : String × Template → Prop} {e : String × Template} :
    IsFirst P overrides.entries.reverse e ↔ e ∈ overrides.entries ∧ P e ∧
      ∀ x ∈ overrides.entries, P x → Text.bytes x.1 ≤ Text.bytes e.1 := by
  have hReverse : overrides.entries.reverse.Pairwise fun a b => b.1 < a.1 :=
    List.pairwise_reverse.mpr hOrder
  rw [isFirst_iff_of_pairwise (fun a b => String.lt_asymm) hReverse]
  simp only [Text.bytes_le_iff, List.mem_reverse]

/-- In a table, the last override of a workflow is the one of its greatest name. -/
theorem lastOverride?_eq_some_iff (hOrder : Table.Ascending overrides.entries) :
    lastOverride? overrides.entries w = some t ↔
      ∃ name, (name, t) ∈ overrides.entries ∧ w.IsNamedBy name ∧
        ∀ x ∈ overrides.entries, w.IsNamedBy x.1 → Text.bytes x.1 ≤ Text.bytes name := by
  have hFind : ∀ e, overrides.entries.reverse.find? (fun e => decide (w.IsNamedBy e.1)) = some e ↔
      e ∈ overrides.entries ∧ w.IsNamedBy e.1 ∧
        ∀ x ∈ overrides.entries, w.IsNamedBy x.1 → Text.bytes x.1 ≤ Text.bytes e.1 := by
    intro e
    rw [← isFirst_reverse_entries_iff hOrder (P := fun e => w.IsNamedBy e.1)]
    exact find?_eq_some_iff_isFirst fun e => decide_eq_true_iff
  rw [lastOverride?, Option.map_eq_some_iff]
  simp only [hFind]
  constructor
  · rintro ⟨⟨name, t⟩, hGreatest, rfl⟩
    exact ⟨name, hGreatest⟩
  · rintro ⟨name, hGreatest⟩
    exact ⟨(name, t), hGreatest, rfl⟩

/-- None is the last iff none names the workflow. -/
theorem lastOverride?_eq_none_iff :
    lastOverride? overrides.entries w = none ↔
      ∀ x ∈ overrides.entries, ¬ w.IsNamedBy x.1 := by
  rw [lastOverride?, Option.map_eq_none_iff, List.find?_eq_none]
  simp

/--
**All overrides or none.** Let a map of overrides be filled in any way, and be
applied to a set in place. It is refused iff some override is, and then for the
one whose name has the smallest bytes among these; the set is as it was before.
Else every workflow has the template of the override whose name has the
greatest bytes among those that name it, or, where none does, the template that
it had. Applied to a value, overrides give the set that is left in place.
-/
theorem overrides_are_atomic (s : TemplateSet) (entries : List (String × Template)) :
    let overrides := Table.ofList entries
    let after := s.afterOverrides overrides
    (∀ error, after.1 = .error error ↔
      ∃ name t, overrides.get? name = some t ∧ Refuses name t error ∧
        ∀ name' t' error', overrides.get? name' = some t' → Refuses name' t' error' →
          Text.bytes name ≤ Text.bytes name') ∧
    (∀ error, after.1 = .error error → after.2 = s) ∧
    (after.1 = .ok () ↔
      ∀ name t error, overrides.get? name = some t → ¬ Refuses name t error) ∧
    (after.1 = .ok () → ∀ w,
      (∃ name t, overrides.get? name = some t ∧ w.IsNamedBy name ∧
        (∀ name' t', overrides.get? name' = some t' → w.IsNamedBy name' →
          Text.bytes name' ≤ Text.bytes name) ∧
        after.2.get? w = some t) ∨
      (∀ name t, overrides.get? name = some t → ¬ w.IsNamedBy name) ∧
        after.2.get? w = s.get? w) ∧
    s.applyOverrides overrides = after.1.map fun _ => after.2 := by
  intro overrides after
  have hOrder : Table.Ascending overrides.entries := Table.ascending_ofList
  have hMem : ∀ {e : String × Template}, e ∈ overrides.entries ↔ overrides.get? e.1 = some e.2 :=
    Table.mem_entries_iff hOrder
  have hAfter : after = _ := afterOverrides_eq s overrides
  refine ⟨?refusal, ?unchanged, ?accepted, ?replaced, ?value⟩
  case refusal =>
    intro error
    rw [afterOverrides_eq_error_iff, applyOverrides_eq_error_iff]
    simp only [isFirst_entries_iff hOrder, hMem]
    constructor
    · rintro ⟨⟨name, t⟩, ⟨hThere, -, hLeast⟩, hRefused⟩
      exact ⟨name, t, hThere, hRefused, fun name' t' error' hThere' hRefused' =>
        hLeast (name', t') hThere' ⟨error', hRefused'⟩⟩
    · rintro ⟨name, t, hThere, hRefused, hLeast⟩
      exact ⟨(name, t), ⟨hThere, ⟨error, hRefused⟩, fun x hx ⟨error', hRefused'⟩ =>
        hLeast x.1 x.2 error' hx hRefused'⟩, hRefused⟩
  case unchanged =>
    intro error hFailed
    rw [hAfter, afterOverrides_eq_error_iff.mp hFailed]
  case accepted =>
    rw [afterOverrides_eq_ok_iff, exists_applyOverrides_iff]
    simp only [hMem, Prod.forall]
    exact forall_congr' fun name => forall_congr' fun t => forall_comm
  case replaced =>
    intro hDone w
    obtain ⟨result, hApplied⟩ := afterOverrides_eq_ok_iff.mp hDone
    have hSet : after.2 = result := by rw [hAfter, hApplied]
    rw [hSet, get?_applyOverrides hApplied]
    cases hLast : lastOverride? overrides.entries w with
    | some t =>
      left
      obtain ⟨name, hThere, hNamed, hGreatest⟩ := (lastOverride?_eq_some_iff hOrder).mp hLast
      exact ⟨name, t, hMem.mp hThere, hNamed,
        fun name' t' hThere' => hGreatest (name', t') (hMem.mpr hThere'), rfl⟩
    | none =>
      -- no name stands for the workflow, so it keeps what it had
      right
      have hNobody := lastOverride?_eq_none_iff.mp hLast
      exact ⟨fun name t hThere => hNobody (name, t) (hMem.mpr hThere), rfl⟩
  case value =>
    rw [hAfter]
    cases s.applyOverrides overrides <;> rfl

end ReviewPanel.TemplateSet
