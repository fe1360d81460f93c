import ReviewPanel.Gate.Evaluation
import ReviewPanel.Proofs.Roster

/-!
# Gates — what a judgement says

Of the gates that are asked for, those that are known are judged, each on the
same report. The judgement is passed iff every one of them passes, and holds
one message for each that does not.

Which gates are known goes by what was registered (`Evaluator.Holds`): a name
stands for the last gate registered under it, at the place of the first one.
Judgements of two lists of names make up the judgement of both
(`Evaluator.evaluate_append`), so nothing about a name depends on its neighbours.

* `securityCompliance_fails_iff`, `codeQuality_fails_iff` — when a built-in gate fails.
* `errors_evaluate`       — which messages, in which order.
* `passed_evaluate_iff`   — when the judgement is passed.
* `errors_eq_nil_iff`     — a judgement that is not passed has a message.
* `judges_what_is_listed` — names, results, messages and lists of names at once.
-/

namespace ReviewPanel

/-! ## The built-in gates -/

namespace Gate

variable {limit : Nat} {kinds : List String} {report : Report}

theorem gate_codeQuality : ((codeQuality limit).evaluate report).gate = "code_quality" := by
  unfold codeQuality
  simp only
  split <;> rfl

/-- The gate fails iff there are more issues of high severity than the limit. -/
theorem codeQuality_fails_iff :
    ((codeQuality limit).evaluate report).passed = false ↔ limit < report.countSeverity .high := by
  unfold codeQuality
  simp only
  split <;> simp_all

theorem gate_securityCompliance :
    ((securityCompliance kinds).evaluate report).gate = "security_compliance" := by
  unfold securityCompliance
  simp only
  split <;> rfl

/-- The gate fails iff there is an issue of a blocked kind. -/
theorem securityCompliance_fails_iff :
    ((securityCompliance kinds).evaluate report).passed = false ↔
      report.issuesOfKinds kinds ≠ [] := by
  unfold securityCompliance
  simp only
  split
  · rename_i hNone
    simp [List.isEmpty_iff.mp hNone]
  · rename_i hSome
    simpa using hSome

/-- The gate recommends one thing for each issue of a blocked kind. -/
theorem length_recommendations_securityCompliance :
    ((securityCompliance kinds).evaluate report).recommendations.length =
      (report.issuesOfKinds kinds).length := by
  unfold securityCompliance
  simp only
  split
  · rename_i hNone
    rw [List.isEmpty_iff.mp hNone]
    rfl
  · exact List.length_map _

end Gate

/-! ## Two judgements as one -/

/-- The judgement that two judgements make up. -/
def GateReport.both (r r' : GateReport) : GateReport :=
  ⟨r.passed && r'.passed, r.errors ++ r'.errors, r.results ++ r'.results⟩

namespace Evaluator

variable {e : Evaluator} {report : Report} {names : List String}

/-! ## Messages -/

/-- What is said of a gate that is known and that a report fails. -/
def complaint? (e : Evaluator) (report : Report) (name : String) : Option String :=
  match e.find? name with
  | some g =>
    if (g.evaluate report).passed then none
    else some s!"Quality gate '{name}' failed: {(g.evaluate report).detail}"
  | none => none

/-- Nothing is said of a gate iff it is unknown or passes. -/
theorem complaint?_eq_none_iff {name : String} :
    e.complaint? report name = none ↔
      ∀ g, e.find? name = some g → (g.evaluate report).passed = true := by
  unfold complaint?
  cases e.find? name with
  | none => simp
  | some g => simp

/-- The names are judged in their order. -/
theorem judgements_cons {name : String} :
    e.judgements report (name :: names) =
      match e.find? name with
      | some g => (name, g.evaluate report) :: e.judgements report names
      | none => e.judgements report names := by
  rw [judgements, List.filterMap_cons]
  cases e.find? name <;> rfl

/-- The messages are those about the gates that are known and fail, in the order
in which the gates are asked for. -/
theorem errors_evaluate :
    (e.evaluate report names).errors = names.filterMap (e.complaint? report) := by
  rw [evaluate]
  simp only
  induction names with
  | nil => rfl
  | cons name rest ih =>
    rw [List.filterMap_cons, judgements_cons, complaint?]
    cases e.find? name with
    | none => exact ih
    | some g =>
      simp only [List.filter_cons]
      cases hPassed : (g.evaluate report).passed with
      | true => exact ih
      | false => exact congrArg (List.cons (failureText name (g.evaluate report))) ih

/-- A judgement is passed iff every gate passes that is known. -/
theorem passed_evaluate_iff :
    (e.evaluate report names).passed = true ↔
      ∀ name ∈ names, ∀ g, e.find? name = some g → (g.evaluate report).passed = true := by
  rw [evaluate, List.all_eq_true]
  constructor
  · intro hAll name hName g hKnown
    have hJudged : (name, g.evaluate report) ∈ e.judgements report names :=
      List.mem_filterMap.mpr ⟨name, hName, by rw [hKnown]; rfl⟩
    exact hAll _ hJudged
  · intro hAll j hj
    obtain ⟨name, hName, hSome⟩ := List.mem_filterMap.mp hj
    obtain ⟨g, hKnown, rfl⟩ := Option.map_eq_some_iff.mp hSome
    exact hAll name hName g hKnown

/-- A judgement fails with any of its gates. -/
theorem evaluate_fails {name : String} {g : Gate} (hListed : name ∈ names)
    (hKnown : e.find? name = some g) (hFails : (g.evaluate report).passed = false) :
    (e.evaluate report names).passed = false := by
  rw [← Bool.not_eq_true, passed_evaluate_iff]
  intro hAll
  have hPasses := hAll name hListed g hKnown
  rw [hFails] at hPasses
  cases hPasses

/-- A judgement is passed iff it has nothing to say. -/
theorem errors_eq_nil_iff :
    (e.evaluate report names).errors = [] ↔ (e.evaluate report names).passed = true := by
  rw [errors_evaluate, passed_evaluate_iff, List.filterMap_eq_nil_iff]
  simp only [complaint?_eq_none_iff]

/-! ## Lists of names -/

/-- Judging two lists of names in a row makes up one judgement of both. -/
theorem evaluate_append {a b : List String} :
    e.evaluate report (a ++ b) = (e.evaluate report a).both (e.evaluate report b) := by
  have hJudged : e.judgements report (a ++ b) =
      e.judgements report a ++ e.judgements report b := List.filterMap_append
  simp only [evaluate, GateReport.both, hJudged, List.all_append, List.filter_append,
    List.map_append]

/-- A gate is found iff its name is listed. -/
theorem isSome_find?_iff {name : String} : (e.find? name).isSome = true ↔ name ∈ e.names := by
  rw [find?, Roster.find?, List.find?_isSome, Evaluator.names, List.mem_map]
  simp only [beq_iff_eq]

/-- Unknown names change nothing. -/
theorem evaluate_filter_known :
    e.evaluate report (names.filter fun name => decide (name ∈ e.names)) =
      e.evaluate report names := by
  have hJudged : e.judgements report (names.filter fun name => decide (name ∈ e.names)) =
      e.judgements report names := by
    rw [judgements, List.filterMap_filter]
    apply List.filterMap_congr
    intro name _
    by_cases hKnown : name ∈ e.names
    · simp only [hKnown, decide_true, if_true]
    · -- nothing is found under a name that is not known
      have hNone := mt isSome_find?_iff.mp hKnown
      rw [Option.not_isSome_iff_eq_none] at hNone
      simp [hKnown, hNone]
  rw [evaluate, hJudged]
  rfl

/-! ## Registering gates -/

/-- The built-in gates with these thresholds. -/
def builtinGates (c : GateConfig) : List Gate :=
  [.codeQuality c.maxHighSeverity, .securityCompliance c.blockedKinds, .testCoverage]

/-- The gate that a name stands for after registrations: the last one of that name. -/
def standing? (registered : List Gate) (name : String) : Option Gate :=
  registered.reverse.find? fun g => g.name == name

/-- The evaluators with the gates that have been registered so far, in the order
of registration: none or the built-in ones, and then one after the other. -/
inductive Holds : List Gate → Evaluator → Prop
  | none : Holds [] empty
  | builtin (c : GateConfig) : Holds (builtinGates c) (ofConfig c)
  | register {registered : List Gate} {e : Evaluator} (g : Gate) (hBefore : Holds registered e) :
      Holds (registered ++ [g]) (e.register g)

variable {registered : List Gate}

/-- What the evaluator holds is determined by the registrations. -/
theorem Holds.gates_eq (hHolds : Holds registered e) :
    e.gates = registered.foldl (fun roster g => Roster.put Gate.name g roster) [] := by
  induction hHolds with
  | none => rfl
  | builtin c => rfl
  | register g _ ih =>
    -- one-step extension
    rw [List.foldl_append, ← ih]
    rfl

/-- The names come in the order in which they were first given. -/
theorem Holds.names_eq (hHolds : Holds registered e) :
    e.names = (registered.map Gate.name).eraseDups := by
  rw [names, hHolds.gates_eq, Roster.map_fill]

/-- The last gate of a name stands. -/
theorem Holds.find?_eq (hHolds : Holds registered e) (name : String) :
    e.find? name = standing? registered name := by
  rw [find?, hHolds.gates_eq, Roster.find?_fill]
  rfl

/-! ## Complete judgements -/

/-- What is to be said of a report by the gates that names stand for. -/
structure Says (registered : List Gate) (report : Report) (names : List String)
    (r : GateReport) : Prop where
  /-- One result for each listed name that is known, its gate's own. -/
  results : r.results = names.filterMap fun name =>
              (standing? registered name).map fun g => g.evaluate report
  passed  : r.passed = true ↔ ∀ x ∈ r.results, x.passed = true
  silent  : r.passed = true ↔ r.errors = []
  /-- One message for each result that is not passed, in the same order. -/
  errors  : List.Forall₂
              (fun x message => ∃ name ∈ names,
                (standing? registered name).map (fun g => g.evaluate report) = some x ∧
                  message = s!"Quality gate '{name}' failed: {x.detail}")
              (r.results.filter fun x => !x.passed) r.errors

/-- So does what it says of a report. -/
theorem Holds.says_evaluate (hHolds : Holds registered e) (report : Report)
    (names : List String) : Says registered report names (e.evaluate report names) := by
  refine ⟨?_, ?_, errors_eq_nil_iff.symm, ?_⟩
  · change (e.judgements report names).map Prod.snd = _
    -- each known name is judged by the gate that stands for it
    rw [judgements, List.map_filterMap]
    apply List.filterMap_congr
    intro name _
    rw [hHolds.find?_eq, Option.map_map]
    rfl
  · change ((e.judgements report names).all fun j => j.2.passed) = true ↔
      ∀ x ∈ (e.judgements report names).map Prod.snd, x.passed = true
    simp only [List.all_eq_true, List.forall_mem_map]
  · -- messages and results are read off the same list
    change List.Forall₂ _ (((e.judgements report names).map Prod.snd).filter _)
      (((e.judgements report names).filter _).map _)
    rw [List.filter_map, List.forall₂_map_left_iff, List.forall₂_map_right_iff]
    refine List.forall₂_same.mpr fun j hj => ?_
    obtain ⟨name, hName, hSome⟩ := List.mem_filterMap.mp (List.mem_of_mem_filter hj)
    obtain ⟨g, hFound, rfl⟩ := Option.map_eq_some_iff.mp hSome
    refine ⟨name, hName, ?_, rfl⟩
    rw [← hHolds.find?_eq, hFound]
    rfl

/--
**Judgements are complete, ordered and put together from parts.** Whatever has
been registered, the names of an evaluator are pairwise distinct and in the
order of first registration, and each stands for the last gate registered under
it. A judgement has one result for each listed name that is known, in the order
of the list and as often as it is listed, each the gate's own; it is passed iff
all of them are, and iff there is no message; there is one message for each that
is not, in order. Unknown names change nothing, and two lists of names in a row
are judged like each of them.
-/
theorem judges_what_is_listed (hHolds : Holds registered e) :
    (e.names = (registered.map Gate.name).eraseDups ∧ e.names.Nodup ∧
      ∀ name, e.find? name = standing? registered name) ∧
    ∀ report names,
      Says registered report names (e.evaluate report names) ∧
        e.evaluate report (names.filter fun name => decide (name ∈ e.names)) =
          e.evaluate report names ∧
        ∀ more, e.evaluate report (names ++ more) =
          (e.evaluate report names).both (e.evaluate report more) := by
  refine ⟨⟨hHolds.names_eq, hHolds.names_eq ▸ nodup_eraseDups, hHolds.find?_eq⟩, ?_⟩
  intro report names
  exact ⟨hHolds.says_evaluate report names, evaluate_filter_known, fun _ => evaluate_append⟩

/-- A gate that refuses everything in place of a built-in one. -/
def refusal : Gate := ⟨"test_coverage", fun _ => ⟨"test_coverage", false, "nope", []⟩⟩

theorem judges_what_is_listed_refusal :
    Holds (builtinGates .default ++ [refusal]) ((ofConfig .default).register refusal) ∧
      ((ofConfig .default).register refusal).names =
        ["code_quality", "security_compliance", "test_coverage"] ∧
      ((ofConfig .default).register refusal).evaluate .empty
          (["test_coverage", "budget"] ++ ["code_quality", "test_coverage"]) =
        ⟨false,
          ["Quality gate 'test_coverage' failed: nope",
            "Quality gate 'test_coverage' failed: nope"],
          [⟨"test_coverage", false, "nope", []⟩,
            ⟨"code_quality", true, "0 high severity issues (limit 5)", []⟩,
            ⟨"test_coverage", false, "nope", []⟩]⟩ := by
  have hHolds : Holds (builtinGates .default ++ [refusal])
      ((ofConfig .default).register refusal) := .register refusal (.builtin .default)
  obtain ⟨⟨hNames, -, -⟩, hJudgement⟩ := judges_what_is_listed hHolds
  obtain ⟨-, -, hAppend⟩ := hJudgement .empty ["test_coverage", "budget"]
  refine ⟨hHolds, hNames.trans (by decide), (hAppend _).trans (by decide)⟩

end Evaluator

end ReviewPanel
