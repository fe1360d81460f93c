import Mathlib.Algebra.GroupWithZero.Nat
import ReviewPanel.Registry
import ReviewPanel.Workflow.Execution

/-!
# Reviewers — the built-in agents at work

Each built-in agent has a profile and a review (`Builtin.Reviews`): it reviews
the files that it accepts, rejects the others by the name of its profile, and
does either at once, so no deadline ever gets in its way.

* `Reviews.outcome_eq`  — the outcome of a built-in agent on any file.
* `exists_reviews`      — every agent of the built-in registry is a reviewer.
* `acceptsFile_iff`     — which files a list of extensions stands for.
-/

namespace ReviewPanel

open Numeric

namespace Builtin

/-- An agent with a profile, which analyzes a file by reviewing it if it accepts it. -/
structure Reviews (a : Agent) (p : Profile)
    (review : (path content : String) → Context → RawResult) : Prop where
  name       : a.name = p.name
  extensions : a.extensions = p.extensions
  analyze    : ∀ path content context, a.analyze path content context =
                 p.onFile path content (Profile.finished (review path content context))

variable {client : Option Llm.Client} {a : Agent} {p : Profile}
  {review : (path content : String) → Context → RawResult} {path content : String}
  {context : Context}

theorem reviews_reactCode : Reviews (React.codeAgent client) React.codeProfile
    fun path content _ => React.reviewCode path content :=
  ⟨rfl, rfl, fun _ _ _ => rfl⟩

theorem reviews_reactTest :
    Reviews (React.testAgent client) React.testProfile React.reviewTests :=
  ⟨rfl, rfl, fun _ _ _ => rfl⟩

theorem reviews_pythonCode : Reviews (Python.codeAgent client) Python.codeProfile
    fun path content _ => Python.reviewCode path content :=
  ⟨rfl, rfl, fun _ _ _ => rfl⟩

theorem reviews_pythonTest :
    Reviews (Python.testAgent client) Python.testProfile Python.reviewTests :=
  ⟨rfl, rfl, fun _ _ _ => rfl⟩

theorem reviews_security : Reviews (Security.agent client) Security.profile
    fun path content _ => Security.review path content :=
  ⟨rfl, rfl, fun _ _ _ => rfl⟩

/-! ## Reviews of tests

A file of tests is scanned; of any other file, the test agent says what should be tested. -/

/-- A file of tests is scanned, and its tests are looked at; any other file has no issues here. -/
theorem React.issues_reviewTests : (reviewTests path content context).issues =
    if isTestPath path then
      (Rule.scan testRules testProfile.name content testProfile.blank).1.issues ++
        assertionFindings content
    else [] := by
  unfold reviewTests
  cases isTestPath path <;> rfl

/-- A file that is none of tests gets a skeleton for each component, and regressions are told
of either. -/
theorem React.suggestions_reviewTests : (reviewTests path content context).suggestions =
    (if isTestPath path then
      (Rule.scan testRules testProfile.name content testProfile.blank).1.suggestions
    else (components content).map coverageSuggestion) ++
      regressionSuggestions testProfile (some regressionAdvice) context := by
  unfold reviewTests
  cases isTestPath path <;> rfl

/-- A file of tests is scanned, and its tests are looked at; any other file has no issues here. -/
theorem Python.issues_reviewTests : (reviewTests path content context).issues =
    if isTestPath path then
      (Rule.scan testRules testProfile.name content testProfile.blank).1.issues ++
        assertionFindings content
    else [] := by
  unfold reviewTests
  cases isTestPath path <;> rfl

/-- A file that is none of tests gets a skeleton for each function, and regressions are told
of either. -/
theorem Python.suggestions_reviewTests : (reviewTests path content context).suggestions =
    (if isTestPath path then
      (Rule.scan testRules testProfile.name content testProfile.blank).1.suggestions
    else (functions content).map coverageSuggestion) ++
      regressionSuggestions testProfile none context := by
  unfold reviewTests
  cases isTestPath path <;> rfl

/-! ## Outcomes -/

/-- What takes no time ends within every deadline. -/
theorem outcome_immediate {usage : List Usage} {ending : Ending RawResult} {name : String}
    {limit : Duration} :
    (Run.immediate usage ending).outcome name limit =
      match ending with
      | .answered result => .success result
      | .failed e => .failure (.ofError e)
      | .panicked => .failure ⟨s!"Agent {name} panicked", .panicked⟩ := by
  have hTicks : Duration.zero.ticks ≤ limit.ticks := Nat.zero_le _
  have hEnds : (Run.immediate usage ending).endsWithin limit = true := decide_eq_true hTicks
  rw [Run.outcome, if_pos hEnds]
  rfl

/-- A reviewer reviews a file that it accepts, and rejects any other. -/
theorem Reviews.outcome_eq (hReviews : Reviews a p review) (path content : String)
    (context : Context) (name : String) (limit : Duration) :
    (a.analyze path content context).outcome name limit =
      if a.validate path content then .success (review path content context)
      else .failure (.ofError (p.rejection path)) := by
  rw [hReviews.analyze, Profile.onFile, Agent.validate, hReviews.extensions]
  split
  · rw [Profile.finished, outcome_immediate]
  · rw [outcome_immediate]

/-- What is answered about a file that is accepted. -/
theorem Reviews.ending_eq (hReviews : Reviews a p review) {path content : String}
    (hValid : a.validate path content = true) (context : Context) :
    (a.analyze path content context).ending = .answered (review path content context) := by
  rw [Agent.validate, hReviews.extensions] at hValid
  rw [hReviews.analyze, Profile.onFile, if_pos hValid]
  rfl

/-- What is answered about any other file. -/
theorem Reviews.ending_of_rejected (hReviews : Reviews a p review) {path content : String}
    (hInvalid : ¬ a.validate path content = true) (context : Context) :
    (a.analyze path content context).ending = .failed (p.rejection path) := by
  rw [Agent.validate, hReviews.extensions] at hInvalid
  rw [hReviews.analyze, Profile.onFile, if_neg hInvalid]
  rfl

/-- The text by which a file is rejected. -/
theorem ofError_rejection (p : Profile) (path : String) :
    Failure.ofError (p.rejection path) =
      ⟨"Invalid input for agent " ++ p.name ++ ": unsupported or empty input: " ++ path,
        .execution⟩ := by
  have hText : (p.rejection path).message =
      "Invalid input for agent " ++ p.name ++ ": " ++ ("unsupported or empty input: " ++ path) :=
    rfl
  have hJoined : (": " ++ "unsupported or empty input: ") = ": unsupported or empty input: " := rfl
  rw [Failure.ofError, hText, ← hJoined]
  simp only [String.append_assoc]
  rfl

/-- A content whose lines can be counted in 32 bits numbers each of them from one on. -/
theorem toNat_lineNumber {count k : Nat} (hCount : count < 2 ^ 32) (hk : k < count) :
    (lineNumber k).toNat = k + 1 := by
  show (k + 1) % 2 ^ 32 = k + 1
  exact Nat.mod_eq_of_lt (by omega)

/-! ## Which files are accepted -/

/-- A content that has something beside blank characters. -/
def HasText (content : String) : Prop := ∃ c ∈ content.toList, Text.isBlank c = false

/-- A path whose extension is in a list, the case of ASCII letters aside. -/
def HasExtension (path : String) (extensions : List String) : Prop :=
  ∃ ext, Text.extension? path = some ext ∧ Text.lowerAscii ext ∈ extensions

theorem isBlankText_eq_false_iff : Text.isBlankText content = false ↔ HasText content := by
  rw [Text.isBlankText, List.all_eq_false]
  simp only [HasText, Bool.not_eq_true]

/-- A list of extensions in lowercase stands for the files that have text and one
of the extensions. -/
theorem acceptsFile_iff {extensions : List String} (hSome : extensions ≠ [])
    (hLower : ∀ e ∈ extensions, Text.lowerAscii e = e) :
    acceptsFile extensions path content = true ↔
      HasText content ∧ HasExtension path extensions := by
  have hNonempty : extensions.isEmpty = false := by simpa using hSome
  have hAny : ∀ ext, (extensions.any fun e => Text.lowerAscii e == Text.lowerAscii ext) = true ↔
      Text.lowerAscii ext ∈ extensions := by
    intro ext
    rw [List.any_eq_true]
    constructor
    · rintro ⟨e, he, hEq⟩
      rwa [← beq_iff_eq.mp hEq, hLower e he]
    · intro hMem
      exact ⟨_, hMem, beq_iff_eq.mpr (hLower _ hMem)⟩
  rw [acceptsFile, hNonempty, Bool.false_or, Bool.and_eq_true, Bool.not_eq_true',
    isBlankText_eq_false_iff, HasExtension]
  cases Text.extension? path with
  | none => simp
  | some ext => simp [hAny]

/-- Without a list, any file is accepted that has text. -/
theorem acceptsFile_nil_iff : acceptsFile [] path content = true ↔ HasText content := by
  rw [acceptsFile, List.isEmpty_nil, Bool.true_or, Bool.and_true, Bool.not_eq_true',
    isBlankText_eq_false_iff]

/-- A file is accepted if it has text and one of the extensions. -/
theorem react_accepts_iff :
    acceptsFile React.extensions path content = true ↔
      HasText content ∧ HasExtension path React.extensions :=
  acceptsFile_iff (by decide) (by decide)

theorem python_accepts_iff :
    acceptsFile Python.extensions path content = true ↔
      HasText content ∧ HasExtension path Python.extensions :=
  acceptsFile_iff (by decide) (by decide)

/-! ## The built-in registry -/

theorem agents_code : (Registry.builtin client).agents .code =
    [⟨0, React.codeAgent client⟩, ⟨1, Python.codeAgent client⟩] := rfl

theorem agents_testing : (Registry.builtin client).agents .testing =
    [⟨2, React.testAgent client⟩, ⟨3, Python.testAgent client⟩] := rfl

theorem agents_security : (Registry.builtin client).agents .security =
    [⟨4, Security.agent client⟩] := rfl

/-- Every built-in agent is a reviewer. -/
theorem exists_reviews {c : Category} {i : Instance}
    (hMem : i ∈ (Registry.builtin client).agents c) :
    ∃ p review, Reviews i.agent p review := by
  cases c with
  | code =>
    simp only [agents_code, List.mem_cons, List.not_mem_nil, or_false] at hMem
    rcases hMem with rfl | rfl
    · exact ⟨_, _, reviews_reactCode⟩
    · exact ⟨_, _, reviews_pythonCode⟩
  | testing =>
    simp only [agents_testing, List.mem_cons, List.not_mem_nil, or_false] at hMem
    rcases hMem with rfl | rfl
    · exact ⟨_, _, reviews_reactTest⟩
    · exact ⟨_, _, reviews_pythonTest⟩
  | security =>
    rw [agents_security] at hMem
    rw [List.mem_singleton.mp hMem]
    exact ⟨_, _, reviews_security⟩

end Builtin

end ReviewPanel
