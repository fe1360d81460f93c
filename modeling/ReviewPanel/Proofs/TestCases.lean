import ReviewPanel.Proofs.Reviewer
import ReviewPanel.Proofs.Scan
import ReviewPanel.Proofs.Search

/-!
# Test cases — what passes for one

A test file is reported as a whole if it has test cases and asserts nothing. What a test case is
goes by the text that opens one, such as `it(`, wherever it stands. The rules of the same agent
ask for the start of a word in front of it; here the end of a word will do, so that a file which
calls a function named `submit` is taken for one with test cases.

Main results:

* `React.assertionIssues_eq`                     — what is reported about a test file.
* `React.test_cases_are_told_by_any_mark`        — when it is reported, in and outside of words.
* `React.calls_of_other_names_pass_for_test_cases` — a file without test cases that is.
-/

namespace ReviewPanel.Builtin.React

open Text

variable {path content : String} {text : List Char} {k : Nat} {context : Context}
  {client : Option Llm.Client}

/-! ## Marks -/

/-- A text that opens a test case stands at a place. -/
def MarksTestCase (text : List Char) (k : Nat) : Prop :=
  ∃ mark ∈ testMarks, mark.toList <+: text.drop k

/-- The character in front of a place belongs to a word. -/
def GoesOnAWord (text : List Char) (k : Nat) : Prop :=
  ∃ c, (text.take k).getLast? = some c ∧ isWord c = true

/-- A content has the text that opens an assertion. -/
def AssertsSomething (content : String) : Prop := "expect(".toList <:+: content.toList

/-- A file has a test iff one of the marks occurs in it. -/
theorem exists_marksTestCase_iff : (∃ k, MarksTestCase content.toList k) ↔
    testMarks.any (contains content) = true := by
  simp only [List.any_eq_true, contains_iff, infix_iff_exists_drop, MarksTestCase]
  constructor
  · rintro ⟨k, mark, hMark, hHere⟩
    exact ⟨mark, hMark, k, hHere⟩
  · rintro ⟨mark, hMark, k, hHere⟩
    exact ⟨k, mark, hMark, hHere⟩

theorem MarksTestCase.lt (hHere : MarksTestCase text k) : k < text.length := by
  obtain ⟨mark, hMark, hPrefix⟩ := hHere
  by_contra hBeyond
  rw [List.drop_eq_nil_of_le (Nat.le_of_not_lt hBeyond), List.prefix_nil] at hPrefix
  have hSome : ∀ mark ∈ testMarks, mark.toList ≠ [] := by decide
  exact hSome mark hMark hPrefix

instance : DecidablePred (MarksTestCase text) := fun k =>
  inferInstanceAs (Decidable (∃ mark ∈ testMarks, mark.toList <+: text.drop k))

instance : DecidablePred (GoesOnAWord text) := fun k =>
  decidable_of_iff ((text.take k).getLast?.any isWord = true) (Option.any_eq_true _ _)

instance : Decidable (∃ k, MarksTestCase content.toList k) :=
  decidable_of_iff _ exists_marksTestCase_iff.symm

instance : DecidablePred AssertsSomething := fun content =>
  decidable_of_iff (contains content "expect(" = true) contains_iff

/-! ## Reports -/

def assertionTitle : String := "Tests without assertions"

/-- What is reported of a file with test cases and without assertions. -/
def assertionIssue : Finding :=
  { kind := "test_quality"
    severity := .high
    title := assertionTitle
    description := "Test cases never call expect()"
    agent := "javascript_react_test"
    confidence := Finding.hundredths 85
    line := none
    suggestion := none }

/-- One issue is reported, for a file that has a test and asserts nothing. -/
theorem assertionFindings_eq : assertionFindings content =
    if (∃ k, MarksTestCase content.toList k) ∧ ¬ AssertsSomething content then [assertionIssue]
    else [] := by
  have hTest : (testMarks.any (contains content) && !contains content "expect(") = true ↔
      (∃ k, MarksTestCase content.toList k) ∧ ¬ AssertsSomething content := by
    rw [Bool.and_eq_true, Bool.not_eq_true', ← Bool.not_eq_true, contains_iff,
      exists_marksTestCase_iff, AssertsSomething]
  rw [assertionFindings]
  by_cases hHolds : (testMarks.any (contains content) && !contains content "expect(") = true
  · rw [if_pos hHolds, if_pos (hTest.mp hHolds)]
    rfl
  · rw [if_neg hHolds, if_neg (mt hTest.mpr hHolds)]

/-- Of the issues of a test file, this is the only one with its title: no rule has it. -/
theorem assertionIssues_eq (hTest : isTestPath path = true) :
    (reviewTests path content context).issues.filter (·.title = assertionTitle) =
      if (∃ k, MarksTestCase content.toList k) ∧ ¬ AssertsSomething content then [assertionIssue]
      else [] := by
  have hRules : (Rule.scan testRules testProfile.name content testProfile.blank).1.issues.filter
      (·.title = assertionTitle) = [] := by
    refine List.filter_eq_nil_iff.mpr fun f hMem => ?_
    obtain ⟨-, -, r, hr, -, rfl⟩ := Rule.exists_rule_of_mem_findingsFor hMem
    have hTitles : ∀ r ∈ testRules, ¬ decide (r.title = assertionTitle) = true := by decide
    exact hTitles r hr
  rw [issues_reviewTests, if_pos hTest, List.filter_append, hRules, List.nil_append,
    assertionFindings_eq]
  split
  · rfl
  · rfl

/-- An analysis reports tests without assertions. -/
def ReportsNoAssertions (ending : Ending RawResult) : Prop :=
  ∃ result, ending = .answered result ∧ ∃ f ∈ result.issues, f.title = assertionTitle

theorem validate_testAgent_iff (hText : HasText content) :
    (testAgent client).validate path content = true ↔ HasExtension path extensions := by
  have hAccepts := @react_accepts_iff path content
  rwa [iff_true_intro hText, true_and] at hAccepts

/-- The agent reports it for the files it accepts, and no others. -/
theorem reportsNoAssertions_iff (hTest : isTestPath path = true) (hText : HasText content) :
    ReportsNoAssertions ((testAgent client).analyze path content context).ending ↔
      HasExtension path extensions ∧
        (∃ k, MarksTestCase content.toList k) ∧ ¬ AssertsSomething content := by
  by_cases hPath : HasExtension path extensions
  · -- an accepted file: the issues with this title are those of the search
    have hIssues := @assertionIssues_eq path content context hTest
    rw [reviews_reactTest.ending_eq ((validate_testAgent_iff hText).mpr hPath),
      iff_true_intro hPath, true_and]
    constructor
    · rintro ⟨result, hEnding, f, hMem, hTitle⟩
      rw [← Ending.answered.inj hEnding] at hMem
      by_contra hNone
      rw [if_neg hNone] at hIssues
      exact List.filter_eq_nil_iff.mp hIssues f hMem (decide_eq_true hTitle)
    · intro hMarked
      rw [if_pos hMarked] at hIssues
      have hListed : assertionIssue ∈
          (reviewTests path content context).issues.filter (·.title = assertionTitle) := by
        rw [hIssues]
        exact List.mem_singleton_self _
      exact ⟨_, rfl, assertionIssue, (List.mem_filter.mp hListed).1, rfl⟩
  · -- nothing is reported of a file that is rejected
    rw [reviews_reactTest.ending_of_rejected (mt (validate_testAgent_iff hText).mp hPath)]
    refine iff_of_false ?_ fun h => hPath h.1
    rintro ⟨result, hEnding, -⟩
    cases hEnding

/--
**Test cases are told by any mark.** Take any path of a test file and any content that has text.
If the agent accepts the path, it gives a result, which has one issue about missing assertions if
the content has a text that opens a test case anywhere and none that opens an assertion, and no
such issue otherwise. So a content in which every such text goes on a word, and opens no test
case, is reported iff it has one of them and no assertion.
-/
theorem test_cases_are_told_by_any_mark (client : Option Llm.Client)
    (hTest : isTestPath path = true) (hText : HasText content) (context : Context) :
    (HasExtension path extensions →
      ∃ result, ((testAgent client).analyze path content context).ending = .answered result ∧
        result.issues.filter (·.title = assertionTitle) =
          if (∃ k, MarksTestCase content.toList k) ∧ ¬ AssertsSomething content then
            [assertionIssue]
          else []) ∧
    ((∀ k, MarksTestCase content.toList k → GoesOnAWord content.toList k) →
      (ReportsNoAssertions ((testAgent client).analyze path content context).ending ↔
        HasExtension path extensions ∧
          (∃ k, MarksTestCase content.toList k ∧ GoesOnAWord content.toList k) ∧
          ¬ AssertsSomething content)) := by
  refine ⟨fun hPath => ?_, fun hInside => ?_⟩
  · have hValid : (testAgent client).validate path content = true :=
      (validate_testAgent_iff hText).mpr hPath
    exact ⟨_, reviews_reactTest.ending_eq hValid context, assertionIssues_eq hTest⟩
  · -- each mark goes on a word, so to ask for one that does is to ask for a mark
    rw [reportsNoAssertions_iff hTest hText]
    have hSame : (∃ k, MarksTestCase content.toList k ∧ GoesOnAWord content.toList k) ↔
        ∃ k, MarksTestCase content.toList k :=
      exists_congr fun k => and_iff_left_of_imp (hInside k)
    rw [hSame]

/-- A file that calls something else, and asserts. -/
theorem test_cases_are_told_by_any_mark_submitted :
    isTestPath "a.test.js" = true ∧ HasText "submit(form);\nexpect(form).toBeSent();\n" ∧
      ¬ ReportsNoAssertions ((testAgent none).analyze "a.test.js"
        "submit(form);\nexpect(form).toBeSent();\n" .empty).ending := by
  have hTest : isTestPath "a.test.js" = true := by decide
  have hText : HasText "submit(form);\nexpect(form).toBeSent();\n" := ⟨'s', by decide, by decide⟩
  have hInside : ∀ k, MarksTestCase "submit(form);\nexpect(form).toBeSent();\n".toList k →
      GoesOnAWord "submit(form);\nexpect(form).toBeSent();\n".toList k := by
    have hEach : ∀ k < "submit(form);\nexpect(form).toBeSent();\n".toList.length,
        MarksTestCase "submit(form);\nexpect(form).toBeSent();\n".toList k →
          GoesOnAWord "submit(form);\nexpect(form).toBeSent();\n".toList k := by decide
    exact fun k hHere => hEach k hHere.lt hHere
  obtain ⟨-, hReports⟩ := test_cases_are_told_by_any_mark none hTest hText .empty
  have hAsserts : AssertsSomething "submit(form);\nexpect(form).toBeSent();\n" := by decide
  exact ⟨hTest, hText, fun hReported => ((hReports hInside).mp hReported).2.2 hAsserts⟩

/-- A file that calls something else, and has no test case. -/
theorem calls_of_other_names_pass_for_test_cases :
    isTestPath "a.test.js" = true ∧ HasText "submit(form);\n" ∧
      (∀ k, MarksTestCase "submit(form);\n".toList k → GoesOnAWord "submit(form);\n".toList k) ∧
      ReportsNoAssertions ((testAgent none).analyze "a.test.js" "submit(form);\n" .empty).ending := by
  have hTest : isTestPath "a.test.js" = true := by decide
  have hText : HasText "submit(form);\n" := ⟨'s', by decide, by decide⟩
  have hEach : ∀ k < "submit(form);\n".toList.length,
      MarksTestCase "submit(form);\n".toList k → GoesOnAWord "submit(form);\n".toList k := by decide
  have hPath : HasExtension "a.test.js" extensions := ⟨"js", by decide, by decide⟩
  refine ⟨hTest, hText, fun k hHere => hEach k hHere.lt hHere, ?_⟩
  exact (reportsNoAssertions_iff hTest hText).mpr ⟨hPath, by decide, by decide⟩

end ReviewPanel.Builtin.React
