import ReviewPanel.Proofs.LineEndDocuments
import ReviewPanel.Proofs.LineEndPatterns
import ReviewPanel.Proofs.Reviewer

/-!
# Line ends in reviews

A file may be kept with returns at its line ends or without, and a review should not depend on
it. The built-in agents look at a file in four ways: by its lines, by texts that occur in it, by
the names that a pattern finds in it, and as a data text. Each of these is the same for both
spellings of a content without returns, and so is all that an agent makes of the file.

* `Rule.scan_addReturns`                 — rules, which look at lines.
* `Builtin.KeepsLineEnds`                — what is asked of a review.
* `Builtin.line_ends_make_no_difference` — the built-in agents keep to it.
-/

namespace ReviewPanel

open Text

variable {content needle path : String} {context : Context}

/-! ## Contents -/

/-- A content with a return before every line feed. -/
def Text.addReturns (content : String) : String := String.ofList (withReturns content.toList)

@[simp]
theorem Text.toList_addReturns : (addReturns content).toList = withReturns content.toList :=
  String.toList_ofList

theorem Text.isBlankText_addReturns : isBlankText (addReturns content) = isBlankText content := by
  rw [isBlankText, toList_addReturns, all_withReturns (by decide)]
  rfl

/-- A file is accepted in both spellings or in neither. -/
theorem acceptsFile_addReturns {extensions : List String} :
    acceptsFile extensions path (addReturns content) = acceptsFile extensions path content := by
  rw [acceptsFile, isBlankText_addReturns]
  rfl

/-- A text of one line occurs in both spellings or in none. -/
theorem Text.contains_addReturns (hLine : isOneLine needle.toList = true) :
    contains (addReturns content) needle = contains content needle := by
  rw [contains, toList_addReturns, occursIn_withReturns hLine]
  rfl

/-- Lines are cut the same: a return before a feed belongs to the line end. -/
theorem Text.lines_addReturns (hContent : '\r' ∉ content.toList) :
    lines (addReturns content).toList = lines content.toList := by
  rw [toList_addReturns, lines_withReturns hContent]

/-- Rules look at lines, and at nothing else. -/
theorem Rule.scan_addReturns {rules : List Rule} {agent : String} {result : RawResult}
    (hContent : '\r' ∉ content.toList) :
    scan rules agent (addReturns content) result = scan rules agent content result := by
  have hHits : hits rules agent (addReturns content) = hits rules agent content := by
    rw [hits, lines_addReturns hContent]
    rfl
  rw [scan, hHits]
  rfl

namespace Builtin

/-! ## The agents for React -/

namespace React

/-- The components that a file exports are found by an even pattern. -/
theorem components_addReturns : components (addReturns content) = components content := by
  rw [components, toList_addReturns, NamePattern.all_withReturns (by decide)]
  rfl

/-- A test is looked for by texts of one line. -/
theorem assertionFindings_addReturns :
    assertionFindings (addReturns content) = assertionFindings content := by
  have hLines : ∀ mark ∈ testMarks, isOneLine mark.toList = true := by decide
  have hMarks : testMarks.any (contains (addReturns content)) =
      testMarks.any (contains content) := by
    rw [Bool.eq_iff_iff, List.any_eq_true, List.any_eq_true]
    exact exists_congr fun mark => and_congr_right fun hMem => by
      rw [contains_addReturns (hLines mark hMem)]
  rw [assertionFindings, hMarks, contains_addReturns (by decide)]
  rfl

/-- The rules go by lines, and the calls of effects are looked for in lines, too. -/
theorem reviewCode_addReturns (hContent : '\r' ∉ content.toList) :
    reviewCode path (addReturns content) = reviewCode path content := by
  rw [reviewCode, lines_addReturns hContent, Rule.scan_addReturns hContent]
  rfl

/-- A file of tests is scanned by lines, any other one for the components it exports. -/
theorem reviewTests_addReturns (hContent : '\r' ∉ content.toList) :
    reviewTests path (addReturns content) context = reviewTests path content context := by
  rw [reviewTests, Rule.scan_addReturns hContent, assertionFindings_addReturns,
    components_addReturns]
  rfl

end React

/-! ## The agents for Python -/

namespace Python

/-- So are the functions that a file defines. -/
theorem functions_addReturns : functions (addReturns content) = functions content := by
  rw [functions, toList_addReturns, NamePattern.all_withReturns (by decide)]
  rfl

/-- So is one in the other language. -/
theorem assertionFindings_addReturns :
    assertionFindings (addReturns content) = assertionFindings content := by
  rw [assertionFindings, functions_addReturns, contains_addReturns (by decide),
    contains_addReturns (by decide)]
  rfl

/-- Here there are rules only. -/
theorem reviewCode_addReturns (hContent : '\r' ∉ content.toList) :
    reviewCode path (addReturns content) = reviewCode path content := by
  rw [reviewCode, lines_addReturns hContent, Rule.scan_addReturns hContent]
  rfl

/-- As above, with functions for components. -/
theorem reviewTests_addReturns (hContent : '\r' ∉ content.toList) :
    reviewTests path (addReturns content) context = reviewTests path content context := by
  rw [reviewTests, Rule.scan_addReturns hContent, assertionFindings_addReturns,
    functions_addReturns]
  rfl

end Python

/-! ## The scanner -/

namespace Security

/-- A manifest is the same document in either spelling. -/
theorem parseManifest?_addReturns :
    parseManifest? (addReturns content) = parseManifest? content := by
  rw [parseManifest?, Json.ofText_withReturns toList_addReturns]
  rfl

/-- A file is a manifest by its name, and read as a document or by lines. -/
theorem review_addReturns (hContent : '\r' ∉ content.toList) :
    review path (addReturns content) = review path content := by
  have hFindings : findings path (addReturns content) = findings path content := by
    rw [findings, lines_addReturns hContent, Rule.scan_addReturns hContent, reviewManifest,
      parseManifest?_addReturns]
    rfl
  rw [review, hFindings]
  rfl

end Security

/-! ## All built-in agents -/

/-- A review for which the spelling of line ends makes no difference. -/
def KeepsLineEnds (review : (path content : String) → Context → RawResult) : Prop :=
  ∀ path content context, '\r' ∉ content.toList →
    review path (addReturns content) context = review path content context

variable {client : Option Llm.Client} {category : Category} {i : Instance} {a : Agent}
  {p : Profile} {review : (path content : String) → Context → RawResult}

/-- An agent accepts both spellings or none, so it is enough that its review is the same. -/
theorem Reviews.analyze_addReturns (hReviews : Reviews a p review) (hKeeps : KeepsLineEnds review)
    (hContent : '\r' ∉ content.toList) :
    a.analyze path (addReturns content) context = a.analyze path content context := by
  rw [hReviews.analyze, hReviews.analyze, Profile.onFile, acceptsFile_addReturns,
    hKeeps path content context hContent]
  rfl

/-- Each agent of a category reviews, and its review does not depend on the spelling. -/
theorem exists_keepsLineEnds (hMem : i ∈ (Registry.builtin client).agents category) :
    ∃ p review, Reviews i.agent p review ∧ KeepsLineEnds review := by
  cases category with
  | code =>
    simp only [agents_code, List.mem_cons, List.not_mem_nil, or_false] at hMem
    rcases hMem with rfl | rfl
    · exact ⟨_, _, reviews_reactCode, fun _ _ _ => React.reviewCode_addReturns⟩
    · exact ⟨_, _, reviews_pythonCode, fun _ _ _ => Python.reviewCode_addReturns⟩
  | testing =>
    simp only [agents_testing, List.mem_cons, List.not_mem_nil, or_false] at hMem
    rcases hMem with rfl | rfl
    · exact ⟨_, _, reviews_reactTest, fun _ _ _ => React.reviewTests_addReturns⟩
    · exact ⟨_, _, reviews_pythonTest, fun _ _ _ => Python.reviewTests_addReturns⟩
  | security =>
    rw [agents_security] at hMem
    rw [List.mem_singleton.mp hMem]
    exact ⟨_, _, reviews_security, fun _ _ _ => Security.review_addReturns⟩

/--
**Line ends make no difference.** Take any of the built-in agents, with or without a language
model, any path, any context and any content without carriage returns. The analysis of the
content in which every line feed has got a return before it is the analysis of the content:
both are rejected, with the same error, or both end with the same result, with the same issues
and suggestions on the same lines, the same summary and the same metrics, and the agent counts
the same.
-/
theorem line_ends_make_no_difference (hMem : i ∈ (Registry.builtin client).agents category)
    (hContent : '\r' ∉ content.toList) (path : String) (context : Context) :
    i.agent.analyze path (addReturns content) context = i.agent.analyze path content context := by
  obtain ⟨p, review, hReviews, hKeeps⟩ := exists_keepsLineEnds hMem
  -- no other part of an analysis looks at the content
  exact hReviews.analyze_addReturns hKeeps hContent

/-- A definition that goes on after a line end, in the middle of which its piece could end, and
a manifest in which a line end is space. -/
theorem line_ends_make_no_difference_split :
    (Python.testAgent none).analyze "a.py" "def\r\nf\r\n()" .empty =
        (Python.testAgent none).analyze "a.py" "def\nf\n()" .empty ∧
      (Security.agent none).analyze "package.json" "[\r\n1]" .empty =
        (Security.agent none).analyze "package.json" "[\n1]" .empty := by
  constructor
  · have hMem : ⟨3, Python.testAgent none⟩ ∈ (Registry.builtin none).agents .testing :=
      List.mem_of_getElem? (i := 1) rfl
    have hContent : '\r' ∉ "def\nf\n()".toList := by decide
    exact line_ends_make_no_difference hMem hContent "a.py" .empty
  · have hMem : ⟨4, Security.agent none⟩ ∈ (Registry.builtin none).agents .security :=
      List.mem_of_getElem? (i := 0) rfl
    have hContent : '\r' ∉ "[\n1]".toList := by decide
    exact line_ends_make_no_difference hMem hContent "package.json" .empty

end Builtin

end ReviewPanel
