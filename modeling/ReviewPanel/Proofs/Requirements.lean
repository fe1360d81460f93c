import ReviewPanel.Proofs.Kinds
import ReviewPanel.Proofs.Search

/-!
# Requirements — which lines of a requirements file are reported

A line of such a file asks for a package (`Security.IsRequirement`), and leaves its version open
unless the part in front of the first semicolon pins it with two equality signs
(`Security.LeavesOpen`). Behind the semicolon stands a marker, the condition under which the
package is asked for, and a marker may compare, too (`Security.MarkerCompares`). The scanner
looks for the signs in the whole entry, so that a comparison in a marker passes for a pin.

Main results:

* `Security.requirements_are_read_with_markers` — what is reported, and when this is all there is.
* `Security.marker_passes_for_pin`              — an open requirement that is not reported.
-/

namespace ReviewPanel.Builtin.Security

open Text

section Lines

variable {line : List Char} {path content : String}

/-! ## Entries -/

/-- What a line says in front of a comment, without the blanks around it. -/
def entry (line : List Char) : List Char := trimChars (line.takeWhile (· != '#'))

/-- A line asks for something if it says anything and is not an option. -/
def IsRequirement (line : List Char) : Prop := entry line ≠ [] ∧ (entry line).head? ≠ some '-'

/-- The part of an entry in front of its marker. -/
def requirementPart (line : List Char) : List Char := (entry line).takeWhile (· != ';')

/-- The marker of an entry, with the semicolon that introduces it. -/
def marker (line : List Char) : List Char := (entry line).dropWhile (· != ';')

/-- A line asks for something without pinning its version. -/
def LeavesOpen (line : List Char) : Prop :=
  IsRequirement line ∧ ¬ "==".toList <:+: requirementPart line

/-- The marker of a line compares something for equality. -/
def MarkerCompares (line : List Char) : Prop := "==".toList <:+: marker line

instance : DecidablePred IsRequirement := fun line =>
  inferInstanceAs (Decidable (entry line ≠ [] ∧ (entry line).head? ≠ some '-'))

instance : DecidablePred LeavesOpen := fun line =>
  inferInstanceAs (Decidable (IsRequirement line ∧ ¬ "==".toList <:+: requirementPart line))

instance : DecidablePred MarkerCompares := fun line =>
  inferInstanceAs (Decidable ("==".toList <:+: marker line))

/-- The scanner finds two equality signs in a requirement iff its front part or its marker has
them. -/
theorem occursIn_entry_iff : occursIn "==".toList (entry line) = true ↔
    "==".toList <:+: requirementPart line ∨ MarkerCompares line := by
  have hPiece : ∀ x ∈ "==".toList, (x != ';') = true := List.all_eq_true.mp (by decide)
  rw [occursIn_iff, infix_iff_of_cut hPiece]
  rfl

theorem requirementOf?_eq : requirementOf? line =
    if IsRequirement line then some (entry line) else none := by
  have hTest : ((entry line).isEmpty || (entry line).head? == some '-') = true ↔
      ¬ IsRequirement line := by
    rw [Bool.or_eq_true, List.isEmpty_iff, beq_iff_eq, IsRequirement, not_and_or, not_not, not_not]
  show (if ((entry line).isEmpty || (entry line).head? == some '-') = true then none
    else some (entry line)) = _
  by_cases hAsks : IsRequirement line
  · rw [if_pos hAsks, if_neg (fun hNone => hTest.mp hNone hAsks)]
  · rw [if_neg hAsks, if_pos (hTest.mpr hAsks)]

/-! ## Issues -/

/-- What is reported of an open requirement on a row. -/
def openIssue (line : List Char) (row : Nat) : Finding :=
  { kind := "dependency"
    severity := .medium
    title := "Unpinned dependency: " ++ String.ofList (entry line)
    description := "Unpinned versions can pull in vulnerable releases"
    agent := "security_scanner"
    confidence := Finding.fullConfidence
    line := some (lineNumber row)
    suggestion := some "Pin an exact version with ==" }

/-- One such issue for each line with a property, in order. -/
def issuesAbout (P : List Char → Prop) [DecidablePred P] (content : String) : List Finding :=
  ((Text.lines content.toList).zipIdx.filter fun e => P e.1).map fun e => openIssue e.1 e.2

/-- What the scanner makes of one line. -/
theorem openRequirements_cons (index : Nat) (line : List Char) (rest : List (List Char)) :
    openRequirements index (line :: rest) =
      (if LeavesOpen line ∧ ¬ MarkerCompares line then [openIssue line index] else []) ++
        openRequirements (index + 1) rest := by
  rw [openRequirements, requirementOf?_eq]
  congr 1
  by_cases hAsks : IsRequirement line
  · by_cases hSigns : occursIn "==".toList (entry line) = true
    · -- the signs stand in one part or the other
      have hNot : ¬ (LeavesOpen line ∧ ¬ MarkerCompares line) := by
        rintro ⟨⟨-, hOpen⟩, hMarker⟩
        exact (occursIn_entry_iff.mp hSigns).elim hOpen hMarker
      simp only [if_pos hAsks, if_pos hSigns, if_neg hNot]
    · have hNone := not_or.mp (mt occursIn_entry_iff.mpr hSigns)
      have hOpen : LeavesOpen line ∧ ¬ MarkerCompares line := ⟨⟨hAsks, hNone.1⟩, hNone.2⟩
      simp only [if_pos hAsks, if_neg hSigns, if_pos hOpen]
      rfl
  · have hNot : ¬ (LeavesOpen line ∧ ¬ MarkerCompares line) := fun h => hAsks h.1.1
    simp only [if_neg hAsks, if_neg hNot]

theorem issues_requirements (hName : fileName? path = some "requirements.txt") :
    (review path content).issues =
      issuesAbout (fun line => LeavesOpen line ∧ ¬ MarkerCompares line) content := by
  rw [issues_review, findings, manifestName, hName]
  show openRequirements 0 (Text.lines content.toList) = _
  rw [walk_eq_flatMap_zipIdx (fun _ => rfl) openRequirements_cons]
  exact flatMap_ite (p := fun e : List Char × Nat => LeavesOpen e.1 ∧ ¬ MarkerCompares e.1) _

/-- Nothing is left out iff no line with the first property lacks the second. -/
theorem issuesAbout_and_eq_iff {P Q : List Char → Prop} [DecidablePred P] [DecidablePred Q] :
    issuesAbout (fun line => P line ∧ Q line) content = issuesAbout P content ↔
      ∀ line ∈ Text.lines content.toList, P line → Q line := by
  have hBoth : (Text.lines content.toList).zipIdx.filter (fun e => P e.1 ∧ Q e.1) =
      ((Text.lines content.toList).zipIdx.filter fun e => P e.1).filter fun e => Q e.1 := by
    rw [List.filter_filter]
    refine List.filter_congr fun e _ => ?_
    rw [Bool.decide_and, Bool.and_comm]
  rw [issuesAbout, issuesAbout, hBoth]
  constructor
  · intro hEq line hLine hFirst
    -- what is left is a part of all, and as long
    have hLength := congrArg List.length hEq
    rw [List.length_map, List.length_map] at hLength
    have hAll := List.filter_eq_self.mp (List.filter_sublist.eq_of_length hLength)
    obtain ⟨row, hRow⟩ := List.mem_iff_getElem?.mp hLine
    have hMem : (line, row) ∈ (Text.lines content.toList).zipIdx :=
      List.mem_zipIdx_iff_getElem?.mpr hRow
    exact of_decide_eq_true (hAll _ (List.mem_filter.mpr ⟨hMem, decide_eq_true hFirst⟩))
  · intro hEach
    rw [List.filter_eq_self.mpr]
    rintro ⟨line, row⟩ hMem
    obtain ⟨hIn, hFirst⟩ := List.mem_filter.mp hMem
    have hLine := List.mem_of_getElem? (List.mem_zipIdx_iff_getElem?.mp hIn)
    exact decide_eq_true (hEach line hLine (of_decide_eq_true hFirst))

/-- Where lines can be counted in 32 bits, each issue has the number of its line. -/
theorem exists_line_of_mem_issuesAbout {P : List Char → Prop} [DecidablePred P] {f : Finding}
    (hCount : lineCount content < 2 ^ 32) (hMem : f ∈ issuesAbout P content) :
    ∃ line row, (Text.lines content.toList)[row]? = some line ∧ P line ∧
      f = openIssue line row ∧ f.line.map UInt32.toNat = some (row + 1) := by
  obtain ⟨⟨line, row⟩, hListed, rfl⟩ := List.mem_map.mp hMem
  obtain ⟨hIn, hHolds⟩ := List.mem_filter.mp hListed
  have hRow := List.mem_zipIdx_iff_getElem?.mp hIn
  have hInside : row < lineCount content := (List.getElem?_eq_some_iff.mp hRow).1
  exact ⟨line, row, hRow, of_decide_eq_true hHolds, rfl,
    congrArg some (toNat_lineNumber hCount hInside)⟩

/-- The scanner answers on every file that has text. -/
theorem ending_of_hasText (client : Option Llm.Client) (path : String) (hText : HasText content)
    (context : Context) :
    ((agent client).analyze path content context).ending = .answered (review path content) :=
  reviews_security.ending_eq (acceptsFile_nil_iff.mpr hText) context

end Lines

/--
**Requirements are read with their markers.** Take any file named `requirements.txt` that has
text. The scanner gives a result, whose issues are, in the order of the lines, one for each line
that leaves the version of a requirement open and whose marker has no comparison for equality.
These are all open requirements iff no open requirement of the file has such a marker. Each issue
has the number of its line, if the lines can be counted in 32 bits.
-/
theorem requirements_are_read_with_markers (client : Option Llm.Client) {path content : String}
    (hName : fileName? path = some "requirements.txt") (hText : HasText content)
    (context : Context) :
    ∃ result, ((agent client).analyze path content context).ending = .answered result ∧
      result.issues =
        issuesAbout (fun line => LeavesOpen line ∧ ¬ MarkerCompares line) content ∧
      (result.issues = issuesAbout LeavesOpen content ↔
        ∀ line ∈ Text.lines content.toList, LeavesOpen line → ¬ MarkerCompares line) ∧
      (lineCount content < 2 ^ 32 → ∀ f ∈ result.issues, ∃ line row,
        (Text.lines content.toList)[row]? = some line ∧ LeavesOpen line ∧
          f = openIssue line row ∧ f.line.map UInt32.toNat = some (row + 1)) := by
  have hIssues : (review path content).issues =
      issuesAbout (fun line => LeavesOpen line ∧ ¬ MarkerCompares line) content :=
    issues_requirements hName
  refine ⟨_, ending_of_hasText client path hText context, hIssues, ?_, ?_⟩
  · rw [hIssues]
    exact issuesAbout_and_eq_iff
  · intro hCount f hMem
    rw [hIssues] at hMem
    obtain ⟨line, row, hRow, hOpen, hIssue⟩ := exists_line_of_mem_issuesAbout hCount hMem
    exact ⟨line, row, hRow, hOpen.1, hIssue⟩

/-- A comment, a pin, an open requirement, an option and another open requirement. -/
theorem requirements_are_read_with_markers_deps :
    fileName? "requirements.txt" = some "requirements.txt" ∧
      HasText "# deps\nrequests==2.31.0\nflask>=2.0\n-r base.txt\ndjango\n" ∧
      ∃ result, ((agent none).analyze "requirements.txt"
          "# deps\nrequests==2.31.0\nflask>=2.0\n-r base.txt\ndjango\n" .empty).ending =
            .answered result ∧
        result.issues = [openIssue "flask>=2.0".toList 2, openIssue "django".toList 4] := by
  have hName : fileName? "requirements.txt" = some "requirements.txt" := by decide
  have hText : HasText "# deps\nrequests==2.31.0\nflask>=2.0\n-r base.txt\ndjango\n" :=
    ⟨'d', by decide, by decide⟩
  obtain ⟨result, hAnswered, hIssues, -, -⟩ :=
    requirements_are_read_with_markers none hName hText .empty
  have hLines : (Text.lines
      "# deps\nrequests==2.31.0\nflask>=2.0\n-r base.txt\ndjango\n".toList).zipIdx.filter
        (fun e => LeavesOpen e.1 ∧ ¬ MarkerCompares e.1) =
      [("flask>=2.0".toList, 2), ("django".toList, 4)] := by decide
  refine ⟨hName, hText, result, hAnswered, ?_⟩
  rw [hIssues, issuesAbout, hLines]
  rfl

/-- A package that is asked for under a condition, without a version. -/
theorem marker_passes_for_pin :
    fileName? "requirements.txt" = some "requirements.txt" ∧
      HasText "django; python_version == \"3.8\"\n" ∧
      issuesAbout LeavesOpen "django; python_version == \"3.8\"\n" =
        [openIssue "django; python_version == \"3.8\"".toList 0] ∧
      ∃ result, ((agent none).analyze "requirements.txt"
          "django; python_version == \"3.8\"\n" .empty).ending = .answered result ∧
        result.issues = [] := by
  have hName : fileName? "requirements.txt" = some "requirements.txt" := by decide
  have hText : HasText "django; python_version == \"3.8\"\n" := ⟨'d', by decide, by decide⟩
  have hOpen : (Text.lines "django; python_version == \"3.8\"\n".toList).zipIdx.filter
      (fun e => LeavesOpen e.1) = [("django; python_version == \"3.8\"".toList, 0)] := by decide
  have hReported : (Text.lines "django; python_version == \"3.8\"\n".toList).zipIdx.filter
      (fun e => LeavesOpen e.1 ∧ ¬ MarkerCompares e.1) = [] := by decide
  refine ⟨hName, hText, ?_, _, ending_of_hasText none _ hText .empty, ?_⟩
  · rw [issuesAbout, hOpen]
    rfl
  · rw [issues_requirements hName, issuesAbout, hReported]
    rfl

end ReviewPanel.Builtin.Security
