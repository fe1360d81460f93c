import ReviewPanel.Proofs.Lines
import ReviewPanel.Proofs.Names
import ReviewPanel.Proofs.Reviewer
import ReviewPanel.Proofs.Search

/-!
# Skeletons — the tests that are written for a list of names

A test agent writes a text line by line: the import of its framework, the import of the names
that it found, and the skeleton of a test for each of them. The texts of the two test agents
differ in their lines, not in how these are put together (`Builtin.Kit`). What a line says can
be told from how it starts, whatever names and stems stand in it: so the names can be read back
from the text, and they are those for which the agent suggests tests.

Main results:

* `Kit.IsReadable.behind_rows`     — on which lines of a text its tests open.
* `Kit.IsReadable.imports_rows`    — which of its lines import something.
* `skeletons_cover_each_name_once` — what is read in them.
-/

namespace ReviewPanel

/-! ## Stems -/

namespace Text

variable {path : String}

/-- A path component is split into pieces of itself. -/
theorem splitName_subset (name : List Char) : (splitName name).1 ⊆ name := by
  simp only [splitName]
  split
  · exact List.Subset.refl name
  · intro x hx
    exact List.mem_reverse.mp (List.mem_of_mem_drop (List.mem_reverse.mp hx))

/-- A path with an extension leads to a file, which has a stem. -/
theorem exists_fileStem {ext : String} (hExt : extension? path = some ext) :
    ∃ stem, fileStem? path = some stem := by
  unfold extension? at hExt
  unfold fileStem?
  cases hEnd : pathEnd path.toList with
  | noFile => simp [hEnd] at hExt
  | file name => exact ⟨_, rfl⟩

/-- The name of a file is one of the parts of its path. -/
theorem subset_of_pathEnd {chars name : List Char} (hEnd : pathEnd chars = .file name) :
    name ⊆ chars := by
  simp only [pathEnd] at hEnd
  split at hEnd
  · cases hEnd
  · rename_i last hLast
    split at hEnd
    · cases hEnd
    · obtain rfl := PathEnd.file.inj hEnd
      have hPart : last ∈ splitAt '/' chars :=
        (List.mem_filter.mp (List.mem_of_getLast? hLast)).1
      exact fun x hx => mem_of_mem_splitAt hPart hx

/-- So the stem of a file is made of characters of its path. -/
theorem mem_of_mem_fileStem {stem : String} {x : Char} (hStem : fileStem? path = some stem)
    (hx : x ∈ stem.toList) : x ∈ path.toList := by
  unfold fileStem? at hStem
  cases hEnd : pathEnd path.toList with
  | noFile => simp [hEnd] at hStem
  | file name =>
    rw [hEnd] at hStem
    obtain rfl := Option.some.inj hStem
    rw [String.toList_ofList] at hx
    exact subset_of_pathEnd hEnd (splitName_subset name hx)

end Text

/-! ## Reading -/

namespace Builtin

open Text

/-- What stands behind a mark, on the lines that start with it. -/
def behind (mark : List Char) (lines : List (List Char)) : List (List Char) :=
  lines.filterMap mark.isPrefixOf?

/-- The rows behind a mark are found part by part. -/
theorem behind_append (mark : List Char) (lines later : List (List Char)) :
    behind mark (lines ++ later) = behind mark lines ++ behind mark later :=
  List.filterMap_append

theorem behind_flatMap {α : Type} (mark : List Char) (xs : List α) (f : α → List (List Char)) :
    behind mark (xs.flatMap f) = xs.flatMap fun x => behind mark (f x) :=
  List.filterMap_flatMap

/-- A line imports something. -/
def isImport (line : List Char) : Bool :=
  startsWith "import ".toList line || startsWith "from ".toList line

/-- The name at the front of a text. -/
def nameAtFront (text : List Char) : String := String.ofList (text.takeWhile isWord)

/-- The names on the lines that start with a mark, each right behind it. -/
def readNames (mark : List Char) (text : String) : List String :=
  (behind mark (lines text.toList)).map nameAtFront

/-- A name ends where something follows that is not part of a word. -/
theorem nameAtFront_append {n : String} {rest : List Char}
    (hWord : ∀ x ∈ n.toList, isWord x = true) (hStop : rest.takeWhile isWord = []) :
    nameAtFront (n.toList ++ rest) = n := by
  rw [nameAtFront, List.takeWhile_append_of_pos hWord, hStop, List.append_nil, String.ofList_toList]

/-- The names for which suggestions ask for tests. -/
def coveredNames (suggestions : List Finding) : List String :=
  (behind "Add tests for ".toList (suggestions.map (·.title.toList))).map String.ofList

/-! ## Writing -/

/-- The parts of the texts that a test agent writes. -/
structure Kit where
  agent : Option Llm.Client → Agent
  isTestPath : String → Bool
  /-- The names that tests are written for. -/
  pattern : NamePattern
  /-- The import of the test framework. -/
  framework : List Char
  /-- The number of empty lines behind it. -/
  spacing : Nat
  /-- The import of the listed names from the file with a stem. -/
  importFrom : (stem listed : List Char) → List Char
  /-- The number of empty lines in front of a test. -/
  gap : Nat
  /-- What stands in front of the name where a test opens. -/
  mark : List Char
  /-- What stands behind it. -/
  closing : List Char
  /-- The rest of a test. -/
  body : (name : List Char) → List (List Char)

namespace Kit

def header (k : Kit) : List (List Char) := k.framework :: List.replicate k.spacing []

/-- The import of the names under test, nothing when there are none. -/
def imports (k : Kit) (stem : List Char) (names : List String) : List (List Char) :=
  if names = [] then [] else [k.importFrom stem (", ".intercalate names).toList]

/-- The lines of one test. -/
def test (k : Kit) (name : List Char) : List (List Char) :=
  List.replicate k.gap [] ++ (k.mark ++ (name ++ k.closing)) :: k.body name

/-- The lines of a text. -/
def rows (k : Kit) (stem : List Char) (names : List String) : List (List Char) :=
  k.header ++ (k.imports stem names ++ names.flatMap fun n => k.test n.toList)

def react : Kit :=
  { agent := React.testAgent
    isTestPath := React.isTestPath
    pattern := React.exportedComponents
    framework := "import \x7b render, screen \x7d from '@testing-library/react';".toList
    spacing := 0
    importFrom := fun stem listed =>
      "import \x7b ".toList ++ (listed ++ (" \x7d from './".toList ++ (stem ++ "';".toList)))
    gap := 1
    mark := "describe('".toList
    closing := "', () => \x7b".toList
    body := fun name =>
      ["  it('renders', () => \x7b".toList,
        "    render(<".toList ++ (name ++ " />);".toList),
        "    expect(screen.getByRole('main')).toBeInTheDocument();".toList,
        "  \x7d);".toList,
        "\x7d);".toList] }

def python : Kit :=
  { agent := Python.testAgent
    isTestPath := Python.isTestPath
    pattern := Python.topLevelFunction
    framework := "import pytest".toList
    spacing := 1
    importFrom := fun stem listed =>
      "from ".toList ++ (stem ++ (" import ".toList ++ listed))
    gap := 2
    mark := "def test_".toList
    closing := "():".toList
    body := fun name =>
      ["    result = ".toList ++ (name ++ "()".toList),
        "    assert result is not None".toList] }

/-- What a kit must satisfy for its texts to be read. -/
structure IsReadable (k : Kit) : Prop where
  -- a name ends where the closing begins
  word_names : k.pattern.name.TakesOnly fun x => isWord x = true
  closing_stops : k.closing.takeWhile isWord = []
  -- no line breaks up, whatever names and stem are put into it
  whole_header : ∀ row ∈ k.header, IsWhole row
  whole_importFrom : ∀ stem listed, '\n' ∉ stem → '\n' ∉ listed → '\r' ∉ listed →
    IsWhole (k.importFrom stem listed)
  whole_test : ∀ name, (∀ x ∈ name, isWord x = true) → ∀ row ∈ k.test name, IsWhole row
  -- the mark is at the front of one line of each test
  behind_header : behind k.mark k.header = []
  behind_importFrom : ∀ stem listed, behind k.mark [k.importFrom stem listed] = []
  behind_test : ∀ name, behind k.mark (k.test name) = [name ++ k.closing]
  -- only what imports looks like an import
  imports_header : k.header.filter isImport = [k.framework]
  imports_importFrom : ∀ stem listed, isImport (k.importFrom stem listed) = true
  imports_test : ∀ name, (k.test name).filter isImport = []

end Kit

/-! ### Names are words -/

/-- What a name starts with is a character of a word. -/
theorem isWord_of_isNameStart {x : Char} (hStart : Pattern.isNameStart x = true) :
    isWord x = true := by
  have hKinds : (x.isUpper || x.isLower || x == '_') = true := hStart
  rw [Bool.or_eq_true, Bool.or_eq_true] at hKinds
  have hAscii : x.toNat < 128 := by
    rcases hKinds with (hUpper | hLower) | hUnder
    · have hLast : x ≤ 'Z' := (of_decide_eq_true hUpper).2
      exact Nat.lt_of_le_of_lt hLast (by decide)
    · have hLast : x ≤ 'z' := of_decide_eq_true (Bool.and_eq_true_iff.mp hLower).2
      exact Nat.lt_of_le_of_lt hLast (by decide)
    · rw [beq_iff_eq.mp hUnder]
      decide
  rw [isWord, if_pos hAscii]
  show (x.isUpper || x.isLower || x.isDigit || x == '_') = true
  rw [Bool.or_eq_true, Bool.or_eq_true, Bool.or_eq_true]
  exact hKinds.imp_left Or.inl

theorem isWord_of_isUpperAscii {x : Char} (hUpper : Pattern.isUpperAscii x = true) :
    isWord x = true := by
  rw [Pattern.isUpperAscii, Bool.and_eq_true, decide_eq_true_iff, decide_eq_true_iff] at hUpper
  have hLetter : x.isUpper = true := decide_eq_true hUpper
  refine isWord_of_isNameStart ?_
  show (x.isUpper || x.isLower || x == '_') = true
  rw [hLetter]
  rfl

/-- Names of functions are words. -/
theorem takesOnly_identifier :
    Kit.python.pattern.name.TakesOnly fun x => isWord x = true :=
  ⟨fun _ hStart => isWord_of_isNameStart hStart, fun _ hWord => hWord⟩

/-- So are names of components. -/
theorem takesOnly_componentName :
    Kit.react.pattern.name.TakesOnly fun x => isWord x = true :=
  ⟨fun _ hUpper => isWord_of_isUpperAscii hUpper, fun _ hWord => hWord⟩

variable {name stem : List Char}

/-- A word has no other characters. -/
theorem not_mem_of_words {x : Char} (hName : ∀ x ∈ name, isWord x = true)
    (hOther : isWord x = false) : x ∉ name := by
  intro hMem
  rw [hName x hMem] at hOther
  cases hOther

/-- A line with a name in it. -/
theorem isWhole_around {front back : List Char} (hName : ∀ x ∈ name, isWord x = true)
    (hFront : '\n' ∉ front) (hBack : IsWhole back) (hSome : back ≠ []) :
    IsWhole (front ++ (name ++ back)) :=
  (hBack.append hSome (not_mem_of_words hName (by decide))).append (by simp [hSome]) hFront

/-- The end of a line that imports names. -/
theorem isWhole_importEnd {listed : List Char} (hFeed : '\n' ∉ listed) (hReturn : '\r' ∉ listed) :
    IsWhole (" import ".toList ++ listed) := by
  refine isWhole_of_not_mem ?_ ?_
  · simp [hFeed]
  · simp [hReturn]

/-! ### The two kits -/

theorem isReadable_python : Kit.python.IsReadable where
  word_names := takesOnly_identifier
  closing_stops := rfl
  whole_header := by decide
  whole_importFrom := by
    intro stem listed hStem hFeed hReturn
    exact ((isWhole_importEnd hFeed hReturn).append (by simp) hStem).append (by simp) (by decide)
  whole_test := by
    intro name hName
    have hOpening : IsWhole ("def test_".toList ++ (name ++ "():".toList)) :=
      isWhole_around hName (by decide) (by decide) (by decide)
    have hCall : IsWhole ("    result = ".toList ++ (name ++ "()".toList)) :=
      isWhole_around hName (by decide) (by decide) (by decide)
    simp only [Kit.test, Kit.python, List.forall_mem_append, List.forall_mem_cons]
    exact ⟨by decide, hOpening, hCall, by decide, by simp⟩
  behind_header := rfl
  behind_importFrom := fun _ _ => rfl
  behind_test := fun _ => rfl
  imports_header := rfl
  imports_importFrom := fun _ _ => rfl
  imports_test := fun _ => rfl

theorem isReadable_react : Kit.react.IsReadable where
  word_names := takesOnly_componentName
  closing_stops := rfl
  whole_header := by decide
  whole_importFrom := by
    intro stem listed hStem hFeed _
    -- rows are whole because they end in other characters than a return
    have hEnd : IsWhole (stem ++ "';".toList) :=
      IsWhole.append (by decide) (by decide) hStem
    have hMiddle : IsWhole (" \x7d from './".toList ++ (stem ++ "';".toList)) :=
      hEnd.append (by simp) (by decide)
    exact (hMiddle.append (by simp) hFeed).append (by simp) (by decide)
  whole_test := by
    intro name hName
    have hOpening : IsWhole ("describe('".toList ++ (name ++ "', () => \x7b".toList)) :=
      isWhole_around hName (by decide) (by decide) (by decide)
    have hRender : IsWhole ("    render(<".toList ++ (name ++ " />);".toList)) :=
      isWhole_around hName (by decide) (by decide) (by decide)
    simp only [Kit.test, Kit.react, List.forall_mem_append, List.forall_mem_cons]
    exact ⟨by decide, hOpening, by decide, hRender, by decide, by decide, by decide, by simp⟩
  behind_header := rfl
  behind_importFrom := fun _ _ => rfl
  behind_test := fun _ => rfl
  imports_header := rfl
  imports_importFrom := fun _ _ => rfl
  imports_test := fun _ => rfl

/-! ## Lines of a text -/

namespace Kit

variable {k : Kit} {names : List String}

/-- Names are words. -/
def AreWords (names : List String) : Prop := ∀ n ∈ names, ∀ x ∈ n.toList, isWord x = true

/-- Nor has a list of words, except between them. -/
theorem not_mem_listed {x : Char} (hWords : AreWords names) (hOther : isWord x = false)
    (hBetween : x ∉ ", ".toList) : x ∉ (", ".intercalate names).toList := by
  intro hMem
  rw [String.toList_intercalate] at hMem
  rcases mem_of_mem_intercalate hMem with hComma | ⟨part, hPart, hx⟩
  · exact hBetween hComma
  · obtain ⟨n, hn, rfl⟩ := List.mem_map.mp hPart
    exact not_mem_of_words (hWords n hn) hOther hx

/-- No row of a skeleton has a line end within it. -/
theorem IsReadable.whole_rows (hKit : k.IsReadable) (hStem : '\n' ∉ stem)
    (hWords : AreWords names) : ∀ row ∈ k.rows stem names, IsWhole row := by
  intro row hRow
  rcases List.mem_append.mp hRow with hHeader | hLater
  · exact hKit.whole_header row hHeader
  rcases List.mem_append.mp hLater with hImport | hTest
  · rw [imports] at hImport
    split at hImport
    · cases hImport
    · -- words with commas between them have no line end
      rw [List.mem_singleton.mp hImport]
      exact hKit.whole_importFrom stem _ hStem (not_mem_listed hWords (by decide) (by decide))
        (not_mem_listed hWords (by decide) (by decide))
  · obtain ⟨n, hn, hIn⟩ := List.mem_flatMap.mp hTest
    exact hKit.whole_test n.toList (hWords n hn) row hIn

/-- The mark of a test stands on one line of each test, and on no other line. -/
theorem IsReadable.behind_rows (hKit : k.IsReadable) :
    behind k.mark (k.rows stem names) = names.map fun n => n.toList ++ k.closing := by
  have hImports : behind k.mark (k.imports stem names) = [] := by
    rw [imports]
    split
    · rfl
    · exact hKit.behind_importFrom stem _
  have hTests : behind k.mark (names.flatMap fun n => k.test n.toList) =
      names.map fun n => n.toList ++ k.closing := by
    rw [behind_flatMap, List.map_eq_flatMap]
    simp only [hKit.behind_test]
  rw [rows, behind_append, behind_append, hKit.behind_header, hImports, hTests]
  rfl

/-- The imports of a skeleton are that of the framework and that of the names. -/
theorem IsReadable.imports_rows (hKit : k.IsReadable) :
    (k.rows stem names).filter isImport = k.framework :: k.imports stem names := by
  have hImports : (k.imports stem names).filter isImport = k.imports stem names := by
    rw [imports]
    split
    · rfl
    · rw [List.filter_singleton, hKit.imports_importFrom]
      rfl
  have hTests : (names.flatMap fun n => k.test n.toList).filter isImport = [] := by
    rw [List.filter_flatMap, List.flatMap_eq_nil_iff]
    exact fun n _ => hKit.imports_test n.toList
  rw [rows, List.filter_append, List.filter_append, hKit.imports_header, hImports, hTests,
    List.append_nil]
  rfl

/-- The import of the names, which is left out when there are none. -/
theorem toList_import {imported : String}
    (hImported : imported.toList = k.importFrom stem (", ".intercalate names).toList ++ ['\n']) :
    (if names.isEmpty then "" else imported).toList = unlines (k.imports stem names) := by
  rw [imports]
  cases names with
  | nil => rfl
  | cons n rest =>
    rw [if_neg (by simp), if_neg (by simp), hImported, unlines, List.flatMap_singleton]

/-- A text in three parts that are written by a kit. -/
theorem toList_text {head imported : String} {test : String → String}
    (hHead : head.toList = unlines k.header)
    (hImported : imported.toList = unlines (k.imports stem names))
    (hTest : ∀ n, (test n).toList = unlines (k.test n.toList)) :
    (head ++ imported ++ String.join (names.map test)).toList = unlines (k.rows stem names) := by
  rw [rows, unlines_append, unlines_append, unlines_flatMap, String.toList_append,
    String.toList_append, String.toList_join, List.flatMap_map, hHead, hImported]
  simp only [hTest, List.append_assoc]

end Kit

/-! ## Agents at work -/

variable {client : Option Llm.Client} {path content : String}

/-- The names that tests are written for. -/
def Kit.found (k : Kit) (content : String) : List String :=
  publicNames (k.pattern.all content.toList)

/-- A block of the text is the rows of one test. -/
theorem Python.toList_testBlock (n : String) :
    (testBlock n).toList = unlines (Kit.python.test n.toList) := by
  have hText : testBlock n = "\n\ndef test_" ++ n ++ "():\n    result = " ++ n ++
      "()\n    assert result is not None\n" := rfl
  rw [hText]
  simp [unlines, Kit.test, Kit.python, String.toList_append]

/-- The import is one row, or none without names. -/
theorem Python.toList_importLine {stem : String} {names : List String}
    (hStem : fileStem? path = some stem) :
    (importLine path names).toList = unlines (Kit.python.imports stem.toList names) := by
  rw [importLine, hStem]
  exact Kit.toList_import (by simp [Kit.python, String.toList_append])

/-- The text that is suggested is the rows of the kit. -/
theorem Python.toList_testText {stem : String} (hStem : fileStem? path = some stem) :
    (testText path content).toList =
      unlines (Kit.python.rows stem.toList (Kit.python.found content)) := by
  have hHead : "import pytest\n\n".toList = unlines Kit.python.header := by decide
  exact Kit.toList_text hHead (toList_importLine hStem) toList_testBlock

/-- A block of the text is the rows of one test, here too. -/
theorem React.toList_testBlock (n : String) :
    (testBlock n).toList = unlines (Kit.react.test n.toList) := by
  have hText : testBlock n = "\ndescribe('" ++ n ++
      "', () => \x7b\n  it('renders', () => \x7b\n    render(<" ++ n ++
      " />);\n    expect(screen.getByRole('main')).toBeInTheDocument();\n  \x7d);\n\x7d);\n" := rfl
  rw [hText]
  simp [unlines, Kit.test, Kit.react, String.toList_append]

/-- The import is one row, or none without names. -/
theorem React.toList_importLine {stem : String} {names : List String}
    (hStem : fileStem? path = some stem) :
    (importLine path names).toList = unlines (Kit.react.imports stem.toList names) := by
  rw [importLine, hStem]
  exact Kit.toList_import (by simp [Kit.react, String.toList_append])

/-- The text that is suggested is the rows of the kit. -/
theorem React.toList_testText {stem : String} (hStem : fileStem? path = some stem) :
    (testText path content).toList =
      unlines (Kit.react.rows stem.toList (Kit.react.found content)) := by
  have hHead : "import \x7b render, screen \x7d from '@testing-library/react';\n".toList =
      unlines Kit.react.header := by decide
  exact Kit.toList_text hHead (toList_importLine hStem) toList_testBlock

/-- Of what is suggested for the names of a file, only the coverage of these names asks to add
tests for something. -/
theorem coveredNames_append {p : Profile} {advice : Option String} {context : Context}
    {names : List String} {coverage : String → Finding}
    (hTitle : ∀ n, (coverage n).title = "Add tests for " ++ n) :
    coveredNames (names.map coverage ++ regressionSuggestions p advice context) = names := by
  have hCovered : behind "Add tests for ".toList
      ((names.map coverage).map (·.title.toList)) = names.map String.toList := by
    have hEach : ∀ n, "Add tests for ".toList.isPrefixOf? (coverage n).title.toList =
        some n.toList := by
      intro n
      rw [hTitle, List.isPrefixOf?_eq_some_iff_append_eq, String.toList_append]
    rw [behind, List.filterMap_map, List.filterMap_map, ← List.filterMap_eq_map]
    exact List.filterMap_congr fun n _ => hEach n
  have hRegression : behind "Add tests for ".toList
      ((regressionSuggestions p advice context).map (·.title.toList)) = [] := by
    -- they all have one title, and it is another
    rw [behind, List.filterMap_eq_nil_iff]
    intro title hMem
    obtain ⟨f, hf, rfl⟩ := List.mem_map.mp hMem
    obtain ⟨entry, -, rfl⟩ := List.mem_map.mp hf
    show "Add tests for ".toList.isPrefixOf? "Add regression tests".toList = none
    decide
  rw [coveredNames, List.map_append, behind_append, hCovered, hRegression, List.append_nil,
    List.map_map]
  simp [Function.comp_def]

/-- The agent of a kit writes with it, and suggests tests for the names that it writes them
for. -/
structure Kit.IsUsed (k : Kit) : Prop where
  extensions : ∀ client, (k.agent client).extensions ≠ []
  writes : ∀ {client path content}, (k.agent client).validate path content = true →
    ∀ context, ∃ text,
      ((k.agent client).generateTests path content context).ending = .answered text ∧
        ∀ stem, fileStem? path = some stem →
          text.toList = unlines (k.rows stem.toList (k.found content))
  suggests : ∀ {client path content}, (k.agent client).validate path content = true →
    k.isTestPath path = false → ∀ context, ∃ result,
      ((k.agent client).analyze path content context).ending = .answered result ∧
        coveredNames result.suggestions = k.found content

/-- An accepted file does not change how a run ends. -/
theorem ending_onFile {α : Type} {p : Profile} {run : Run α}
    (hAccepts : acceptsFile p.extensions path content = true) :
    (p.onFile path content run).ending = run.ending := by
  rw [Profile.onFile, if_pos hAccepts]

theorem isUsed_python : Kit.python.IsUsed where
  extensions _ := List.cons_ne_nil _ _
  writes hValid _ := ⟨_, ending_onFile hValid, fun _ => Python.toList_testText⟩
  suggests {client path content} hValid hTest context := by
    have hAccepts : (Python.testAgent client).validate path content = true := hValid
    simp only [Kit.python] at hTest
    refine ⟨_, reviews_pythonTest.ending_eq hAccepts context, ?_⟩
    rw [Python.suggestions_reviewTests, hTest]
    exact coveredNames_append fun _ => rfl

theorem isUsed_react : Kit.react.IsUsed where
  extensions _ := List.cons_ne_nil _ _
  writes hValid _ := ⟨_, ending_onFile hValid, fun _ => React.toList_testText⟩
  suggests {client path content} hValid hTest context := by
    have hAccepts : (React.testAgent client).validate path content = true := hValid
    simp only [Kit.react] at hTest
    refine ⟨_, reviews_reactTest.ending_eq hAccepts context, ?_⟩
    rw [React.suggestions_reviewTests, hTest]
    exact coveredNames_append fun _ => rfl

/-- A path that is accepted by its extension has a stem. -/
theorem exists_stem_of_validate {a : Agent} (hSome : a.extensions ≠ [])
    (hValid : a.validate path content = true) : ∃ stem, fileStem? path = some stem := by
  have hNonempty : a.extensions.isEmpty = false := by simpa using hSome
  rw [Agent.validate, acceptsFile, hNonempty, Bool.false_or, Bool.and_eq_true] at hValid
  cases hExt : extension? path with
  | none => simp [hExt] at hValid
  | some ext => exact exists_fileStem hExt

/-! ## The names are read back -/

/-- The built-in kits. -/
def kits : List Kit := [Kit.react, Kit.python]

theorem isReadable_of_mem_kits {k : Kit} (hKit : k ∈ kits) : k.IsReadable := by
  rcases List.mem_pair.mp hKit with rfl | rfl
  · exact isReadable_react
  · exact isReadable_python

theorem isUsed_of_mem_kits {k : Kit} (hKit : k ∈ kits) : k.IsUsed := by
  rcases List.mem_pair.mp hKit with rfl | rfl
  · exact isUsed_react
  · exact isUsed_python

namespace Kit

variable {k : Kit} {names : List String} {text : String}

/-- The names that are found in a file are words, for its pattern takes nothing else. -/
theorem IsReadable.areWords_found (hKit : k.IsReadable) : AreWords (k.found content) := by
  intro n hn
  exact NamePattern.forall_of_mem_all hKit.word_names ((listsNames_publicNames.mem_iff n).mp hn).1

/-- The name on the line that opens a test ends where the closing begins. -/
theorem IsReadable.readNames_eq (hKit : k.IsReadable) (hWords : AreWords names)
    (hRows : lines text.toList = k.rows stem names) : readNames k.mark text = names := by
  have hName : ∀ n ∈ names, nameAtFront (n.toList ++ k.closing) = n := fun n hn =>
    nameAtFront_append (hWords n hn) hKit.closing_stops
  rw [readNames, hRows, hKit.behind_rows, List.map_map]
  exact (List.map_congr_left hName).trans (List.map_id names)

end Kit

/--
**Skeletons cover each name once.** Take a test agent, any file that it accepts with a path
without line feeds, and the names that it lists for the content. The agent writes a text. A test
opens on one line for each name, in their order, and on no other line; the text imports the test
framework, and all the names from the file if there are any, and nothing else. The names are read
back from the text alone, and for any file with the content that is not one of tests, the agent
suggests to add tests for them, in their order, and for nothing else.
-/
theorem skeletons_cover_each_name_once {k : Kit} (hKit : k ∈ kits) {names : List String}
    (hValid : (k.agent client).validate path content = true) (hPath : '\n' ∉ path.toList)
    (hNames : ListsNames (k.pattern.all content.toList) names) (context : Context) :
    ∃ text stem,
      ((k.agent client).generateTests path content context).ending = .answered text ∧
      fileStem? path = some stem ∧
      behind k.mark (lines text.toList) = names.map (fun n => n.toList ++ k.closing) ∧
      (lines text.toList).filter isImport =
        k.framework :: (if names = [] then []
          else [k.importFrom stem.toList (", ".intercalate names).toList]) ∧
      readNames k.mark text = names ∧
      ∀ other later, (k.agent client).validate other content = true →
        k.isTestPath other = false → ∃ result,
          ((k.agent client).analyze other content later).ending = .answered result ∧
            coveredNames result.suggestions = names := by
  have hReadable := isReadable_of_mem_kits hKit
  have hUsed := isUsed_of_mem_kits hKit
  obtain rfl : names = k.found content := hNames.eq_publicNames
  obtain ⟨stem, hStem⟩ := exists_stem_of_validate (hUsed.extensions client) hValid
  obtain ⟨text, hEnding, hText⟩ := hUsed.writes hValid context
  -- the stem is a piece of the path, so the import stays on one line
  have hFeed : '\n' ∉ stem.toList := fun hMem => hPath (mem_of_mem_fileStem hStem hMem)
  have hRows : lines text.toList = k.rows stem.toList (k.found content) := by
    rw [hText stem hStem]
    exact lines_unlines (hReadable.whole_rows hFeed hReadable.areWords_found)
  refine ⟨text, stem, hEnding, hStem, ?_, ?_, ?_, ?_⟩
  · rw [hRows, hReadable.behind_rows]
  · rw [hRows, hReadable.imports_rows]
    rfl
  · exact hReadable.readNames_eq hReadable.areWords_found hRows
  · intro other later hOther hTest
    exact hUsed.suggests hOther hTest later

/-- A file with a function twice, and one that is not public. -/
theorem skeletons_cover_each_name_once_load :
    (Kit.python.agent none).validate "app.py"
      "def load():\n    pass\n\ndef _open():\n    pass\n\ndef load():\n    pass\n" = true ∧
    ∃ text, ((Kit.python.agent none).generateTests "app.py"
        "def load():\n    pass\n\ndef _open():\n    pass\n\ndef load():\n    pass\n"
        .empty).ending = .answered text ∧
      readNames Kit.python.mark text = ["load"] := by
  have hKit : Kit.python ∈ kits := List.mem_pair.mpr (Or.inr rfl)
  have hValid : (Kit.python.agent none).validate "app.py"
      "def load():\n    pass\n\ndef _open():\n    pass\n\ndef load():\n    pass\n" = true := by
    decide
  have hPath : '\n' ∉ "app.py".toList := by decide
  have hNames : ListsNames (Kit.python.pattern.all
      "def load():\n    pass\n\ndef _open():\n    pass\n\ndef load():\n    pass\n".toList)
      ["load"] := by
    have hFound : Kit.python.found
        "def load():\n    pass\n\ndef _open():\n    pass\n\ndef load():\n    pass\n" =
          ["load"] := by decide
    rw [← hFound]
    exact listsNames_publicNames
  obtain ⟨text, -, hEnding, -, -, -, hRead, -⟩ :=
    skeletons_cover_each_name_once hKit hValid hPath hNames .empty
  exact ⟨hValid, text, hEnding, hRead⟩

end Builtin

end ReviewPanel
