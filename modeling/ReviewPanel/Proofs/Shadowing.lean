import Mathlib.Data.List.DropRight
import ReviewPanel.Proofs.Skeletons

/-!
# Shadowing — what the written tests of Python import and define

The test agent for Python imports the functions that it found, and defines for each of them a
test, named after it with `test_` in front. What is defined comes after what is imported: where a
file has two functions of which one is named like the test of the other, the test hides the
import, and is called in its place.

A path may have line feeds in it, and the import of the functions then stands on several lines,
of which only the last one is sure to say `import`. So the text is read from its end: the tests
are what stands behind that line.

Main results:

* `Python.importedNames_eq`                  — the imported names.
* `Python.definedFunctions_eq`               — the defined tests.
* `Python.calledFunctions_eq`                — the functions that the tests call.
* `Python.tests_hide_functions_named_alike`  — where the two meet.
-/

namespace ReviewPanel

/-! ## The end of a list -/

section Ends

variable {α : Type} {p : α → Bool} {x : α} {before after : List α}

theorem rtakeWhile_append_cons (hStop : ¬ p x = true) (hAfter : ∀ y ∈ after, p y = true) :
    (before ++ x :: after).rtakeWhile p = after := by
  have hReverse : (before ++ x :: after).reverse = after.reverse ++ x :: before.reverse := by simp
  have hAll : ∀ y ∈ after.reverse, p y = true := fun y hy => hAfter y (List.mem_reverse.mp hy)
  rw [List.rtakeWhile, hReverse, List.takeWhile_append_of_pos hAll, List.takeWhile_cons_of_neg hStop,
    List.append_nil, List.reverse_reverse]

theorem rdropWhile_append_cons (hStop : ¬ p x = true) (hAfter : ∀ y ∈ after, p y = true) :
    (before ++ x :: after).rdropWhile p = before ++ [x] := by
  have hWhole : (before ++ x :: after).rdropWhile p ++ (before ++ x :: after).rtakeWhile p =
      before ++ x :: after := List.rdropWhile_append_rtakeWhile
  have hCut : before ++ x :: after = before ++ [x] ++ after := by simp
  rw [rtakeWhile_append_cons hStop hAfter] at hWhole
  exact List.append_cancel_right (hWhole.trans hCut)

end Ends

namespace Builtin.Python

open Text

/-! ## Reading -/

def words (line : List Char) : List (List Char) := splitAt ' ' line

/-- A line goes on with `import`, and with names. -/
def importsNames (line : List Char) : Bool := (words line).tail.contains "import".toList

def endsInComma (word : List Char) : Bool := word.getLast? == some ','

/-- The names at the end of a line, with commas between them. -/
def namesAtEnd (line : List Char) : List (List Char) :=
  ((words line).dropLast.rtakeWhile endsInComma).map List.dropLast ++ (words line).getLast?.toList

/-- The lines up to the last import of names. -/
def importLines (rows : List (List Char)) : List (List Char) :=
  rows.rdropWhile fun row => !importsNames row

/-- The lines behind the last import of names. -/
def testLines (rows : List (List Char)) : List (List Char) :=
  rows.rtakeWhile fun row => !importsNames row

/-- The imports end with the last line that imports something. -/
theorem importLines_append_cons {row : List Char} {before after : List (List Char)}
    (hRow : importsNames row = true) (hAfter : ∀ r ∈ after, importsNames r = false) :
    importLines (before ++ row :: after) = before ++ [row] :=
  rdropWhile_append_cons (by simp [hRow]) fun r hr => by simp [hAfter r hr]

/-- What follows it are the tests. -/
theorem testLines_append_cons {row : List Char} {before after : List (List Char)}
    (hRow : importsNames row = true) (hAfter : ∀ r ∈ after, importsNames r = false) :
    testLines (before ++ row :: after) = after :=
  rtakeWhile_append_cons (by simp [hRow]) fun r hr => by simp [hAfter r hr]

/-- The module that the first line imports, and the names that the last import lists. -/
def importedNames (text : String) : List String :=
  let rows := lines text.toList
  (behind "import ".toList (rows.take 1) ++
    ((importLines rows).getLast?.map namesAtEnd).getD []).map String.ofList

/-- The functions that are defined behind the imports. -/
def definedFunctions (text : String) : List String :=
  (behind "def ".toList (testLines (lines text.toList))).map nameAtFront

/-- The functions whose results the tests look at. -/
def calledFunctions (text : String) : List String :=
  (behind "    result = ".toList (testLines (lines text.toList))).map nameAtFront

/-! ## The lines of a test -/

/-- Words are cut at spaces. -/
theorem words_append_cons (front back : List Char) :
    words (front ++ ' ' :: back) = words front ++ words back :=
  splitAt_append_cons front back

theorem words_of_not_mem {word : List Char} (hNone : ' ' ∉ word) : words word = [word] :=
  splitAt_of_not_mem hNone

/-- A line of two parts imports something if either part has the keyword. -/
theorem importsNames_append_cons (front back : List Char) :
    importsNames (front ++ ' ' :: back) =
      ((words front).tail.contains "import".toList || (words back).contains "import".toList) := by
  have hFront : words front ≠ [] := splitAt_ne_nil front
  rw [importsNames, words_append_cons, List.tail_append_of_ne_nil hFront,
    List.contains_eq_any_beq, List.any_append, ← List.contains_eq_any_beq,
    ← List.contains_eq_any_beq]

/-- No line of a test imports names. -/
theorem importsNames_test {name : List Char} (hName : ∀ x ∈ name, isWord x = true) :
    ∀ row ∈ Kit.python.test name, importsNames row = false := by
  have hBlank : ' ' ∉ name := not_mem_of_words hName (by decide)
  have hOpening : importsNames ("def test_".toList ++ (name ++ "():".toList)) = false := by
    have hCut : "def test_".toList ++ (name ++ "():".toList) =
        "def".toList ++ ' ' :: ("test_".toList ++ (name ++ "():".toList)) := rfl
    have hWord : ' ' ∉ "test_".toList ++ (name ++ "():".toList) := by simp [hBlank]
    rw [hCut, importsNames_append_cons, words_of_not_mem hWord]
    rfl
  have hCall : importsNames ("    result = ".toList ++ (name ++ "()".toList)) = false := by
    have hCut : "    result = ".toList ++ (name ++ "()".toList) =
        "    result =".toList ++ ' ' :: (name ++ "()".toList) := rfl
    have hWord : ' ' ∉ name ++ "()".toList := by simp [hBlank]
    -- the call ends with a bracket
    have hOther : "import".toList ≠ name ++ "()".toList := by
      intro hEq
      have hLast := congrArg List.getLast? hEq
      simp at hLast
    have hFront : (words "    result =".toList).tail.contains "import".toList = false := by decide
    rw [hCut, importsNames_append_cons, words_of_not_mem hWord, hFront, Bool.false_or]
    simpa using hOther
  simp only [Kit.test, Kit.python, List.forall_mem_append, List.forall_mem_cons, hOpening, hCall]
  exact ⟨by decide, trivial, trivial, by decide, by simp⟩

/-! ## The lines of the imports -/

/-- The words of a list: a comma ends all of them but the last one. -/
theorem words_intercalate {parts : List (List Char)} {last : List Char}
    (hParts : ∀ part ∈ parts, ' ' ∉ part) (hLast : ' ' ∉ last) :
    words (", ".toList.intercalate (parts ++ [last])) =
      parts.map (fun part => part ++ [',']) ++ [last] := by
  induction parts with
  | nil =>
    rw [List.nil_append, List.intercalate_singleton]
    exact words_of_not_mem hLast
  | cons part rest ih =>
    obtain ⟨hFirst, hRest⟩ := List.forall_mem_cons.mp hParts
    obtain ⟨second, more, hMore⟩ : ∃ second more, rest ++ [last] = second :: more :=
      List.exists_cons_of_ne_nil (by simp)
    -- the comma belongs to the word in front of it, and the blank behind it cuts
    have hCut : part ++ ", ".toList ++ ", ".toList.intercalate (second :: more) =
        (part ++ [',']) ++ ' ' :: ", ".toList.intercalate (second :: more) := by simp
    have hWord : ' ' ∉ part ++ [','] := by simp [hFirst]
    rw [List.cons_append, hMore, List.intercalate_cons_cons, hCut, words_append_cons, ← hMore,
      ih hRest, words_of_not_mem hWord]
    rfl

variable {names : List String}

/-- The line on which the import of the functions ends. -/
theorem words_importEnd (hWords : Kit.AreWords names) (last : String)
    (hLast : ∀ x ∈ last.toList, isWord x = true) (start : List Char) :
    words (start ++ (" import ".toList ++ (", ".intercalate (names ++ [last])).toList)) =
      words start ++ "import".toList :: names.map (fun n => n.toList ++ [',']) ++ [last.toList] := by
  have hCut : start ++ (" import ".toList ++ (", ".intercalate (names ++ [last])).toList) =
      start ++ ' ' :: ("import".toList ++ ' ' :: (", ".intercalate (names ++ [last])).toList) := rfl
  have hParts : ∀ part ∈ names.map String.toList, ' ' ∉ part := by
    intro part hPart
    obtain ⟨n, hn, rfl⟩ := List.mem_map.mp hPart
    exact not_mem_of_words (hWords n hn) (by decide)
  have hBlank : ' ' ∉ last.toList := not_mem_of_words hLast (by decide)
  have hImport : ' ' ∉ "import".toList := by decide
  rw [hCut, words_append_cons, words_append_cons, words_of_not_mem hImport,
    String.toList_intercalate, List.map_append, List.map_singleton,
    words_intercalate hParts hBlank, List.map_map]
  simp [Function.comp_def]

theorem importsNames_importEnd (start listed : List Char) :
    importsNames (start ++ (" import ".toList ++ listed)) = true := by
  have hCut : start ++ (" import ".toList ++ listed) =
      start ++ ' ' :: ("import".toList ++ ' ' :: listed) := rfl
  have hImport : ' ' ∉ "import".toList := by decide
  rw [hCut, importsNames_append_cons, words_append_cons, words_of_not_mem hImport]
  simp

/-- The names of an import are read back. -/
theorem namesAtEnd_importEnd (hWords : Kit.AreWords names) (hSome : names ≠ [])
    (start : List Char) :
    namesAtEnd (start ++ (" import ".toList ++ (", ".intercalate names).toList)) =
      names.map String.toList := by
  -- read from the end: the last name, then those with a comma, and `import` has none
  obtain ⟨earlier, last, rfl⟩ := (List.eq_nil_or_concat' names).resolve_left hSome
  obtain ⟨hEarlier, hLast⟩ := List.forall_mem_append.mp hWords
  have hComma : ∀ word ∈ earlier.map (fun n => n.toList ++ [',']), endsInComma word = true := by
    intro word hWord
    obtain ⟨n, -, rfl⟩ := List.mem_map.mp hWord
    rw [endsInComma, List.getLast?_concat]
    rfl
  have hStop : ¬ endsInComma "import".toList = true := by decide
  rw [namesAtEnd, words_importEnd hEarlier last (hLast last (List.mem_singleton_self _)),
    List.dropLast_concat, List.getLast?_concat, rtakeWhile_append_cons hStop hComma, List.map_map,
    List.map_append]
  simp [Function.comp_def]

/-! ## The lines of a text -/

variable {stem : List Char}

/-- Where functions are imported, the import ends on a line that imports names, and the lines of the
tests follow. -/
theorem exists_lines_rows (hWords : Kit.AreWords names) (hSome : names ≠ []) :
    ∃ done start, lines (unlines (Kit.python.rows stem names)) =
      Kit.python.header ++ (done ++
        (start ++ (" import ".toList ++ (", ".intercalate names).toList)) ::
          names.flatMap fun n => Kit.python.test n.toList) := by
  have hEnd : IsWhole (" import ".toList ++ (", ".intercalate names).toList) :=
    isWhole_importEnd (Kit.not_mem_listed hWords (by decide) (by decide))
      (Kit.not_mem_listed hWords (by decide) (by decide))
  have hTests : ∀ row ∈ names.flatMap (fun n => Kit.python.test n.toList), IsWhole row := by
    intro row hRow
    obtain ⟨n, hn, hIn⟩ := List.mem_flatMap.mp hRow
    exact isReadable_python.whole_test n.toList (hWords n hn) row hIn
  -- wherever the stem breaks the line, what is behind it stays together
  obtain ⟨done, start, hLines⟩ := exists_lines_append_row hEnd (by simp) ("from ".toList ++ stem)
    (unlines (names.flatMap fun n => Kit.python.test n.toList))
  have hImports : unlines (Kit.python.imports stem names) ++
      unlines (names.flatMap fun n => Kit.python.test n.toList) =
        ("from ".toList ++ stem) ++ ((" import ".toList ++ (", ".intercalate names).toList) ++
          '\n' :: unlines (names.flatMap fun n => Kit.python.test n.toList)) := by
    rw [Kit.imports, if_neg hSome]
    simp [unlines, Kit.python]
  refine ⟨done, start, ?_⟩
  rw [Kit.rows, unlines_append, lines_unlines_append isReadable_python.whole_header,
    unlines_append, hImports, hLines, lines_unlines hTests]

/-- Without functions, there are only the first lines. -/
theorem lines_rows_nil : lines (unlines (Kit.python.rows stem [])) = Kit.python.header := by
  have hRows : Kit.python.rows stem [] = Kit.python.header := rfl
  rw [hRows]
  exact lines_unlines isReadable_python.whole_header

/-- No row of a test is an import. -/
theorem importsNames_tests (hWords : Kit.AreWords names) :
    ∀ row ∈ names.flatMap (fun n => Kit.python.test n.toList), importsNames row = false := by
  intro row hRow
  obtain ⟨n, hn, hIn⟩ := List.mem_flatMap.mp hRow
  exact importsNames_test (hWords n hn) row hIn

/-- What a mark is found for in the tests, if it is not in the first lines. -/
theorem behind_testLines (hWords : Kit.AreWords names) {mark : List Char}
    (hHeader : behind mark Kit.python.header = []) :
    behind mark (testLines (lines (unlines (Kit.python.rows stem names)))) =
      names.flatMap fun n => behind mark (Kit.python.test n.toList) := by
  by_cases hSome : names = []
  · -- without an import of names, all lines are behind the last one
    subst hSome
    have hAll : testLines Kit.python.header = Kit.python.header := by decide
    rw [lines_rows_nil, hAll, hHeader]
    rfl
  · obtain ⟨done, start, hLines⟩ := @exists_lines_rows names stem hWords hSome
    rw [hLines, ← List.append_assoc,
      testLines_append_cons (importsNames_importEnd _ _) (importsNames_tests hWords),
      behind_flatMap]

/-- The names that the last import lists. -/
theorem namesAtEnd_importLines (hWords : Kit.AreWords names) :
    ((importLines (lines (unlines (Kit.python.rows stem names)))).getLast?.map namesAtEnd).getD [] =
      names.map String.toList := by
  by_cases hSome : names = []
  · subst hSome
    have hNone : importLines Kit.python.header = [] := by decide
    rw [lines_rows_nil, hNone]
    rfl
  · obtain ⟨done, start, hLines⟩ := @exists_lines_rows names stem hWords hSome
    rw [hLines, ← List.append_assoc,
      importLines_append_cons (importsNames_importEnd _ _) (importsNames_tests hWords),
      List.getLast?_concat, Option.map_some, Option.getD_some, namesAtEnd_importEnd hWords hSome]

/-- The first line imports the framework. -/
theorem behind_take_one (hWords : Kit.AreWords names) :
    behind "import ".toList ((lines (unlines (Kit.python.rows stem names))).take 1) =
      ["pytest".toList] := by
  by_cases hSome : names = []
  · subst hSome
    rw [lines_rows_nil]
    rfl
  · obtain ⟨done, start, hLines⟩ := @exists_lines_rows names stem hWords hSome
    rw [hLines]
    rfl

/-! ## What is imported, defined and called -/

variable {text : String}

/-- A skeleton imports the framework and the names. -/
theorem importedNames_eq (hText : text.toList = unlines (Kit.python.rows stem names))
    (hWords : Kit.AreWords names) : importedNames text = "pytest" :: names := by
  simp only [importedNames]
  rw [hText, behind_take_one hWords, namesAtEnd_importLines hWords]
  simp [Function.comp_def]

/-- It defines one test for each name. -/
theorem definedFunctions_eq (hText : text.toList = unlines (Kit.python.rows stem names))
    (hWords : Kit.AreWords names) : definedFunctions text = names.map ("test_" ++ ·) := by
  have hName : ∀ n ∈ names, nameAtFront ("test_".toList ++ (n.toList ++ "():".toList)) =
      "test_" ++ n := by
    intro n hn
    have hFront : ∀ x ∈ "test_".toList, isWord x = true := List.all_eq_true.mp (by decide)
    have hWord : ∀ x ∈ ("test_" ++ n).toList, isWord x = true := by
      rw [String.toList_append]
      exact List.forall_mem_append.mpr ⟨hFront, hWords n hn⟩
    rw [← List.append_assoc, ← String.toList_append]
    exact nameAtFront_append hWord (by decide)
  have hTests : (names.flatMap fun n => behind "def ".toList (Kit.python.test n.toList)) =
      names.map fun n => "test_".toList ++ (n.toList ++ "():".toList) := by
    rw [List.map_eq_flatMap]
    rfl
  rw [definedFunctions, hText, behind_testLines hWords (by decide), hTests, List.map_map]
  exact List.map_congr_left hName

/-- And each test calls the function it is for. -/
theorem calledFunctions_eq (hText : text.toList = unlines (Kit.python.rows stem names))
    (hWords : Kit.AreWords names) : calledFunctions text = names := by
  have hName : ∀ n ∈ names, nameAtFront (n.toList ++ "()".toList) = n := fun n hn =>
    nameAtFront_append (hWords n hn) (by decide)
  have hTests : (names.flatMap fun n => behind "    result = ".toList (Kit.python.test n.toList)) =
      names.map fun n => n.toList ++ "()".toList := by
    rw [List.map_eq_flatMap]
    rfl
  rw [calledFunctions, hText, behind_testLines hWords (by decide), hTests, List.map_map]
  exact (List.map_congr_left hName).trans (List.map_id names)

/-! ## Where they meet -/

variable {client : Option Llm.Client} {path content : String}

/-- The framework is not named like a test; so names meet their tests only among themselves. -/
theorem disjoint_tests_iff : ("pytest" :: names).Disjoint (names.map ("test_" ++ ·)) ↔
    ∀ f ∈ names, "test_" ++ f ∉ names := by
  constructor
  · intro hDisjoint f hf hTest
    exact hDisjoint (List.mem_cons_of_mem _ hTest) (List.mem_map_of_mem hf)
  · intro hNone name hImported hDefined
    obtain ⟨f, hf, rfl⟩ := List.mem_map.mp hDefined
    rcases List.mem_cons.mp hImported with hFramework | hIn
    · -- the first letters differ
      have hFirst := congrArg (fun s => s.toList.head?) hFramework
      simp at hFirst
    · exact hNone f hf hIn

/--
**Tests hide functions that are named alike.** Take any file that the test agent for Python accepts
and the functions that it lists for it. The agent writes a text that imports `pytest` and these
functions, and for each of them defines a test, named after it, that calls it. Nothing is both
imported and defined iff no function of the file is named like the test of another; and where one
is, the test that calls it calls the other test.
-/
theorem tests_hide_functions_named_alike
    (hValid : (testAgent client).validate path content = true)
    (hNames : ListsNames (topLevelFunction.all content.toList) names) (context : Context) :
    ∃ text,
      ((testAgent client).generateTests path content context).ending = .answered text ∧
      importedNames text = "pytest" :: names ∧
      definedFunctions text = names.map ("test_" ++ ·) ∧
      calledFunctions text = names ∧
      ((importedNames text).Disjoint (definedFunctions text) ↔ ∀ f ∈ names, "test_" ++ f ∉ names) ∧
      ∀ f ∈ calledFunctions text,
        f ∈ definedFunctions text ↔ ∃ g ∈ names, f = "test_" ++ g := by
  -- the names are those that the skeleton is made of
  obtain rfl : names = Kit.python.found content := hNames.eq_publicNames
  have hWords : Kit.AreWords (Kit.python.found content) := isReadable_python.areWords_found
  obtain ⟨stem, hStem⟩ := exists_stem_of_validate (isUsed_python.extensions client) hValid
  obtain ⟨text, hEnding, hText⟩ := isUsed_python.writes hValid context
  have hImported := importedNames_eq (hText stem hStem) hWords
  have hDefined := definedFunctions_eq (hText stem hStem) hWords
  refine ⟨text, hEnding, hImported, hDefined, calledFunctions_eq (hText stem hStem) hWords, ?_, ?_⟩
  · -- an import is hidden by a test of its name
    rw [hImported, hDefined]
    exact disjoint_tests_iff
  · intro f _
    rw [hDefined, List.mem_map]
    exact exists_congr fun g => and_congr_right fun _ => eq_comm

/-- A file with one function, whose test calls what was imported. -/
theorem tests_hide_functions_named_alike_load :
    (testAgent none).validate "a.py" "def load():\n    return 1\n" = true ∧
    ∃ text, ((testAgent none).generateTests "a.py" "def load():\n    return 1\n"
        .empty).ending = .answered text ∧
      (importedNames text).Disjoint (definedFunctions text) := by
  have hValid : (testAgent none).validate "a.py" "def load():\n    return 1\n" = true := by decide
  have hNames : ListsNames (topLevelFunction.all "def load():\n    return 1\n".toList) ["load"] := by
    have hFound : functions "def load():\n    return 1\n" = ["load"] := by decide
    rw [← hFound]
    exact listsNames_publicNames
  obtain ⟨text, hEnding, -, -, -, hDisjoint, -⟩ :=
    tests_hide_functions_named_alike hValid hNames .empty
  exact ⟨hValid, text, hEnding, hDisjoint.mpr (by decide)⟩

/-- A file with a function and its test. -/
theorem imported_test_is_defined_anew :
    (testAgent none).validate "a.py"
      "def load():\n    return 1\n\ndef test_load():\n    assert load()\n" = true ∧
    ∃ text, ((testAgent none).generateTests "a.py"
        "def load():\n    return 1\n\ndef test_load():\n    assert load()\n"
        .empty).ending = .answered text ∧
      ¬ (importedNames text).Disjoint (definedFunctions text) := by
  have hValid : (testAgent none).validate "a.py"
      "def load():\n    return 1\n\ndef test_load():\n    assert load()\n" = true := by decide
  have hFound : Kit.python.found
      "def load():\n    return 1\n\ndef test_load():\n    assert load()\n" =
        ["load", "test_load"] := by decide
  have hWords : Kit.AreWords ["load", "test_load"] := hFound ▸ isReadable_python.areWords_found
  obtain ⟨stem, hStem⟩ := exists_stem_of_validate (isUsed_python.extensions none) hValid
  obtain ⟨text, hEnding, hText⟩ := isUsed_python.writes hValid .empty
  have hRows := hText stem hStem
  rw [hFound] at hRows
  refine ⟨hValid, text, hEnding, ?_⟩
  rw [importedNames_eq hRows hWords, definedFunctions_eq hRows hWords, disjoint_tests_iff]
  decide

end Builtin.Python

end ReviewPanel
