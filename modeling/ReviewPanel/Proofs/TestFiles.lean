import ReviewPanel.Proofs.Lowercase
import ReviewPanel.Stack.Detection

/-!
# Test files — which paths are detected

A path is that of a test file by the name of the file, or by a directory named for tests
(`Stack.IsTestsName`). The detector looks for such a directory between two slashes of the
lowercased path. So it sees every directory of a path but the one that a relative path begins
with: a file of `tests` at the top of a repository is told by its own name only.

Main results:

* `Stack.detectFileType_eq_test_iff`            — which paths are detected as test files.
* `Stack.test_directories_are_seen_from_within` — what is detected below a directory of tests.
* `Stack.leading_test_directory_is_missed`      — a file below one that is not.
-/

namespace ReviewPanel.Stack

open Text

variable {path : String}

/-! ## Directories -/

/-- The directories along a path; an absolute path begins with one that has no name. -/
def directories (path : String) : List (List Char) := (splitAt '/' path.toList).dropLast

/-- The names of directories of tests. -/
def testsNames : List (List Char) := ["tests".toList, "__tests__".toList]

/-- A directory of tests has one of these names, the case of ASCII letters aside. -/
def IsTestsName (name : List Char) : Prop := name.map Char.toLower ∈ testsNames

/-- A path leads through a directory of tests. -/
def LiesInTests (path : String) : Prop := ∃ name ∈ directories path, IsTestsName name

/-- A path leads through a directory of tests with a slash in front of it. -/
def LiesInInnerTests (path : String) : Prop := ∃ name ∈ (directories path).tail, IsTestsName name

/-- The name of a file, in lowercase, is one of a test file. -/
def IsNamedLikeTest (path : String) : Prop :=
  let name := ((fileName? (lowercase path)).getD "").toList
  "test_".toList <+: name ∨ ".test.".toList <:+: name ∨ ".spec.".toList <:+: name ∨
    "_test.py".toList <:+ name

instance : DecidablePred IsTestsName := fun name =>
  inferInstanceAs (Decidable (name.map Char.toLower ∈ testsNames))

instance : DecidablePred LiesInTests := fun path =>
  inferInstanceAs (Decidable (∃ name ∈ directories path, IsTestsName name))

instance : DecidablePred LiesInInnerTests := fun path =>
  inferInstanceAs (Decidable (∃ name ∈ (directories path).tail, IsTestsName name))

theorem toLower_eq_slash_iff {c : Char} : c.toLower = '/' ↔ c = '/' := by
  by_cases hAscii : c.toNat < 128
  · have hEach : ∀ n : Fin 128, (Char.ofNat n).toLower = '/' ↔ Char.ofNat n = '/' := by
      decide +kernel
    have hHere := hEach ⟨c.toNat, hAscii⟩
    rwa [Char.ofNat_toNat] at hHere
  · rw [toLower_of_beyond (Nat.le_of_not_lt hAscii)]

/-- A name without a slash in lowercase has none itself. -/
theorem slash_not_mem_of_lower {part name : List Char} (hName : '/' ∉ name)
    (hLower : part.map Char.toLower = name) : '/' ∉ part := by
  intro hIn
  have hLowered : Char.toLower '/' ∈ part.map Char.toLower := List.mem_map_of_mem hIn
  rw [hLower] at hLowered
  exact hName hLowered

/-- A name between slashes is found in the lowercase of a path iff a directory has this name, and
a slash in front of it. -/
theorem exists_directory_iff {name : String} (hName : '/' ∉ name.toList)
    (hClear : ∀ x ∈ name.toList, isClear x = true) :
    contains (lowercase path) ("/" ++ name ++ "/") = true ↔
      ∃ part ∈ (directories path).tail, part.map Char.toLower = name.toList := by
  have hText : ("/" ++ name ++ "/").toList = '/' :: (name.toList ++ ['/']) := by
    simp [String.toList_append]
  have hAllClear : ∀ x ∈ ("/" ++ name ++ "/").toList, isClear x = true := by
    rw [hText]
    intro x hx
    rcases List.mem_cons.mp hx with rfl | hx
    · decide
    · rcases List.mem_append.mp hx with hIn | hLast
      · exact hClear x hIn
      · rw [List.mem_singleton.mp hLast]
        decide
  rw [contains_lowercase_iff (by simp [hText]) hAllClear, hText, directories, List.tail_dropLast]
  constructor
  · rintro ⟨piece, hPiece, hLower⟩
    -- what becomes a slash is one
    obtain ⟨first, rest, rfl, hFirst, hRest⟩ := List.map_eq_cons_iff.mp hLower
    obtain ⟨part, last, rfl, hPart, hLast⟩ := List.map_eq_append_iff.mp hRest
    obtain ⟨c, rfl, hEnd⟩ := List.map_eq_singleton_iff.mp hLast
    obtain rfl := toLower_eq_slash_iff.mp hFirst
    obtain rfl := toLower_eq_slash_iff.mp hEnd
    have hSlash := slash_not_mem_of_lower hName hPart
    exact ⟨part, (mem_inner_splitAt_iff hSlash).mpr hPiece, hPart⟩
  · rintro ⟨part, hMem, hPart⟩
    have hSlash := slash_not_mem_of_lower hName hPart
    refine ⟨'/' :: (part ++ ['/']), (mem_inner_splitAt_iff hSlash).mp hMem, ?_⟩
    rw [List.map_cons, List.map_append, hPart]
    rfl

/-! ## Test files -/

/-- A directory of tests within the path has a slash on either side. -/
theorem liesInInnerTests_iff : LiesInInnerTests path ↔
    contains (lowercase path) "/tests/" = true ∨
      contains (lowercase path) "/__tests__/" = true := by
  have hPlainClear : ∀ x ∈ "tests".toList, isClear x = true := List.all_eq_true.mp (by decide)
  have hUnderClear : ∀ x ∈ "__tests__".toList, isClear x = true := List.all_eq_true.mp (by decide)
  have hPlain := @exists_directory_iff path "tests" (by decide) hPlainClear
  have hUnder := @exists_directory_iff path "__tests__" (by decide) hUnderClear
  rw [show "/" ++ "tests" ++ "/" = "/tests/" by decide] at hPlain
  rw [show "/" ++ "__tests__" ++ "/" = "/__tests__/" by decide] at hUnder
  rw [hPlain, hUnder, LiesInInnerTests]
  simp only [IsTestsName, testsNames, List.mem_pair, and_or_left, exists_or]

/-- The search is for names and inner directories. -/
theorem isTestPath_iff : isTestPath (lowercase path) = true ↔
    IsNamedLikeTest path ∨ LiesInInnerTests path := by
  rw [liesInInnerTests_iff]
  unfold isTestPath IsNamedLikeTest
  simp only [Bool.or_eq_true, startsWith_iff, occursIn_iff, endsWith, List.isSuffixOf_iff_suffix,
    or_assoc]

/-- A path is detected as that of a test file iff it leads through an inner directory of tests,
or its file is named like a test. -/
theorem detectFileType_eq_test_iff :
    detectFileType path = "test" ↔ LiesInInnerTests path ∨ IsNamedLikeTest path := by
  rw [or_comm, ← isTestPath_iff, detectFileType]
  by_cases hTest : isTestPath (lowercase path) = true
  · exact iff_of_true (if_pos hTest) hTest
  · -- the other kinds of files have other names
    refine iff_of_false ?_ hTest
    simp only [if_neg hTest]
    split
    · split
      · decide
      · decide
    · decide

/-- In an absolute path, every directory with a name has a slash in front of it. -/
theorem LiesInTests.inner (hTests : LiesInTests path) (hRoot : path.toList.head? = some '/') :
    LiesInInnerTests path := by
  obtain ⟨name, hMem, hName⟩ := hTests
  obtain ⟨rest, hRest⟩ : ∃ rest, path.toList = [] ++ '/' :: rest := by
    cases hChars : path.toList with
    | nil => simp [hChars] at hRoot
    | cons c rest =>
      rw [hChars, List.head?_cons, Option.some.injEq] at hRoot
      exact ⟨rest, by rw [hRoot, List.nil_append]⟩
  have hDirectories : directories path = [] :: (splitAt '/' rest).dropLast := by
    rw [directories, hRest, splitAt_append_cons, List.dropLast_append_of_ne_nil (splitAt_ne_nil _)]
    rfl
  refine ⟨name, ?_, hName⟩
  rw [hDirectories] at hMem ⊢
  rcases List.mem_cons.mp hMem with rfl | hLater
  · -- the first of them has no name
    exact absurd hName (by decide)
  · exact hLater

/--
**Test directories are seen from within.** Take any path that leads through a directory named for
tests, and any content. The file is detected as a test file iff one of these directories has a
slash in front of it, or the file is named like a test; so it always is if the path is absolute.
-/
theorem test_directories_are_seen_from_within (hTests : LiesInTests path) (content : String) :
    ((detect path content).fileType = some "test" ↔
      LiesInInnerTests path ∨ IsNamedLikeTest path) ∧
    (path.toList.head? = some '/' → (detect path content).fileType = some "test") := by
  have hDetected : (detect path content).fileType = some "test" ↔
      LiesInInnerTests path ∨ IsNamedLikeTest path := by
    rw [← detectFileType_eq_test_iff]
    exact Option.some_inj
  refine ⟨hDetected, fun hRoot => ?_⟩
  exact hDetected.mpr (Or.inl (hTests.inner hRoot))

theorem test_directories_are_seen_from_within_app :
    LiesInTests "app/Tests/views.py" ∧ (detect "app/Tests/views.py" "x").fileType = some "test" := by
  have hTests : LiesInTests "app/Tests/views.py" := by decide
  have hInner : LiesInInnerTests "app/Tests/views.py" := by decide
  exact ⟨hTests, (test_directories_are_seen_from_within hTests "x").1.mpr (Or.inl hInner)⟩

/-- A helper of tests in the directory that the path begins with. -/
theorem leading_test_directory_is_missed :
    LiesInTests "tests/helper.py" ∧ (detect "tests/helper.py" "x").fileType = some "source" := by
  decide

end ReviewPanel.Stack
