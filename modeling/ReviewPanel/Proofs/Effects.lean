import ReviewPanel.Proofs.First
import ReviewPanel.Proofs.Reviewer
import ReviewPanel.Proofs.Scan
import ReviewPanel.Proofs.Search

/-!
# Effects — which calls of `useEffect` are reported

The agent for React code does not match brackets. From a call on it looks for the first line that
starts like the end of a function, takes this line for the end of the call, and reports the call
unless the line has a bracket of a list. A call with a list of dependencies (`EffectCall`) is
judged like any other: by a line inside its body, if a nested call ends there, and by whatever
follows it, if no line of its own looks like an end.

Main results:

* `effectIssues_eq`                   — all effects that are reported about a file.
* `effects_are_judged_by_their_end`   — when a call with dependencies is reported, and when not.
* `effects_with_dependencies_accused` — two such calls that are reported.
-/

namespace ReviewPanel.Builtin.React

open Text

section Rows

variable {lines : List (List Char)} {row : Nat} {path content : String}

/-! ## Rows that look like an end -/

/-- The text that opens a call. -/
def effectMark : List Char := "useEffect(".toList

def effectTitle : String := "useEffect without dependency array"

/-- A line looks like the end of an effect: behind its indentation, a brace and a parenthesis are
closed, or a brace is closed and a list follows. -/
def LooksLikeEnd (line : List Char) : Prop :=
  "\x7d)".toList <+: trimLeft line ∨ "\x7d, [".toList <+: trimLeft line

theorem closesEffect_iff {line : List Char} : closesEffect line = true ↔ LooksLikeEnd line := by
  rw [closesEffect, Bool.or_eq_true, startsWith_iff, startsWith_iff, LooksLikeEnd]

/-- The line of a row looks like the end of an effect. -/
def Closes (lines : List (List Char)) (row : Nat) : Prop :=
  ∃ line, lines[row]? = some line ∧ LooksLikeEnd line

/-- The line of a row has a bracket that opens a list. -/
def HoldsList (lines : List (List Char)) (row : Nat) : Prop :=
  ∃ line, lines[row]? = some line ∧ '[' ∈ line

/-- Of the forty rows from this one on, the first that looks like an end has no list. -/
def IsAccused (lines : List (List Char)) (row : Nat) : Prop :=
  ∃ k < 40, Closes lines (row + k) ∧ ¬ HoldsList lines (row + k) ∧ ∀ j < k, ¬ Closes lines (row + j)

instance : Decidable (Closes lines row) :=
  decidable_of_iff (lines[row]?.any closesEffect = true)
    (by simp only [Closes, Option.any_eq_true, closesEffect_iff])

instance : Decidable (HoldsList lines row) :=
  decidable_of_iff (lines[row]?.any (List.contains · '[') = true)
    (by simp [HoldsList, Option.any_eq_true])

/-- The first line that looks like the end of the call decides. -/
theorem lacksDependencies_iff : lacksDependencies lines = true ↔
    ∃ line, (lines.take effectWindow).find? closesEffect = some line ∧ '[' ∉ line := by
  unfold lacksDependencies
  cases (lines.take effectWindow).find? closesEffect with
  | none => simp
  | some line => simp

/-- The lines from a row on lack dependencies iff the row is accused. -/
theorem lacksDependencies_drop_iff :
    lacksDependencies (lines.drop row) = true ↔ IsAccused lines row := by
  have hWindow : ∀ k, ((lines.drop row).take effectWindow)[k]? =
      if k < 40 then lines[row + k]? else none := by
    intro k
    rw [List.getElem?_take, List.getElem?_drop]
    rfl
  simp only [lacksDependencies_iff, find?_eq_some_iff_getElem?, hWindow, closesEffect_iff]
  constructor
  · rintro ⟨line, ⟨hCloses, k, hAt, hFirst⟩, hNone⟩
    -- what is found stands inside the window
    have hk : k < 40 := by
      by_contra hOutside
      rw [if_neg hOutside] at hAt
      cases hAt
    rw [if_pos hk] at hAt
    refine ⟨k, hk, ⟨line, hAt, hCloses⟩, ?_, ?_⟩
    · -- a row has no other line
      rintro ⟨other, hOther, hList⟩
      rw [hAt, Option.some.injEq] at hOther
      exact hNone (hOther ▸ hList)
    · rintro j hj ⟨earlier, hEarlier, hEnds⟩
      have hPassed := hFirst j hj earlier (by rw [if_pos (by omega), hEarlier])
      rw [closesEffect_iff.mpr hEnds] at hPassed
      cases hPassed
  · rintro ⟨k, hk, ⟨line, hAt, hCloses⟩, hNone, hFirst⟩
    refine ⟨line, ⟨hCloses, k, by rw [if_pos hk, hAt], ?_⟩, fun hList => hNone ⟨line, hAt, hList⟩⟩
    intro j hj earlier hEarlier
    rw [if_pos (by omega)] at hEarlier
    refine Bool.eq_false_iff.mpr fun hEnds => ?_
    exact hFirst j hj ⟨earlier, hEarlier, closesEffect_iff.mp hEnds⟩

/-- A row is cleared by a row with a list that looks like an end, if every row between the two
that looks like an end has a list, too. -/
theorem not_isAccused {k : Nat} (hCloses : Closes lines (row + k))
    (hList : HoldsList lines (row + k))
    (hEarlier : ∀ j < k, Closes lines (row + j) → HoldsList lines (row + j)) :
    ¬ IsAccused lines row := by
  rintro ⟨n, -, hEnd, hNone, hFirst⟩
  -- the row that accuses would stand before this one, at it, or after it
  rcases Nat.lt_trichotomy n k with hBefore | rfl | hAfter
  · exact hNone (hEarlier n hBefore hEnd)
  · exact hNone hList
  · exact hFirst k hAfter hCloses

/-! ## Reported effects -/

/-- The rows of effects that are reported. -/
def accusedRows (lines : List (List Char)) : List Nat :=
  (List.range lines.length).filter fun row =>
    lines[row]?.any (occursIn effectMark) && lacksDependencies (lines.drop row)

/-- The rows that are accused have the mark, and such an end. -/
theorem mem_accusedRows_iff : row ∈ accusedRows lines ↔
    (∃ line, lines[row]? = some line ∧ effectMark <:+: line) ∧ IsAccused lines row := by
  rw [accusedRows, List.mem_filter, List.mem_range, Bool.and_eq_true, lacksDependencies_drop_iff,
    Option.any_eq_true]
  simp only [occursIn_iff]
  constructor
  · rintro ⟨-, hMark, hAccused⟩
    exact ⟨hMark, hAccused⟩
  · -- a row with a line is one of the text
    rintro ⟨⟨line, hAt, hMark⟩, hAccused⟩
    exact ⟨(List.getElem?_eq_some_iff.mp hAt).1, ⟨line, hAt, hMark⟩, hAccused⟩

/-- What the walk makes of the lines from a row on, beside what it makes of later rows. -/
def effectsAt (index : Nat) (here : List (List Char)) : List Finding :=
  if here.head?.any (occursIn effectMark) && lacksDependencies here then [effectFinding index]
  else []

/-- The walk makes one finding for each of these rows. -/
theorem effectsWithoutDependencies_eq (lines : List (List Char)) :
    effectsWithoutDependencies 0 lines = (accusedRows lines).map effectFinding := by
  rw [walk_eq_flatMap effectsWithoutDependencies effectsAt (fun _ => rfl) (fun _ _ _ => rfl)]
  -- the line of a row is the first of those from there on
  simp only [effectsAt, Nat.zero_add, List.head?_drop]
  rw [flatMap_ite (f := effectFinding), accusedRows]
  simp only [Bool.decide_eq_true]

theorem issues_reviewCode : (reviewCode path content).issues =
    (Rule.scan codeRules codeProfile.name content codeProfile.blank).1.issues ++
      effectsWithoutDependencies 0 (Text.lines content.toList) ++
        listsWithoutKey 0 (Text.lines content.toList) := rfl

/-- The issues about effects are those of the walk; nothing else has their title. -/
theorem effectIssues_eq : (reviewCode path content).issues.filter (·.title = effectTitle) =
    (accusedRows (Text.lines content.toList)).map effectFinding := by
  -- no rule has this title
  have hRules : (Rule.scan codeRules codeProfile.name content codeProfile.blank).1.issues.filter
      (·.title = effectTitle) = [] := by
    refine List.filter_eq_nil_iff.mpr fun f hMem => ?_
    obtain ⟨-, -, r, hr, -, rfl⟩ := Rule.exists_rule_of_mem_findingsFor hMem
    have hTitles : ∀ r ∈ codeRules, ¬ decide (r.title = effectTitle) = true := by decide
    exact hTitles r hr
  -- nor do lists without keys
  have hKeys : (listsWithoutKey 0 (Text.lines content.toList)).filter
      (·.title = effectTitle) = [] := by
    refine List.filter_eq_nil_iff.mpr fun f hMem => ?_
    have hTitle : ¬ decide ("List item without key" = effectTitle) = true := by decide
    obtain ⟨-, -, hNone⟩ := exists_of_mem_walk
      (P := fun _ f => ¬ decide (f.title = effectTitle) = true)
      (fun _ => rfl) (fun _ _ _ => ⟨_, forall_mem_ite hTitle, rfl⟩) hMem
    exact hNone
  -- and effects have no other
  have hEffects : (effectsWithoutDependencies 0 (Text.lines content.toList)).filter
      (·.title = effectTitle) = (accusedRows (Text.lines content.toList)).map effectFinding := by
    rw [effectsWithoutDependencies_eq, List.filter_eq_self]
    intro f hMem
    obtain ⟨k, -, rfl⟩ := List.mem_map.mp hMem
    rfl
  rw [issues_reviewCode, List.filter_append, List.filter_append, hRules, hKeys, hEffects,
    List.nil_append, List.append_nil]

/-- A result has an issue about an effect on the line of a row. -/
def Reports (result : RawResult) (row : Nat) : Prop :=
  ∃ f ∈ result.issues, f.title = effectTitle ∧ f.line = some (lineNumber row)

/-- A row is reported iff a row of the same line number is accused. -/
theorem reports_iff : Reports (reviewCode path content) row ↔
    ∃ k ∈ accusedRows (Text.lines content.toList), lineNumber k = lineNumber row := by
  constructor
  · rintro ⟨f, hMem, hTitle, hLine⟩
    have hEffect : f ∈ (reviewCode path content).issues.filter (·.title = effectTitle) :=
      List.mem_filter.mpr ⟨hMem, decide_eq_true hTitle⟩
    rw [effectIssues_eq] at hEffect
    obtain ⟨k, hk, rfl⟩ := List.mem_map.mp hEffect
    exact ⟨k, hk, Option.some.inj hLine⟩
  · rintro ⟨k, hk, hNumber⟩
    have hEffect : effectFinding k ∈ (reviewCode path content).issues.filter
        (·.title = effectTitle) := by
      rw [effectIssues_eq]
      exact List.mem_map_of_mem hk
    exact ⟨_, (List.mem_filter.mp hEffect).1, rfl, congrArg some hNumber⟩

/-- What is accused is reported. -/
theorem reports_of_isAccused
    (hMark : ∃ line, (Text.lines content.toList)[row]? = some line ∧ effectMark <:+: line)
    (hAccused : IsAccused (Text.lines content.toList) row) :
    Reports (reviewCode path content) row :=
  reports_iff.mpr ⟨row, mem_accusedRows_iff.mpr ⟨hMark, hAccused⟩, rfl⟩

/-- Where lines can be counted in 32 bits, nothing else is. -/
theorem isAccused_of_reports (hCount : lineCount content < 2 ^ 32)
    (hRow : row < lineCount content) (hReports : Reports (reviewCode path content) row) :
    IsAccused (Text.lines content.toList) row := by
  obtain ⟨k, hk, hNumber⟩ := reports_iff.mp hReports
  obtain ⟨⟨line, hLine, -⟩, hAccused⟩ := mem_accusedRows_iff.mp hk
  -- two rows of the text with one number are one row
  have hInside : k < lineCount content := (List.getElem?_eq_some_iff.mp hLine).1
  have hSame := congrArg UInt32.toNat hNumber
  rw [toNat_lineNumber hCount hInside, toNat_lineNumber hCount hRow] at hSame
  obtain rfl : k = row := by omega
  exact hAccused

end Rows

/-! ## Calls with dependencies -/

/-- The bracket that closes a bracket. -/
def closerOf? : Char → Option Char
  | '(' => some ')'
  | '[' => some ']'
  | '\x7b' => some '\x7d'
  | _ => none

/-- Whether the brackets of a text match, where some are still to be closed, the last one first. -/
def matchesBrackets : (due : List Char) → List Char → Bool
  | due, [] => due.isEmpty
  | due, c :: rest =>
    match closerOf? c with
    | some closer => matchesBrackets (closer :: due) rest
    | none =>
      if [')', ']', '\x7d'].contains c then
        due.head? == some c && matchesBrackets due.tail rest
      else matchesBrackets due rest

/-- A text with a call of `useEffect` whose last argument is a list. -/
structure EffectCall where
  before : List Char
  /-- The arguments in front of the list, with the comma after them. -/
  lead : List Char
  dependencies : List Char
  /-- What stands between the list and the end of the call. -/
  ending : List Char
  after : List Char

namespace EffectCall

/-- The text between the parentheses of the call. -/
def arguments (e : EffectCall) : List Char :=
  e.lead ++ ('[' :: e.dependencies ++ ']' :: e.ending)

def text (e : EffectCall) : List Char :=
  e.before ++ (effectMark ++ (e.arguments ++ ')' :: e.after))

def content (e : EffectCall) : String := .ofList e.text

/-- The row on which the call starts. -/
def row (e : EffectCall) : Nat := e.before.count '\n'

/-- How many rows further down the list opens. -/
def depth (e : EffectCall) : Nat := e.lead.count '\n'

/-- A call as it is meant by someone who writes one: its brackets match, it goes on for at most
forty lines and has no text in it that may hide a bracket, and no other call starts on its line. -/
structure IsRegular (e : EffectCall) : Prop where
  matched : matchesBrackets [] e.arguments = true ∧ matchesBrackets [] e.dependencies = true
  /-- Beside blanks, there is nothing in front of the list, or a comma. -/
  opens   : (e.lead.filter fun c => !isBlank c).getLast? ∈ [none, some ',']
  /-- Beside blanks, there is nothing behind the list, or a comma. -/
  ends    : e.ending.filter (fun c => !isBlank c) ∈ [[], [',']]
  /-- There is no quote, no template, no comment and no regular expression. -/
  plain   : (e.arguments.any fun c => "\"'`/".toList.contains c) = false
  short   : e.arguments.count '\n' < 40
  alone   : ∀ line ∈ (Text.lines e.text)[e.row]?,
              (line.tails.countP fun rest => startsWith effectMark rest) = 1

variable {e : EffectCall}

/-- The call starts in its row. -/
theorem holds_mark : ∃ line, (Text.lines e.text)[e.row]? = some line ∧ effectMark <:+: line :=
  exists_line_of_piece _ _ _ (by decide) (by decide) (by decide)

/-- The list opens on the row that the line feeds in front of it tell. -/
theorem holdsList : HoldsList (Text.lines e.text) (e.row + e.depth) := by
  have hBracket := exists_line_of_piece (e.before ++ (effectMark ++ e.lead)) ['[']
    (e.dependencies ++ ']' :: e.ending ++ ')' :: e.after) (by decide) (by decide) (by decide)
  have hText : e.before ++ (effectMark ++ e.lead) ++
      (['['] ++ (e.dependencies ++ ']' :: e.ending ++ ')' :: e.after)) = e.text := by
    simp [text, arguments]
  -- the name of the call has no line feed
  have hRow : (e.before ++ (effectMark ++ e.lead)).count '\n' = e.row + e.depth := by
    rw [List.count_append, List.count_append, show effectMark.count '\n' = 0 by decide,
      Nat.zero_add]
    rfl
  rw [hText, hRow] at hBracket
  obtain ⟨line, hLine, hPiece⟩ := hBracket
  exact ⟨line, hLine, hPiece.subset (List.mem_singleton.mpr rfl)⟩

theorem hasText : HasText e.content := by
  refine ⟨'u', ?_, by decide⟩
  rw [content, String.toList_ofList, text]
  exact List.mem_append_right _ (List.mem_append_left _ (by decide))

end EffectCall

variable {client : Option Llm.Client} {path : String} {e : EffectCall}

/-- The agent answers on every text with a call in a file of its languages. -/
theorem ending_effectCall (hPath : HasExtension path extensions) (context : Context) :
    ((codeAgent client).analyze path e.content context).ending =
      .answered (reviewCode path e.content) := by
  have hAccepts : acceptsFile extensions path e.content = true :=
    (acceptsFile_iff (by decide) (by decide)).mpr ⟨e.hasText, hPath⟩
  exact reviews_reactCode.ending_eq hAccepts context

/-- The row of the call is one of the text, and its line opens the call. -/
theorem EffectCall.row_lt : e.row < lineCount e.content := by
  obtain ⟨line, hLine, -⟩ := e.holds_mark
  rw [lineCount, content, String.toList_ofList]
  exact (List.getElem?_eq_some_iff.mp hLine).1

theorem EffectCall.reports_of_isAccused (hAccused : IsAccused (Text.lines e.text) e.row) :
    Reports (reviewCode path e.content) e.row := by
  have hMark := e.holds_mark
  rw [← String.toList_ofList (l := e.text)] at hMark hAccused
  exact React.reports_of_isAccused hMark hAccused

/--
**Effects are judged by their end.** Take any file of JavaScript or TypeScript with a call of
`useEffect` whose last argument is a list. The agent gives a result, and reports an effect on the
line of the call iff, of the forty lines from there on, the first that looks like the end of an
effect has no bracket of a list. So a call is cleared by the line its list opens on, if this
line looks like an end and each line before it that does has such a bracket, too; whatever else
looks like an end decides for itself.
-/
theorem effects_are_judged_by_their_end (client : Option Llm.Client)
    (hPath : HasExtension path extensions) (e : EffectCall) (context : Context) :
    ∃ result, ((codeAgent client).analyze path e.content context).ending = .answered result ∧
      (IsAccused (Text.lines e.text) e.row → Reports result e.row) ∧
      (lineCount e.content < 2 ^ 32 → Reports result e.row →
        IsAccused (Text.lines e.text) e.row) ∧
      (Closes (Text.lines e.text) (e.row + e.depth) →
        (∀ k < e.depth, Closes (Text.lines e.text) (e.row + k) →
          HoldsList (Text.lines e.text) (e.row + k)) →
        ¬ IsAccused (Text.lines e.text) e.row) := by
  refine ⟨_, ending_effectCall hPath context, e.reports_of_isAccused, ?_, ?_⟩
  · intro hCount hReports
    have hAccused := isAccused_of_reports hCount e.row_lt hReports
    rwa [EffectCall.content, String.toList_ofList] at hAccused
  · -- the line on which the list opens has its bracket
    exact fun hCloses hEarlier => not_isAccused hCloses e.holdsList hEarlier

/-! ## Three calls -/

namespace EffectCall

/-- A call that ends on a line with its list. -/
def loading : EffectCall :=
  { before := []
    lead := "() => \x7b\n  load(id);\n\x7d, ".toList
    dependencies := "id".toList
    ending := []
    after := ";\n".toList }

/-- The same with a call in its body, which ends on a line of its own. -/
def nested : EffectCall :=
  { loading with
    lead := "() => \x7b\n  items.forEach(i => \x7b\n    load(i);\n  \x7d);\n\x7d, ".toList
    dependencies := "items".toList }

/-- A call on one line, in front of another that ends on a line of its own. -/
def short : EffectCall :=
  { loading with
    lead := "() => \x7b load(id); \x7d, ".toList
    after := ";\nafter(() => \x7b\n  run();\n\x7d);\n".toList }

end EffectCall

theorem effects_are_judged_by_their_end_loading :
    HasExtension "a.js" extensions ∧
      ∃ result, ((codeAgent none).analyze "a.js" EffectCall.loading.content .empty).ending =
        .answered result ∧ ¬ Reports result EffectCall.loading.row := by
  have hPath : HasExtension "a.js" extensions := ⟨"js", by decide, by decide⟩
  obtain ⟨result, hAnswered, -, hReported, hCleared⟩ :=
    effects_are_judged_by_their_end none hPath .loading .empty
  have hCount : lineCount EffectCall.loading.content < 2 ^ 32 := by decide
  -- the third line looks like an end, and none before it does
  have hNot := hCleared (by decide) (by decide)
  exact ⟨hPath, result, hAnswered, fun hReports => hNot (hReported hCount hReports)⟩

/-- The other two calls are regular, and reported. -/
theorem effects_with_dependencies_accused :
    (EffectCall.nested.IsRegular ∧
      ∃ result, ((codeAgent none).analyze "a.js" EffectCall.nested.content .empty).ending =
        .answered result ∧ Reports result EffectCall.nested.row) ∧
    (EffectCall.short.IsRegular ∧
      ∃ result, ((codeAgent none).analyze "a.js" EffectCall.short.content .empty).ending =
        .answered result ∧ Reports result EffectCall.short.row) := by
  have hPath : HasExtension "a.js" extensions := ⟨"js", by decide, by decide⟩
  have hReported : ∀ e : EffectCall, IsAccused (Text.lines e.text) e.row →
      ∃ result, ((codeAgent none).analyze "a.js" e.content .empty).ending = .answered result ∧
        Reports result e.row :=
    fun e hAccused => ⟨_, ending_effectCall hPath .empty, e.reports_of_isAccused hAccused⟩
  -- the fourth line of the one looks like an end, and so does the fourth of the other
  have hNested : IsAccused (Text.lines EffectCall.nested.text) EffectCall.nested.row :=
    lacksDependencies_drop_iff.mp (by decide)
  have hShort : IsAccused (Text.lines EffectCall.short.text) EffectCall.short.row :=
    lacksDependencies_drop_iff.mp (by decide)
  refine ⟨⟨?_, hReported _ hNested⟩, ⟨?_, hReported _ hShort⟩⟩
  · exact ⟨by decide, by decide, by decide, by decide, by decide, by decide⟩
  · exact ⟨by decide, by decide, by decide, by decide, by decide, by decide⟩

end ReviewPanel.Builtin.React
