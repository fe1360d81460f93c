import Mathlib.Data.List.Forall2
import ReviewPanel.Builtin.Python
import ReviewPanel.Proofs.Reviewer
import ReviewPanel.Proofs.Scan

/-!
# Line rules — contents in parts

A scan looks at one line at a time. So in a content that is cut between two lines it finds what
it finds in the two parts, where the lines of the second part are further down by the number of
lines of the first (`IsBelow`). What is in the result already makes no difference, and stays.

* `Adds`              — what a scan adds to any result, and that it tells how much this is.
* `hitsFrom_append`   — the hits on some lines and then on others.
* `forall₂_hitsFrom`  — the same lines further down have the same hits further down.
* `scans_go_by_parts` — scans of two parts and of the whole.
-/

namespace ReviewPanel.Rule

open Builtin (lineCount lineNumber toNat_lineNumber)

variable {rules : List Rule} {agent content : String} {rows : List (List Char)} {n : Nat}

/-! ## What a scan adds -/

/-- A scan adds some issues and suggestions behind those of any result, leaves the result as it is
otherwise, and tells how many findings these are together. -/
def Adds (rules : List Rule) (agent content : String) (issues suggestions : List Finding) : Prop :=
  ∀ result, scan rules agent content result =
    ({ result with
        issues := result.issues ++ issues
        suggestions := result.suggestions ++ suggestions },
      issues.length + suggestions.length)

theorem findingsFor_append (target : RuleTarget) (found more : List (RuleTarget × Finding)) :
    findingsFor target (found ++ more) = findingsFor target found ++ findingsFor target more := by
  rw [findingsFor, List.filter_append, List.map_append]
  rfl

/-- Every hit goes to one of the two lists. -/
theorem length_findingsFor (found : List (RuleTarget × Finding)) :
    (findingsFor .issue found).length + (findingsFor .suggestion found).length = found.length := by
  have hOther : (fun hit : RuleTarget × Finding => hit.1 == .suggestion) =
      fun hit => !(hit.1 == .issue) := by
    funext ⟨target, f⟩
    cases target <;> rfl
  rw [findingsFor, findingsFor, List.length_map, List.length_map, hOther,
    ← List.length_eq_length_filter_add]

theorem adds_hits (rules : List Rule) (agent content : String) :
    Adds rules agent content (findingsFor .issue (hits rules agent content))
      (findingsFor .suggestion (hits rules agent content)) := by
  intro result
  rw [scan, length_findingsFor]

/-! ## Lines further down -/

/-- The same finding, a number of lines further down. -/
def IsBelow (n : Nat) (f f' : Finding) : Prop :=
  ∃ k k' : UInt32, f.line = some k ∧ k'.toNat = k.toNat + n ∧ f' = { f with line := some k' }

/-- The hits on some lines come before the hits on those that follow. -/
theorem hitsFrom_append (later : List (List Char)) :
    ∀ index, hitsFrom rules agent index (rows ++ later) =
      hitsFrom rules agent index rows ++ hitsFrom rules agent (index + rows.length) later := by
  induction rows with
  | nil => exact fun _ => rfl
  | cons line rest ih =>
    intro index
    have hNext : index + (line :: rest).length = index + 1 + rest.length := by
      rw [List.length_cons]
      omega
    rw [List.cons_append, hitsFrom, hitsFrom, ih, hNext, List.append_assoc]

/-- A rule reports the same about a line further down, as long as lines are counted in 32 bits. -/
theorem isBelow_finding (r : Rule) {index : Nat} (hCount : index + n + 1 < 2 ^ 32) :
    IsBelow n (r.finding agent (.ofNat (index + 1))) (r.finding agent (.ofNat (index + n + 1))) := by
  have hFurther : (lineNumber (index + n)).toNat = index + n + 1 :=
    toNat_lineNumber hCount (Nat.lt_succ_self _)
  have hHere : (lineNumber index).toNat = index + 1 := toNat_lineNumber hCount (by omega)
  refine ⟨lineNumber index, lineNumber (index + n), rfl, ?_, rfl⟩
  omega

/-- A hit and the same hit further down. -/
def HitIsBelow (n : Nat) (hit hit' : RuleTarget × Finding) : Prop :=
  hit.1 = hit'.1 ∧ IsBelow n hit.2 hit'.2

theorem forall₂_hitsFrom :
    ∀ index, index + n + rows.length < 2 ^ 32 →
      List.Forall₂ (HitIsBelow n) (hitsFrom rules agent index rows)
        (hitsFrom rules agent (index + n) rows) := by
  -- on the lines: the bound on their number keeps all line numbers within 32 bits
  induction rows with
  | nil => exact fun _ _ => .nil
  | cons line rest ih =>
    intro index hCount
    rw [List.length_cons] at hCount
    -- the first line, with the rules that match it, and then the lines that follow
    have hHere : List.Forall₂ (HitIsBelow n) (hitsOnLine rules agent index line)
        (hitsOnLine rules agent (index + n) line) := by
      rw [hitsOnLine, hitsOnLine, List.forall₂_map_left_iff, List.forall₂_map_right_iff,
        List.forall₂_same]
      exact fun r _ => ⟨rfl, isBelow_finding r (by omega)⟩
    have hLater := ih (index + 1) (by omega)
    rw [Nat.add_right_comm] at hLater
    rw [hitsFrom, hitsFrom]
    exact List.rel_append hHere hLater

/-- What goes to one of the two lists goes there further down as well. -/
theorem forall₂_findingsFor {found found' : List (RuleTarget × Finding)} (target : RuleTarget)
    (hBelow : List.Forall₂ (HitIsBelow n) found found') :
    List.Forall₂ (IsBelow n) (findingsFor target found) (findingsFor target found') := by
  induction hBelow with
  | nil => exact .nil
  | @cons hit hit' found found' hHit _ ih =>
    obtain ⟨hTarget, hFinding⟩ := hHit
    unfold findingsFor at ih ⊢
    rw [List.filter_cons, List.filter_cons, ← hTarget]
    split
    · exact .cons hFinding ih
    · exact ih

/-! ## Contents in parts -/

/-- The hits on two parts of a content, and on the whole. -/
theorem exists_hits_append (rules : List Rule) (agent : String) {a b : String}
    (hSeam : a = "" ∨ a.toList.getLast? = some '\n')
    (hCount : lineCount (a ++ b) < 2 ^ 32) :
    ∃ below, List.Forall₂ (HitIsBelow (lineCount a)) (hits rules agent b) below ∧
      hits rules agent (a ++ b) = hits rules agent a ++ below := by
  have hLines : Text.lines (a ++ b).toList = Text.lines a.toList ++ Text.lines b.toList := by
    rw [String.toList_append]
    exact Text.lines_append (hSeam.imp_left fun hEmpty => by rw [hEmpty]; rfl) b.toList
  have hTogether : 0 + lineCount a + (Text.lines b.toList).length < 2 ^ 32 := by
    rw [lineCount, hLines, List.length_append] at hCount
    rwa [Nat.zero_add, lineCount]
  refine ⟨_, forall₂_hitsFrom 0 hTogether, ?_⟩
  rw [hits, hLines, hitsFrom_append]
  rfl

/--
**Scans go by parts.** Take any rules and any name of an agent. A scan of any content adds some
issues and suggestions to whatever result it is given, leaves all else in the result as it is, and
tells how many findings these are. Now cut a content of fewer than 2^32 lines in two, where the
first part is empty or ends with a line feed. The scan of the whole adds, to either list, what the
scan of the first part adds and then what the scan of the second part adds, each of these findings
further down by the number of lines of the first part; and it tells the sum of what the two scans
tell.
-/
theorem scans_go_by_parts (rules : List Rule) (agent : String) :
    (∀ content, ∃ issues suggestions, Adds rules agent content issues suggestions) ∧
    ∀ a b : String, a = "" ∨ a.toList.getLast? = some '\n' → lineCount (a ++ b) < 2 ^ 32 →
      ∃ issues suggestions issues' suggestions' issuesBelow suggestionsBelow,
        Adds rules agent a issues suggestions ∧
        Adds rules agent b issues' suggestions' ∧
        List.Forall₂ (IsBelow (lineCount a)) issues' issuesBelow ∧
        List.Forall₂ (IsBelow (lineCount a)) suggestions' suggestionsBelow ∧
        Adds rules agent (a ++ b) (issues ++ issuesBelow) (suggestions ++ suggestionsBelow) ∧
        ∀ result, (scan rules agent (a ++ b) result).2 =
          (scan rules agent a result).2 + (scan rules agent b result).2 := by
  refine ⟨fun content => ⟨_, _, adds_hits rules agent content⟩, ?_⟩
  intro a b hSeam hCount
  -- the hits of the whole are those of `a` and, moved down, those of `b`
  obtain ⟨below, hBelow, hWhole⟩ := exists_hits_append rules agent hSeam hCount
  have hAdds := adds_hits rules agent (a ++ b)
  rw [hWhole, findingsFor_append, findingsFor_append] at hAdds
  refine ⟨_, _, _, _, _, _, adds_hits rules agent a, adds_hits rules agent b,
    forall₂_findingsFor .issue hBelow, forall₂_findingsFor .suggestion hBelow, hAdds, ?_⟩
  intro result
  show (hits rules agent (a ++ b)).length =
    (hits rules agent a).length + (hits rules agent b).length
  rw [hWhole, List.length_append, hBelow.length_eq]

/-- A call on the first of three lines, and below them another one and a bare handler. -/
theorem scans_go_by_parts_handler :
    "print(x)\r\n\n\n".toList.getLast? = some '\n' ∧
      lineCount ("print(x)\r\n\n\n" ++ "print(y)\nexcept:") < 2 ^ 32 ∧
      ∃ issues suggestions,
        Adds Builtin.Python.codeRules "python_code" ("print(x)\r\n\n\n" ++ "print(y)\nexcept:")
          issues suggestions ∧
        issues.map Finding.line = [some 5] ∧ suggestions.map Finding.line = [some 1, some 4] := by
  have hSeam : "print(x)\r\n\n\n".toList.getLast? = some '\n' := by decide
  have hCount : lineCount ("print(x)\r\n\n\n" ++ "print(y)\nexcept:") < 2 ^ 32 := by decide
  obtain ⟨-, hParts⟩ := scans_go_by_parts Builtin.Python.codeRules "python_code"
  obtain ⟨issues, suggestions, -, -, issuesBelow, suggestionsBelow, -, -, -, -, hWhole, -⟩ :=
    hParts _ _ (Or.inr hSeam) hCount
  have hScan := hWhole (.empty "")
  have hIssues := congrArg (fun found => found.1.issues.map Finding.line) hScan
  have hSuggestions := congrArg (fun found => found.1.suggestions.map Finding.line) hScan
  refine ⟨hSeam, hCount, _, _, hWhole, hIssues.symm.trans ?_, hSuggestions.symm.trans ?_⟩
  · decide +kernel
  · decide +kernel

end ReviewPanel.Rule
