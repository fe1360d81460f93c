import Mathlib.Data.List.ProdSigma
import ReviewPanel.Proofs.Lines
import ReviewPanel.Proofs.Pattern
import ReviewPanel.Rule

/-!
# Line rules — what a scan finds

A scan has one hit for every line and rule that match, and no other
(`Rule.length_hits`), each with the number of its line (`Rule.exists_line_of_mem_hits`).
So its findings have the kinds of its rules, and on blank text rules that ask for a
character that is not blank have no hits.
-/

namespace ReviewPanel

namespace Rule

variable {rules : List Rule} {agent content : String} {result : RawResult}

/-! ## Hits -/

/-- The hits are as many as the pairs of a line and a rule that matches it. -/
theorem length_hitsFrom {lines : List (List Char)} :
    ∀ {index : Nat}, (hitsFrom rules agent index lines).length =
      ((lines ×ˢ rules).filter fun e => e.2.matchesLine e.1).length := by
  induction lines with
  | nil => intro _; rfl
  | cons line rest ih =>
    intro index
    -- the rules that match the first line, and then the matches on the others
    rw [hitsFrom, List.length_append, ih, List.product_cons, List.filter_append,
      List.length_append, hitsOnLine, List.length_map, List.filter_map, List.length_map]
    rfl

/-- A scan has one hit for each line and each rule that matches it. -/
theorem length_hits (rules : List Rule) (agent content : String) :
    (hits rules agent content).length =
      ((Text.lines content.toList ×ˢ rules).filter fun e => e.2.matchesLine e.1).length :=
  length_hitsFrom

/-- There are none iff no rule matches a line. -/
theorem hits_eq_nil_iff :
    hits rules agent content = [] ↔
      ∀ line ∈ Text.lines content.toList, ∀ r ∈ rules, r.matchesLine line = false := by
  rw [← List.length_eq_zero_iff, length_hits, List.length_eq_zero_iff, List.filter_eq_nil_iff]
  simp only [Prod.forall, List.mem_product, Bool.not_eq_true]
  exact ⟨fun h line hLine r hr => h line r ⟨hLine, hr⟩,
    fun h line r hMem => h line hMem.1 r hMem.2⟩

/-- A hit is what a rule reports of a line, with the number of the line. -/
theorem exists_line_of_mem_hits {hit : RuleTarget × Finding}
    (hMem : hit ∈ hits rules agent content) :
    ∃ k < (Text.lines content.toList).length, ∃ r ∈ rules,
      hit = (r.target, r.finding agent (.ofNat (k + 1))) := by
  have hCons : ∀ index line rest, ∃ here,
      (∀ x ∈ here, ∃ r ∈ rules, x = (r.target, r.finding agent (.ofNat (index + 1)))) ∧
        hitsFrom rules agent index (line :: rest) =
          here ++ hitsFrom rules agent (index + 1) rest := by
    intro index line rest
    refine ⟨hitsOnLine rules agent index line, ?_, rfl⟩
    intro x hx
    obtain ⟨r, hr, hHit⟩ := List.mem_map.mp hx
    exact ⟨r, (List.mem_filter.mp hr).1, hHit.symm⟩
  obtain ⟨k, hk, hRule⟩ := exists_of_mem_walk (fun _ => rfl) hCons hMem
  rw [Nat.zero_add] at hRule
  exact ⟨k, hk, hRule⟩

/-- What goes to one of the two lists is reported by a rule whose findings go there. -/
theorem exists_rule_of_mem_findingsFor {target : RuleTarget} {f : Finding}
    (hMem : f ∈ findingsFor target (hits rules agent content)) :
    ∃ k < (Text.lines content.toList).length, ∃ r ∈ rules, r.target = target ∧
      f = r.finding agent (.ofNat (k + 1)) := by
  obtain ⟨hit, hHit, rfl⟩ := List.mem_map.mp hMem
  obtain ⟨hListed, hGoes⟩ := List.mem_filter.mp hHit
  obtain ⟨k, hk, r, hr, rfl⟩ := exists_line_of_mem_hits hListed
  exact ⟨k, hk, r, hr, beq_iff_eq.mp hGoes, rfl⟩

/-- Rules that only report issues hit nothing else. -/
theorem findingsFor_issue_hits (hTarget : ∀ r ∈ rules, r.target = .issue) :
    findingsFor .issue (hits rules agent content) = (hits rules agent content).map Prod.snd := by
  rw [findingsFor, List.filter_eq_self.mpr]
  intro hit hMem
  obtain ⟨-, -, r, hr, rfl⟩ := exists_line_of_mem_hits hMem
  rw [hTarget r hr]
  rfl

/-! ## Issues of a scan -/

theorem issues_scan : (scan rules agent content result).1.issues =
    result.issues ++ findingsFor .issue (hits rules agent content) := rfl

/-! ## Blank text -/

/-- On blank text there is no hit of a rule that asks for a character that is not blank. -/
theorem hits_eq_nil_of_blank (hNeeds : ∀ r ∈ rules, r.pattern.needsText = true)
    (hBlank : Text.AllBlank content.toList) : hits rules agent content = [] :=
  hits_eq_nil_iff.mpr fun _ hLine r hr =>
    Pattern.occursIn_eq_false_of_blank (hNeeds r hr) fun x hx =>
      hBlank x (Text.mem_of_mem_lines hLine hx)

end Rule

end ReviewPanel
