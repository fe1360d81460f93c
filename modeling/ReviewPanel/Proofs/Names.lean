import ReviewPanel.Builtin.Base
import ReviewPanel.Proofs.First
import ReviewPanel.Proofs.Pattern

/-!
# Names — what is captured, and how it is listed

A test agent captures the names in a file by a pattern, and lists those that do not start with
an underscore, each once, where it occurs first. `Builtin.ListsNames` says so without the way in
which the list is made, and leaves room for one list only.

* `NamePattern.forall_of_mem_all`   — the characters of captured names.
* `Builtin.listsNames_publicNames`  — the list that is made.
* `Builtin.ListsNames.eq_publicNames` — is the only one of its kind.
-/

namespace ReviewPanel

/-! ## Captured names -/

namespace NamePattern

variable {p : NamePattern} {c e : Cursor} {name text : List Char} {Q : Char → Prop}

/-- A captured name has the characters that the middle part of the pattern takes. -/
theorem forall_of_match? (hOnly : p.name.TakesOnly Q) (hMatch : p.match? c = some (name, e)) :
    ∀ x ∈ name, Q x := by
  obtain ⟨s, -, hFound⟩ := List.exists_of_findSome?_eq_some hMatch
  obtain ⟨m, hm, hTrail⟩ := List.exists_of_findSome?_eq_some hFound
  obtain ⟨f, -, hPair⟩ := Option.map_eq_some_iff.mp hTrail
  obtain ⟨piece, hPiece, hRest, hOffset⟩ := Pattern.exists_piece hOnly hm
  -- the name is the text from the start of its piece to the end
  have hName : name = piece := by
    rw [← (Prod.mk.inj hPair).1, hRest, hOffset, Nat.add_sub_cancel_left, List.take_left]
  rwa [hName]

/-- A captured name is made of what the pattern of names takes. -/
theorem forall_of_mem_allFrom (hOnly : p.name.TakesOnly Q) :
    ∀ {offset skip : Nat} {before : Option Char},
      name ∈ p.allFrom offset before skip text → ∀ x ∈ name, Q x := by
  induction text with
  | nil =>
    intro offset skip before hMem
    cases hMem
  | cons c rest ih =>
    intro offset skip before hMem
    -- within a match nothing is looked for
    cases skip with
    | succ k => exact ih hMem
    | zero =>
      rw [allFrom] at hMem
      cases hMatch : p.match? ⟨offset, before, c :: rest⟩ with
      | none =>
        rw [hMatch] at hMem
        exact ih hMem
      | some found =>
        rw [hMatch] at hMem
        -- the name that matches here, or a later one
        rcases List.mem_cons.mp hMem with rfl | hLater
        · exact forall_of_match? hOnly hMatch
        · exact ih hLater

/-- The characters of the names in a text. -/
theorem forall_of_mem_all (hOnly : p.name.TakesOnly Q) (hMem : name ∈ p.all text) :
    ∀ x ∈ name, Q x :=
  forall_of_mem_allFrom hOnly hMem

end NamePattern

/-! ## Listed names -/

namespace Builtin

/-- Names are listed as they were captured, but for those that start with an underscore: in the
order of their first occurrence, and none twice. -/
structure ListsNames (captured : List (List Char)) (names : List String) : Prop where
  mem_iff : ∀ n : String, n ∈ names ↔ n.toList ∈ captured ∧ n.toList.head? ≠ some '_'
  ordered : names.Pairwise fun m n => captured.idxOf m.toList < captured.idxOf n.toList

variable {captured : List (List Char)} {names : List String}

theorem ListsNames.nodup (hNames : ListsNames captured names) : names.Nodup :=
  hNames.ordered.imp fun hLt => by
    rintro rfl
    exact Nat.lt_irrefl _ hLt

/-- The public names are the captured ones without those that are hidden, each once. -/
theorem listsNames_publicNames : ListsNames captured (publicNames captured) := by
  constructor
  · intro n
    rw [publicNames, List.mem_map]
    simp only [List.mem_eraseDups, List.mem_filter, bne_iff_ne]
    constructor
    · rintro ⟨chars, hListed, rfl⟩
      rwa [String.toList_ofList]
    · intro hListed
      exact ⟨n.toList, hListed, String.ofList_toList⟩
  · rw [publicNames, eraseDups_filter, List.pairwise_map]
    simp only [String.toList_ofList]
    exact pairwise_idxOf_eraseDups.filter _

/-- There is one such list of names. -/
theorem ListsNames.eq_publicNames (hNames : ListsNames captured names) :
    names = publicNames captured := by
  have hMade : ListsNames captured (publicNames captured) := listsNames_publicNames
  have hPerm : names.Perm (publicNames captured) :=
    (List.perm_ext_iff_of_nodup hNames.nodup hMade.nodup).mpr fun n => by
      rw [hNames.mem_iff, hMade.mem_iff]
  refine hPerm.eq_of_pairwise ?_ hNames.ordered hMade.ordered
  intro m n _ _ hBefore hAfter
  omega

end Builtin

end ReviewPanel
