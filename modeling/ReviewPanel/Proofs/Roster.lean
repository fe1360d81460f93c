import ReviewPanel.Roster
import ReviewPanel.Proofs.First

/-!
# Rosters — names and positions

A roster whose names are distinct is a finite map that remembers an order:
a name is found at the one thing that carries it, and putting a thing of a
new name leaves everything before it alone.

* `put_of_new`       — a new name goes to the end.
* `find?_name`       — each thing of a roster is found under its name.
* `map_fill`         — things put one by one stand where their names first came.
* `find?_fill`       — of things of one name the last one put counts.
* `put_comm_iff`     — when the order in which two things are put does not matter.
-/

namespace ReviewPanel.Roster

variable {α : Type} {name : α → String}

theorem find?_cons {y : α} {rest : List α} {wanted : String} :
    find? name wanted (y :: rest) =
      if name y = wanted then some y else find? name wanted rest := by
  rw [find?, List.find?_cons]
  by_cases hy : name y = wanted
  · rw [if_pos hy, beq_iff_eq.mpr hy]
  · rw [if_neg hy, beq_eq_false_iff_ne.mpr hy]
    rfl

/-- A thing of a new name goes to the end. -/
theorem put_of_new {x : α} {xs : List α} (hNew : name x ∉ xs.map name) :
    put name x xs = xs ++ [x] := by
  induction xs with
  | nil => rfl
  | cons y rest ih =>
    rw [List.map_cons, List.mem_cons, not_or] at hNew
    obtain ⟨hHead, hRest⟩ := hNew
    rw [put, if_neg (Ne.symm hHead), ih hRest]
    rfl

/-- With distinct names, a thing is what is found under its name. -/
theorem find?_name {x : α} {xs : List α} (hNames : (xs.map name).Nodup) (hx : x ∈ xs) :
    find? name (name x) xs = some x := by
  induction xs with
  | nil => simp at hx
  | cons y rest ih =>
    rw [List.map_cons, List.nodup_cons] at hNames
    obtain ⟨hFresh, hRest⟩ := hNames
    rw [find?_cons]
    rcases List.mem_cons.mp hx with rfl | hxr
    · rw [if_pos rfl]
    · -- the first thing is passed over: its name is not repeated
      have hNe : name y ≠ name x := by
        intro hEq
        exact hFresh (hEq ▸ List.mem_map_of_mem hxr)
      rw [if_neg hNe]
      exact ih hRest hxr

/-- What is found under a name is there and carries it. -/
theorem mem_of_find? {x : α} {xs : List α} {wanted : String}
    (hFound : find? name wanted xs = some x) : x ∈ xs ∧ name x = wanted := by
  rw [find?] at hFound
  have hName := List.find?_some hFound
  exact ⟨List.mem_of_find?_eq_some hFound, beq_iff_eq.mp hName⟩

/-! ## Things put one by one -/

/-- Putting a thing leads its name to it, and leaves every other name alone. -/
theorem find?_put {x : α} {xs : List α} {wanted : String} :
    find? name wanted (put name x xs) =
      if name x = wanted then some x else find? name wanted xs := by
  induction xs with
  | nil => exact find?_cons
  | cons y rest ih =>
    rw [put]
    split
    · -- `x` takes the place of `y`, whose name it has
      rename_i hName
      rw [find?_cons, find?_cons, hName]
      split <;> rfl
    · rename_i hName
      rw [find?_cons, find?_cons, ih]
      by_cases hy : name y = wanted
      · rw [if_pos hy, if_neg fun hx => hName (hy.trans hx.symm), if_pos hy]
      · rw [if_neg hy, if_neg hy]

/-- A thing takes the place of the one that is found under its name. -/
theorem exists_put_of_find? {x y : α} {xs : List α} (hFound : find? name (name x) xs = some y) :
    ∃ before after, xs = before ++ y :: after ∧ put name x xs = before ++ x :: after := by
  induction xs with
  | nil => cases hFound
  | cons z rest ih =>
    rw [find?_cons] at hFound
    split at hFound
    · rename_i hName
      cases hFound
      exact ⟨[], rest, rfl, by rw [put, if_pos hName, List.nil_append]⟩
    · rename_i hName
      obtain ⟨before, after, hSplit, hPut⟩ := ih hFound
      refine ⟨z :: before, after, by rw [hSplit, List.cons_append], ?_⟩
      rw [put, if_neg hName, hPut, List.cons_append]

/-- Putting a thing adds its name at the end unless it is there. -/
theorem map_put {x : α} {xs : List α} :
    (put name x xs).map name =
      if name x ∈ xs.map name then xs.map name else xs.map name ++ [name x] := by
  split
  · rename_i hMem
    induction xs with
    | nil => simp at hMem
    | cons y rest ih =>
      rw [put]
      split
      · rename_i hName
        rw [List.map_cons, List.map_cons, hName]
      · rename_i hName
        have hRest : name x ∈ rest.map name :=
          (List.mem_cons.mp hMem).resolve_left fun hx => hName hx.symm
        rw [List.map_cons, List.map_cons, ih hRest]
  · rename_i hNew
    rw [put_of_new hNew, List.map_append]
    rfl

/-- Things put one by one stand in the order in which their names first came. -/
theorem map_fill {xs : List α} :
    (xs.foldl (fun roster x => put name x roster) []).map name = (xs.map name).eraseDups := by
  induction xs using List.reverseRecOn with
  | nil => rfl
  | append_singleton before x ih =>
    rw [List.foldl_append, List.foldl_cons, List.foldl_nil, map_put, ih, List.map_append,
      List.map_cons, List.map_nil, eraseDups_concat]
    simp only [List.mem_eraseDups, List.contains_iff_mem]

/-- A name stands for the last thing that was put under it. -/
theorem find?_fill {xs : List α} {wanted : String} :
    find? name wanted (xs.foldl (fun roster x => put name x roster) []) =
      find? name wanted xs.reverse := by
  induction xs using List.reverseRecOn with
  | nil => rfl
  | append_singleton before x ih =>
    rw [List.foldl_append, List.foldl_cons, List.foldl_nil, find?_put, ih, List.reverse_concat,
      find?_cons]

/-- Of two things of different names, either may be put first where one of the
names is there already; two new ones stand in the order in which they are put. -/
theorem put_comm_iff {x y : α} {xs : List α} (hNames : name x ≠ name y) :
    put name y (put name x xs) = put name x (put name y xs) ↔
      name x ∈ xs.map name ∨ name y ∈ xs.map name := by
  induction xs with
  | nil =>
    simp only [put, hNames, hNames.symm, if_false, List.map_nil, List.not_mem_nil, or_self,
      iff_false, List.cons.injEq]
    rintro ⟨rfl, -⟩
    exact hNames rfl
  | cons z rest ih =>
    rw [List.map_cons, List.mem_cons, List.mem_cons]
    by_cases hx : name z = name x
    · -- `x` takes the place of `z`, and `y` looks for its own behind it
      simp only [put, hx, hNames, if_true, if_false, true_or]
    · by_cases hy : name z = name y
      · simp only [put, hy, hNames.symm, if_true, if_false, true_or, or_true]
      · simp only [put, hx, hy, Ne.symm hx, Ne.symm hy, if_false, List.cons.injEq, true_and,
          false_or, ih]

end ReviewPanel.Roster
