import Mathlib.Data.List.Induction
import Mathlib.Data.List.Nodup
import ReviewPanel.Table

/-!
# Tables — filling them one by one

Entries under distinct keys all have a place in the table, whatever the order
in which they are put there, and are found there again.

* `entries_ofList_perm` — a table has the entries that it is filled with.
* `get?_insert`         — an entry is found where it is put.
* `get?_ofList_iff`     — each key leads to its own entry.
* `ascending_ofList`    — the entries of a table are in order.
* `mem_entries_iff`     — and a key leads to the entry that carries it.
* `ofList_of_ascending` — entries that are in order are the table that they fill.
* `insert_eq_self`      — an entry that is there already changes nothing.
* `map_ofList`          — filling a table and changing its values go in either order.
-/

namespace ReviewPanel.Table

variable {α : Type}

/-- An entry under a new key finds its place among the others. -/
theorem place_perm_of_new {key : String} {value : α} :
    ∀ {entries : List (String × α)}, key ∉ entries.map Prod.fst →
      (place key value entries).Perm ((key, value) :: entries) := by
  intro entries
  induction entries with
  | nil =>
    intro _
    exact .refl _
  | cons e rest ih =>
    intro hNew
    rw [List.map_cons, List.mem_cons, not_or] at hNew
    obtain ⟨hHead, hRest⟩ := hNew
    rw [place, if_neg hHead]
    split
    · exact .refl _
    · -- it goes behind the first entry, and can be brought before it again
      exact ((ih hRest).cons e).trans (.swap ..)

/-- A table that is filled under new and distinct keys has these entries beside its own. -/
theorem entries_foldl_insert_perm :
    ∀ {entries : List (String × α)} {t : Table α}, (t.keys ++ entries.map Prod.fst).Nodup →
      (entries.foldl (fun t e => t.insert e.1 e.2) t).entries.Perm (t.entries ++ entries) := by
  intro entries
  induction entries with
  | nil =>
    intro t _
    rw [List.append_nil]
    exact .refl _
  | cons e rest ih =>
    intro t hKeys
    have hMiddle : (t.keys ++ (e :: rest).map Prod.fst).Perm
        (e.1 :: t.keys ++ rest.map Prod.fst) := List.perm_middle
    have hNew : e.1 ∉ t.keys := by
      have hHead := (List.nodup_cons.mp (hMiddle.nodup_iff.mp hKeys)).1
      exact fun hMem => hHead (List.mem_append_left _ hMem)
    have hPlace : (t.insert e.1 e.2).entries.Perm (e :: t.entries) := place_perm_of_new hNew
    -- the keys stay distinct when the entry is in
    have hStep := (hPlace.map Prod.fst).append_right (rest.map Prod.fst)
    have hKeys' := (hStep.trans hMiddle.symm).nodup_iff.mpr hKeys
    exact (ih hKeys').trans ((hPlace.append_right rest).trans List.perm_middle.symm)

/-- The table of entries under distinct keys has exactly these entries. -/
theorem entries_ofList_perm {entries : List (String × α)}
    (hKeys : (entries.map Prod.fst).Nodup) : (ofList entries).entries.Perm entries :=
  entries_foldl_insert_perm hKeys

/-- Different keys are all kept. -/
theorem keys_ofList_perm {entries : List (String × α)} (hKeys : (entries.map Prod.fst).Nodup) :
    (ofList entries).keys.Perm (entries.map Prod.fst) :=
  (entries_ofList_perm hKeys).map Prod.fst

/-! ## Looking up -/

theorem lookup_cons {wanted : String} {e : String × α} {rest : List (String × α)} :
    (e :: rest).lookup wanted = if wanted = e.1 then some e.2 else rest.lookup wanted := by
  rw [List.lookup_cons]
  by_cases hKey : wanted = e.1
  · rw [if_pos hKey, beq_iff_eq.mpr hKey]
  · rw [if_neg hKey, beq_eq_false_iff_ne.mpr hKey]

/-- An entry is found where it is put, and every other key leads where it led. -/
theorem lookup_place {key wanted : String} {value : α} {entries : List (String × α)} :
    (place key value entries).lookup wanted =
      if wanted = key then some value else entries.lookup wanted := by
  induction entries with
  | nil => exact lookup_cons
  | cons e rest ih =>
    rw [place]
    split
    · -- the entry takes the place of `e`, whose key it has
      rename_i hKey
      rw [lookup_cons, lookup_cons, hKey]
      split <;> rfl
    · rename_i hKey
      split
      · exact lookup_cons
      · rw [lookup_cons, lookup_cons, ih]
        by_cases hWanted : wanted = e.1
        · rw [if_pos hWanted, if_neg fun hEq => hKey (hEq.symm.trans hWanted), if_pos hWanted]
        · rw [if_neg hWanted, if_neg hWanted]

/-- An insertion is found, and changes no other key. -/
theorem get?_insert {t : Table α} {key wanted : String} {value : α} :
    (t.insert key value).get? wanted = if wanted = key then some value else t.get? wanted :=
  lookup_place

/-- In the table of entries under distinct keys, each key leads to its own entry. -/
theorem get?_ofList_iff {entries : List (String × α)} (hKeys : (entries.map Prod.fst).Nodup)
    {key : String} {value : α} :
    (ofList entries).get? key = some value ↔ (key, value) ∈ entries := by
  induction entries using List.reverseRecOn with
  | nil => simp [ofList, empty, get?]
  | append_singleton before e ih =>
    rw [List.map_append, List.map_singleton, List.nodup_append] at hKeys
    obtain ⟨hBefore, -, hApart⟩ := hKeys
    have hStep : ofList (before ++ [e]) = (ofList before).insert e.1 e.2 := by
      rw [ofList, List.foldl_append]
      rfl
    rw [hStep, get?_insert, List.mem_append, List.mem_singleton, Prod.ext_iff]
    by_cases hKey : key = e.1
    · -- no earlier entry has the key of the last one
      have hNew : (key, value) ∉ before := fun hMem =>
        hApart _ (List.mem_map_of_mem hMem) _ (List.mem_singleton_self _) hKey
      subst hKey
      simp only [if_true, Option.some.injEq, hNew, true_and, false_or, eq_comm]
    · rw [if_neg hKey, ih hBefore]
      simp only [hKey, false_and, or_false]

/-! ## The order of entries -/

/-- Entries in ascending order of their keys, of which none occurs twice. -/
def Ascending (entries : List (String × α)) : Prop := entries.Pairwise fun e e' => e.1 < e'.1

theorem mem_place {key : String} {value : α} {entries : List (String × α)} {e : String × α}
    (hMem : e ∈ place key value entries) : e = (key, value) ∨ e ∈ entries := by
  induction entries with
  | nil => exact Or.inl (List.mem_singleton.mp hMem)
  | cons x rest ih =>
    rw [place] at hMem
    split at hMem
    · rcases List.mem_cons.mp hMem with hNew | hRest
      · exact Or.inl hNew
      · exact Or.inr (List.mem_cons_of_mem _ hRest)
    · split at hMem
      · exact List.mem_cons.mp hMem
      · rcases List.mem_cons.mp hMem with hHead | hRest
        · exact Or.inr (hHead ▸ List.mem_cons_self ..)
        · exact (ih hRest).imp_right (List.mem_cons_of_mem _)

/-- Placing an entry keeps the order. -/
theorem ascending_place {key : String} {value : α} {entries : List (String × α)}
    (hOrder : Ascending entries) : Ascending (place key value entries) := by
  induction entries with
  | nil => exact List.pairwise_singleton _ _
  | cons x rest ih =>
    obtain ⟨hHead, hRest⟩ := List.pairwise_cons.mp hOrder
    rw [place]
    split
    · -- the entry takes the place of `x`, and stands before all that `x` stood before
      rename_i hKey
      exact List.pairwise_cons.mpr ⟨fun e he => hKey ▸ hHead e he, hRest⟩
    · rename_i hOther
      split
      · -- it stands before `x`, and so before all behind `x`
        rename_i hBefore
        refine List.pairwise_cons.mpr ⟨?_, hOrder⟩
        intro e he
        rcases List.mem_cons.mp he with rfl | hTail
        · exact hBefore
        · exact String.lt_trans hBefore (hHead e hTail)
      · -- it goes behind `x`, since its key is neither the same nor smaller
        rename_i hNotBefore
        have hAfter : x.1 < key := by
          rcases Std.lt_trichotomy key x.1 with hLt | hEq | hGt
          · exact absurd hLt hNotBefore
          · exact absurd hEq hOther
          · exact hGt
        refine List.pairwise_cons.mpr ⟨?_, ih hRest⟩
        intro e he
        rcases mem_place he with rfl | hTail
        · exact hAfter
        · exact hHead e hTail

/-- A table that is filled has its entries in order. -/
theorem ascending_ofList {entries : List (String × α)} : Ascending (ofList entries).entries := by
  induction entries using List.reverseRecOn with
  | nil => exact .nil
  | append_singleton before e ih =>
    rw [ofList, List.foldl_append]
    exact ascending_place ih

/-- Where the entries are in order, a key leads to the one entry that carries it. -/
theorem mem_entries_iff {t : Table α} (hOrder : Ascending t.entries) {key : String} {value : α} :
    (key, value) ∈ t.entries ↔ t.get? key = some value := by
  obtain ⟨entries⟩ := t
  change Ascending entries at hOrder
  change _ ∈ entries ↔ entries.lookup key = some value
  induction entries with
  | nil => simp
  | cons x rest ih =>
    obtain ⟨hHead, hRest⟩ := List.pairwise_cons.mp hOrder
    rw [lookup_cons, List.mem_cons, ih hRest, Prod.ext_iff]
    by_cases hKey : key = x.1
    · -- no later entry has the key of this one
      have hNone : rest.lookup key ≠ some value := by
        intro hFound
        have hLater := hHead _ ((ih hRest).mpr hFound)
        exact String.lt_irrefl _ (hKey ▸ hLater)
      rw [if_pos hKey, Option.some.injEq]
      constructor
      · rintro (⟨-, hValue⟩ | hFound)
        · exact hValue.symm
        · exact absurd hFound hNone
      · exact fun hValue => Or.inl ⟨hKey, hValue.symm⟩
    · -- an entry of another key does not matter
      rw [if_neg hKey]
      constructor
      · rintro (⟨hEq, -⟩ | hFound)
        · exact absurd hEq hKey
        · exact hFound
      · exact Or.inr

/-- The entries of a table are among those that it was filled with. -/
theorem mem_of_mem_ofList {entries : List (String × α)} {e : String × α}
    (hMem : e ∈ (ofList entries).entries) : e ∈ entries := by
  induction entries using List.reverseRecOn with
  | nil => exact absurd hMem List.not_mem_nil
  | append_singleton before x ih =>
    rw [ofList, List.foldl_append] at hMem
    rcases mem_place hMem with rfl | hBefore
    · exact List.mem_append_right _ (List.mem_singleton_self _)
    · exact List.mem_append_left _ (ih hBefore)

/-- Behind all the other keys, an entry goes to the end. -/
theorem place_of_forall_lt {key : String} {value : α} {entries : List (String × α)}
    (hLast : ∀ e ∈ entries, e.1 < key) : place key value entries = entries ++ [(key, value)] := by
  induction entries with
  | nil => rfl
  | cons e rest ih =>
    have hLt := hLast e List.mem_cons_self
    have hNe : key ≠ e.1 := fun hEq => String.lt_irrefl _ (hEq ▸ hLt)
    rw [place, if_neg hNe, if_neg (String.lt_asymm hLt),
      ih fun e' he' => hLast e' (List.mem_cons_of_mem _ he'), List.cons_append]

/-- Entries that are in order are the table that they fill. -/
theorem ofList_of_ascending {entries : List (String × α)} (hOrder : Ascending entries) :
    ofList entries = ⟨entries⟩ := by
  induction entries using List.reverseRecOn with
  | nil => rfl
  | append_singleton before e ih =>
    obtain ⟨hBefore, -, hApart⟩ := List.pairwise_append.mp hOrder
    have hLast : ∀ e' ∈ before, e'.1 < e.1 := fun e' he' =>
      hApart e' he' e (List.mem_singleton_self e)
    have hStep : ofList (before ++ [e]) = (ofList before).insert e.1 e.2 := by
      rw [ofList, List.foldl_append]
      rfl
    rw [hStep, ih hBefore, insert, place_of_forall_lt hLast]

/-- An entry that is there already changes nothing. -/
theorem insert_eq_self {t : Table α} (hOrder : Ascending t.entries) {key : String} {value : α}
    (hThere : t.get? key = some value) : t.insert key value = t := by
  obtain ⟨entries⟩ := t
  change Ascending entries at hOrder
  change entries.lookup key = some value at hThere
  change Table.mk (place key value entries) = Table.mk entries
  congr 1
  induction entries with
  | nil => cases hThere
  | cons x rest ih =>
    obtain ⟨hHead, hRest⟩ := List.pairwise_cons.mp hOrder
    rw [lookup_cons] at hThere
    rw [place]
    split at hThere
    · rename_i hKey
      rw [if_pos hKey, hKey, ← Option.some.inj hThere]
    · rename_i hOther
      -- the entry is one of those behind `x`, so it does not belong before it
      have hLater := hHead _ ((mem_entries_iff (t := ⟨rest⟩) hRest).mpr hThere)
      rw [if_neg hOther, if_neg (String.lt_asymm hLater), ih hRest hThere]

/-! ## Changing values -/

section Values

variable {β : Type} {f : α → β}

/-- Values can be changed before or after. -/
theorem map_place {key : String} {value : α} {entries : List (String × α)} :
    (place key value entries).map (fun e => (e.1, f e.2)) =
      place key (f value) (entries.map fun e => (e.1, f e.2)) := by
  induction entries with
  | nil => rfl
  | cons e rest ih =>
    rw [place, List.map_cons, place]
    split
    · rfl
    · split
      · rfl
      · rw [List.map_cons, ih]

/-- Filling a table and changing its values go in either order. -/
theorem map_ofList (entries : List (String × α)) :
    (ofList entries).map f = ofList (entries.map fun e => (e.1, f e.2)) := by
  induction entries using List.reverseRecOn with
  | nil => rfl
  | append_singleton before e ih =>
    have hEntries := congrArg Table.entries ih
    rw [List.map_append, ofList, ofList, List.foldl_append, List.foldl_append]
    exact congrArg Table.mk (map_place.trans (congrArg (place e.1 (f e.2)) hEntries))

theorem ascending_map {t : Table α} (hOrder : Ascending t.entries) :
    Ascending (t.map f).entries := by
  rw [Ascending, Table.map, List.pairwise_map]
  exact hOrder

end Values

end ReviewPanel.Table
