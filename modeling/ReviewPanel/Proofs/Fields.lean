import ReviewPanel.Datum.Fields
import ReviewPanel.Proofs.Documents
import ReviewPanel.Proofs.First

/-!
# Fields — structures, lists and tables that were written

The members of a record that is written are in the order of their names and not in
that of the fields of a structure. `Fields.Holds` says what this leaves of a structure: each
field that was written is found, each that was left out is missing, and no fault is. So
a structure is read back if each of its fields is.

* `asStructure_object`        — reading a structure from the record of its fields.
* `asStructure_object_error`  — and failing to, where a field that has to be there is not.
* `asList_ofJson`, `asTable_ofJson` — reading lists and tables item by item.
* `asStructure_eq_ok`         — what reading any document as a structure goes by.
-/

namespace ReviewPanel

variable {α β : Type}

namespace Located

/-- Of readings that make something up, each one succeeded. -/
theorem seq_eq_ok_iff {f : Located (α → β)} {x : Located α} {y : β} :
    f <*> x = Except.ok y ↔ ∃ g z, f = Except.ok g ∧ x = Except.ok z ∧ g z = y := by
  constructor
  · intro h
    change apply f x = _ at h
    cases f with
    | error e =>
      cases x <;> cases h
    | ok g =>
      cases x with
      | error e => cases h
      | ok z => exact ⟨g, z, rfl, rfl, Except.ok.inj h⟩
  · rintro ⟨g, z, rfl, rfl, rfl⟩
    rfl

theorem map_eq_ok_iff {f : α → β} {x : Located α} {y : β} :
    f <$> x = Except.ok y ↔ ∃ z, x = Except.ok z ∧ f z = y := by
  constructor
  · intro h
    obtain ⟨g, z, hg, hx, hy⟩ := seq_eq_ok_iff.mp h
    cases hg
    exact ⟨z, hx, hy⟩
  · rintro ⟨z, rfl, rfl⟩
    rfl

/-- Where two readings have one fault, so has what they make up. -/
theorem seq_eq_error {f : Located (α → β)} {x : Located α} {e : Nat × Fault}
    (hf : f = Except.error e) (hx : x = Except.error e) : f <*> x = Except.error e := by
  subst hf hx
  exact congrArg Except.error (ite_self e)

end Located

/-! ## Finding fields -/

namespace Fields

/-- A structure is made of its fields if they make something up and have no fault. -/
theorem build_eq_ok_iff {fs : Fields} {x : Located α} {y : α} :
    fs.build x = .ok y ↔ x = Except.ok y ∧ fs.fault = none := by
  cases x with
  | error e =>
    constructor
    · intro hBuild
      cases hFault : fs.fault <;> simp only [build, hFault] at hBuild <;> cases hBuild
    · rintro ⟨hError, -⟩
      cases hError
  | ok z =>
    constructor
    · intro hBuild
      cases hFault : fs.fault with
      | some position =>
        simp only [build, hFault] at hBuild
        cases hBuild
      | none =>
        simp only [build, hFault] at hBuild
        exact ⟨congrArg Except.ok (Except.ok.inj hBuild), rfl⟩
    · rintro ⟨hOk, hFault⟩
      simp only [build, hFault]
      exact congrArg Except.ok (Except.ok.inj hOk)

theorem build_error {fs : Fields} {e : Nat × Fault} (hFault : fs.fault = none) :
    fs.build (Except.error e : Located α) = .error e.2 := by
  simp only [build, hFault]

/-- The fields of a structure, as they are found in a record of these members. -/
structure Holds (fs : Fields) (names : List String) (members : List (String × Json)) : Prop where
  fault : fs.fault = none
  /-- A field that was written is found. -/
  there : ∀ {i name v}, names.idxOf? name = some i → (name, v) ∈ members →
    ∃ position, fs.cell? i = some (position, .ofJson v)
  /-- A field that was left out is missing. -/
  absent : ∀ {i name}, names.idxOf? name = some i → name ∉ members.map Prod.fst →
    fs.cell? i = none

variable {names : List String}

theorem idxOf?_inj {name name' : String} {i : Nat} (hName : names.idxOf? name = some i)
    (hName' : names.idxOf? name' = some i) : name = name' := by
  obtain ⟨_, hAt, -⟩ := List.idxOf?_eq_some_iff.mp hName
  obtain ⟨_, hAt', -⟩ := List.idxOf?_eq_some_iff.mp hName'
  exact hAt.symm.trans hAt'

theorem lookup_cons_cell {i j position : Nat} {d : Datum} {cells : List (Nat × Nat × Datum)} :
    ((j, position, d) :: cells).lookup i =
      if i = j then some (position, d) else cells.lookup i := by
  rw [List.lookup_cons]
  by_cases hIndex : i = j
  · rw [if_pos hIndex, beq_iff_eq.mpr hIndex]
  · rw [if_neg hIndex, beq_eq_false_iff_ne.mpr hIndex]

section Finding

variable {m : String × Json} {rest : List (Option String × Datum)}
  {cells : List (Nat × Nat × Datum)} {position : Nat}

/-- A member that is no field is passed over. -/
theorem ofMembers_cons_of_none (hIndex : names.idxOf? m.1 = none) :
    ofMembers names position cells ((some m.1, .ofJson m.2) :: rest) =
      ofMembers names (position + 1) cells rest := by
  rw [ofMembers]
  simp only [hIndex, Datum.breaksOff_ofJson, Bool.false_eq_true, if_false]

/-- A member that is a new field is kept. -/
theorem ofMembers_cons_of_some {j : Nat} (hIndex : names.idxOf? m.1 = some j)
    (hFree : cells.any (·.1 == j) = false) :
    ofMembers names position cells ((some m.1, .ofJson m.2) :: rest) =
      ofMembers names (position + 1) ((j, position, .ofJson m.2) :: cells) rest := by
  rw [ofMembers]
  simp only [hIndex, hFree, Bool.false_eq_true, if_false]

end Finding

/-- What one pass over the members finds, beside the fields that were found before. -/
structure Finds (fs : Fields) (names : List String) (cells : List (Nat × Nat × Datum))
    (members : List (String × Json)) : Prop where
  fault : fs.fault = none
  other : ∀ i, (∀ m ∈ members, names.idxOf? m.1 ≠ some i) → fs.cell? i = cells.lookup i
  found : ∀ m ∈ members, ∀ i, names.idxOf? m.1 = some i →
    ∃ position, fs.cell? i = some (position, .ofJson m.2)

theorem finds_ofMembers (names : List String) {members : List (String × Json)}
    (cells : List (Nat × Nat × Datum))
    (position : Nat) (hKeys : (members.map Prod.fst).Nodup)
    (hNew : ∀ m ∈ members, ∀ i, names.idxOf? m.1 = some i → cells.any (·.1 == i) = false) :
    (ofMembers names position cells (members.map fun m => (some m.1, Datum.ofJson m.2))).Finds
      names cells members := by
  induction members generalizing cells position with
  | nil => exact ⟨rfl, fun i _ => rfl, fun m hm => absurd hm List.not_mem_nil⟩
  | cons m rest ih =>
    obtain ⟨hHead, hRest⟩ := List.nodup_cons.mp hKeys
    have hNewRest := fun m' hm' => hNew m' (List.mem_cons_of_mem m hm')
    rw [List.map_cons]
    cases hIndex : names.idxOf? m.1 with
    | none =>
      rw [ofMembers_cons_of_none hIndex]
      obtain ⟨hFault, hOther, hFound⟩ := ih cells (position + 1) hRest hNewRest
      refine ⟨hFault, fun i hi => hOther i fun m' hm' => hi m' (List.mem_cons_of_mem _ hm'), ?_⟩
      intro m' hm' i hi
      rcases List.mem_cons.mp hm' with rfl | hm''
      · rw [hIndex] at hi
        cases hi
      · exact hFound m' hm'' i hi
    | some j =>
      rw [ofMembers_cons_of_some hIndex (hNew m List.mem_cons_self j hIndex)]
      -- no later member is the same field again
      have hLater : ∀ m' ∈ rest, names.idxOf? m'.1 ≠ some j := by
        intro m' hm' hSame
        rw [idxOf?_inj hIndex hSame] at hHead
        exact hHead (List.mem_map_of_mem hm')
      have hNewRest' : ∀ m' ∈ rest, ∀ i, names.idxOf? m'.1 = some i →
          ((j, position, Datum.ofJson m.2) :: cells).any (·.1 == i) = false := by
        intro m' hm' i hi
        have hNe : j ≠ i := fun hEq => hLater m' hm' (hEq ▸ hi)
        rw [List.any_cons, hNewRest m' hm' i hi, Bool.or_false]
        exact beq_eq_false_iff_ne.mpr hNe
      obtain ⟨hFault, hOther, hFound⟩ := ih _ (position + 1) hRest hNewRest'
      refine ⟨hFault, ?_, ?_⟩
      · intro i hi
        have hNe : i ≠ j := fun hEq => hi m List.mem_cons_self (hEq ▸ hIndex)
        rw [hOther i fun m' hm' => hi m' (List.mem_cons_of_mem _ hm'), lookup_cons_cell,
          if_neg hNe]
      · intro m' hm' i hi
        rcases List.mem_cons.mp hm' with rfl | hm''
        · obtain rfl := Option.some.inj (hIndex.symm.trans hi)
          rw [hOther _ hLater, lookup_cons_cell, if_pos rfl]
          exact ⟨position, rfl⟩
        · exact hFound m' hm'' i hi

/-- The fields are found in a record of them. -/
theorem holds_ofMembers {members : List (String × Json)} (hKeys : (members.map Prod.fst).Nodup) :
    (ofMembers names 0 [] (members.map fun m => (some m.1, Datum.ofJson m.2))).Holds
      names members := by
  obtain ⟨hFault, hOther, hFound⟩ :=
    finds_ofMembers names [] 0 hKeys fun _ _ _ _ => rfl
  refine ⟨hFault, fun hName hMem => hFound _ hMem _ hName, ?_⟩
  intro i name hName hAbsent
  apply hOther
  intro m hMem hSame
  rw [idxOf?_inj hName hSame] at hAbsent
  exact hAbsent (List.mem_map_of_mem hMem)

namespace Holds

variable {fs : Fields} {members : List (String × Json)} {i : Nat} {v : Json}
  {reader : Datum → Reading α} {absent : Option α} {x : α}

/-- A field that was written is read as what it was written from. -/
theorem read_eq (hFields : fs.Holds names members) (name : String)
    (hName : names.idxOf? name = some i)
    (hMem : (name, v) ∈ members) (hRead : reader (.ofJson v) = .ok x) :
    fs.read i reader absent = Except.ok x := by
  obtain ⟨position, hCell⟩ := hFields.there hName hMem
  simp only [Fields.read, hCell, hRead]
  rfl

/-- A field that was left out is read as what stands for it. -/
theorem read_of_absent (hFields : fs.Holds names members) (name : String)
    (hName : names.idxOf? name = some i)
    (hAbsent : name ∉ members.map Prod.fst) : fs.read i reader (some x) = Except.ok x := by
  simp only [Fields.read, hFields.absent hName hAbsent]
  rfl

/-- A field that was written as something else has this fault. -/
theorem read_eq_error {fault : Fault} (hFields : fs.Holds names members) (name : String)
    (hName : names.idxOf? name = some i) (hMem : (name, v) ∈ members)
    (hRead : reader (.ofJson v) = .error fault) :
    ∃ position, fs.read i reader absent = Except.error (position, fault) := by
  obtain ⟨position, hCell⟩ := hFields.there hName hMem
  refine ⟨position, ?_⟩
  simp only [Fields.read, hCell, hRead]
  rfl

/-- A field that has to be there and was left out is missed after all others. -/
theorem required_of_absent (hFields : fs.Holds names members) (name : String)
    (hName : names.idxOf? name = some i) (hAbsent : name ∉ members.map Prod.fst) :
    fs.required i reader = Except.error (fs.size, .mismatch) := by
  simp only [required, Fields.read, hFields.absent hName hAbsent]
  rfl

/-- Fields in another order are found as well. -/
theorem of_perm {members' : List (String × Json)} (hFields : fs.Holds names members)
    (hSame : members.Perm members') : fs.Holds names members' := by
  refine ⟨hFields.fault, fun hName hMem => hFields.there hName (hSame.mem_iff.mpr hMem), ?_⟩
  intro i name hName hAbsent
  exact hFields.absent hName fun hMem => hAbsent ((hSame.map Prod.fst).mem_iff.mp hMem)

end Holds

end Fields

/-! ## Structures -/

namespace Datum

variable {dialect : Dialect} {names : List String} {members : List (String × Json)}
  {make : Fields → Located α}

/-- A record is read as a structure by its fields. -/
theorem exists_asStructure_object (dialect : Dialect) (names : List String)
    (hKeys : (members.map Prod.fst).Nodup) :
    ∃ fs : Fields, fs.Holds names members ∧
      ∀ {β : Type} (make : Fields → Located β),
        (ofJson (.object members)).asStructure dialect names make = fs.build (make fs) := by
  have hSame := Table.entries_ofList_perm hKeys
  have hKeys' : ((Table.ofList members).entries.map Prod.fst).Nodup :=
    (hSame.map Prod.fst).nodup_iff.mpr hKeys
  refine ⟨_, (Fields.holds_ofMembers hKeys').of_perm hSame, fun make => ?_⟩
  rw [Json.object, ofJson, ofMembers_eq]
  rfl

/-- A structure is read from the record of its fields, if it is made of them. -/
theorem asStructure_object {x : α} (hKeys : (members.map Prod.fst).Nodup)
    (hMake : ∀ fs : Fields, fs.Holds names members → make fs = Except.ok x) :
    (ofJson (.object members)).asStructure dialect names make = .ok x := by
  obtain ⟨fs, hFields, hRead⟩ := exists_asStructure_object dialect names hKeys
  rw [hRead, Fields.build_eq_ok_iff]
  exact ⟨hMake fs hFields, hFields.fault⟩

/-- Where the fields make up nothing, their first fault is that of the structure. -/
theorem asStructure_object_error {fault : Fault} (hKeys : (members.map Prod.fst).Nodup)
    (hMake : ∀ fs : Fields, fs.Holds names members →
      ∃ position, make fs = Except.error (position, fault)) :
    (ofJson (.object members)).asStructure dialect names make = .error fault := by
  obtain ⟨fs, hFields, hRead⟩ := exists_asStructure_object dialect names hKeys
  obtain ⟨position, hError⟩ := hMake fs hFields
  rw [hRead, hError, Fields.build_error hFields.fault]

/-! ## Lists and tables -/

/-- A list is read back if each of its items is. -/
theorem asList_ofJson {reader : Datum → Reading α} {write : α → Json} {xs : List α}
    (hItems : ∀ x ∈ xs, reader (ofJson (write x)) = .ok x) :
    (ofJson (.list (xs.map write))).asList reader = .ok xs := by
  rw [ofJson, asList, ofItems_eq, List.map_map, mapM_eq_ok_iff, List.forall₂_map_left_iff,
    List.forall₂_same]
  exact hItems

/-- A table is read back if each of its values is. -/
theorem asTable_ofJson {reader : Datum → Reading α} {write : α → Json} {t : Table α}
    (hOrder : Table.Ascending t.entries)
    (hValues : ∀ e ∈ t.entries, reader (ofJson (write e.2)) = .ok e.2) :
    (ofJson (.ofTable (t.map write))).asTable reader = .ok t := by
  have hEntries : (ofJson (.ofTable (t.map write))).asEntries reader = .ok t.entries := by
    rw [Json.ofTable, ofJson, asEntries, ofMembers_eq, Table.map, List.map_map, mapM_eq_ok_iff,
      List.forall₂_map_left_iff, List.forall₂_same]
    intro e hMem
    show (reader (ofJson (write e.2))).map (e.1, ·) = _
    rw [hValues e hMem]
    rfl
  rw [asTable, hEntries]
  exact congrArg Except.ok (Table.ofList_of_ascending hOrder)

/-! ## Any document as a structure -/

theorem mem_cells_ofMembers {names : List String} {cells : List (Nat × Nat × Datum)}
    {position : Nat} {members : List (Option String × Datum)} {c : Nat × Nat × Datum}
    (hMem : c ∈ (Fields.ofMembers names position cells members).cells) :
    c ∈ cells ∨ ∃ m ∈ members, m.2 = c.2.2 := by
  induction members generalizing cells position with
  | nil => exact Or.inl hMem
  | cons m rest ih =>
    obtain ⟨name, d⟩ := m
    cases name with
    | none => exact Or.inl hMem
    | some name =>
      rw [Fields.ofMembers] at hMem
      have hLater : (∃ m ∈ rest, m.2 = c.2.2) → ∃ m ∈ (some name, d) :: rest, m.2 = c.2.2 :=
        fun ⟨m, hm, hEq⟩ => ⟨m, List.mem_cons_of_mem _ hm, hEq⟩
      -- the name is known or not, and a second member of a name is a fault
      split at hMem
      · split at hMem
        · exact Or.inl hMem
        · exact (ih hMem).imp_right hLater
      · split at hMem
        · exact Or.inl hMem
        · rcases ih hMem with hCell | hRest
          · rcases List.mem_cons.mp hCell with rfl | hOld
            · exact Or.inr ⟨_, List.mem_cons_self, rfl⟩
            · exact Or.inl hOld
          · exact Or.inr (hLater hRest)

theorem mem_cells_ofItems {count : Nat} {items : List Datum} {c : Nat × Nat × Datum}
    (hMem : c ∈ (Fields.ofItems dialect count items).cells) : c.2.2 ∈ items := by
  obtain ⟨i, hi, rfl⟩ := List.mem_mapIdx.mp hMem
  exact List.mem_of_mem_take (List.getElem_mem hi)

/-- A field that is found is one of the cells. -/
theorem mem_of_cell? {fs : Fields} {i position : Nat} {d : Datum}
    (hCell : fs.cell? i = some (position, d)) : (i, position, d) ∈ fs.cells := by
  obtain ⟨before, after, hSplit, -⟩ := List.lookup_eq_some_iff.mp hCell
  rw [hSplit]
  exact List.mem_append_right _ List.mem_cons_self

/-- What is read as a structure has fields that make it up, and whatever else they make up
can be read as well. The fields have the numbers of the document. -/
theorem asStructure_eq_ok {d : Datum} {x : α} (hProper : d.IsProper)
    (hRead : d.asStructure dialect names make = .ok x) :
    ∃ fs : Fields, make fs = Except.ok x ∧
      (∀ c ∈ fs.cells, c.2.2.IsProper) ∧
      ∀ {β : Type} {make' : Fields → Located β} {y : β},
        make' fs = Except.ok y → d.asStructure dialect names make' = .ok y := by
  -- for the fields of a record or of a list it is the same, once they are known
  have hBuilt : ∀ fs : Fields, fs.build (make fs) = .ok x →
      make fs = Except.ok x ∧ ∀ {β : Type} {make' : Fields → Located β} {y : β},
        make' fs = Except.ok y → fs.build (make' fs) = .ok y := by
    intro fs hBuild
    obtain ⟨hMade, hFault⟩ := Fields.build_eq_ok_iff.mp hBuild
    exact ⟨hMade, fun hMake => Fields.build_eq_ok_iff.mpr ⟨hMake, hFault⟩⟩
  induction hProper with
  | @record members hMembers =>
    obtain ⟨hMade, hOthers⟩ := hBuilt (Fields.ofMembers names 0 [] members) hRead
    refine ⟨_, hMade, ?_, hOthers⟩
    intro c hMem
    rcases mem_cells_ofMembers hMem with hNil | ⟨m, hm, hEq⟩
    · exact absurd hNil List.not_mem_nil
    · exact hEq ▸ hMembers m hm
  | @list items hItems =>
    obtain ⟨hMade, hOthers⟩ := hBuilt (Fields.ofItems dialect names.length items) hRead
    exact ⟨_, hMade, fun c hMem => hItems _ (mem_cells_ofItems hMem), hOthers⟩
  | plain s =>
    by_cases hEmpty : s = ""
    · subst hEmpty
      obtain ⟨hMade, hOthers⟩ := hBuilt (Fields.ofMembers names 0 [] []) hRead
      exact ⟨_, hMade, fun c hMem => absurd hMem List.not_mem_nil, hOthers⟩
    · rw [asStructure] at hRead
      · cases hRead
      all_goals simp_all
  | tagged tag _ ih => exact ih hRead
  | null => cases hRead
  | bool b => cases hRead
  | number hNumber => cases hRead
  | text s => cases hRead
  | block s => cases hRead
  | unreadable => cases hRead
  | broken => cases hRead

/-- A field with a value of its own is read, or is missing and has this value. -/
theorem orElse_eq_ok {fs : Fields} {i : Nat} {reader : Datum → Reading α} {default x : α}
    (hRead : fs.orElse i reader default = Except.ok x) :
    (∃ position d, fs.cell? i = some (position, d) ∧ reader d = .ok x) ∨
      (fs.cell? i = none ∧ x = default) := by
  rw [Fields.orElse, Fields.read] at hRead
  cases hCell : fs.cell? i with
  | none =>
    rw [hCell] at hRead
    exact Or.inr ⟨rfl, (Except.ok.inj hRead).symm⟩
  | some c =>
    rw [hCell] at hRead
    refine Or.inl ⟨c.1, c.2, rfl, ?_⟩
    cases hValue : reader c.2 with
    | error e =>
      simp only [hValue] at hRead
      cases hRead
    | ok y =>
      simp only [hValue] at hRead
      exact congrArg Except.ok (Except.ok.inj hRead)

end Datum

end ReviewPanel
