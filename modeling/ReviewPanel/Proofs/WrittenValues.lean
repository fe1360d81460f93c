import ReviewPanel.Proofs.Fields

/-!
# Written values — what is written and how it is read back

A value that is written is handed on with its numbers spelled in one of two ways: as they are,
or, where only numbers of 64 bits are known, with every number of 32 bits as the equal one
of 64. `ReadsBack` says that a reader finds what was written, however the numbers are
spelled; lists, tables and structures read back if their parts do.

* `isRespelling_wide`     — widening a number to 64 bits loses nothing.
* `readsBack_list`        — a list is read back item by item.
* `readsBack_table`       — a table is read back value by value.
* `readsBack_object`      — a structure is read back field by field.
-/

namespace ReviewPanel

open Numeric

/-! ## Spellings of numbers -/

namespace Json

mutual

/-- A value with other spellings of its numbers. -/
def respell (g : Number → Number) : Json → Json
  | .null => .null
  | .bool b => .bool b
  | .number n => .number (g n)
  | .text s => .text s
  | .list items => .list (respellItems g items)
  | .record members => .record (respellMembers g members)

def respellItems (g : Number → Number) : List Json → List Json
  | [] => []
  | x :: rest => respell g x :: respellItems g rest

def respellMembers (g : Number → Number) : List (String × Json) → List (String × Json)
  | [] => []
  | (name, x) :: rest => (name, respell g x) :: respellMembers g rest

end

variable {g : Number → Number}

/-- Items are respelled one by one. -/
theorem respellItems_eq (items : List Json) : respellItems g items = items.map (respell g) := by
  induction items with
  | nil => rfl
  | cons x rest ih => rw [respellItems, ih, List.map_cons]

/-- So are the values of members, and names stay. -/
theorem respellMembers_eq (members : List (String × Json)) :
    respellMembers g members = members.map fun m => (m.1, respell g m.2) := by
  induction members with
  | nil => rfl
  | cons m rest ih =>
    obtain ⟨name, x⟩ := m
    rw [respellMembers, ih, List.map_cons]

/-- A spelling that keeps numbers keeps values. -/
theorem respell_id (v : Json) : v.respell id = v := by
  induction v using Json.induction with
  | hNull => rfl
  | hBool b => rfl
  | hNumber n => rfl
  | hText s => rfl
  | hList items ih =>
    rw [respell, respellItems_eq, List.map_congr_left ih, List.map_id']
  | hRecord members ih =>
    have hSame : ∀ m ∈ members, (m.1, m.2.respell id) = m := fun m hm => Prod.ext rfl (ih m hm)
    rw [respell, respellMembers_eq, List.map_congr_left hSame, List.map_id']

end Json

namespace Numeric.Binary

/-- A number of 32 bits is a number of 64 bits of the same size. -/
theorem exists_convert_eq {s : Bool} {m : ℕ} {e : ℤ} (hOf : (finite s m e).IsOf .single) :
    ∃ m' e', (finite s m e).convert .double = .finite s m' e' ∧
      (m' : ℚ) * 2 ^ e' = m * 2 ^ e := by
  obtain ⟨hMantissa, hLowest, hHighest, -⟩ := hOf
  simp only [Format.single] at hMantissa hLowest hHighest
  obtain ⟨m', e', hWide, hValue⟩ :=
    exists_ofQuotient_of_value (f := .double) (s := s) (by decide) quotient_den_pos
      (show m < 2 ^ 53 by omega) (show -1074 ≤ e by omega) (show e < 971 by omega)
      (ratio_quotient m e)
  rw [ratio_quotient] at hValue
  exact ⟨m', e', hWide, hValue⟩

/-- A number of 32 bits is not changed by way of 64 bits. -/
theorem convert_convert {x : Binary} (hOf : x.IsOf .single) :
    (x.convert .double).convert .single = x := by
  cases x with
  | infinite s => rfl
  | notANumber => rfl
  | finite s m e =>
    -- the wide number has the same value, so rounding it has the same result
    obtain ⟨m', e', hWide, hValue⟩ := exists_convert_eq hOf
    rw [hWide]
    show ofQuotient .single s (quotient m' e').1 (quotient m' e').2 = _
    rcases Nat.eq_zero_or_pos m with rfl | hPositive
    · -- zero stays zero, with its sign
      rw [Nat.cast_zero, zero_mul] at hValue
      have hZero : m' = 0 := by
        exact_mod_cast (mul_eq_zero.mp hValue).resolve_right (two_zpow_pos e').ne'
      have hNum : (quotient m' e').1 = 0 := by
        have hNot : ¬ 0 < (quotient m' e').1 := by
          rw [quotient_num_pos_iff]
          omega
        omega
      have hLow : e = -149 := by
        rcases hOf.2.2.2 with hFull | hLow
        · simp only [Format.single] at hFull
          omega
        · exact hLow
      rw [hNum, hLow]
      rfl
    · -- a number that is not zero has a mantissa in the wide format, too
      have hMantissa : 0 < m' := by
        rcases Nat.eq_zero_or_pos m' with rfl | hSome
        · rw [Nat.cast_zero, zero_mul] at hValue
          have hSize : (0 : ℚ) < m * 2 ^ e :=
            mul_pos (by exact_mod_cast hPositive) (two_zpow_pos e)
          exact absurd hValue hSize.ne
        · exact hSome
      apply ofQuotient_of_isOf (quotient_num_pos_iff.mpr hMantissa) quotient_den_pos hOf
      rw [ratio_quotient, hValue]

end Numeric.Binary

/-- A spelling of numbers that leaves integers and numbers of 64 bits as they are, and from
which a number of 32 bits is read as it was. -/
structure IsRespelling (g : Number → Number) : Prop where
  integer : ∀ n, g (.integer n) = .integer n
  double : ∀ x, g (.double x) = .double x
  single : ∀ x : Binary, x.IsOf .single →
    Datum.asBinary .single (.number (g (.single x))) = .ok x

/-- A number, of 64 bits if it is no integer. -/
def Number.wide : Number → Number
  | .single x => .double (x.convert .double)
  | n => n

/-- A value as it is where all its numbers but integers have 64 bits. -/
def Json.widened (v : Json) : Json := v.respell Number.wide

theorem isRespelling_id : IsRespelling id :=
  ⟨fun _ => rfl, fun _ => rfl, fun _ _ => rfl⟩

/-- Widening a number to 64 bits loses nothing. -/
theorem isRespelling_wide : IsRespelling Number.wide := by
  refine ⟨fun _ => rfl, fun _ => rfl, fun x hOf => ?_⟩
  show Except.ok ((x.convert .double).convert .single) = _
  rw [Binary.convert_convert hOf]

/-! ## Reading back -/

/-- A reader finds what was written, with this spelling of numbers. -/
def ReadsBack {α : Type} (g : Number → Number) (reader : Datum → Reading α) (write : α → Json)
    (x : α) : Prop :=
  reader (.ofJson ((write x).respell g)) = .ok x

section Parts

variable {α : Type} {g : Number → Number} {reader : Datum → Reading α} {write : α → Json}

theorem readsBack_text (s : String) : ReadsBack g Datum.asText .text s := rfl

/-- A list is read back if each of its items is. -/
theorem readsBack_list {xs : List α} (hItems : ∀ x ∈ xs, ReadsBack g reader write x) :
    ReadsBack g (Datum.asList reader) (fun xs => .list (xs.map write)) xs := by
  rw [ReadsBack, Json.respell, Json.respellItems_eq, List.map_map]
  exact Datum.asList_ofJson hItems

/-- A table is read back if each of its values is. -/
theorem readsBack_table {t : Table α} (hOrder : Table.Ascending t.entries)
    (hValues : ∀ e ∈ t.entries, ReadsBack g reader write e.2) :
    ReadsBack g (Datum.asTable reader) (fun t => .ofTable (t.map write)) t := by
  have hWritten : (Json.ofTable (t.map write)).respell g =
      .ofTable (t.map fun x => (write x).respell g) := by
    rw [Json.ofTable, Json.respell, Json.respellMembers_eq, Table.map, List.map_map]
    rfl
  rw [ReadsBack, hWritten]
  exact Datum.asTable_ofJson hOrder hValues

/-- A value in canonical form has no numbers of 32 bits to spell otherwise. -/
theorem Json.respell_of_isCanonical {v : Json} (hSpelling : IsRespelling g)
    (hCanonical : v.IsCanonical) : v.respell g = v := by
  induction hCanonical with
  | null => rfl
  | bool b => rfl
  | integer n => rw [respell, hSpelling.integer]
  | double x => rw [respell, hSpelling.double]
  | text s => rfl
  | list _ ih => rw [respell, respellItems_eq, List.map_congr_left ih, List.map_id']
  | @record members _ _ ih =>
    have hSame : ∀ m ∈ members, (m.1, m.2.respell g) = m := fun m hm => Prod.ext rfl (ih m hm)
    rw [respell, respellMembers_eq, List.map_congr_left hSame, List.map_id']

/-- A value that is written in one way only is read back as it is. -/
theorem readsBack_json {v : Json} (hSpelling : IsRespelling g) (hCanonical : v.IsCanonical) :
    ReadsBack g Datum.asJson id v := by
  rw [ReadsBack, id, Json.respell_of_isCanonical hSpelling hCanonical]
  exact Datum.asJson_ofJson hCanonical

/-- A table of values in canonical form is read back. -/
theorem readsBack_jsonTable {t : Table Json} (hSpelling : IsRespelling g)
    (hOrder : Table.Ascending t.entries) (hValues : ∀ e ∈ t.entries, e.2.IsCanonical) :
    ReadsBack g (Datum.asTable Datum.asJson) .ofTable t := by
  have hBack := readsBack_table hOrder fun e he => readsBack_json hSpelling (hValues e he)
  have hSame : t.map id = t := by rw [Table.map]; simp
  rw [ReadsBack, hSame] at hBack
  exact hBack

end Parts

/-! ## Structures -/

namespace Json

/-- Members with other spellings of their numbers. -/
def respelled (g : Number → Number) (members : List (String × Json)) : List (String × Json) :=
  members.map fun m => (m.1, m.2.respell g)

variable {g : Number → Number} {members : List (String × Json)} {name : String}

@[simp] theorem keys_respelled :
    (respelled g members).map Prod.fst = members.map Prod.fst := by
  rw [respelled, List.map_map]
  rfl

theorem respell_object : (object members).respell g = .object (respelled g members) := by
  rw [object, respell, respellMembers_eq]
  exact congrArg Json.record (congrArg Table.entries (Table.map_ofList members))

/-- A member that may be left out is there iff it has a value. -/
@[simp] theorem mem_ifSome {value : Option Json} {m : String × Json} :
    m ∈ ifSome name value ↔ m.1 = name ∧ value = some m.2 := by
  cases value with
  | none => simp [ifSome]
  | some v => simp [ifSome, Prod.ext_iff, eq_comm]

theorem keys_ifSome_sublist (name : String) (value : Option Json) :
    ((ifSome name value).map Prod.fst).Sublist [name] := by
  cases value with
  | none => exact List.nil_sublist _
  | some v => exact List.Sublist.refl _

/-- No number is spelled as null. -/
theorem respell_ne_null {v : Json} (hSome : v ≠ .null) : v.respell g ≠ .null := by
  cases v <;> simp_all [respell]

end Json

/-- What is not null is present. -/
theorem Datum.asOption_ofJson {α : Type} {reader : Datum → Reading α} {v : Json}
    (hSome : v ≠ .null) : (ofJson v).asOption reader = (reader (ofJson v)).map some := by
  cases v with
  | null => exact absurd rfl hSome
  | _ => rfl

namespace Fields.Holds

variable {α : Type} {g : Number → Number} {names : List String} {fs : Fields}
  {members : List (String × Json)} {i : Nat} {reader : Datum → Reading α} {write : α → Json}

/-- A field is read back from what it was written as. -/
theorem readsBack {absent : Option α} {x : α} (hFields : fs.Holds names (Json.respelled g members))
    (name : String) (hName : names.idxOf? name = some i) (hMem : (name, write x) ∈ members)
    (hBack : ReadsBack g reader write x) : fs.read i reader absent = Except.ok x :=
  hFields.read_eq name hName (List.mem_map_of_mem hMem) hBack

/-- So is a field that is left out where there is nothing to write. -/
theorem readsBack_option {value : Option α}
    (hFields : fs.Holds names (Json.respelled g members)) (name : String)
    (hName : names.idxOf? name = some i)
    (hThere : ∀ x, value = some x → (name, write x) ∈ members)
    (hAbsent : value = none → name ∉ members.map Prod.fst) (hSome : ∀ x, write x ≠ .null)
    (hBack : ∀ x, ReadsBack g reader write x) :
    fs.optionalOrElse i reader = Except.ok value := by
  cases hValue : value with
  | none =>
    apply hFields.read_of_absent name hName
    rw [Json.keys_respelled]
    exact hAbsent hValue
  | some x =>
    have hPresent : ReadsBack g (Datum.asOption reader) (fun _ => write x) (some x) := by
      have hRead := hBack x
      rw [ReadsBack] at hRead ⊢
      rw [Datum.asOption_ofJson (Json.respell_ne_null (hSome x)), hRead]
      rfl
    exact hFields.readsBack name hName (hThere x hValue) hPresent

end Fields.Holds

/-- A structure is read back if it is made of its fields. -/
theorem readsBack_object {α : Type} {g : Number → Number} {dialect : Dialect}
    {names : List String} {make : Fields → Located α} {x : α} (members : α → List (String × Json))
    (hKeys : ((members x).map Prod.fst).Nodup)
    (hMake : ∀ fs : Fields, fs.Holds names (Json.respelled g (members x)) →
      make fs = Except.ok x) :
    ReadsBack g (Datum.asStructure dialect names make) (fun x => .object (members x)) x := by
  rw [ReadsBack, Json.respell_object]
  exact Datum.asStructure_object (by rwa [Json.keys_respelled]) hMake

end ReviewPanel
