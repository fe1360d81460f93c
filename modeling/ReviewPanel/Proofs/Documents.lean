import ReviewPanel.Datum.Reading
import ReviewPanel.Proofs.Reader
import ReviewPanel.Proofs.Rounding
import ReviewPanel.Proofs.Table

/-!
# Documents — what values and texts are read as

A data value is a document that holds values throughout and breaks off nowhere. A value
that keeps to the form that programs hold it in is read back as it is; and
every text is read into a document whose numbers are numbers of their format.

* `Json.induction`      — what holds of a value if it holds of all its parts.
* `isReadable_ofJson`   — a value holds values throughout.
* `breaksOff_ofJson`    — and breaks off nowhere.
* `asJson_ofJson`       — a value in canonical form is read as itself.
* `IsInherited.ofText`  — what a document has if its parts have it, every text has.
* `isProper_ofText`     — the numbers of a text are numbers of their format.
-/

namespace ReviewPanel

open Numeric

/-! ## Values as documents -/

/-- What holds of a value if it holds of all its parts holds of every value. -/
theorem Json.induction {P : Json → Prop} (hNull : P .null) (hBool : ∀ b, P (.bool b))
    (hNumber : ∀ n, P (.number n)) (hText : ∀ s, P (.text s))
    (hList : ∀ items, (∀ v ∈ items, P v) → P (.list items))
    (hRecord : ∀ members, (∀ m ∈ members, P m.2) → P (.record members)) : ∀ v, P v
  | .null => hNull
  | .bool b => hBool b
  | .number n => hNumber n
  | .text s => hText s
  | .list items =>
    hList items fun v _ => Json.induction hNull hBool hNumber hText hList hRecord v
  | .record members =>
    hRecord members fun m _ => Json.induction hNull hBool hNumber hText hList hRecord m.2
termination_by v => sizeOf v
decreasing_by
  · rename_i hMem
    have := List.sizeOf_lt_of_mem hMem
    simp only [Json.list.sizeOf_spec]
    omega
  · rename_i hMem
    have := List.sizeOf_lt_of_mem hMem
    have : sizeOf m = 1 + sizeOf m.1 + sizeOf m.2 := rfl
    simp only [Json.record.sizeOf_spec]
    omega

namespace Datum

/-- The items of a list are its values, one by one. -/
theorem ofItems_eq {items : List Json} : ofItems items = items.map ofJson := by
  induction items with
  | nil => rfl
  | cons x rest ih => rw [ofItems, ih, List.map_cons]

/-- The members of a record all have names. -/
theorem ofMembers_eq {members : List (String × Json)} :
    ofMembers members = members.map fun m => (some m.1, ofJson m.2) := by
  induction members with
  | nil => rfl
  | cons m rest ih =>
    obtain ⟨name, x⟩ := m
    rw [ofMembers, ih, List.map_cons]

/-- A list holds values throughout iff its items do. -/
theorem areReadable_iff {items : List Datum} :
    areReadable items = true ↔ ∀ d ∈ items, d.isReadable = true := by
  induction items with
  | nil => simp [areReadable]
  | cons x rest ih => simp [areReadable, ih]

/-- A record holds values throughout iff its members do, and all have names. -/
theorem membersAreReadable_iff {members : List (Option String × Datum)} :
    membersAreReadable members = true ↔
      ∀ m ∈ members, m.1.isSome = true ∧ m.2.isReadable = true := by
  induction members with
  | nil => simp [membersAreReadable]
  | cons m rest ih =>
    obtain ⟨name, x⟩ := m
    simp [membersAreReadable, ih, and_assoc]

/-- A value holds values throughout. -/
theorem isReadable_ofJson (v : Json) : (ofJson v).isReadable = true := by
  induction v using Json.induction with
  | hNull => rfl
  | hBool b => rfl
  | hNumber n => rfl
  | hText s => rfl
  | hList items ih =>
    rw [ofJson, isReadable, ofItems_eq, areReadable_iff]
    intro d hMem
    obtain ⟨v, hv, rfl⟩ := List.mem_map.mp hMem
    exact ih v hv
  | hRecord members ih =>
    rw [ofJson, isReadable, ofMembers_eq, membersAreReadable_iff]
    intro d hMem
    obtain ⟨m, hm, rfl⟩ := List.mem_map.mp hMem
    exact ⟨rfl, ih m hm⟩

/-- A list none of whose items breaks off does not. -/
theorem lastBreaksOff_of_forall {items : List Datum}
    (hItems : ∀ d ∈ items, d.breaksOff = false) : lastBreaksOff items = false := by
  induction items with
  | nil => rfl
  | cons x rest ih =>
    cases rest with
    | nil => exact hItems x List.mem_cons_self
    | cons y rest => exact ih fun d hd => hItems d (List.mem_cons_of_mem _ hd)

/-- Nor does a record, likewise. -/
theorem lastMemberBreaksOff_of_forall {members : List (Option String × Datum)}
    (hMembers : ∀ m ∈ members, m.2.breaksOff = false) : lastMemberBreaksOff members = false := by
  induction members with
  | nil => rfl
  | cons m rest ih =>
    cases rest with
    | nil => exact hMembers m List.mem_cons_self
    | cons m' rest => exact ih fun d hd => hMembers d (List.mem_cons_of_mem _ hd)

/-- A value breaks off nowhere. -/
theorem breaksOff_ofJson (v : Json) : (ofJson v).breaksOff = false := by
  induction v using Json.induction with
  | hNull => rfl
  | hBool b => rfl
  | hNumber n => rfl
  | hText s => rfl
  | hList items ih =>
    rw [ofJson, breaksOff, ofItems_eq]
    apply lastBreaksOff_of_forall
    intro d hMem
    obtain ⟨v, hv, rfl⟩ := List.mem_map.mp hMem
    exact ih v hv
  | hRecord members ih =>
    rw [ofJson, breaksOff, ofMembers_eq]
    apply lastMemberBreaksOff_of_forall
    intro d hMem
    obtain ⟨m, hm, rfl⟩ := List.mem_map.mp hMem
    exact ih m hm

/-! ## Values in canonical form -/

end Datum

/-- The values that programs hold: the members of a record are in order, and a number is an
integer or has 64 bits. -/
inductive Json.IsCanonical : Json → Prop
  | null : IsCanonical .null
  | bool (b : Bool) : IsCanonical (.bool b)
  | integer (n : Int) : IsCanonical (.number (.integer n))
  | double (x : Binary) : IsCanonical (.number (.double x))
  | text (s : String) : IsCanonical (.text s)
  | list {items : List Json} (hItems : ∀ v ∈ items, IsCanonical v) : IsCanonical (.list items)
  | record {members : List (String × Json)} (hOrder : Table.Ascending members)
      (hMembers : ∀ m ∈ members, IsCanonical m.2) : IsCanonical (.record members)

namespace Datum

/-- Items are read back if each of them is. -/
theorem asJsonItems_eq {items : List Json}
    (hItems : ∀ v ∈ items, (ofJson v).asJson = .ok v) :
    asJsonItems (items.map ofJson) = .ok items := by
  induction items with
  | nil => rfl
  | cons x rest ih =>
    rw [List.map_cons, asJsonItems, hItems x List.mem_cons_self,
      ih fun v hv => hItems v (List.mem_cons_of_mem _ hv)]
    rfl

/-- So are members. -/
theorem asJsonMembers_eq {members : List (String × Json)}
    (hMembers : ∀ m ∈ members, (ofJson m.2).asJson = .ok m.2) :
    asJsonMembers (members.map fun m => (some m.1, ofJson m.2)) = .ok members := by
  induction members with
  | nil => rfl
  | cons m rest ih =>
    rw [List.map_cons, asJsonMembers, hMembers m List.mem_cons_self,
      ih fun v hv => hMembers v (List.mem_cons_of_mem _ hv)]
    rfl

/-- A value in canonical form is read as itself. -/
theorem asJson_ofJson {v : Json} (hCanonical : v.IsCanonical) : (ofJson v).asJson = .ok v := by
  induction hCanonical with
  | null => rfl
  | bool b => rfl
  | integer n => rfl
  | double x => rfl
  | text s => rfl
  | list _ ih =>
    rw [ofJson, asJson, ofItems_eq, asJsonItems_eq ih]
    rfl
  | record hOrder _ ih =>
    rw [ofJson, asJson, ofMembers_eq, asJsonMembers_eq ih]
    have hSame := congrArg (fun t => Json.record t.entries) (Table.ofList_of_ascending hOrder)
    exact congrArg Except.ok hSame

/-! ## Numbers of documents -/

end Datum

/-- A number of 64 bits is one of the format. -/
def Number.IsProper : Number → Prop
  | .double x => x.IsOf .double
  | _ => True

/-- The documents whose numbers of 64 bits are numbers of the format. -/
inductive Datum.IsProper : Datum → Prop
  | null : IsProper .null
  | bool (b : Bool) : IsProper (.bool b)
  | number {n : Number} (hNumber : n.IsProper) : IsProper (.number n)
  | text (s : String) : IsProper (.text s)
  | plain (s : String) : IsProper (.plain s)
  | block (s : String) : IsProper (.block s)
  | tagged (tag : Tag) {d : Datum} (hContent : IsProper d) : IsProper (.tagged tag d)
  | list {items : List Datum} (hItems : ∀ d ∈ items, IsProper d) : IsProper (.list items)
  | record {members : List (Option String × Datum)} (hMembers : ∀ m ∈ members, IsProper m.2) :
    IsProper (.record members)
  | unreadable : IsProper .unreadable
  | broken : IsProper .broken

namespace Numeric.Binary

/-- Rounding a quotient gives a number of the format. -/
theorem isOf_double_ofQuotient {s : Bool} {num den : ℕ} (hDen : 0 < den) :
    (ofQuotient .double s num den).IsOf .double :=
  isOf_ofQuotient (by decide) (by decide) hDen

theorem isOf_ofNat (n : ℕ) : (ofNat .double n).IsOf .double := isOf_double_ofQuotient one_pos

/-- So does converting one of the other format. -/
theorem isOf_convert (x : Binary) : (x.convert .double).IsOf .double := by
  cases x with
  | finite s m e => exact isOf_double_ofQuotient quotient_den_pos
  | infinite s => trivial
  | notANumber => trivial

/-- Products are rounded to the format. -/
theorem isOf_mul {x y : Binary} : (mul .double x y).IsOf .double := by
  cases x <;> cases y <;> try trivial
  exact isOf_double_ofQuotient (Nat.mul_pos quotient_den_pos quotient_den_pos)

/-- So are quotients, and dividing by zero is no number of another format. -/
theorem isOf_div {x y : Binary} : (div .double x y).IsOf .double := by
  cases x with
  | finite s m e =>
    cases y with
    | finite s' m' e' =>
      rcases Nat.eq_zero_or_pos m' with rfl | hDivisor
      · trivial
      · obtain ⟨num, den, hDen, hDiv, -⟩ := div_eq .double s s' m e e' hDivisor
        rw [hDiv]
        exact isOf_double_ofQuotient hDen
    | infinite s' => trivial
    | notANumber => trivial
  | infinite s => trivial
  | notANumber => trivial

/-- The sign of a number says nothing about its format. -/
theorem isOf_negate {f : Format} {x : Binary} (hOf : x.IsOf f) : x.negate.IsOf f := by
  cases x with
  | finite s m e => exact hOf
  | infinite s => trivial
  | notANumber => trivial

theorem isOf_zero (s : Bool) : (zero .double s).IsOf .double := by
  rw [zero, IsOf]
  decide

end Numeric.Binary

namespace Json

open Numeric Numeric.Binary

/-! ## Numerals -/

/-- Scaling multiplies or divides by a power of ten, step by step, and stays in the format. -/
theorem isOf_of_scaleByPower {x y : Binary} {exponent : Int} {fuel : Nat} (hOf : x.IsOf .double)
    (hScaled : scaleByPower x exponent fuel = some y) : y.IsOf .double := by
  induction fuel generalizing x exponent with
  | zero =>
    obtain rfl := Option.some.inj hScaled
    exact hOf
  | succ fuel ih =>
    simp only [scaleByPower] at hScaled
    split at hScaled
    · split at hScaled
      · split at hScaled
        · obtain rfl := Option.some.inj hScaled
          exact isOf_mul
        · cases hScaled
      · obtain rfl := Option.some.inj hScaled
        exact isOf_div
    · split at hScaled
      · obtain rfl := Option.some.inj hScaled
        exact hOf
      · split at hScaled
        · cases hScaled
        · exact ih isOf_div hScaled

/-- The parts of a numeral are put together in the format. -/
theorem isProper_of_ofParts {negative : Bool} {significand : Nat} {exponent : Int} {n : Number}
    (hRead : ofParts negative significand exponent = some n) : n.IsProper := by
  obtain ⟨x, hScaled, rfl⟩ := Option.map_eq_some_iff.mp hRead
  have hOf := isOf_of_scaleByPower (isOf_ofNat _) hScaled
  cases negative with
  | false => exact hOf
  | true => exact isOf_negate hOf

/-- The number of a numeral is one of its format. -/
theorem isProper_of_value? {numeral : Numeral} {n : Number} (hRead : numeral.value? = some n) :
    n.IsProper := by
  simp only [Numeral.value?] at hRead
  split at hRead
  · split at hRead
    · obtain rfl := Option.some.inj hRead
      trivial
    · split at hRead
      · exact isProper_of_ofParts hRead
      · obtain rfl := Option.some.inj hRead
        trivial
  · split at hRead
    · exact isProper_of_ofParts hRead
    · split at hRead
      · split at hRead
        · cases hRead
        · exact isProper_of_ofParts hRead
      · exact isProper_of_ofParts hRead

/-! ## Texts -/

/-- A property that a document has if all its parts have it, whatever the reader
of data texts makes it of. -/
structure IsInherited (P : Datum → Prop) : Prop where
  null : P .null
  bool : ∀ b, P (.bool b)
  number : ∀ {numeral : Numeral} {n : Number}, numeral.value? = some n → P (.number n)
  text : ∀ s, P (.text s)
  list : ∀ {items : List Datum}, (∀ d ∈ items, P d) → P (.list items)
  record : ∀ {members : List (Option String × Datum)}, (∀ m ∈ members, P m.2) →
    P (.record members)
  unreadable : P .unreadable
  broken : P .broken

namespace IsInherited

variable {P : Datum → Prop} (hP : IsInherited P)

include hP

/-- A numeral is a number, holds no value or breaks off. -/
theorem numeralOf {negative hasPoint : Bool} {whole fraction : List Char}
    (exponent : Option (Bool × List Char) × Rest) :
    P (numeralOf negative whole fraction hasPoint exponent).1 := by
  obtain ⟨exponent, _ | rest⟩ := exponent
  · exact hP.broken
  · rw [Json.numeralOf]
    split
    · rename_i hValue
      exact hP.number hValue
    · exact hP.unreadable

theorem readNumeral (negative : Bool) (cs : List Char) : P (readNumeral negative cs).1 := by
  rw [readNumeral_eq]
  dsimp only
  split_ifs
  · exact hP.broken
  · exact hP.broken
  · exact hP.numeralOf _

/-- A word stands for its value or breaks off. -/
theorem readWord {word : String} {value : Datum} {cs : List Char} (hValue : P value) :
    P (readWord word value cs).1 := by
  rw [Json.readWord]
  split
  · exact hValue
  · exact hP.broken

/-- A container that lies too deep holds no value. -/
theorem atDepth {depth : Nat} {found : Datum × Rest} (hFound : P found.1) :
    P (atDepth depth found).1 := by
  rw [Json.atDepth]
  split
  · exact hFound
  · show P (if found.2.isSome then Datum.unreadable else .broken)
    split
    · exact hP.unreadable
    · exact hP.broken

/-- A text between quotes is a text, unless it holds half a pair or breaks off. -/
theorem quoted (part : TextPart) : P (Json.quoted part).1 := by
  cases part with
  | read chars rest => exact hP.text _
  | unreadable rest => exact hP.unreadable
  | broken => exact hP.broken

/-- The first character of a value tells what it is. -/
theorem scalar (c : Char) (rest : List Char) : P (scalar c rest).1 := by
  unfold Json.scalar
  split_ifs
  · exact hP.quoted _
  · exact hP.readNumeral ..
  · exact hP.readNumeral ..
  · exact hP.readWord (hP.bool true)
  · exact hP.readWord (hP.bool false)
  · exact hP.readWord hP.null
  · exact hP.broken

/-- What is found of a container at its start is the empty one. -/
theorem container {close : Char} {empty : Datum} {parts : List Char → Opening} {depth : Nat}
    {cs : List Char} {found : Datum × Rest} (hEmpty : P empty)
    (hParts : ∀ cs, parts cs ≠ .found found)
    (hFound : container close empty parts depth cs = .found found) : P found.1 := by
  unfold Json.container at hFound
  split at hFound
  · exact absurd hFound (hParts _)
  · split at hFound
    · obtain rfl := Opening.found.inj hFound
      exact hP.atDepth hEmpty
    · exact absurd hFound (hParts _)

/-- So a value that is found at its start has the property. -/
theorem opening {depth : Nat} {cs : List Char} {found : Datum × Rest}
    (hFound : opening depth cs = .found found) : P found.1 := by
  unfold Json.opening at hFound
  split at hFound
  · obtain rfl := Opening.found.inj hFound
    exact hP.broken
  · split_ifs at hFound
    · refine hP.container (hP.list (List.forall_mem_nil _)) ?_ hFound
      intro cs hParts
      cases hParts
    · refine hP.container (hP.record (List.forall_mem_nil _)) ?_ hFound
      intro cs hParts
      cases hParts
    · obtain rfl := Opening.found.inj hFound
      exact hP.scalar ..

/-- The list of what was read so far, last first. -/
theorem list_reverse {found : List Datum} (hFound : ∀ d ∈ found, P d) :
    P (Datum.list found.reverse) :=
  hP.list fun d hd => hFound d (List.mem_reverse.mp hd)

/-- So has the record of what was read so far. -/
theorem record_reverse {found : List (Option String × Datum)} (hFound : ∀ m ∈ found, P m.2) :
    P (Datum.record found.reverse) :=
  hP.record fun m hm => hFound m (List.mem_reverse.mp hm)

omit hP in
/-- One more member has it if its value has. -/
theorem cons_member {name : Option String} {d : Datum} {found : List (Option String × Datum)}
    (hHead : P d) (hFound : ∀ m ∈ found, P m.2) : ∀ m ∈ (name, d) :: found, P m.2 := by
  intro m hMem
  rcases List.mem_cons.mp hMem with rfl | hRest
  · exact hHead
  · exact hFound m hRest

end IsInherited

/-- With this much fuel, values, items and members are read with a property. -/
structure ReadsWith (P : Datum → Prop) (fuel : Nat) : Prop where
  value : ∀ depth cs, P (readValue depth fuel cs).1
  items : ∀ depth found cs, (∀ d ∈ found, P d) → P (readItems depth found fuel cs).1
  members : ∀ depth found cs, (∀ m ∈ found, P m.2) → P (readMembers depth found fuel cs).1

variable {P : Datum → Prop} {fuel : Nat}

/-! One more step of the reader, for each of the three. -/

/-- A value has the property, if its parts are read with it. -/
theorem ReadsWith.value_succ (hP : IsInherited P) (hLess : ReadsWith P fuel) (depth : Nat)
    (cs : List Char) : P (readValue depth (fuel + 1) cs).1 := by
  rw [readValue_succ]
  cases hOpening : opening depth cs with
  | found found => exact hP.opening hOpening
  | items rest => exact hP.atDepth (hLess.items _ _ _ (List.forall_mem_nil _))
  | members rest => exact hP.atDepth (hLess.members _ _ _ (List.forall_mem_nil _))

/-- Items that are added to items with the property leave a list with it. -/
theorem ReadsWith.items_succ (hP : IsInherited P) (hLess : ReadsWith P fuel)
    {found : List Datum} (hFound : ∀ d ∈ found, P d) (depth : Nat) (cs : List Char) :
    P (readItems depth found (fuel + 1) cs).1 := by
  have hValue := hLess.value depth cs
  rw [readItems_succ]
  generalize readValue depth fuel cs = read at hValue ⊢
  obtain ⟨x, _ | rest⟩ := read
  · exact hP.list_reverse (List.forall_mem_cons.mpr ⟨hValue, hFound⟩)
  · have hFound' := List.forall_mem_cons.mpr ⟨hValue, hFound⟩
    dsimp only
    cases closing ']' rest with
    | next after => exact hLess.items _ _ _ hFound'
    | last after => exact hP.list_reverse hFound'
    | fault => exact hP.list_reverse (List.forall_mem_cons.mpr ⟨hP.broken, hFound'⟩)

/-- So do members, and the member at which the text breaks off. -/
theorem ReadsWith.members_succ (hP : IsInherited P) (hLess : ReadsWith P fuel)
    {found : List (Option String × Datum)} (hFound : ∀ m ∈ found, P m.2) (depth : Nat)
    (cs : List Char) : P (readMembers depth found (fuel + 1) cs).1 := by
  rw [readMembers_succ]
  cases naming cs with
  | fault => exact hP.record_reverse (IsInherited.cons_member hP.broken hFound)
  | only name => exact hP.record_reverse (IsInherited.cons_member hP.broken hFound)
  | value name start =>
    have hValue := hLess.value depth start
    dsimp only
    generalize readValue depth fuel start = read at hValue ⊢
    obtain ⟨x, _ | rest⟩ := read
    · exact hP.record_reverse (IsInherited.cons_member hValue hFound)
    · have hFound' : ∀ m ∈ (name, x) :: found, P m.2 := IsInherited.cons_member hValue hFound
      dsimp only
      cases closing '\x7d' rest with
      | next after => exact hLess.members _ _ _ hFound'
      | last after => exact hP.record_reverse hFound'
      | fault => exact hP.record_reverse (IsInherited.cons_member hP.broken hFound')

/-- Whatever the fuel, all that is read has the property. -/
theorem readsWith (hP : IsInherited P) (fuel : Nat) : ReadsWith P fuel := by
  induction fuel with
  | zero =>
    refine ⟨fun depth cs => ?_, fun depth found cs _ => ?_, fun depth found cs _ => ?_⟩
    · rw [readValue]
      exact hP.broken
    · rw [readItems]
      exact hP.broken
    · rw [readMembers]
      exact hP.broken
  | succ fuel ih =>
    exact ⟨ih.value_succ hP, fun depth _ cs hFound => ih.items_succ hP hFound depth cs,
      fun depth _ cs hFound => ih.members_succ hP hFound depth cs⟩

/-- The document of every text has a property that is inherited. -/
theorem IsInherited.ofText (hP : IsInherited P) (text : String) : P (Source.ofText text).root := by
  have hRead := (readsWith hP (2 * text.toList.length + 2)).value 0 text.toList
  simp only [Source.ofText]
  split
  · rename_i hValue
    rw [hValue] at hRead
    exact hRead
  · rename_i hValue
    rw [hValue] at hRead
    exact hRead

/-- The numbers of every text are numbers of their format. -/
theorem isProper_ofText (text : String) : (Source.ofText text).root.IsProper := by
  have hProper : IsInherited Datum.IsProper :=
    ⟨.null, .bool, fun hValue => .number (isProper_of_value? hValue), .text, .list, .record,
      .unreadable, .broken⟩
  exact hProper.ofText text

end Json

end ReviewPanel
