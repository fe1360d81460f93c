import ReviewPanel.Llm.Http
import ReviewPanel.Proofs.Fields
import ReviewPanel.Proofs.WrittenTexts

/-!
# Completions — what a body says

The body of an answer holds a completion if its document is a record, or a list
in its place, with a field `choices`, a list of which every item has a field
`message`, which has a text in its field `content`. Other members may stand
beside a field, as long as none of them breaks off or repeats its name. This is
said here of the document alone (`HasChoices`), and compared with the reader:

* `asStructure_field_eq_ok_iff` — a structure of one field is read from a
  document that gives the field.
* `choices?_eq_some_iff`        — the choices of a body are those that it has.
* `hasChoices_write`            — a completion that was written has its choices.
-/

namespace ReviewPanel

/-! ## Documents of data texts -/

/-- The documents that data texts are read into: nothing in them depends on the
type that is asked for, or is marked. -/
inductive Datum.IsUnmarked : Datum → Prop
  | null : IsUnmarked .null
  | bool (b : Bool) : IsUnmarked (.bool b)
  | number (n : Number) : IsUnmarked (.number n)
  | text (s : String) : IsUnmarked (.text s)
  | list {items : List Datum} (hItems : ∀ d ∈ items, IsUnmarked d) : IsUnmarked (.list items)
  | record {members : List (Option String × Datum)} (hMembers : ∀ m ∈ members, IsUnmarked m.2) :
    IsUnmarked (.record members)
  | unreadable : IsUnmarked .unreadable
  | broken : IsUnmarked .broken

/-- Documents of this language have no tags, so what is read of one has none. -/
theorem Json.isUnmarked_ofText (text : String) : (Source.ofText text).root.IsUnmarked := by
  have hUnmarked : IsInherited Datum.IsUnmarked :=
    ⟨.null, .bool, fun {_ n} _ => .number n, .text, .list, .record, .unreadable, .broken⟩
  exact hUnmarked.ofText text

/-! ## Structures of one field -/

/-- A member beside the field of a name: it has another name, and the text does
not break off in it. -/
def IsBeside (name : String) (m : Option String × Datum) : Prop :=
  ∃ other, m.1 = some other ∧ other ≠ name ∧ m.2.breaksOff = false

/-- A document gives the field of a name: it is a record with one member of this
name, or a list of one item. -/
inductive GivesField (name : String) : Datum → Datum → Prop
  | member {before after : List (Option String × Datum)} {d : Datum}
      (hBeside : ∀ m ∈ before ++ after, IsBeside name m) :
      GivesField name (.record (before ++ (some name, d) :: after)) d
  | item {d : Datum} : GivesField name (.list [d]) d

theorem GivesField.isUnmarked {name : String} {d field : Datum} (hGives : GivesField name d field)
    (hUnmarked : d.IsUnmarked) : field.IsUnmarked := by
  cases hGives with
  | member =>
    cases hUnmarked with
    | record hMembers => exact hMembers _ (List.mem_append_right _ List.mem_cons_self)
  | item =>
    cases hUnmarked with
    | list hItems => exact hItems _ List.mem_cons_self

/-- A record gives a field if one member has its name, and the others have not. -/
theorem givesField_record_iff {name : String} {members : List (Option String × Datum)} {d : Datum} :
    GivesField name (.record members) d ↔
      ∃ before after, members = before ++ (some name, d) :: after ∧
        ∀ m ∈ before ++ after, IsBeside name m := by
  constructor
  · intro hGives
    cases hGives with
    | member hBeside => exact ⟨_, _, rfl, hBeside⟩
  · rintro ⟨before, after, rfl, hBeside⟩
    exact .member hBeside

namespace Fields

variable {name : String} {position : Nat} {cells : List (Nat × Nat × Datum)}
  {m : Option String × Datum} {members : List (Option String × Datum)} {d : Datum}

/-- A member beside the field is passed over. -/
theorem ofMembers_cons_of_isBeside (hBeside : IsBeside name m) :
    ofMembers [name] position cells (m :: members) =
      ofMembers [name] (position + 1) cells members := by
  obtain ⟨key, content⟩ := m
  obtain ⟨other, rfl, hOther, hWhole⟩ := hBeside
  rw [ofMembers]
  simp [List.idxOf?_cons, hOther.symm, hWhole]

/-- A member that is neither the field nor beside it is a fault. -/
theorem fault_ofMembers_cons (hName : m.1 ≠ some name) (hBeside : ¬ IsBeside name m) :
    (ofMembers [name] position cells (m :: members)).fault ≠ none := by
  obtain ⟨key, content⟩ := m
  cases key with
  | none => simp [ofMembers]
  | some other =>
    have hOther : other ≠ name := fun hSame => hName (congrArg some hSame)
    have hBreaks : content.breaksOff = true := by
      by_contra hWhole
      exact hBeside ⟨other, rfl, hOther, by simpa using hWhole⟩
    rw [ofMembers]
    simp [List.idxOf?_cons, hOther.symm, hBreaks]

/-- Once the field is found, there is no fault iff all else stands beside it. -/
theorem fault_ofMembers_of_found (hFound : cells.any (·.1 == 0) = true) :
    (ofMembers [name] position cells members).fault = none ↔ ∀ m ∈ members, IsBeside name m := by
  induction members generalizing position with
  | nil => simp [ofMembers]
  | cons m rest ih =>
    rw [List.forall_mem_cons]
    by_cases hBeside : IsBeside name m
    · rw [ofMembers_cons_of_isBeside hBeside, ih]
      exact (and_iff_right hBeside).symm
    · refine iff_of_false ?_ fun hAll => hBeside hAll.1
      by_cases hName : m.1 = some name
      · -- the field a second time
        obtain ⟨key, content⟩ := m
        obtain rfl := hName
        rw [ofMembers]
        simp [List.idxOf?_cons, hFound]
      · exact fault_ofMembers_cons hName hBeside

/-- Members of other names fill no cell. -/
theorem cells_ofMembers_of_isBeside (hBeside : ∀ m ∈ members, IsBeside name m) :
    (ofMembers [name] position cells members).cells = cells := by
  induction members generalizing position with
  | nil => rfl
  | cons m rest ih =>
    rw [ofMembers_cons_of_isBeside (hBeside m List.mem_cons_self)]
    exact ih fun x hx => hBeside x (List.mem_cons_of_mem _ hx)

/-- The field is found, without a fault, where one member has its name and all
others stand beside it. -/
theorem ofMembers_finds_iff :
    ((ofMembers [name] position [] members).fault = none ∧
        ∃ at', (ofMembers [name] position [] members).cell? 0 = some (at', d)) ↔
      GivesField name (.record members) d := by
  rw [givesField_record_iff]
  induction members generalizing position with
  | nil => simp [ofMembers, cell?]
  | cons m rest ih =>
    by_cases hBeside : IsBeside name m
    · -- a member beside the field stays in front of it
      rw [ofMembers_cons_of_isBeside hBeside, ih]
      constructor
      · rintro ⟨before, after, rfl, hAll⟩
        exact ⟨m :: before, after, rfl, List.forall_mem_cons.mpr ⟨hBeside, hAll⟩⟩
      · rintro ⟨before, after, hSplit, hAll⟩
        cases before with
        | nil =>
          obtain ⟨rfl, rfl⟩ := List.cons.inj hSplit
          obtain ⟨other, hSame, hOther, -⟩ := hBeside
          exact absurd (Option.some.inj hSame).symm hOther
        | cons x before =>
          obtain ⟨rfl, rfl⟩ := List.cons.inj hSplit
          exact ⟨before, after, rfl, (List.forall_mem_cons.mp hAll).2⟩
    · have hSplit : (∃ before after, m :: rest = before ++ (some name, d) :: after ∧
          ∀ x ∈ before ++ after, IsBeside name x) ↔
          m = (some name, d) ∧ ∀ x ∈ rest, IsBeside name x := by
        constructor
        · rintro ⟨before, after, hSplit, hAll⟩
          cases before with
          | nil =>
            obtain ⟨rfl, rfl⟩ := List.cons.inj hSplit
            exact ⟨rfl, hAll⟩
          | cons x before =>
            obtain ⟨rfl, rfl⟩ := List.cons.inj hSplit
            exact absurd (hAll _ List.mem_cons_self) hBeside
        · rintro ⟨rfl, hAll⟩
          exact ⟨[], rest, rfl, hAll⟩
      rw [hSplit]
      by_cases hName : m.1 = some name
      · -- the field itself: nothing else may be found
        obtain ⟨key, content⟩ := m
        obtain rfl := hName
        have hFields : ofMembers [name] position [] ((some name, content) :: rest) =
            ofMembers [name] (position + 1) [(0, position, content)] rest := by
          rw [ofMembers]
          simp [List.idxOf?_cons]
        rw [hFields, fault_ofMembers_of_found rfl]
        constructor
        · rintro ⟨hAll, at', hCell⟩
          rw [cell?, cells_ofMembers_of_isBeside hAll] at hCell
          obtain ⟨-, rfl⟩ := Prod.mk.inj (Option.some.inj hCell)
          exact ⟨rfl, hAll⟩
        · rintro ⟨hSame, hAll⟩
          obtain ⟨-, rfl⟩ := Prod.mk.inj hSame
          refine ⟨hAll, position, ?_⟩
          rw [cell?, cells_ofMembers_of_isBeside hAll]
          rfl
      · -- a fault stays one, whatever follows
        refine iff_of_false (fun hFinds => fault_ofMembers_cons hName hBeside hFinds.1) ?_
        rintro ⟨rfl, -⟩
        exact hName rfl

/-- A list gives the field by its only item. -/
theorem ofItems_finds_iff (name : String) {items : List Datum} :
    ((ofItems .json 1 items).fault = none ∧
        ∃ at', (ofItems .json 1 items).cell? 0 = some (at', d)) ↔
      GivesField name (.list items) d := by
  constructor
  · rintro ⟨hFault, at', hCell⟩
    match items with
    | [] => cases hCell
    | [x] =>
      obtain ⟨-, rfl⟩ := Prod.mk.inj (Option.some.inj hCell)
      exact .item
    | x :: y :: more => simp [ofItems, Dialect.json] at hFault
  · intro hGives
    cases hGives with
    | item => exact ⟨rfl, 0, rfl⟩

/-- What is made of a field that has to be there is read from it. -/
theorem build_required_eq_ok_iff {α : Type} {fs : Fields} {reader : Datum → Reading α} {x : α} :
    fs.build (fs.required 0 reader) = .ok x ↔
      ∃ field, (fs.fault = none ∧ ∃ at', fs.cell? 0 = some (at', field)) ∧
        reader field = .ok x := by
  rw [build_eq_ok_iff, required, read]
  -- the cell of the field is filled or not, and its datum is read or not
  cases hCell : fs.cell? 0 with
  | none => simp
  | some cell =>
    obtain ⟨at', field⟩ := cell
    cases hRead : reader field with
    | error fault =>
      constructor
      · rintro ⟨hOk, -⟩
        simp only [hRead] at hOk
        cases hOk
      · rintro ⟨field', ⟨-, _, hSame⟩, hOk⟩
        obtain ⟨-, rfl⟩ := Prod.mk.inj (Option.some.inj hSame)
        rw [hRead] at hOk
        cases hOk
    | ok y =>
      constructor
      · rintro ⟨hOk, hFault⟩
        simp only [hRead] at hOk
        exact ⟨field, ⟨hFault, at', rfl⟩, hRead.trans (congrArg Except.ok (Except.ok.inj hOk))⟩
      · rintro ⟨field', ⟨hFault, _, hSame⟩, hOk⟩
        obtain ⟨-, rfl⟩ := Prod.mk.inj (Option.some.inj hSame)
        obtain rfl := Except.ok.inj (hRead.symm.trans hOk)
        simp only [hRead]
        exact ⟨rfl, hFault⟩

end Fields

namespace Datum

variable {α : Type} {name : String} {d : Datum} {reader : Datum → Reading α} {x : α}

/-- A structure of one field is read from a document that gives the field. -/
theorem asStructure_field_eq_ok_iff (hUnmarked : d.IsUnmarked) :
    d.asStructure .json [name] (fun fs => fs.required 0 reader) = .ok x ↔
      ∃ field, GivesField name d field ∧ reader field = .ok x := by
  cases hUnmarked with
  | @record members hMembers =>
    have hBuilt := @Fields.build_required_eq_ok_iff _ (.ofMembers [name] 0 [] members) reader x
    simp only [Fields.ofMembers_finds_iff] at hBuilt
    exact hBuilt
  | @list items hItems =>
    have hBuilt := @Fields.build_required_eq_ok_iff _ (.ofItems .json 1 items) reader x
    simp only [Fields.ofItems_finds_iff name] at hBuilt
    exact hBuilt
  -- nothing else gives a field
  | null => exact ⟨nofun, nofun⟩
  | bool => exact ⟨nofun, nofun⟩
  | number => exact ⟨nofun, nofun⟩
  | text => exact ⟨nofun, nofun⟩
  | unreadable => exact ⟨nofun, nofun⟩
  | broken => exact ⟨nofun, nofun⟩

/-- Without tags, only a text is read as one. -/
theorem asText_eq_ok_iff {content : String} (hUnmarked : d.IsUnmarked) :
    d.asText = .ok content ↔ d = .text content := by
  cases hUnmarked with
  | text s => simp [asText]
  | null => simp [asText, mismatch]
  | bool => simp [asText, mismatch]
  | number => simp [asText, mismatch]
  | list => simp [asText, mismatch]
  | record => simp [asText, mismatch]
  | unreadable => simp [asText, mismatch]
  | broken => simp [asText, mismatch]

/-- Only a list is read as one, and item by item. -/
theorem asList_eq_ok_iff {xs : List α} (hUnmarked : d.IsUnmarked) :
    d.asList reader = .ok xs ↔
      ∃ items, d = .list items ∧ List.Forall₂ (fun item x => reader item = .ok x) items xs := by
  cases hUnmarked with
  | @list items hItems =>
    rw [asList, mapM_eq_ok_iff]
    simp
  | null => simp [asList, mismatch]
  | bool => simp [asList, mismatch]
  | number => simp [asList, mismatch]
  | text => simp [asList, mismatch]
  | record => simp [asList, mismatch]
  | unreadable => simp [asList, mismatch]
  | broken => simp [asList, mismatch]

end Datum

/-! ## Completions -/

namespace Llm.Http

/-- A choice has a message with a content. -/
def HasContent (choice : Datum) (content : String) : Prop :=
  ∃ message, GivesField "message" choice message ∧ GivesField "content" message (.text content)

/-- A body is one whole document, in which the choices have these contents, in order. -/
def HasChoices (body : String) (contents : List String) : Prop :=
  (Json.Source.ofText body).complete = true ∧
    ∃ choices, GivesField "choices" (Json.Source.ofText body).root (.list choices) ∧
      List.Forall₂ HasContent choices contents

variable {d : Datum} {body content : String} {contents : List String}

/-- A choice is read iff it has a content. -/
theorem choiceOfDatum_eq_ok_iff (hUnmarked : d.IsUnmarked) :
    choiceOfDatum d = .ok content ↔ HasContent d content := by
  rw [choiceOfDatum, Datum.asStructure_field_eq_ok_iff hUnmarked]
  constructor
  · rintro ⟨message, hMessage, hRead⟩
    have hInner := hMessage.isUnmarked hUnmarked
    obtain ⟨field, hField, hText⟩ := (Datum.asStructure_field_eq_ok_iff hInner).mp hRead
    obtain rfl := (Datum.asText_eq_ok_iff (hField.isUnmarked hInner)).mp hText
    exact ⟨message, hMessage, hField⟩
  · rintro ⟨message, hMessage, hField⟩
    have hInner := hMessage.isUnmarked hUnmarked
    exact ⟨message, hMessage, (Datum.asStructure_field_eq_ok_iff hInner).mpr ⟨_, hField, rfl⟩⟩

/-- A body is read iff it has choices, and each of them a content. -/
theorem choicesOfDatum_eq_ok_iff (hUnmarked : d.IsUnmarked) :
    choicesOfDatum d = .ok contents ↔
      ∃ choices, GivesField "choices" d (.list choices) ∧
        List.Forall₂ HasContent choices contents := by
  -- the items of a list that is a field of the document are unmarked with it
  have hItems : ∀ {choices : List Datum}, GivesField "choices" d (.list choices) →
      (List.Forall₂ (fun item x => choiceOfDatum item = .ok x) choices contents ↔
        List.Forall₂ HasContent choices contents) := by
    intro choices hGives
    have hAll : ∀ item ∈ choices, item.IsUnmarked := by
      have hList := hGives.isUnmarked hUnmarked
      cases hList with
      | list hItems => exact hItems
    rw [List.forall₂_iff_zip, List.forall₂_iff_zip]
    refine and_congr_right fun _ => forall_congr' fun item => forall_congr' fun x =>
      forall_congr' fun hMem => ?_
    exact choiceOfDatum_eq_ok_iff (hAll item (List.of_mem_zip hMem).1)
  rw [choicesOfDatum, Datum.asStructure_field_eq_ok_iff hUnmarked]
  constructor
  · rintro ⟨field, hGives, hRead⟩
    obtain ⟨choices, rfl, hAll⟩ :=
      (Datum.asList_eq_ok_iff (hGives.isUnmarked hUnmarked)).mp hRead
    exact ⟨choices, hGives, (hItems hGives).mp hAll⟩
  · rintro ⟨choices, hGives, hAll⟩
    refine ⟨_, hGives, ?_⟩
    exact (Datum.asList_eq_ok_iff (hGives.isUnmarked hUnmarked)).mpr
      ⟨choices, rfl, (hItems hGives).mpr hAll⟩

/-- The reader finds the choices that a body has. -/
theorem choices?_eq_some_iff : choices? body = some contents ↔ HasChoices body contents := by
  have hRead := @choicesOfDatum_eq_ok_iff (Json.Source.ofText body).root contents
    (Json.isUnmarked_ofText body)
  unfold choices? HasChoices
  rw [← hRead]
  simp only
  cases choicesOfDatum (Json.Source.ofText body).root with
  | error fault => simp
  | ok found => cases (Json.Source.ofText body).complete <;> simp

/-- A body has its choices and no others. -/
theorem HasChoices.contents_eq {contents' : List String} (hHas : HasChoices body contents)
    (hHas' : HasChoices body contents') : contents = contents' := by
  rw [← choices?_eq_some_iff] at hHas hHas'
  exact Option.some.inj (hHas.symm.trans hHas')

/-- A completion with these contents, as a server writes it. -/
def completion (contents : List String) : Json :=
  .object [("choices", .list (contents.map fun content =>
    .object [("message", .object [("content", .text content)])]))]

/-- A completion that was written has its choices, whatever their contents. -/
theorem hasChoices_write (contents : List String) :
    HasChoices (completion contents).write contents := by
  -- four containers, one in the other
  have hFits : (completion contents).Fits (123 + 1 + 1 + 1 + 1) := by
    refine .record fun m hm => ?_
    obtain rfl := List.mem_singleton.mp hm
    refine .list fun choice hChoice => ?_
    obtain ⟨content, -, rfl⟩ := List.mem_map.mp hChoice
    refine .record fun m hm => ?_
    obtain rfl := List.mem_singleton.mp hm
    refine .record fun m hm => ?_
    obtain rfl := List.mem_singleton.mp hm
    exact .text content
  have hRead := Json.ofText_write hFits
  refine ⟨congrArg Json.Source.complete hRead, contents.map fun content =>
    .record [(some "message", .record [(some "content", .text content)])], ?_, ?_⟩
  · have hRoot : (Json.Source.ofText (completion contents).write).root =
        .record [(some "choices", .list (contents.map fun content =>
          .record [(some "message", .record [(some "content", .text content)])]))] := by
      rw [congrArg Json.Source.root hRead]
      show Datum.record [(some "choices", .list (Datum.ofItems _))] = _
      rw [Datum.ofItems_eq, List.map_map]
      rfl
    rw [hRoot]
    exact @GivesField.member _ [] [] _ nofun
  · rw [List.forall₂_map_left_iff, List.forall₂_same]
    exact fun content _ => ⟨_, @GivesField.member _ [] [] _ nofun,
      @GivesField.member _ [] [] _ nofun⟩

end Llm.Http

end ReviewPanel
