import ReviewPanel.Config.Basic
import ReviewPanel.Proofs.Deadlines
import ReviewPanel.Proofs.Fields
import ReviewPanel.Proofs.Templates

/-!
# Written templates — reading a template again

A template that was read is written and read again. All of it comes back as it was, but
for one thing: the number of seconds is checked to be positive before it is rounded to
nanoseconds. So half a nanosecond or less is accepted, becomes no time at all,
is written as zero seconds, and is refused when it is read again.

* `Template.exists_seconds`  — the deadline that is read is that of a number of seconds.
* `ofDatum_toJson`           — a template is read again if its deadline is.
* `Template.Rereading`       — what becomes of a template that was read.
* `templates_are_read_again` — and that this is what becomes of every one.
-/

namespace ReviewPanel

open Numeric

/-! ## Numbers of seconds -/

namespace Numeric.Binary

/-- A decimal is rounded to the format. -/
theorem isOf_ofDecimal (negative : Bool) (coefficient : Nat) (exponent : Int) :
    (ofDecimal negative coefficient exponent).IsOf .double := by
  simp only [ofDecimal]
  split
  · exact isOf_zero negative
  · split
    · trivial
    · split
      · exact isOf_double_ofQuotient one_pos
      · exact isOf_double_ofQuotient (Nat.pow_pos (by decide))

/-- So is a numeral of a configuration in the other language. -/
theorem isOf_of_ofNumeral? {text : List Char} {x : Binary} (hRead : ofNumeral? text = some x) :
    x.IsOf .double := by
  simp only [ofNumeral?] at hRead
  -- with and without a fraction the rest is the same
  split at hRead
  all_goals
    split at hRead
    · cases hRead
    · obtain ⟨exponent, -, hRead⟩ := Option.bind_eq_some_iff.mp hRead
      obtain rfl := Option.some.inj hRead
      exact isOf_ofDecimal ..

end Numeric.Binary

namespace Datum

/-- And so is a plain scalar, the words for infinity included. -/
theorem isOf_of_plain {s : String} {x : Binary} (hRead : Plain.double? s = some x) :
    x.IsOf .double := by
  simp only [Plain.double?] at hRead
  -- with and without a sign the rest is the same
  split at hRead
  all_goals
    split at hRead
    · cases hRead
    · split at hRead
      · obtain rfl := Option.some.inj hRead
        trivial
      · split at hRead
        · obtain rfl := Option.some.inj hRead
          trivial
        · split at hRead
          · obtain rfl := Option.some.inj hRead
            trivial
          · split at hRead
            · rename_i hNumeral
              split at hRead
              · obtain rfl := Option.some.inj hRead
                exact Binary.isOf_of_ofNumeral? hNumeral
              · cases hRead
            · cases hRead

/-- A number that is read from a document is one of the format. -/
theorem isOf_of_asBinary {d : Datum} {x : Binary} (hProper : d.IsProper)
    (hRead : d.asBinary .double = .ok x) : x.IsOf .double := by
  -- a plain scalar is read as a double already, so it is not converted
  have hPlain : ∀ {s : String},
      found ((Plain.double? s).map fun x => if Format.double = .double then x
        else x.convert .double) = .ok x → x.IsOf .double := by
    intro s hFound
    cases hScalar : Plain.double? s with
    | none =>
      rw [hScalar] at hFound
      cases hFound
    | some y =>
      rw [hScalar] at hFound
      obtain rfl := Except.ok.inj hFound
      exact isOf_of_plain hScalar
  -- by the kinds of proper documents: only numbers, scalars and their tags are read
  induction hProper with
  | @number n hNumber =>
    cases n with
    | integer n =>
      obtain rfl := Except.ok.inj hRead
      exact Binary.isOf_double_ofQuotient one_pos
    | double y =>
      obtain rfl := Except.ok.inj hRead
      exact hNumber
    | single y =>
      obtain rfl := Except.ok.inj hRead
      exact Binary.isOf_convert y
  | plain s => exact hPlain hRead
  | @tagged tag d _ ih =>
    unfold asBinary at hRead
    split at hRead
    case h_5 => exact hPlain hRead
    case h_6 hEq =>
      obtain ⟨-, rfl⟩ := Datum.tagged.inj hEq
      exact ih hRead
    case h_7 => cases hRead
    all_goals contradiction
  | null => cases hRead
  | bool b => cases hRead
  | text s => cases hRead
  | block s => cases hRead
  | list _ => cases hRead
  | record _ => cases hRead
  | unreadable => cases hRead
  | broken => cases hRead

end Datum

/-! ## Deadlines -/

/-- A deadline that was read is read again, unless it is no time at all. -/
theorem Template.deadlineOfDatum_deadlineJson {x : Binary} {t : Duration} (hOf : x.IsOf .double)
    (hRead : deadlineOfSeconds x = .ok t) (hTime : t ≠ .zero) :
    deadlineOfDatum (.ofJson (deadlineJson t)) = .ok t := by
  rw [deadlineJson]
  split
  · rename_i hWhole
    have hAgain := deadlineOfSeconds_wholeSeconds hOf hRead hWhole hTime
    show (deadlineOfSeconds (.ofInt .double t.wholeSeconds)).mapError Fault.deadline = _
    have hInt : Binary.ofInt .double t.wholeSeconds = .ofNat .double t.wholeSeconds := rfl
    rw [hInt, hAgain]
    rfl
  · rename_i hPart
    have hAgain := deadlineOfSeconds_toBinary hOf hRead hPart
    show (deadlineOfSeconds t.toBinary).mapError Fault.deadline = _
    rw [hAgain]
    rfl

/-- The fault of a deadline of zero seconds. -/
def Template.zeroSeconds : Fault := .deadline (.notPositive (.zero .double false))

theorem Template.deadlineOfDatum_zero :
    deadlineOfDatum (.ofJson (deadlineJson .zero)) = .error zeroSeconds := rfl

/-! ## Templates -/

theorem Category.ofDatum_toJson (dialect : Dialect) (c : Category) :
    ofDatum dialect (.ofJson c.toJson) = .ok c := by
  cases c <;> rfl

namespace Template

variable {dialect : Dialect} {t : Template}

/-- The members that a template is written with. -/
def members (t : Template) : List (String × Json) :=
  [("required_categories", .list (t.required.map Category.toJson)),
    ("optional_categories", .list (t.optional.map Category.toJson)),
    ("parallel", .bool t.parallel), ("max_execution_time", deadlineJson t.deadline),
    ("quality_gates", .texts t.gates)]

theorem toJson_eq (t : Template) : t.toJson = .object t.members := rfl

theorem keys_members (t : Template) : (t.members.map Prod.fst).Nodup := by
  show ["required_categories", "optional_categories", "parallel", "max_execution_time",
    "quality_gates"].Nodup
  decide

/-- Categories are read back one by one. -/
theorem readCategories (dialect : Dialect) (cs : List Category) :
    (Datum.ofJson (.list (cs.map Category.toJson))).asList (Category.ofDatum dialect) = .ok cs :=
  Datum.asList_ofJson fun c _ => Category.ofDatum_toJson dialect c

theorem asTexts_ofJson (texts : List String) :
    (Datum.ofJson (.texts texts)).asList Datum.asText = .ok texts :=
  Datum.asList_ofJson fun _ _ => rfl

/-- All fields but the deadline are read back from what they were written as. -/
theorem fields_members (dialect : Dialect) {fs : Fields} (hFields : fs.Holds fieldNames t.members) :
    fs.orElse 0 (Datum.asList (Category.ofDatum dialect)) [] = Except.ok t.required ∧
      fs.orElse 1 (Datum.asList (Category.ofDatum dialect)) [] = Except.ok t.optional ∧
      fs.orElse 2 Datum.asBool true = Except.ok t.parallel ∧
      fs.orElse 4 (Datum.asList Datum.asText) [] = Except.ok t.gates := by
  refine ⟨?_, ?_, ?_, ?_⟩
  · exact hFields.read_eq "required_categories" rfl (by simp [members]) (readCategories ..)
  · exact hFields.read_eq "optional_categories" rfl (by simp [members]) (readCategories ..)
  · exact hFields.read_eq "parallel" (v := .bool t.parallel) rfl (by simp [members]) rfl
  · exact hFields.read_eq "quality_gates" rfl (by simp [members]) (asTexts_ofJson _)

/-- A template is read back if its deadline is. -/
theorem ofDatum_toJson (hDeadline : deadlineOfDatum (.ofJson (deadlineJson t.deadline)) =
    .ok t.deadline) : ofDatum dialect (.ofJson t.toJson) = .ok t := by
  rw [toJson_eq, ofDatum]
  apply Datum.asStructure_object t.keys_members
  intro fs hFields
  obtain ⟨hRequired, hOptional, hParallel, hGates⟩ := fields_members dialect hFields
  have hTime : fs.orElse 3 deadlineOfDatum defaultDeadline = Except.ok t.deadline :=
    hFields.read_eq "max_execution_time" rfl (by simp [members]) hDeadline
  rw [hRequired, hOptional, hParallel, hTime, hGates]
  rfl

/-- A template without any time is refused for the zero that it is written with. -/
theorem ofDatum_toJson_of_zero (hZero : t.deadline = .zero) :
    ofDatum dialect (.ofJson t.toJson) = .error zeroSeconds := by
  rw [toJson_eq, ofDatum]
  apply Datum.asStructure_object_error t.keys_members
  intro fs hFields
  obtain ⟨hRequired, hOptional, hParallel, hGates⟩ := fields_members dialect hFields
  obtain ⟨position, hTime⟩ : ∃ position, fs.orElse 3 deadlineOfDatum defaultDeadline =
      Except.error (position, zeroSeconds) :=
    hFields.read_eq_error "max_execution_time" rfl (by simp [members])
      (hZero ▸ deadlineOfDatum_zero)
  refine ⟨position, ?_⟩
  rw [hRequired, hOptional, hParallel, hTime, hGates]
  rfl

/-! ## What was read -/

/-- The number of seconds that stands for a deadline that is not given. -/
def defaultSeconds : Binary := .ofNat .double 30

theorem deadlineOfSeconds_defaultSeconds :
    deadlineOfSeconds defaultSeconds = .ok defaultDeadline := by
  decide +kernel

/-- The number of seconds that a document gives for the deadline of a template. -/
def secondsOf (dialect : Dialect) (d : Datum) : Reading Binary :=
  d.asStructure dialect fieldNames fun fs =>
    fs.orElse 3 (Datum.asBinary .double) defaultSeconds

/-- The deadline of a template that is read is that of the number of seconds given. -/
theorem exists_seconds {d : Datum} (hProper : d.IsProper)
    (hRead : ofDatum dialect d = .ok t) :
    ∃ x, secondsOf dialect d = .ok x ∧ x.IsOf .double ∧ deadlineOfSeconds x = .ok t.deadline := by
  obtain ⟨fs, hMade, hCells, hOthers⟩ := Datum.asStructure_eq_ok hProper hRead
  -- the fields from the last to the first
  obtain ⟨_, gates, hBeforeGates, -, rfl⟩ := Located.seq_eq_ok_iff.mp hMade
  obtain ⟨_, deadline, hBeforeTime, hTime, rfl⟩ := Located.seq_eq_ok_iff.mp hBeforeGates
  obtain ⟨_, parallel, hCategories, -, rfl⟩ := Located.seq_eq_ok_iff.mp hBeforeTime
  obtain ⟨_, optional, hRequired, -, rfl⟩ := Located.seq_eq_ok_iff.mp hCategories
  obtain ⟨required, -, rfl⟩ := Located.map_eq_ok_iff.mp hRequired
  show ∃ x, secondsOf dialect d = .ok x ∧ x.IsOf .double ∧ deadlineOfSeconds x = .ok deadline
  rcases Datum.orElse_eq_ok hTime with ⟨position, content, hCell, hContent⟩ | ⟨hNone, rfl⟩
  · -- the field is given, as a number that is a deadline
    rw [deadlineOfDatum] at hContent
    cases hNumber : content.asBinary .double with
    | error fault =>
      rw [hNumber] at hContent
      cases hContent
    | ok x =>
      rw [hNumber] at hContent
      have hDeadline : deadlineOfSeconds x = .ok deadline := by
        cases hSeconds : deadlineOfSeconds x with
        | error fault =>
          simp only [bind, Except.bind, hSeconds] at hContent
          cases hContent
        | ok t =>
          simp only [bind, Except.bind, hSeconds] at hContent
          exact congrArg Except.ok (Except.ok.inj hContent)
      have hOf := Datum.isOf_of_asBinary (hCells _ (Datum.mem_of_cell? hCell)) hNumber
      refine ⟨x, hOthers ?_, hOf, hDeadline⟩
      simp only [Fields.orElse, Fields.read, hCell, hNumber]
      rfl
  · refine ⟨defaultSeconds, hOthers ?_, Binary.isOf_ofNat 30, deadlineOfSeconds_defaultSeconds⟩
    simp only [Fields.orElse, Fields.read, hNone]
    rfl

/-- What becomes of a template that was read from a document. Its deadline is the number
of seconds given, which is some time iff more than half a nanosecond is given; and the
template is read again as it was iff its deadline is some time, and else it is refused. -/
structure Rereading (dialect : Dialect) (d : Datum) (t : Template) : Prop where
  read : ofDatum dialect d = .ok t
  seconds : ∃ x, secondsOf dialect d = .ok x ∧ deadlineOfSeconds x = .ok t.deadline ∧
    (t.deadline ≠ .zero ↔ 1 / 2 < x.magnitude * 10 ^ 9)
  again : ofDatum .json (.ofJson t.toJson) = .ok t ↔ t.deadline ≠ .zero
  refused : t.deadline = .zero → ofDatum .json (.ofJson t.toJson) = .error zeroSeconds

/-- A template that is read and written again is read back, if its deadline is. -/
theorem rereading_of_ofDatum {d : Datum} (hProper : d.IsProper)
    (hRead : ofDatum dialect d = .ok t) : t.Rereading dialect d := by
  obtain ⟨x, hSeconds, hOf, hDeadline⟩ := exists_seconds hProper hRead
  have hTime : t.deadline ≠ .zero ↔ 1 / 2 < x.magnitude * 10 ^ 9 := by
    rw [← not_le, ne_eq, eq_zero_iff_of_deadlineOfSeconds hDeadline]
  refine
    { read := hRead
      seconds := ⟨x, hSeconds, hDeadline, hTime⟩
      again := ⟨fun hAgain hZero => ?_, fun hSome => ?_⟩
      refused := ofDatum_toJson_of_zero }
  · rw [ofDatum_toJson_of_zero hZero] at hAgain
    cases hAgain
  · exact ofDatum_toJson (deadlineOfDatum_deadlineJson hOf hDeadline hSome)

end Template

/-! ## Templates of sets and of configurations -/

namespace TemplateSet

variable {s : TemplateSet} {w : Workflow} {t : Template}

/-- A template is kept under the label of its workflow. -/
theorem readMember_eq_ok {m : Option String × Datum} {entry : Workflow × Template}
    (hRead : readMember m = .ok entry) :
    m.1 = some entry.1.label ∧ Template.ofDatum .json m.2 = .ok entry.2 := by
  obtain ⟨name, d⟩ := m
  cases name with
  | none => cases hRead
  | some name =>
    rw [readMember] at hRead
    cases hName : Workflow.ofLabel? name with
    | none =>
      simp only [hName] at hRead
      cases hRead
    | some w =>
      cases hTemplate : Template.ofDatum .json d with
      | error fault =>
        simp only [hName, hTemplate] at hRead
        cases hRead
      | ok t =>
        simp only [hName, hTemplate] at hRead
        obtain rfl : (w, t) = entry := Except.ok.inj hRead
        exact ⟨congrArg some (Workflow.ofLabel?_eq_some_iff.mp hName), rfl⟩

/-- A template of a set was read from some member of its document. -/
theorem exists_document {d : Datum} (hProper : d.IsProper) (hRead : ofDatum d = .ok s)
    (hTemplate : s.get? w = some t) : ∃ d', d'.IsProper ∧ Template.ofDatum .json d' = .ok t := by
  cases hProper with
  | @record members hMembers =>
    rw [ofDatum] at hRead
    cases hEntries : members.mapM readMember with
    | error fault =>
      rw [hEntries] at hRead
      cases hRead
    | ok entries =>
      rw [hEntries] at hRead
      obtain rfl := Except.ok.inj hRead
      rw [get?_insertAll, show empty.get? w = none from rfl, Option.or_none] at hTemplate
      obtain ⟨entry, hFound, rfl⟩ := Option.map_eq_some_iff.mp hTemplate
      have hMem := List.mem_reverse.mp (List.mem_of_find?_eq_some hFound)
      obtain ⟨m, hm, hMember⟩ := (mem_of_mapM_ok _ hEntries).mp hMem
      exact ⟨m.2, hMembers m hm, (readMember_eq_ok hMember).2⟩
  | _ => cases hRead

/-- A set is the list of its templates. -/
theorem mem_toList_iff : (w, t) ∈ s.toList ↔ s.get? w = some t := by
  have hAll : w ∈ Workflow.all := by cases w <;> decide
  rw [toList, List.mem_filterMap]
  constructor
  · rintro ⟨w', -, hFound⟩
    obtain ⟨t', hTemplate, hEq⟩ := Option.map_eq_some_iff.mp hFound
    obtain ⟨rfl, rfl⟩ := Prod.mk.inj hEq
    exact hTemplate
  · intro hTemplate
    exact ⟨w, hAll, by rw [hTemplate]; rfl⟩

/-- The members that a set is written with. -/
def members (s : TemplateSet) : List (String × Json) :=
  s.toList.map fun e => (e.1.label, e.2.toJson)

theorem toJson_eq (s : TemplateSet) : s.toJson = .object s.members := rfl

theorem keys_members (s : TemplateSet) : (s.members.map Prod.fst).Nodup := by
  have hWorkflows : (s.toList.map Prod.fst).Sublist Workflow.all := by
    have hAt : ∀ w, ((s.get? w).map (w, ·)).map Prod.fst = (s.get? w).map fun _ => w := by
      intro w
      cases s.get? w <;> rfl
    rw [toList, List.map_filterMap]
    simp only [hAt]
    induction Workflow.all with
    | nil => exact .slnil
    | cons w rest ih =>
      rw [List.filterMap_cons]
      cases s.get? w with
      | none => exact ih.cons w
      | some t => exact ih.cons_cons w
  have hLabels : s.members.map Prod.fst = (s.toList.map Prod.fst).map Workflow.label := by
    rw [members, List.map_map, List.map_map]
    rfl
  rw [hLabels]
  exact (hWorkflows.map _).nodup (by decide)

/-- A set is what its own entries make up. -/
theorem insertAll_eq {entries : List (Workflow × Template)}
    (hEntries : ∀ w t, (w, t) ∈ entries ↔ s.get? w = some t) : empty.insertAll entries = s := by
  have hGet : (empty.insertAll entries).get? = s.get? := by
    funext w
    rw [get?_insertAll, show empty.get? w = none from rfl, Option.or_none]
    cases hFound : entries.reverse.find? fun e => decide (w = e.1) with
    | some e =>
      have hMem := List.mem_reverse.mp (List.mem_of_find?_eq_some hFound)
      have hWorkflow : w = e.1 := by simpa using List.find?_some hFound
      rw [Option.map_some, hWorkflow]
      exact ((hEntries e.1 e.2).mp hMem).symm
    | none =>
      cases hTemplate : s.get? w with
      | none => rfl
      | some t =>
        have hMem := List.mem_reverse.mpr ((hEntries w t).mpr hTemplate)
        have hNot := List.find?_eq_none.mp hFound (w, t) hMem
        simp at hNot
  exact congrArg TemplateSet.mk hGet

/-- A set is read back if each of its templates is. -/
theorem ofDatum_toJson
    (hTemplates : ∀ w t, s.get? w = some t → Template.ofDatum .json (.ofJson t.toJson) = .ok t) :
    ofDatum (.ofJson s.toJson) = .ok s := by
  have hSame := Table.entries_ofList_perm s.keys_members
  -- each member that is written is read as the template that it was written from
  have hMember : ∀ w t, s.get? w = some t →
      readMember (some w.label, .ofJson t.toJson) = .ok (w, t) := by
    intro w t hTemplate
    simp only [readMember, Workflow.ofLabel?_eq_some_iff.mpr rfl, hTemplates w t hTemplate]
    rfl
  have hWritten : ∀ m ∈ (Table.ofList s.members).entries, ∃ w t, s.get? w = some t ∧
      m = (w.label, t.toJson) := by
    intro m hMem
    obtain ⟨⟨w, t⟩, hListed, rfl⟩ := List.mem_map.mp (hSame.mem_iff.mp hMem)
    exact ⟨w, t, mem_toList_iff.mp hListed, rfl⟩
  rw [toJson_eq, Json.object, Datum.ofJson, Datum.ofMembers_eq, ofDatum]
  set written := (Table.ofList s.members).entries.map fun m => (some m.1, Datum.ofJson m.2)
    with hList
  obtain ⟨entries, hEntries⟩ : ∃ entries, written.mapM readMember = .ok entries := by
    apply exists_mapM_ok
    intro m hMem
    obtain ⟨m, hm, rfl⟩ := List.mem_map.mp hMem
    obtain ⟨w, t, hTemplate, rfl⟩ := hWritten m hm
    exact ⟨_, hMember w t hTemplate⟩
  have hEntry : ∀ w t, (w, t) ∈ entries ↔ s.get? w = some t := by
    intro w t
    rw [mem_of_mapM_ok _ hEntries]
    constructor
    · rintro ⟨m, hMem, hRead⟩
      obtain ⟨m, hm, rfl⟩ := List.mem_map.mp hMem
      obtain ⟨w', t', hTemplate, rfl⟩ := hWritten m hm
      obtain ⟨rfl, rfl⟩ := Prod.mk.inj (Except.ok.inj ((hMember w' t' hTemplate).symm.trans hRead))
      exact hTemplate
    · intro hTemplate
      refine ⟨_, List.mem_map.mpr ⟨(w.label, t.toJson), ?_, rfl⟩, hMember w t hTemplate⟩
      exact hSame.mem_iff.mpr (List.mem_map.mpr ⟨(w, t), mem_toList_iff.mpr hTemplate, rfl⟩)
  rw [hEntries]
  exact congrArg Except.ok (insertAll_eq hEntry)

end TemplateSet

namespace Datum

variable {α : Type} {reader : Datum → Reading α}

/-- An entry that is read was read from a part of the document. -/
theorem exists_document_of_asEntries {d : Datum} {entries : List (String × α)}
    {e : String × α} (hProper : d.IsProper) (hRead : d.asEntries reader = .ok entries)
    (hMem : e ∈ entries) : ∃ d', d'.IsProper ∧ reader d' = .ok e.2 := by
  induction hProper with
  | @record members hMembers =>
    -- the entry comes from a member of the record, whose value was read
    obtain ⟨⟨name, d⟩, hm, hEntry⟩ := (mem_of_mapM_ok _ hRead).mp hMem
    cases name with
    | none => cases hEntry
    | some name =>
      refine ⟨d, hMembers _ hm, ?_⟩
      rw [readEntry] at hEntry
      cases hValue : reader d with
      | error fault =>
        rw [hValue] at hEntry
        cases hEntry
      | ok x =>
        rw [hValue] at hEntry
        obtain rfl := Except.ok.inj hEntry
        rfl
  | tagged tag _ ih => exact ih hRead
  | plain s =>
    by_cases hEmpty : s = ""
    · subst hEmpty
      obtain rfl := Except.ok.inj hRead
      exact absurd hMem List.not_mem_nil
    · rw [asEntries] at hRead
      · cases hRead
      all_goals simp_all
  | _ => cases hRead

end Datum

/-- A template of a configuration was read from some part of its document. -/
theorem Config.exists_document {dialect : Dialect} {d : Datum} {c : Config}
    {e : String × Template} (hProper : d.IsProper) (hRead : ofDatum dialect d = .ok c)
    (hMem : e ∈ c.templates.entries) :
    ∃ d', d'.IsProper ∧ Template.ofDatum dialect d' = .ok e.2 := by
  obtain ⟨fs, hMade, hCells, -⟩ := Datum.asStructure_eq_ok hProper hRead
  -- the fields from the last to the first
  obtain ⟨_, telemetry, hBefore, -, rfl⟩ := Located.seq_eq_ok_iff.mp hMade
  obtain ⟨_, chat, hGates, -, rfl⟩ := Located.seq_eq_ok_iff.mp hBefore
  obtain ⟨_, gates, hFirst, -, rfl⟩ := Located.seq_eq_ok_iff.mp hGates
  obtain ⟨templates, hTemplates, rfl⟩ := Located.map_eq_ok_iff.mp hFirst
  change e ∈ templates.entries at hMem
  rcases Datum.orElse_eq_ok hTemplates with ⟨position, content, hCell, hContent⟩ | ⟨-, rfl⟩
  · rw [Datum.asTable] at hContent
    cases hEntries : content.asEntries (Template.ofDatum dialect) with
    | error fault =>
      rw [hEntries] at hContent
      cases hContent
    | ok entries =>
      rw [hEntries] at hContent
      obtain rfl := Except.ok.inj hContent
      exact Datum.exists_document_of_asEntries (hCells _ (Datum.mem_of_cell? hCell)) hEntries
        (Table.mem_of_mem_ofList hMem)
  · exact absurd hMem List.not_mem_nil

/-! ## Reading again -/

namespace Template

/-- Whatever document with numbers of the format a template is read from, by itself, in a set
or in a configuration: it has some time and is read again as it was iff more than half a
nanosecond is given for it. A set without templates that have no time is read again as
it was. -/
theorem templates_are_read_again (dialect : Dialect) (d : Datum) (hProper : d.IsProper) :
    (∀ t, ofDatum dialect d = .ok t → t.Rereading dialect d) ∧
    (∀ s, TemplateSet.ofDatum d = .ok s →
      (∀ w t, s.get? w = some t → ∃ d', t.Rereading .json d') ∧
      ((∀ w t, s.get? w = some t → t.deadline ≠ .zero) →
        TemplateSet.ofDatum (.ofJson s.toJson) = .ok s)) ∧
    ∀ c, Config.ofDatum dialect d = .ok c →
      ∀ e ∈ c.templates.entries, ∃ d', e.2.Rereading dialect d' := by
  refine ⟨fun t => rereading_of_ofDatum hProper, fun s hRead => ?_, fun c hRead e hMem => ?_⟩
  · have hEach : ∀ w t, s.get? w = some t → ∃ d', t.Rereading .json d' := by
      intro w t hTemplate
      obtain ⟨d', hProper', hRead'⟩ := TemplateSet.exists_document hProper hRead hTemplate
      exact ⟨d', rereading_of_ofDatum hProper' hRead'⟩
    refine ⟨hEach, fun hTimes => TemplateSet.ofDatum_toJson ?_⟩
    intro w t hTemplate
    obtain ⟨d', hRereading⟩ := hEach w t hTemplate
    exact hRereading.again.mpr (hTimes w t hTemplate)
  · obtain ⟨d', hProper', hRead'⟩ := Config.exists_document hProper hRead hMem
    exact ⟨d', rereading_of_ofDatum hProper' hRead'⟩

/-- A second and a half comes back as a second and a half. -/
theorem templates_are_read_again_halves :
    let d := (Json.Source.ofText
      "\x7b\"required_categories\":[\"code\"],\"max_execution_time\":1.5\x7d").root
    let t : Template := { ofRequired [.code] with deadline := .ofMillis 1500 }
    ofDatum .json d = .ok t ∧ ofDatum .json (.ofJson t.toJson) = .ok t := by
  intro d t
  have hRead : ofDatum .json d = .ok t := by decide +kernel
  have hAll := templates_are_read_again .json d (Json.isProper_ofText _)
  exact ⟨hRead, (hAll.1 t hRead).again.mpr (by decide)⟩

/-- A tenth of a nanosecond is a positive number of seconds, and a deadline without any
time: what is written for it cannot be read again. -/
theorem tiny_deadline_is_lost :
    let d := (Json.Source.ofText
      "\x7b\"required_categories\":[\"code\"],\"max_execution_time\":1e-10\x7d").root
    let t : Template := { ofRequired [.code] with deadline := .zero }
    ofDatum .json d = .ok t ∧ ofDatum .json (.ofJson t.toJson) =
      .error (.deadline (.notPositive (.zero .double false))) := by
  decide +kernel

end Template

end ReviewPanel
