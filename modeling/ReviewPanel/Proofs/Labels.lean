import Mathlib.Data.List.DropRight
import ReviewPanel.Chat.Router
import ReviewPanel.Proofs.Lowercase
import ReviewPanel.Proofs.Templates

/-!
# Labels — which texts are read as one

Workflows, types of chat, categories and severities are named by labels. A text is read as the
label that is left of it without the blank characters at its ends and in lowercase, where
lowercase is meant for all characters. But labels are made of letters that are the lowercase of
nothing beyond ASCII, so what is read are the *spellings* of a label, in which only ASCII letters
may be of another case. A text with a character beyond ASCII between its first and its last
character that are not blank is not read, whatever the lowercase of that character is.

The four readers differ in their labels alone. `ReadsExactly` says what all of them do, and
`readsExactly_of` is the argument for any table of plain labels.

* `isCore_iff`             — what is left of a text without the blank characters at its ends.
* `spells_iff`             — for plain labels, both ways of lowercasing find the same spellings.
* `Spells.ascii`           — a spelling has nothing beyond ASCII in between.
* `labels_are_read_exactly` — all four readers.
-/

namespace ReviewPanel

namespace Text

variable {front back core text : List Char}

/-! ## Texts without their blank ends -/

/-- What is between the blank characters at the ends of a text. -/
structure IsCore (core text : List Char) : Prop where
  within : ∃ front back, text = front ++ core ++ back ∧ (∀ x ∈ front, isBlank x = true) ∧
    ∀ x ∈ back, isBlank x = true
  first  : ∀ x ∈ core.head?, isBlank x = false
  last   : ∀ x ∈ core.getLast?, isBlank x = false

/-- Blanks in front of a text are trimmed away. -/
theorem trimLeft_append (hFront : ∀ x ∈ front, isBlank x = true) :
    trimLeft (front ++ text) = trimLeft text :=
  List.dropWhile_append_of_pos hFront

/-- So are blanks behind it. -/
theorem trimRight_append (hBack : ∀ x ∈ back, isBlank x = true) :
    trimRight (text ++ back) = trimRight text := by
  have hReverse : ∀ x ∈ back.reverse, isBlank x = true := fun x hx => hBack x (List.mem_reverse.mp hx)
  rw [trimRight, List.reverse_append, trimLeft_append hReverse, trimRight]

/-- A text that does not start with a blank stays. -/
theorem trimLeft_eq_self (hFirst : ∀ x ∈ text.head?, isBlank x = false) : trimLeft text = text := by
  cases text with
  | nil => rfl
  | cons c rest => exact List.dropWhile_cons_of_neg (by simp [hFirst c rfl])

/-- So does one that does not end with a blank. -/
theorem trimRight_eq_self (hLast : ∀ x ∈ text.getLast?, isBlank x = false) :
    trimRight text = text := by
  rw [trimRight, trimLeft_eq_self, List.reverse_reverse]
  rwa [List.head?_reverse]

theorem trimLeft_first (text : List Char) : ∀ x ∈ (trimLeft text).head?, isBlank x = false := by
  intro x hx
  have hNot := List.head?_dropWhile_not isBlank text
  rw [← trimLeft, hx] at hNot
  simpa using hNot

/-- What trimming leaves is the core of the text. -/
theorem isCore_trimChars (text : List Char) : IsCore (trimChars text) text := by
  have hLeft : text.takeWhile isBlank ++ trimLeft text = text := List.takeWhile_append_dropWhile
  have hRight : trimChars text ++ (trimLeft text).rtakeWhile isBlank = trimLeft text :=
    List.rdropWhile_append_rtakeWhile
  refine ⟨⟨text.takeWhile isBlank, (trimLeft text).rtakeWhile isBlank, ?_, ?_, ?_⟩, ?_, ?_⟩
  · rw [List.append_assoc, hRight, hLeft]
  · exact fun x hx => List.mem_takeWhile_imp hx
  · exact fun x hx => List.mem_rtakeWhile_imp hx
  · -- what is dropped at the end does not change the first character
    intro x hx
    refine trimLeft_first text x ?_
    rw [← hRight, List.head?_append_of_ne_nil _ (by rintro hNil; simp [hNil] at hx)]
    exact hx
  · intro x hx
    rw [trimChars, trimRight, List.getLast?_reverse] at hx
    exact trimLeft_first _ x hx

/-- Only one text is left of a text without the blank characters at its ends. -/
theorem isCore_iff : IsCore core text ↔ core = trimChars text := by
  constructor
  · rintro ⟨⟨front, back, rfl, hFront, hBack⟩, hFirst, hLast⟩
    rw [trimChars, List.append_assoc, trimLeft_append hFront]
    cases core with
    | nil =>
      rw [List.nil_append, trimLeft, List.dropWhile_eq_nil_iff.mpr hBack]
      rfl
    | cons c rest =>
      have hStays : trimLeft (c :: rest ++ back) = c :: rest ++ back :=
        trimLeft_eq_self fun x hx => hFirst x hx
      rw [hStays, trimRight_append hBack, trimRight_eq_self hLast]
  · rintro rfl
    exact isCore_trimChars text

/-! ## Spellings -/

/-- A text that is a label, blank characters at its ends and the case of ASCII letters aside. -/
def Spells (text label : String) : Prop :=
  ∃ core, IsCore core text.toList ∧ core.map Char.toLower = label.toList.map Char.toLower

/-- A label in lowercase, of characters that are the lowercase of nothing beyond ASCII. -/
def IsPlainLabel (label : String) : Prop :=
  label.toList.all isPlain = true ∧ label.toList.map Char.toLower = label.toList

instance (label : String) : Decidable (IsPlainLabel label) :=
  inferInstanceAs (Decidable (_ ∧ _))

variable {label s : String}

/-- A text spells a label iff it is the label once trimmed and lowercased. -/
theorem spells_iff (hPlain : IsPlainLabel label) :
    Spells s label ↔ lowercase (trim s) = label := by
  obtain ⟨hTold, hLower⟩ := hPlain
  have hAscii : lowerAscii (trim s) = label ↔ (trimChars s.toList).map Char.toLower = label.toList := by
    rw [lowerAscii, trim, String.toList_ofList, ← String.toList_inj, String.toList_ofList]
  rw [lowercase_eq_iff hTold, hAscii, Spells, hLower]
  simp only [isCore_iff, exists_eq_left]

/-- A character with others that are not blank on both sides, or not blank itself. -/
def StandsWithin (c : Char) (text : List Char) : Prop :=
  ∃ front back, text = front ++ c :: back ∧ (∃ x ∈ front ++ [c], isBlank x = false) ∧
    ∃ x ∈ c :: back, isBlank x = false

/-- Blank characters are dropped at most up to where one is that is not blank. -/
theorem exists_trimLeft_eq {c : Char} {before : List Char}
    (hSome : ∃ x ∈ before ++ [c], isBlank x = false) (after : List Char) :
    ∃ stays, trimLeft (before ++ c :: after) = stays ++ c :: after := by
  obtain ⟨x, hx, hFirst⟩ := hSome
  by_cases hBefore : ∀ y ∈ before, isBlank y = true
  · have hHere : isBlank c = false := by
      rcases List.mem_append.mp hx with hMem | hMem
      · rw [hBefore x hMem] at hFirst
        cases hFirst
      · rwa [List.mem_singleton.mp hMem] at hFirst
    exact ⟨[], by rw [trimLeft_append hBefore, trimLeft_eq_self (by simp [hHere]), List.nil_append]⟩
  · refine ⟨trimLeft before, ?_⟩
    rw [trimLeft, List.dropWhile_append, if_neg]
    · rfl
    · rwa [List.isEmpty_iff, List.dropWhile_eq_nil_iff]

theorem StandsWithin.mem_trimChars {c : Char} (hWithin : StandsWithin c text) :
    c ∈ trimChars text := by
  obtain ⟨before, after, rfl, hBefore, x, hx, hLast⟩ := hWithin
  obtain ⟨stays, hLeft⟩ := exists_trimLeft_eq hBefore after
  -- from the other end it is the same
  have hAfter : ∃ y ∈ after.reverse ++ [c], isBlank y = false :=
    ⟨x, by simpa [or_comm] using hx, hLast⟩
  obtain ⟨stays', hRight⟩ := exists_trimLeft_eq hAfter stays.reverse
  have hReverse : (stays ++ c :: after).reverse = after.reverse ++ c :: stays.reverse := by simp
  rw [trimChars, hLeft, trimRight, hReverse, hRight]
  simp

/-- A spelling of a plain label has nothing beyond ASCII between its first and its last character
that are not blank. -/
theorem Spells.ascii {c : Char} (hSpells : Spells s label) (hPlain : IsPlainLabel label)
    (hWithin : StandsWithin c s.toList) : c.toNat < 128 := by
  obtain ⟨core, hCore, hLetters⟩ := hSpells
  by_contra hNot
  have hBeyond : 128 ≤ c.toNat := Nat.le_of_not_lt hNot
  have hMem : c ∈ core := isCore_iff.mp hCore ▸ hWithin.mem_trimChars
  -- no letter of ASCII becomes such a character, which stays as it is
  have hThere : c.toLower ∈ core.map Char.toLower := List.mem_map_of_mem hMem
  rw [hLetters, hPlain.2, toLower_of_beyond hBeyond] at hThere
  have hTold := List.all_eq_true.mp hPlain.1 c hThere
  rw [isPlain, Bool.and_eq_true, decide_eq_true_iff] at hTold
  exact hNot hTold.1

end Text

open Text

/-! ## Readers -/

/-- A reader that reads the spellings of the labels of its values, and nothing else: whatever
stands between the first and the last character that are not blank, it is ASCII. -/
structure ReadsExactly {α : Type} (reads : String → α → Prop) (labels : α → List String) : Prop where
  reads_iff : ∀ text value, reads text value ↔ ∃ label ∈ labels value, Spells text label
  ascii     : ∀ text value, reads text value → ∀ c, StandsWithin c text.toList → c.toNat < 128

/-- It makes no difference for plain labels that a reader compares with the lowercase of all
characters. -/
theorem readsExactly_of {α : Type} {reads : String → α → Prop} {labels : α → List String}
    (hReads : ∀ text value, reads text value ↔ lowercase (trim text) ∈ labels value)
    (hPlain : ∀ value, ∀ label ∈ labels value, IsPlainLabel label) : ReadsExactly reads labels := by
  have hIff : ∀ text value, reads text value ↔ ∃ label ∈ labels value, Spells text label := by
    intro text value
    rw [hReads]
    constructor
    · exact fun hMem => ⟨_, hMem, (spells_iff (hPlain value _ hMem)).mpr rfl⟩
    · rintro ⟨label, hMem, hSpells⟩
      rwa [(spells_iff (hPlain value label hMem)).mp hSpells]
  refine ⟨hIff, fun text value hRead c hWithin => ?_⟩
  obtain ⟨label, hMem, hSpells⟩ := (hIff text value).mp hRead
  exact hSpells.ascii (hPlain value label hMem) hWithin

/-- The labels of a category; testing has two. -/
def Category.labels : Category → List String
  | .testing => ["testing", "test"]
  | c => [c.label]

/-- The labels of a severity; the lowest one is read from whatever is no label of another. -/
def Severity.labels : Severity → List String
  | .info => []
  | s => [s.label]

/-- Where all values have labels of their own, a label finds its value. -/
theorem find?_label_eq_some_iff {α : Type} {all : List α} {label : α → String}
    (hAll : ∀ value, value ∈ all) (hOwn : Function.Injective label) {name : String} {value : α} :
    (all.find? fun x => label x == name) = some value ↔ name = label value := by
  constructor
  · intro hFound
    have hLabel := List.find?_some hFound
    exact (beq_iff_eq.mp hLabel).symm
  · rintro rfl
    have hSome : (all.find? fun x => label x == label value).isSome = true :=
      List.find?_isSome.mpr ⟨value, hAll value, beq_self_eq_true (label value)⟩
    obtain ⟨other, hOther⟩ := Option.isSome_iff_exists.mp hSome
    have hLabel := List.find?_some hOther
    rw [hOther, hOwn (beq_iff_eq.mp hLabel)]

theorem ChatType.mem_all (t : ChatType) : t ∈ all := by cases t <;> decide

theorem ChatType.label_injective : Function.Injective label := by
  intro t t' hEq
  cases t <;> cases t' <;> first | rfl | exact absurd hEq (by decide)

/-- A type of chat is read from its only label. -/
theorem ChatType.parse_eq_ok_iff {text : String} {t : ChatType} :
    parse text = .ok t ↔ lowercase (trim text) ∈ [t.label] := by
  have hLabel : ofLabel? (lowercase (trim text)) = some t ↔ lowercase (trim text) = t.label :=
    find?_label_eq_some_iff mem_all label_injective
  rw [List.mem_singleton, ← hLabel, parse]
  cases ofLabel? (lowercase (trim text)) <;> simp

theorem Category.mem_all (c : Category) : c ∈ all := by cases c <;> decide

theorem Category.label_injective : Function.Injective label := by
  intro c c' hEq
  cases c <;> cases c' <;> first | rfl | exact absurd hEq (by decide)

/-- A category is read from any of its labels. -/
theorem Category.parse?_eq_some_iff {text : String} {c : Category} :
    parse? text = some c ↔ lowercase (trim text) ∈ c.labels := by
  have hLabel : ofLabel? (lowercase (trim text)) = some c ↔ lowercase (trim text) = c.label :=
    find?_label_eq_some_iff mem_all label_injective
  rw [parse?, normalize]
  split
  · -- the other name of testing
    rename_i hTest
    rw [hTest]
    cases c <;> decide
  · rename_i hOther
    rw [hLabel]
    cases c <;> simp [labels, label, hOther]

/-- So is a severity above informational; informational is what any other text is read as. -/
theorem Severity.parse_eq_iff {text : String} {s : Severity} :
    parse text = s ∧ s ≠ .info ↔ lowercase (trim text) ∈ s.labels := by
  unfold parse
  split
  case h_5 hCritical hHigh hMedium hLow =>
    cases s with
    | info => simp [labels]
    | low => simpa [labels, label] using hLow
    | medium => simpa [labels, label] using hMedium
    | high => simpa [labels, label] using hHigh
    | critical => simpa [labels, label] using hCritical
  -- each of the four names is a label of its own severity only
  all_goals
    rename_i hName
    rw [hName]
    cases s <;> decide

/--
**Labels are read exactly.** Take any text. It is read as a workflow, a type of chat or a category
iff it spells a label of it, and as a severity other than the lowest iff it spells the label of that
severity; a category may also be spelled `test`. Spellings are equal to their label but for blank
characters at their ends, as Unicode has them, and the case of ASCII letters. So no text that is
read has a character beyond ASCII between its first and its last character that are not blank,
whatever the lowercase of that character is.
-/
theorem labels_are_read_exactly :
    ReadsExactly (fun text w => Workflow.parse text = .ok w) (fun w => [w.label]) ∧
      ReadsExactly (fun text t => ChatType.parse text = .ok t) (fun t => [t.label]) ∧
      ReadsExactly (fun text c => Category.parse? text = some c) Category.labels ∧
      ReadsExactly (fun text s => Severity.parse text = s ∧ s ≠ .info) Severity.labels := by
  refine ⟨readsExactly_of ?_ ?_, readsExactly_of ?_ ?_, readsExactly_of ?_ ?_, readsExactly_of ?_ ?_⟩
  · intro text w
    rw [Workflow.parse_eq_ok_iff, List.mem_singleton, Workflow.IsNamedBy]
  · intro w
    cases w <;> decide
  · exact fun _ _ => ChatType.parse_eq_ok_iff
  · intro t
    cases t <;> decide
  · exact fun _ _ => Category.parse?_eq_some_iff
  · intro c
    cases c <;> decide
  · exact fun _ _ => Severity.parse_eq_iff
  · intro s
    cases s <;> decide

/-- The dotted capital I does not pass for an i. -/
example : Severity.parse " HIGH\n" = .high ∧ Severity.parse "H\u0130GH" = .info := by
  decide +kernel

end ReviewPanel
