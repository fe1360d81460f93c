import Mathlib.Data.String.Basic
import ReviewPanel.Proofs.Search
import ReviewPanel.Text.Lowercase

/-!
# Lowercase — two ways that agree on names

Texts are lowercased in two ways: the ASCII letters alone, or every character
by the case tables. Beyond ASCII the tables lead to ASCII in one place, from
the sign of the kelvin to the letter k. So on texts without a k, such as the
names of extensions, it does not matter in which way a text is compared.

By the case tables no character leads to one that has another lowercase in turn.
So a text in lowercase is its own lowercase, final sigmas and all.

The dotted capital I leaves an i and a dot. So on pieces of texts, without an i and
a k, it does not matter either in which way they are looked for.

* `exists_not_plain_lowerChar` — what is beyond ASCII stays recognizable.
* `lowercase_eq_iff`           — both ways lead to the same plain texts.
* `contains_lowercase_iff`     — and to texts with the same clear pieces.
* `lowerChar_of_mem`           — no lowercase has another lowercase.
* `lowercase_lowercase`        — lowercasing twice is lowercasing once.
-/

namespace ReviewPanel.Text

/-- An ASCII character that is the lowercase of nothing beyond ASCII. -/
def isPlain (c : Char) : Bool := c.toNat < 128 && c != 'k'

/-! ## Single characters -/

/-- A run whose characters have a lowercase beyond ASCII. -/
def CaseRun.StaysBeyond (r : CaseRun) : Prop :=
  128 ≤ r.first + r.offset ∧
    (r.last + r.offset < 0xD800 ∨ 0xE000 ≤ r.first + r.offset ∧ r.last + r.offset < 0x110000)

instance (r : CaseRun) : Decidable r.StaysBeyond := inferInstanceAs (Decidable (_ ∧ _))

/-- The only run that does not stay beyond ASCII is that of the sign of the kelvin. -/
theorem staysBeyond_of_mem_caseRuns :
    ∀ r ∈ caseRuns, (r.first = 8490 ∧ r.last = 8490 ∧ r.offset = -8383) ∨ r.StaysBeyond := by
  decide +kernel

/-- A valid code is that of its character. -/
theorem toNat_ofNat_of_valid {n : Nat} (hValid : n.isValidChar) : (Char.ofNat n).toNat = n := by
  rw [Char.ofNat, dif_pos hValid]
  rfl

/-- Where a run that stays beyond ASCII leads a character. -/
theorem CaseRun.StaysBeyond.toNat_image {r : CaseRun} {n : Nat} (hBeyond : r.StaysBeyond)
    (hHolds : r.holds n = true) :
    ((Char.ofNat (Int.ofNat n + r.offset).toNat).toNat : Int) = n + r.offset ∧
      128 ≤ (n : Int) + r.offset := by
  obtain ⟨hLow, hRange⟩ := hBeyond
  simp only [CaseRun.holds, Bool.and_eq_true, decide_eq_true_eq] at hHolds
  obtain ⟨⟨hFirst, hLast⟩, -⟩ := hHolds
  have hValid : (Int.ofNat n + r.offset).toNat.isValidChar := by
    simp only [Nat.isValidChar, Int.ofNat_eq_natCast]
    omega
  rw [toNat_ofNat_of_valid hValid, Int.ofNat_eq_natCast]
  omega

/-- The lower case of the library leaves all but ASCII as it is. -/
theorem toLower_of_beyond {c : Char} (hBeyond : 128 ≤ c.toNat) : c.toLower = c := by
  have hOther : ¬ (c.val ≥ 'A'.val ∧ c.val ≤ 'Z'.val) := by
    rintro ⟨-, hZ⟩
    have hSmall : c.toNat ≤ 90 := UInt32.le_iff_toNat_le.mp hZ
    omega
  exact dif_neg hOther

/-- Whatever is beyond ASCII leaves a trace in its lowercase that is not plain. -/
theorem exists_not_plain_lowerChar {c : Char} (hBeyond : 128 ≤ c.toNat) :
    ∃ d ∈ lowerChar c, isPlain d = false := by
  rw [lowerChar, if_neg (by omega)]
  split
  · -- the dotted capital I leaves its dot
    exact ⟨Char.ofNat 775, by simp, by decide⟩
  · split
    · rename_i r hFound
      refine ⟨_, List.mem_singleton_self _, ?_⟩
      have hHolds := List.find?_some hFound
      obtain ⟨hStart, hEnd, hOffset⟩ | hStays :=
        staysBeyond_of_mem_caseRuns r (List.mem_of_find?_eq_some hFound)
      · -- only the Kelvin sign goes to ASCII
        have hKelvin : c.toNat = 8490 := by
          simp only [CaseRun.holds, Bool.and_eq_true, decide_eq_true_eq] at hHolds
          omega
        rw [hKelvin, hOffset]
        decide
      · -- every other run stays beyond ASCII
        obtain ⟨hImage, hFar⟩ := hStays.toNat_image hHolds
        rw [isPlain, Bool.and_eq_false_iff, decide_eq_false_iff_not]
        left
        omega
    · refine ⟨c, List.mem_singleton_self _, ?_⟩
      simp [isPlain]
      omega

/-! ## Texts -/

/-- The lowercase of the first character of a text, given the characters before it. -/
def lowerHead (before : List Char) (c : Char) (rest : List Char) : List Char :=
  if c = 'Σ' then [lowerSigma before rest] else lowerChar c

/-- A text is lowered character by character, with what stands before and behind. -/
theorem lowerFrom_cons {before rest : List Char} {c : Char} :
    lowerFrom before (c :: rest) = lowerHead before c rest ++ lowerFrom (c :: before) rest := rfl

/-- A character becomes one character, or an i and a dot. -/
theorem lowerHead_cases (before : List Char) (c : Char) (rest : List Char) :
    lowerHead before c rest = ['i', Char.ofNat 775] ∨ ∃ d, lowerHead before c rest = [d] := by
  unfold lowerHead lowerChar
  split
  · exact Or.inr ⟨_, rfl⟩
  · split
    · exact Or.inr ⟨_, rfl⟩
    · split
      · exact Or.inl rfl
      · split
        · exact Or.inr ⟨_, rfl⟩
        · exact Or.inr ⟨_, rfl⟩

theorem lowerHead_ne_nil {before rest : List Char} {c : Char} : lowerHead before c rest ≠ [] := by
  rcases lowerHead_cases before c rest with hDotted | ⟨d, hSingle⟩
  · rw [hDotted]
    exact List.cons_ne_nil _ _
  · rw [hSingle]
    exact List.cons_ne_nil _ _

/-- In ASCII, nothing depends on what stands around. -/
theorem lowerHead_of_ascii {before rest : List Char} {c : Char} (hAscii : c.toNat < 128) :
    lowerHead before c rest = [c.toLower] := by
  have hSigma : c ≠ 'Σ' := by
    rintro rfl
    exact absurd hAscii (by decide)
  rw [lowerHead, if_neg hSigma, lowerChar, if_pos hAscii]

/-- Beyond ASCII, some character is left that is no plain one. -/
theorem exists_not_plain_lowerHead {before rest : List Char} {c : Char} (hBeyond : 128 ≤ c.toNat) :
    ∃ d ∈ lowerHead before c rest, isPlain d = false := by
  rw [lowerHead]
  split
  · refine ⟨_, List.mem_singleton_self _, ?_⟩
    rw [lowerSigma]
    split <;> decide
  · exact exists_not_plain_lowerChar hBeyond

/-- Where either lowercase of a text is plain, the two are the same. -/
theorem lowerFrom_eq_of_plain {cs : List Char} :
    ∀ {before : List Char},
      (lowerFrom before cs).all isPlain = true ∨ (cs.map Char.toLower).all isPlain = true →
        lowerFrom before cs = cs.map Char.toLower := by
  induction cs with
  | nil =>
    intro before _
    rfl
  | cons c rest ih =>
    intro before hPlain
    -- a first character beyond ASCII would show in both lowercases
    have hAscii : c.toNat < 128 := by
      by_contra hNot
      have hBeyond : 128 ≤ c.toNat := Nat.le_of_not_lt hNot
      rcases hPlain with hTable | hLetters
      · obtain ⟨d, hd, hTrace⟩ := @exists_not_plain_lowerHead before rest c hBeyond
        rw [lowerFrom_cons, List.all_append, Bool.and_eq_true, List.all_eq_true] at hTable
        rw [hTable.1 d hd] at hTrace
        cases hTrace
      · rw [List.map_cons, List.all_cons, toLower_of_beyond hBeyond, Bool.and_eq_true, isPlain,
          Bool.and_eq_true, decide_eq_true_iff] at hLetters
        exact hNot hLetters.1.1
    rw [lowerFrom_cons, lowerHead_of_ascii hAscii, List.singleton_append] at hPlain ⊢
    rw [List.map_cons, List.all_cons, List.all_cons, Bool.and_eq_true, Bool.and_eq_true] at hPlain
    rw [List.map_cons, ih (hPlain.imp And.right And.right)]

/-- Both ways of lowercasing lead to the same plain texts. -/
theorem lowercase_eq_iff {s t : String} (hPlain : t.toList.all isPlain = true) :
    lowercase s = t ↔ lowerAscii s = t := by
  rw [lowercase, lowerAscii, ← String.toList_inj, ← String.toList_inj, String.toList_ofList,
    String.toList_ofList]
  constructor
  · intro hTable
    rw [← lowerFrom_eq_of_plain (Or.inl (hTable ▸ hPlain)), hTable]
  · intro hLetters
    rw [lowerFrom_eq_of_plain (Or.inr (hLetters ▸ hPlain)), hLetters]

/-- The lowercase of a text is among plain texts iff that of its ASCII letters is. -/
theorem contains_lowercase {s : String} {texts : List String}
    (hPlain : ∀ t ∈ texts, t.toList.all isPlain = true) :
    texts.contains (lowercase s) = texts.contains (lowerAscii s) := by
  rw [Bool.eq_iff_iff, List.contains_iff_mem, List.contains_iff_mem]
  constructor
  · intro hTable
    exact (lowercase_eq_iff (hPlain _ hTable)).mp rfl ▸ hTable
  · intro hLetters
    exact (lowercase_eq_iff (hPlain _ hLetters)).mpr rfl ▸ hLetters

/-! ## Pieces of texts -/

/-- A plain character that is not even a part of the lowercase of anything beyond ASCII. -/
def isClear (c : Char) : Bool := isPlain c && c != 'i'

theorem lt_of_isClear {c : Char} (hClear : isClear c = true) : c.toNat < 128 := by
  rw [isClear, isPlain, Bool.and_eq_true, Bool.and_eq_true, decide_eq_true_iff] at hClear
  exact hClear.1.1

/-- No clear character comes from beyond ASCII. -/
theorem isClear_eq_false_of_mem_lowerHead {before rest : List Char} {c d : Char}
    (hBeyond : 128 ≤ c.toNat) (hMem : d ∈ lowerHead before c rest) : isClear d = false := by
  rcases lowerHead_cases before c rest with hDotted | ⟨x, hSingle⟩
  · rw [hDotted] at hMem
    rcases List.mem_pair.mp hMem with rfl | rfl
    · decide
    · decide
  · -- a single character is the one that is not plain
    obtain ⟨y, hy, hTrace⟩ := @exists_not_plain_lowerHead before rest c hBeyond
    rw [hSingle, List.mem_singleton] at hMem hy
    rw [isClear, hMem, ← hy, hTrace, Bool.false_and]

/-- Both lowercases of a text start with the same clear texts. -/
theorem prefix_lowerFrom_iff {cs : List Char} :
    ∀ {before piece : List Char}, (∀ x ∈ piece, isClear x = true) →
      (piece <+: lowerFrom before cs ↔ piece <+: cs.map Char.toLower) := by
  induction cs with
  | nil => exact fun _ => Iff.rfl
  | cons c rest ih =>
    intro before piece hClear
    cases piece with
    | nil => simp
    | cons x piece =>
      obtain ⟨hx, hMore⟩ := List.forall_mem_cons.mp hClear
      rw [lowerFrom_cons, List.map_cons]
      -- in ASCII, one character is compared
      by_cases hAscii : c.toNat < 128
      · rw [lowerHead_of_ascii hAscii, List.singleton_append, List.cons_prefix_cons,
          List.cons_prefix_cons, ih hMore]
      · -- neither lowercase of a character beyond ASCII starts with a clear one
        have hBeyond : 128 ≤ c.toNat := Nat.le_of_not_lt hAscii
        obtain ⟨d, more, hHead⟩ := List.exists_cons_of_ne_nil (@lowerHead_ne_nil before rest c)
        have hTrace : isClear d = false :=
          isClear_eq_false_of_mem_lowerHead hBeyond (hHead ▸ List.mem_cons_self ..)
        rw [hHead, List.cons_append, List.cons_prefix_cons, List.cons_prefix_cons,
          toLower_of_beyond hBeyond]
        constructor
        · rintro ⟨rfl, -⟩
          rw [hx] at hTrace
          cases hTrace
        · rintro ⟨rfl, -⟩
          exact absurd (lt_of_isClear hx) hAscii

/-- A piece is not looked for among characters that it does not have. -/
theorem infix_append_iff_of_forall_not_mem {α : Type} {piece front text : List α}
    (hSome : piece ≠ []) (hNone : ∀ x ∈ front, x ∉ piece) :
    piece <:+: front ++ text ↔ piece <:+: text := by
  induction front with
  | nil => rfl
  | cons x front ih =>
    obtain ⟨hx, hFront⟩ := List.forall_mem_cons.mp hNone
    rw [List.cons_append, List.infix_cons_iff, ih hFront, or_iff_right]
    -- the piece would start with a character that it does not have
    intro hPrefix
    obtain ⟨y, piece, rfl⟩ := List.exists_cons_of_ne_nil hSome
    exact hx ((List.cons_prefix_cons.mp hPrefix).1 ▸ List.mem_cons_self ..)

/-- Both lowercases of a text hold the same clear texts. -/
theorem infix_lowerFrom_iff {piece : List Char} (hSome : piece ≠ [])
    (hClear : ∀ x ∈ piece, isClear x = true) {cs : List Char} :
    ∀ {before : List Char}, piece <:+: lowerFrom before cs ↔ piece <:+: cs.map Char.toLower := by
  induction cs with
  | nil => exact Iff.rfl
  | cons c rest ih =>
    intro before
    by_cases hAscii : c.toNat < 128
    · -- the piece is here or later
      have hHere := @prefix_lowerFrom_iff (c :: rest) before piece hClear
      rw [lowerFrom_cons, lowerHead_of_ascii hAscii, List.singleton_append, List.map_cons] at hHere ⊢
      rw [List.infix_cons_iff, List.infix_cons_iff, hHere, ih]
    · -- a character beyond ASCII is in no such piece, whatever becomes of it
      have hBeyond : 128 ≤ c.toNat := Nat.le_of_not_lt hAscii
      have hHead : ∀ d ∈ lowerHead before c rest, d ∉ piece := by
        intro d hd hMem
        have hTrace := isClear_eq_false_of_mem_lowerHead hBeyond hd
        rw [hClear d hMem] at hTrace
        cases hTrace
      have hItself : ∀ d ∈ [c], d ∉ piece := by
        intro d hd hMem
        rw [List.mem_singleton.mp hd] at hMem
        exact hAscii (lt_of_isClear (hClear c hMem))
      rw [lowerFrom_cons, infix_append_iff_of_forall_not_mem hSome hHead, ih, List.map_cons,
        toLower_of_beyond hBeyond, ← List.singleton_append,
        infix_append_iff_of_forall_not_mem hSome hItself]

/-- A clear text is found in the lowercase of a text iff the text has a piece that becomes it by
the lowercase of ASCII letters. -/
theorem contains_lowercase_iff {s t : String} (hSome : t.toList ≠ [])
    (hClear : ∀ x ∈ t.toList, isClear x = true) :
    contains (lowercase s) t = true ↔ ∃ piece, piece <:+: s.toList ∧
      piece.map Char.toLower = t.toList := by
  rw [contains_iff, lowercase, String.toList_ofList, infix_lowerFrom_iff hSome hClear,
    List.infix_map_iff]
  simp only [eq_comm]

/-! ## Lowercase twice -/

/-- Whether a run holds none of the numbers from `low` to `high`, or none of
every second of them. -/
def CaseRun.isPassed (r : CaseRun) (low high : Nat) (everySecond : Bool) : Bool :=
  Nat.blt high r.first || Nat.blt r.last low ||
    (everySecond && r.step == 2 && (low + r.first) % 2 == 1)

/-- The dotted capital I, as a run of its own. -/
def dottedRun : CaseRun := ⟨304, 304, 1, 0⟩

/-- Whether nothing that a run leads to has another lowercase again. -/
def CaseRun.leadsPast (r : CaseRun) : Bool :=
  (dottedRun :: caseRuns).all fun r' =>
    r'.isPassed (r.first + r.offset).toNat (r.last + r.offset).toNat
      (r.step == 2 || r.first == r.last)

/-- No run of the table leads into a run. -/
theorem leadsPast_of_mem_caseRuns : ∀ r ∈ caseRuns, r.leadsPast = true := by
  rw [← List.all_eq_true]
  decide +kernel

/-- So what a run leads to has no lower case of its own. -/
theorem CaseRun.holds_eq_false_of_leadsPast {r r' : CaseRun} {n m : Nat}
    (hPast : r.leadsPast = true) (hHolds : r.holds n = true) (hImage : (m : Int) = n + r.offset)
    (hLow : 0 ≤ r.first + r.offset) (hMem : r' ∈ dottedRun :: caseRuns) : r'.holds m = false := by
  have hPassed := List.all_eq_true.mp hPast r' hMem
  simp only [isPassed, Bool.or_eq_true, Bool.and_eq_true, Nat.blt_eq, beq_iff_eq] at hPassed
  simp only [holds, Bool.and_eq_true, decide_eq_true_eq, beq_iff_eq] at hHolds
  obtain ⟨⟨hFirst, hLast⟩, hStep⟩ := hHolds
  rw [Bool.eq_false_iff]
  intro hThere
  simp only [holds, Bool.and_eq_true, decide_eq_true_eq, beq_iff_eq] at hThere
  obtain ⟨⟨hFirst', hLast'⟩, hStep'⟩ := hThere
  rcases hPassed with (hBelow | hAbove) | ⟨⟨hEven, hEven'⟩, hOdd⟩
  · omega
  · omega
  · -- the two hold numbers of different parity
    rw [hEven'] at hStep'
    rcases hEven with hEven | hSingle
    · rw [hEven] at hStep
      omega
    · omega

/-- A character that no run holds, and that is no ASCII letter, is its own lowercase. -/
theorem lowerChar_of_holds_eq_false {d : Char} (hBeyond : 128 ≤ d.toNat)
    (hNowhere : ∀ r ∈ dottedRun :: caseRuns, r.holds d.toNat = false) : lowerChar d = [d] := by
  have hDotted : d.toNat ≠ 304 := by
    intro hEq
    have hThere := hNowhere dottedRun List.mem_cons_self
    rw [hEq] at hThere
    exact absurd hThere (by decide)
  have hNone : caseRuns.find? (·.holds d.toNat) = none := by
    rw [List.find?_eq_none]
    intro r hr
    rw [hNowhere r (List.mem_cons_of_mem _ hr)]
    exact Bool.false_ne_true
  rw [lowerChar, if_neg (by omega), if_neg hDotted, hNone]

theorem lowerChar_toLower : ∀ n : Fin 128,
    lowerChar (Char.ofNat n).toLower = [(Char.ofNat n).toLower] := by
  decide +kernel

/-- What a run leads to has no other lowercase. -/
theorem CaseRun.lowerChar_image {r : CaseRun} {n : Nat} (hRun : r ∈ caseRuns)
    (hHolds : r.holds n = true) :
    lowerChar (Char.ofNat (Int.ofNat n + r.offset).toNat) =
      [Char.ofNat (Int.ofNat n + r.offset).toNat] := by
  obtain ⟨hStart, hEnd, hOffset⟩ | hStays := staysBeyond_of_mem_caseRuns r hRun
  · -- the sign of the kelvin leads to a letter of ASCII
    have hKelvin : n = 8490 := by
      simp only [CaseRun.holds, Bool.and_eq_true, decide_eq_true_eq] at hHolds
      omega
    rw [hKelvin, hOffset]
    decide
  · -- every other run leads to where no run begins again
    obtain ⟨hImage, hFar⟩ := hStays.toNat_image hHolds
    have hLow : 0 ≤ r.first + r.offset := by
      have hBeyond := hStays.1
      omega
    refine lowerChar_of_holds_eq_false (by omega) fun r' hr' => ?_
    exact CaseRun.holds_eq_false_of_leadsPast (leadsPast_of_mem_caseRuns r hRun) hHolds hImage
      hLow hr'

/-- What is the lowercase of a character has no other lowercase. -/
theorem lowerChar_of_mem {c d : Char} (hMem : d ∈ lowerChar c) : lowerChar d = [d] := by
  rw [lowerChar] at hMem
  split at hMem
  · -- within ASCII the characters are tried one by one
    rename_i hAscii
    rw [List.mem_singleton.mp hMem, ← Char.ofNat_toNat c]
    exact lowerChar_toLower ⟨c.toNat, hAscii⟩
  · rename_i hBeyond
    split at hMem
    · -- the dotted capital I leaves an ASCII letter and a dot
      rcases List.mem_cons.mp hMem with rfl | hDot
      · decide
      · rw [List.mem_singleton.mp hDot]
        decide +kernel
    · rename_i hDotted
      split at hMem
      · rename_i r hFound
        rw [List.mem_singleton.mp hMem]
        have hHolds := List.find?_some hFound
        exact CaseRun.lowerChar_image (List.mem_of_find?_eq_some hFound) hHolds
      · -- a character in no run is its own lowercase
        rename_i hNone
        rw [List.mem_singleton.mp hMem, lowerChar, if_neg hBeyond, if_neg hDotted, hNone]

/-- What one character is lowered to stays when it is lowered again. -/
theorem lowerChar_of_mem_lowerHead {before rest : List Char} {c d : Char}
    (hMem : d ∈ lowerHead before c rest) : lowerChar d = [d] := by
  rw [lowerHead] at hMem
  split at hMem
  · rw [List.mem_singleton.mp hMem, lowerSigma]
    split <;> decide +kernel
  · exact lowerChar_of_mem hMem

/-- So does every character of a lowered text. -/
theorem lowerChar_of_mem_lowerFrom {cs : List Char} :
    ∀ {before : List Char} {d : Char}, d ∈ lowerFrom before cs → lowerChar d = [d] := by
  induction cs with
  | nil =>
    intro before d hMem
    cases hMem
  | cons c rest ih =>
    intro before d hMem
    -- what stands before matters for the form of a sigma only, and both forms stay
    rw [lowerFrom_cons] at hMem
    rcases List.mem_append.mp hMem with hHead | hRest
    · exact lowerChar_of_mem_lowerHead hHead
    · exact ih hRest

/-- Characters without another lowercase stay, wherever they stand. -/
theorem lowerFrom_eq_self {cs : List Char} :
    ∀ {before : List Char}, (∀ d ∈ cs, lowerChar d = [d]) → lowerFrom before cs = cs := by
  induction cs with
  | nil =>
    intro before _
    rfl
  | cons c rest ih =>
    intro before hSame
    have hHead := hSame c List.mem_cons_self
    -- a capital sigma would not be its own lowercase
    have hSigma : c ≠ 'Σ' := by
      rintro rfl
      exact absurd hHead (by decide +kernel)
    rw [lowerFrom_cons, lowerHead, if_neg hSigma, hHead, List.singleton_append,
      ih fun d hd => hSame d (List.mem_cons_of_mem _ hd)]

/-- Lowercasing twice is lowercasing once. -/
theorem lowercase_lowercase (s : String) : lowercase (lowercase s) = lowercase s := by
  have hSame : lowerFrom [] (lowercase s).toList = (lowercase s).toList := by
    refine lowerFrom_eq_self fun d hd => ?_
    rw [lowercase, String.toList_ofList] at hd
    exact lowerChar_of_mem_lowerFrom hd
  rw [lowercase, hSame, String.ofList_toList]

/-- Nothing but the empty text has an empty lowercase. -/
theorem lowercase_eq_empty_iff {s : String} : lowercase s = "" ↔ s = "" := by
  rw [lowercase, ← String.toList_inj, ← String.toList_inj, String.toList_ofList]
  cases s.toList with
  | nil => rfl
  | cons c rest =>
    simp [lowerFrom_cons, lowerHead_ne_nil]

end ReviewPanel.Text
