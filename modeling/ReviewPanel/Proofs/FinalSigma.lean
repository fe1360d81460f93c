import ReviewPanel.Proofs.Lowercase

/-!
# Final sigmas — pieces of texts in lowercase

A character becomes the same in lowercase wherever it stands, but for the capital sigma. That has
two forms, and which of them it takes depends on the nearest characters on both sides that casing
does not look past: it is final if there is a cased one before it and none behind it. So the
lowercase of a piece of a text need not be a piece of the lowercase of the text.

It is, wherever the piece stands, if within the piece itself each capital sigma has what settles
its form. A sigma that has not is *exposed* (`IsExposed`): there is a text around the piece that
gives it the other form.

* `lowerFrom_append`          — the lowercase of a text, piece by piece.
* `lowerSigma_of_not_exposed` — a sigma that is not exposed keeps its form.
* `infix_lowercase_of_steady` — so pieces without an exposed sigma stay pieces in lowercase.
* `exists_missed_of_exposed`  — and each piece with one is missed in some text.
-/

namespace ReviewPanel.Text

variable {before after front back piece text : List Char}

/-! ## Pieces of texts in lowercase -/

/-- The lowercase of a piece of a text, given the characters before the piece, nearest first, and
those after it. -/
def lowerWithin (before after : List Char) : List Char → List Char
  | [] => []
  | c :: rest => lowerHead before c (rest ++ after) ++ lowerWithin (c :: before) after rest

/-- A piece is lowered with what stands around it. -/
theorem lowerFrom_append (piece : List Char) :
    ∀ before, lowerFrom before (piece ++ after) =
      lowerWithin before after piece ++ lowerFrom (piece.reverse ++ before) after := by
  induction piece with
  | nil => exact fun _ => rfl
  | cons c rest ih =>
    intro before
    rw [List.cons_append, lowerFrom_cons, ih, lowerWithin, List.append_assoc, List.reverse_cons,
      List.append_assoc, List.singleton_append]

/-- A text is a piece of itself, with nothing around it. -/
theorem lowerWithin_nil (before piece : List Char) :
    lowerWithin before [] piece = lowerFrom before piece := by
  have hWhole : lowerFrom before (piece ++ []) = lowerWithin before [] piece ++ [] :=
    lowerFrom_append piece before
  rw [List.append_nil, List.append_nil] at hWhole
  exact hWhole.symm

/-- Without a capital sigma it does not matter what is around. -/
theorem lowerWithin_of_not_mem (hSigma : 'Σ' ∉ piece) :
    ∀ before, lowerWithin before after piece = piece.flatMap lowerChar := by
  induction piece with
  | nil => exact fun _ => rfl
  | cons c rest ih =>
    intro before
    obtain ⟨hFirst, hRest⟩ := not_or.mp (List.mem_cons.not.mp hSigma)
    rw [lowerWithin, lowerHead, if_neg (Ne.symm hFirst), ih hRest, List.flatMap_cons]

/-! ## What casing looks past -/

/-- Casing looks past all of the characters. -/
def IsPassedOver (cs : List Char) : Prop := ∀ c ∈ cs, isCaseIgnorable c = true

-- the instance is given by name: one that is searched for may try all characters there are
instance (cs : List Char) : Decidable (IsPassedOver cs) :=
  List.decidableBAll (fun c => isCaseIgnorable c = true) cs

/-- A sigma has a lower case, so it is not passed over. -/
theorem sigma_not_mem (hPassed : IsPassedOver piece) : 'Σ' ∉ piece := fun hMem =>
  absurd (hPassed _ hMem) (by decide +kernel)

theorem IsPassedOver.reverse (hPassed : IsPassedOver piece) : IsPassedOver piece.reverse :=
  fun c hc => hPassed c (List.mem_reverse.mp hc)

theorem isPassedOver_reverse_iff : IsPassedOver piece.reverse ↔ IsPassedOver piece :=
  ⟨fun hPassed => by simpa using hPassed.reverse, .reverse⟩

/-- Characters that are passed over do not decide whether a cased one follows. -/
theorem meetsCased_append_of_passed (hPassed : IsPassedOver piece) :
    meetsCased (piece ++ text) = meetsCased text := by
  rw [meetsCased, List.dropWhile_append_of_pos hPassed, meetsCased]

/-- What is met in a text does not depend on what follows, if something is met. -/
theorem meetsCased_append_of_not_passed (hMet : ¬ IsPassedOver piece) :
    meetsCased (piece ++ text) = meetsCased piece := by
  have hSome : ¬ (piece.dropWhile isCaseIgnorable).isEmpty = true := by
    rwa [List.isEmpty_iff, List.dropWhile_eq_nil_iff]
  rw [meetsCased, List.dropWhile_append, if_neg hSome, meetsCased]
  cases hRest : piece.dropWhile isCaseIgnorable with
  | nil => exact absurd (by rw [hRest]; rfl) hSome
  | cons c rest => rfl

theorem meetsCased_of_passed (hPassed : IsPassedOver piece) : meetsCased piece = false := by
  have hNothing : meetsCased (piece ++ []) = false := meetsCased_append_of_passed hPassed
  rw [List.append_nil] at hNothing
  exact hNothing

/-! ## Exposed sigmas -/

/-- A capital sigma between two parts of a text has another form in some place where the text may
stand: either it is followed by nothing cased, and what is cased may come before it, or it comes
after something cased, and what is cased may follow. -/
def IsExposed (front back : List Char) : Prop :=
  IsPassedOver front ∧ meetsCased back = false ∨ meetsCased front.reverse = true ∧ IsPassedOver back

instance (front back : List Char) : Decidable (IsExposed front back) :=
  inferInstanceAs (Decidable (_ ∨ _))

/-- A text with a capital sigma that is exposed. -/
def HasExposedSigma (text : List Char) : Prop :=
  ∃ front back, text = front ++ 'Σ' :: back ∧ IsExposed front back

instance (text : List Char) : Decidable (HasExposedSigma text) :=
  decidable_of_iff
    (∃ k ∈ List.range text.length,
      text[k]? = some 'Σ' ∧ IsExposed (text.take k) (text.drop (k + 1))) <| by
    constructor
    · rintro ⟨k, -, hSigma, hExposed⟩
      obtain ⟨hk, hAt⟩ := List.getElem?_eq_some_iff.mp hSigma
      refine ⟨_, _, ?_, hExposed⟩
      rw [← hAt, ← List.drop_eq_getElem_cons hk, List.take_append_drop]
    · rintro ⟨front, back, rfl, hExposed⟩
      refine ⟨front.length, by simp, by simp, ?_⟩
      simpa using hExposed

/-- A capital sigma that is not exposed has the same form wherever the text stands. -/
theorem lowerSigma_of_not_exposed (hSteady : ¬ IsExposed front back) :
    lowerSigma (front.reverse ++ before) (back ++ after) = lowerSigma front.reverse back := by
  obtain ⟨hFirst, hLast⟩ := not_or.mp hSteady
  by_cases hFront : IsPassedOver front
  · -- something cased follows, and no form but the usual one is left
    have hMet : meetsCased back = true := by
      rw [← Bool.not_eq_false]
      exact fun hNone => hFirst ⟨hFront, hNone⟩
    have hBack : ¬ IsPassedOver back := fun hPassed => by
      rw [meetsCased_of_passed hPassed] at hMet
      cases hMet
    simp [lowerSigma, meetsCased_append_of_not_passed hBack, hMet]
  · -- whether something cased comes before is settled within the text
    have hBefore : meetsCased (front.reverse ++ before) = meetsCased front.reverse :=
      meetsCased_append_of_not_passed (mt isPassedOver_reverse_iff.mp hFront)
    by_cases hMet : meetsCased front.reverse = true
    · have hBack : ¬ IsPassedOver back := fun hPassed => hLast ⟨hMet, hPassed⟩
      rw [lowerSigma, lowerSigma, hBefore, meetsCased_append_of_not_passed hBack]
    · simp [lowerSigma, hBefore, hMet]

/-- By induction on what is left: no sigma of it depends on what stands around the text. -/
theorem lowerWithin_of_steady_from (hSteady : ¬ HasExposedSigma text) {rest : List Char} :
    ∀ {front : List Char}, text = front ++ rest →
      lowerWithin (front.reverse ++ before) after rest = lowerFrom front.reverse rest := by
  -- on what is left of the text; its front, what came before, is what settles the next sigma
  induction rest with
  | nil => exact fun _ => rfl
  | cons c rest ih =>
    intro front hText
    have hHead : lowerHead (front.reverse ++ before) c (rest ++ after) =
        lowerHead front.reverse c rest := by
      unfold lowerHead
      split
      · rename_i hSigma
        rw [lowerSigma_of_not_exposed]
        exact fun hExposed => hSteady ⟨front, rest, hSigma ▸ hText, hExposed⟩
      · rfl
    have hNext : text = front ++ [c] ++ rest := by
      rw [hText, List.append_assoc, List.singleton_append]
    have hRest := ih hNext
    rw [List.reverse_append, List.reverse_singleton, List.singleton_append] at hRest
    rw [lowerWithin, hHead, lowerFrom_cons, ← hRest]
    rfl

/-- A text without an exposed sigma has the same lowercase wherever it stands. -/
theorem lowerWithin_of_steady (hSteady : ¬ HasExposedSigma text) :
    lowerWithin before after text = lowerFrom [] text :=
  lowerWithin_of_steady_from hSteady (List.nil_append text).symm

/-- A piece without exposed sigmas is found in lower case wherever it was. -/
theorem infix_lowercase_of_steady {s t : String} (hSteady : ¬ HasExposedSigma t.toList)
    (hPiece : t.toList <:+: s.toList) : (lowercase t).toList <:+: (lowercase s).toList := by
  obtain ⟨before, after, hSplit⟩ := hPiece
  rw [lowercase, lowercase, String.toList_ofList, String.toList_ofList, ← hSplit, List.append_assoc,
    lowerFrom_append, lowerFrom_append, lowerWithin_of_steady hSteady, ← List.append_assoc]
  exact List.infix_append _ _ _

/-! ## Exposed sigmas are missed

A letter at the end where the form of the sigma is open changes it. The text with the letter then
has one sigma of the old form less, so it does not have the old text in it.
-/

/-- What stands before characters that are looked at does not matter. -/
theorem lowerFrom_of_not_passed {near : List Char} (hMet : ¬ IsPassedOver near) (text : List Char) :
    lowerFrom (near ++ before) text = lowerFrom near text := by
  induction text generalizing near with
  | nil => rfl
  | cons c rest ih =>
    -- the search for a cased character ends within the near ones
    have hHead : lowerHead (near ++ before) c rest = lowerHead near c rest := by
      rw [lowerHead, lowerHead, lowerSigma, lowerSigma, meetsCased_append_of_not_passed hMet]
    have hNext : ¬ IsPassedOver (c :: near) := fun hPassed =>
      hMet fun x hx => hPassed x (List.mem_cons_of_mem _ hx)
    rw [lowerFrom_cons, lowerFrom_cons, hHead, ← ih hNext, List.cons_append]

/-- Nor does what stands behind such characters. -/
theorem lowerWithin_of_not_passed {near : List Char} (hMet : ¬ IsPassedOver near)
    (piece : List Char) :
    ∀ before, lowerWithin before (near ++ after) piece = lowerWithin before near piece := by
  induction piece with
  | nil => exact fun _ => rfl
  | cons c rest ih =>
    intro before
    have hRest : ¬ IsPassedOver (rest ++ near) := fun hPassed =>
      hMet fun x hx => hPassed x (List.mem_append_right _ hx)
    have hHead : lowerHead before c (rest ++ (near ++ after)) = lowerHead before c (rest ++ near) := by
      rw [← List.append_assoc, lowerHead, lowerHead, lowerSigma, lowerSigma,
        meetsCased_append_of_not_passed hRest]
    rw [lowerWithin, lowerWithin, hHead, ih]

theorem not_isPassedOver_sigma (text : List Char) : ¬ IsPassedOver ('Σ' :: text) := fun hPassed =>
  sigma_not_mem hPassed List.mem_cons_self

/-- A text with a sigma is lowered in three parts, and the other two decide about the sigma. -/
theorem lowerFrom_around (front back before : List Char) :
    lowerFrom before (front ++ 'Σ' :: back) = lowerWithin before ('Σ' :: back) front ++
      lowerSigma (front.reverse ++ before) back ::
        lowerFrom ('Σ' :: (front.reverse ++ before)) back := by
  rw [lowerFrom_append, lowerFrom_cons, lowerHead, if_pos rfl, List.singleton_append]

/-- A piece is in no text in which one of its characters is rarer. -/
theorem not_infix_of_count_lt {piece text : List Char} {c : Char}
    (hRarer : text.count c < piece.count c) : ¬ piece <:+: text := fun hPiece =>
  absurd (hPiece.sublist.count_le c) (Nat.not_le.mpr hRarer)

/-- A sigma with nothing before it that is looked at, and nothing cased behind it, is final behind
something cased only. -/
theorem missed_behind_cased (hFront : IsPassedOver front) (hBack : meetsCased back = false) :
    ¬ lowerFrom [] (front ++ 'Σ' :: back) <:+: lowerFrom [] ('a' :: (front ++ 'Σ' :: back)) := by
  have hSigma := sigma_not_mem hFront
  have hAlone : lowerSigma (front.reverse ++ []) back = 'σ' := by
    rw [lowerSigma, meetsCased_append_of_passed hFront.reverse]
    rfl
  have hBehind : lowerSigma (front.reverse ++ ['a']) back = 'ς' := by
    rw [lowerSigma, meetsCased_append_of_passed hFront.reverse, hBack]
    decide +kernel
  -- what follows the sigma does not see what is before it
  have hRest : lowerFrom ('Σ' :: (front.reverse ++ ['a'])) back =
      lowerFrom ('Σ' :: (front.reverse ++ [])) back := by
    rw [← List.cons_append, ← List.cons_append, lowerFrom_of_not_passed (not_isPassedOver_sigma _),
      lowerFrom_of_not_passed (not_isPassedOver_sigma _)]
  have hCased : lowerHead [] 'a' (front ++ 'Σ' :: back) = ['a'] := lowerHead_of_ascii (by decide)
  apply not_infix_of_count_lt (c := 'σ')
  rw [lowerFrom_cons, lowerFrom_around, lowerFrom_around, lowerWithin_of_not_mem hSigma,
    lowerWithin_of_not_mem hSigma, hAlone, hBehind, hRest, hCased]
  simp +decide only [List.count_append, List.count_cons, List.count_nil, if_true, if_false]
  omega

/-- A sigma with something cased before it, and nothing behind it that is looked at, is not final
any more before something cased. -/
theorem missed_before_cased (hFront : meetsCased front.reverse = true) (hBack : IsPassedOver back) :
    ¬ lowerFrom [] (front ++ 'Σ' :: back) <:+: lowerFrom [] (front ++ 'Σ' :: (back ++ ['a'])) := by
  have hSigma := sigma_not_mem hBack
  have hAlone : lowerSigma (front.reverse ++ []) back = 'ς' := by
    rw [lowerSigma, List.append_nil, hFront, meetsCased_of_passed hBack]
    rfl
  have hBefore : lowerSigma (front.reverse ++ []) (back ++ ['a']) = 'σ' := by
    rw [lowerSigma, meetsCased_append_of_passed hBack, List.append_nil, hFront]
    decide +kernel
  -- what precedes the sigma does not see what is behind it
  have hRest : lowerWithin [] ('Σ' :: (back ++ ['a'])) front = lowerWithin [] ('Σ' :: back) front :=
    lowerWithin_of_not_passed (not_isPassedOver_sigma back) front []
  have hWhole : ∀ near, lowerFrom near back = back.flatMap lowerChar := fun near => by
    rw [← lowerWithin_nil, lowerWithin_of_not_mem hSigma]
  have hCased : ∀ near, lowerFrom near ['a'] = ['a'] := fun near => by
    rw [lowerFrom_cons, lowerHead_of_ascii (by decide)]
    rfl
  apply not_infix_of_count_lt (c := 'ς')
  rw [lowerFrom_around, lowerFrom_around, hAlone, hBefore, hRest, hWhole, lowerFrom_append,
    lowerWithin_of_not_mem hSigma, hCased]
  simp +decide only [List.count_append, List.count_cons, List.count_nil, if_true, if_false]
  omega

/-- For each text with an exposed sigma there is one that contains it, while the lowercase of the
one does not contain that of the other. -/
theorem exists_missed_of_exposed {t : String} (hExposed : HasExposedSigma t.toList) :
    ∃ s : String, t.toList <:+: s.toList ∧ ¬ (lowercase t).toList <:+: (lowercase s).toList := by
  obtain ⟨front, back, hSplit, ⟨hFront, hBack⟩ | ⟨hFront, hBack⟩⟩ := hExposed
  · refine ⟨String.ofList ('a' :: t.toList), ?_, ?_⟩
    · rw [String.toList_ofList]
      exact (List.suffix_cons 'a' _).isInfix
    · rw [lowercase, lowercase, String.toList_ofList, String.toList_ofList, String.toList_ofList,
        hSplit]
      exact missed_behind_cased hFront hBack
  · refine ⟨String.ofList (t.toList ++ ['a']), ?_, ?_⟩
    · rw [String.toList_ofList]
      exact (List.prefix_append _ _).isInfix
    · rw [lowercase, lowercase, String.toList_ofList, String.toList_ofList, String.toList_ofList,
        hSplit, List.append_assoc, List.cons_append]
      exact missed_before_cased hFront hBack

end ReviewPanel.Text
