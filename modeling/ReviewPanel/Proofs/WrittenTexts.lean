import Mathlib.Tactic.IntervalCases
import ReviewPanel.Json.Writer
import ReviewPanel.Proofs.Documents
import ReviewPanel.Proofs.Fuel

/-!
# Written data texts — a value is read back

The reader gives back what the writer wrote, and leaves what follows it. It is
proved part by part, in the order in which a text is put together: a character
of a text between quotes, by the cases of its escape; a text; then lists and
records by their parts, each of them with the rest of the container behind it.

The reader has fuel, and of a value it is only said that some amount of it is
enough (`ReadsAs`); a whole text has as much as it needs (`ofText_eq`).
Numbers are left out: how their decimals are read back is another matter, and
values without them already have every kind of text and container.

* `textStep_escapeChar` — a written character is read as itself.
* `readText_textChars`  — so is a written text, up to its closing quote.
* `readsAs`             — so is a value that is not nested too deeply.
* `ofText_write`        — hence the document of a written value is that value.
-/

namespace ReviewPanel.Json

open Datum

/-! ## Texts -/

/-- A control character is read from its code unit. -/
theorem textStep_control {c : Char} (hControl : c.toNat < 32) (rest : List Char) :
    textStep '\\' ('u' :: ((if c.toNat < 16 then ['0', '0', '0'] else ['0', '0']) ++
      Nat.toDigits 16 c.toNat) ++ rest) = .character c rest := by
  have hUnit : ∀ n < 32, ∀ rest, textStep '\\' ('u' :: ((if n < 16 then ['0', '0', '0']
      else ['0', '0']) ++ Nat.toDigits 16 n) ++ rest) = .character (Char.ofNat n) rest := by
    intro n hn rest
    interval_cases n <;> rfl
  rw [hUnit _ hControl, Char.ofNat_toNat]

/-- A written character is read as itself, whatever follows. -/
theorem textStep_escapeChar (c : Char) :
    ∃ d ds, (escapeChar c).toList = d :: ds ∧
      ∀ rest, textStep d (ds ++ rest) = .character c rest := by
  unfold escapeChar
  split_ifs with hQuote hBackslash hLine hReturn hTab hBack hFeed hControl hSmall
  · exact ⟨'\\', ['"'], rfl, fun rest => hQuote.symm ▸ rfl⟩
  · exact ⟨'\\', ['\\'], rfl, fun rest => hBackslash.symm ▸ rfl⟩
  · exact ⟨'\\', ['n'], rfl, fun rest => hLine.symm ▸ rfl⟩
  · exact ⟨'\\', ['r'], rfl, fun rest => hReturn.symm ▸ rfl⟩
  · exact ⟨'\\', ['t'], rfl, fun rest => hTab.symm ▸ rfl⟩
  · have hChar : c = Char.ofNat 8 := by rw [← hBack, Char.ofNat_toNat]
    exact ⟨'\\', ['b'], rfl, fun rest => hChar.symm ▸ rfl⟩
  · have hChar : c = Char.ofNat 12 := by rw [← hFeed, Char.ofNat_toNat]
    exact ⟨'\\', ['f'], rfl, fun rest => hChar.symm ▸ rfl⟩
  · exact ⟨'\\', _, by simp [hSmall], fun rest => textStep_control hControl rest⟩
  · exact ⟨'\\', _, by simp [hSmall], fun rest => textStep_control hControl rest⟩
  · refine ⟨c, [], by simp, fun rest => ?_⟩
    rw [textStep, if_neg hQuote, if_neg hBackslash, if_neg (by omega), List.nil_append]

/-- The characters of a text, as they are written. -/
def textChars (cs : List Char) : List Char := cs.flatMap fun c => (escapeChar c).toList

/-- A text is written between quotes. -/
theorem writeText_toList (s : String) :
    (writeText s).toList = '"' :: (textChars s.toList ++ ['"']) := by
  rw [writeText, String.toList_append, String.toList_append, String.toList_join, List.flatMap_map]
  rfl

/-- A written text is read up to its closing quote. -/
theorem readText_textChars {cs chars rest : List Char} {fuel : Nat}
    (hFuel : (textChars cs).length < fuel) :
    readText chars true fuel (textChars cs ++ '"' :: rest) = .read (chars.reverse ++ cs) rest := by
  -- on the characters; each takes one step, and one is left for the quote
  induction cs generalizing chars fuel with
  | nil =>
    obtain ⟨fuel, rfl⟩ := Nat.exists_eq_add_one_of_ne_zero (Nat.ne_of_gt hFuel)
    rw [textChars, List.flatMap_nil, List.nil_append, readText_succ, List.append_nil]
    rfl
  | cons c cs ih =>
    obtain ⟨d, ds, hWritten, hStep⟩ := textStep_escapeChar c
    have hText : textChars (c :: cs) = d :: (ds ++ textChars cs) := by
      rw [textChars, List.flatMap_cons, hWritten]
      rfl
    rw [hText, List.length_cons, List.length_append] at hFuel
    obtain ⟨fuel, rfl⟩ := Nat.exists_eq_add_one_of_ne_zero (by omega : fuel ≠ 0)
    rw [hText, List.cons_append, List.append_assoc, readText_succ, hStep]
    dsimp only
    rw [ih (by omega), List.reverse_cons, List.append_assoc]
    rfl

/-- A written text is read with the fuel of a text that starts with it. -/
theorem readText_writeText (s : String) (rest : List Char) :
    readText [] true ((textChars s.toList ++ '"' :: rest).length + 1)
      (textChars s.toList ++ '"' :: rest) = .read s.toList rest := by
  rw [readText_textChars (by rw [List.length_append]; omega)]
  rfl

/-! ## Values as they are written -/

/-- A value without numbers whose containers are nested no deeper than this. -/
inductive Fits : Nat → Json → Prop
  | null {height : Nat} : Fits height .null
  | bool {height : Nat} (b : Bool) : Fits height (.bool b)
  | text {height : Nat} (s : String) : Fits height (.text s)
  | list {height : Nat} {items : List Json} (hItems : ∀ v ∈ items, Fits height v) :
      Fits (height + 1) (.list items)
  | record {height : Nat} {members : List (String × Json)}
      (hMembers : ∀ m ∈ members, Fits height m.2) : Fits (height + 1) (.record members)

/-- Given enough fuel, the reader gives a written value back, with what follows it. -/
def ReadsAs (depth : Nat) (v : Json) : Prop :=
  ∃ enough, ∀ fuel rest, enough ≤ fuel →
    readValue depth fuel (v.write.toList ++ rest) = (.ofJson v, some rest)

/-- The first character of a value costs one unit of fuel. -/
theorem readsAs_of_succ {depth : Nat} {v : Json} (enough : Nat)
    (hRead : ∀ fuel rest, enough ≤ fuel →
      readValue depth (fuel + 1) (v.write.toList ++ rest) = (.ofJson v, some rest)) :
    ReadsAs depth v := by
  refine ⟨enough + 1, fun fuel rest hEnough => ?_⟩
  obtain ⟨fuel, rfl⟩ := Nat.exists_eq_add_one_of_ne_zero (by omega : fuel ≠ 0)
  exact hRead fuel rest (by omega)

/-- What is no space is not skipped. -/
theorem skipSpaces_cons {c : Char} {rest : List Char} (hSolid : isSpace c = false) :
    skipSpaces (c :: rest) = c :: rest := by
  rw [skipSpaces, List.dropWhile_cons_of_neg (by simp [hSolid])]

/-- Items are written one by one. -/
theorem writeItems_eq {items : List Json} : writeItems items = items.map write := by
  induction items with
  | nil => rfl
  | cons v rest ih => rw [writeItems, ih, List.map_cons]

/-- So are members, each with its name. -/
theorem writeMembers_eq {members : List (String × Json)} :
    writeMembers members = members.map fun m => writeText m.1 ++ ":" ++ write m.2 := by
  induction members with
  | nil => rfl
  | cons m rest ih =>
    obtain ⟨name, v⟩ := m
    rw [writeMembers, ih, List.map_cons]

theorem write_list_toList (items : List Json) :
    (write (.list items)).toList =
      '[' :: ([','].intercalate (items.map fun v => v.write.toList) ++ [']']) := by
  rw [write, String.toList_append, String.toList_append, String.toList_intercalate, writeItems_eq,
    List.map_map]
  rfl

/-- The characters of a member, as they are written. -/
def memberChars (m : String × Json) : List Char :=
  '"' :: (textChars m.1.toList ++ '"' :: ':' :: m.2.write.toList)

theorem write_record_toList (members : List (String × Json)) :
    (write (.record members)).toList =
      '\x7b' :: ([','].intercalate (members.map memberChars) ++ ['\x7d']) := by
  have hMember : ∀ m : String × Json,
      (writeText m.1 ++ ":" ++ write m.2).toList = memberChars m := by
    intro m
    rw [String.toList_append, String.toList_append, writeText_toList, memberChars]
    simp
  rw [write, String.toList_append, String.toList_append, String.toList_intercalate,
    writeMembers_eq, List.map_map]
  simp only [Function.comp_def, hMember]
  rfl

/-- A written value starts with a character that neither is space nor ends a list. -/
theorem Fits.exists_write_eq_cons {height : Nat} {v : Json} (hFits : v.Fits height) :
    ∃ c rest, v.write.toList = c :: rest ∧ isSpace c = false ∧ c ≠ ']' := by
  cases hFits with
  | null => exact ⟨'n', _, rfl, rfl, by decide⟩
  | bool b =>
    cases b with
    | true => exact ⟨'t', _, rfl, rfl, by decide⟩
    | false => exact ⟨'f', _, rfl, rfl, by decide⟩
  | text s => exact ⟨'"', _, writeText_toList s, rfl, by decide⟩
  | list => exact ⟨'[', _, write_list_toList _, rfl, by decide⟩
  | record => exact ⟨'\x7b', _, write_record_toList _, rfl, by decide⟩

/-! ## Parts of containers -/

/-- Written items are read back up to the end of their list. -/
theorem exists_readItems {depth : Nat} {v : Json} {items : List Json}
    (hItems : ∀ x ∈ v :: items, ReadsAs depth x) :
    ∃ enough, ∀ fuel found rest, enough ≤ fuel →
      readItems depth found fuel
          ([','].intercalate ((v :: items).map fun x => x.write.toList) ++ ']' :: rest) =
        (.list (found.reverse ++ (v :: items).map ofJson), some rest) := by
  induction items generalizing v with
  | nil =>
    obtain ⟨enough, hValue⟩ := hItems v (List.mem_cons_self ..)
    refine ⟨enough + 1, fun fuel found rest hEnough => ?_⟩
    obtain ⟨fuel, rfl⟩ := Nat.exists_eq_add_one_of_ne_zero (by omega : fuel ≠ 0)
    rw [List.map_singleton, List.intercalate_singleton, readItems_succ, hValue fuel _ (by omega),
      List.map_singleton, ← List.reverse_cons]
    rfl
  | cons w items ih =>
    obtain ⟨enough, hValue⟩ := hItems v (List.mem_cons_self ..)
    obtain ⟨enough', hRest⟩ := ih fun x hx => hItems x (List.mem_cons_of_mem _ hx)
    refine ⟨max enough enough' + 1, fun fuel found rest hEnough => ?_⟩
    obtain ⟨fuel, rfl⟩ := Nat.exists_eq_add_one_of_ne_zero (by omega : fuel ≠ 0)
    have hNext := hRest fuel (ofJson v :: found) rest (by omega)
    rw [List.map_cons, List.map_cons, List.intercalate_cons_cons, List.append_assoc,
      List.append_assoc, readItems_succ, hValue fuel _ (by omega)]
    -- a comma follows, and then the other items
    rw [List.map_cons, List.reverse_cons, List.append_assoc] at hNext
    exact hNext

/-- The name of a written member is read back. -/
theorem naming_written (name : String) (rest : List Char) :
    naming ('"' :: (textChars name.toList ++ '"' :: ':' :: rest)) = .value (some name) rest := by
  have hName := readText_writeText name (':' :: rest)
  rw [naming, skipSpaces_cons rfl]
  simp only [if_true]
  rw [hName]
  simp only [String.ofList_toList]
  rfl

/-- Written members are read back up to the end of their record. -/
theorem exists_readMembers {depth : Nat} {m : String × Json} {members : List (String × Json)}
    (hMembers : ∀ x ∈ m :: members, ReadsAs depth x.2) :
    ∃ enough, ∀ fuel found rest, enough ≤ fuel →
      readMembers depth found fuel
          ([','].intercalate ((m :: members).map memberChars) ++ '\x7d' :: rest) =
        (.record (found.reverse ++ (m :: members).map fun x => (some x.1, ofJson x.2)),
          some rest) := by
  -- by induction on the members that follow; the fuel suffices for the value and for the rest
  induction members generalizing m with
  | nil =>
    obtain ⟨enough, hValue⟩ := hMembers m (List.mem_cons_self ..)
    refine ⟨enough + 1, fun fuel found rest hEnough => ?_⟩
    obtain ⟨fuel, rfl⟩ := Nat.exists_eq_add_one_of_ne_zero (by omega : fuel ≠ 0)
    rw [List.map_singleton, List.intercalate_singleton, memberChars, List.cons_append,
      List.append_assoc, List.cons_append, List.cons_append, readMembers_succ, naming_written]
    dsimp only
    rw [hValue fuel _ (by omega), List.map_singleton, ← List.reverse_cons]
    rfl
  | cons w members ih =>
    obtain ⟨enough, hValue⟩ := hMembers m (List.mem_cons_self ..)
    obtain ⟨enough', hRest⟩ := ih fun x hx => hMembers x (List.mem_cons_of_mem _ hx)
    refine ⟨max enough enough' + 1, fun fuel found rest hEnough => ?_⟩
    obtain ⟨fuel, rfl⟩ := Nat.exists_eq_add_one_of_ne_zero (by omega : fuel ≠ 0)
    have hNext := hRest fuel ((some m.1, ofJson m.2) :: found) rest (by omega)
    rw [List.map_cons, List.map_cons, List.intercalate_cons_cons, memberChars, List.append_assoc,
      List.append_assoc, List.cons_append, List.append_assoc, List.cons_append, List.cons_append,
      readMembers_succ, naming_written]
    dsimp only
    rw [hValue fuel _ (by omega)]
    rw [List.map_cons, List.reverse_cons, List.append_assoc] at hNext
    exact hNext

/-! ## Containers -/

/-- A list with an item is read item by item. -/
theorem readValue_list {depth fuel : Nat} {c : Char} {rest : List Char}
    (hSolid : isSpace c = false) (hSome : c ≠ ']') :
    readValue depth (fuel + 1) ('[' :: c :: rest) =
      atDepth depth (readItems (depth + 1) [] fuel (c :: rest)) := by
  have hOpening : opening depth ('[' :: c :: rest) = .items (c :: rest) := by
    rw [opening, skipSpaces_cons rfl]
    simp only [if_true]
    rw [container, skipSpaces_cons hSolid]
    simp only [if_neg hSome]
  rw [readValue_succ, hOpening]

/-- A record with a member is read member by member. -/
theorem readValue_record {depth fuel : Nat} {rest : List Char} :
    readValue depth (fuel + 1) ('\x7b' :: '"' :: rest) =
      atDepth depth (readMembers (depth + 1) [] fuel ('"' :: rest)) := by
  rw [readValue_succ]
  rfl

/-- A written list is read back if its items are. -/
theorem readsAs_list {depth height : Nat} {items : List Json} (hDepth : depth < depthLimit)
    (hFits : ∀ v ∈ items, v.Fits height) (hItems : ∀ v ∈ items, ReadsAs (depth + 1) v) :
    ReadsAs depth (.list items) := by
  cases items with
  | nil =>
    refine readsAs_of_succ 0 fun fuel rest _ => ?_
    rw [readValue_succ]
    show atDepth depth (.list [], some rest) = _
    rw [atDepth, if_pos hDepth]
    rfl
  | cons v items =>
    obtain ⟨enough, hRead⟩ := exists_readItems hItems
    obtain ⟨c, tail, hStart, hSolid, hSome⟩ :=
      (hFits v (List.mem_cons_self ..)).exists_write_eq_cons
    refine readsAs_of_succ enough fun fuel rest hEnough => ?_
    have hItemsRead := hRead fuel [] rest hEnough
    -- the first item starts with something that does not end the list
    obtain ⟨after, hAfter⟩ : ∃ after,
        [','].intercalate ((v :: items).map fun x => x.write.toList) ++ ']' :: rest =
          c :: after := by
      rw [List.map_cons, hStart]
      cases items <;> simp [List.intercalate_cons_cons]
    rw [write_list_toList, List.cons_append, List.append_assoc, List.singleton_append, hAfter,
      readValue_list hSolid hSome, ← hAfter, hItemsRead, atDepth, if_pos hDepth, ofJson, ofItems_eq]
    rfl

/-- A written record is read back if its members are. -/
theorem readsAs_record {depth : Nat} {members : List (String × Json)} (hDepth : depth < depthLimit)
    (hMembers : ∀ m ∈ members, ReadsAs (depth + 1) m.2) : ReadsAs depth (.record members) := by
  cases members with
  | nil =>
    refine readsAs_of_succ 0 fun fuel rest _ => ?_
    rw [readValue_succ]
    show atDepth depth (.record [], some rest) = _
    rw [atDepth, if_pos hDepth]
    rfl
  | cons m members =>
    obtain ⟨enough, hRead⟩ := exists_readMembers hMembers
    refine readsAs_of_succ enough fun fuel rest hEnough => ?_
    have hMembersRead := hRead fuel [] rest hEnough
    -- the first member starts with the quote of its name, so the record is not empty
    obtain ⟨after, hAfter⟩ : ∃ after,
        [','].intercalate ((m :: members).map memberChars) ++ '\x7d' :: rest = '"' :: after := by
      rw [List.map_cons, memberChars]
      cases members <;> simp [List.intercalate_cons_cons]
    rw [write_record_toList, List.cons_append, List.append_assoc, List.singleton_append, hAfter,
      readValue_record, ← hAfter, hMembersRead, atDepth, if_pos hDepth, ofJson, ofMembers_eq]
    rfl

/-! ## Values -/

/-- A written text is read back at any depth. -/
theorem readsAs_text {depth : Nat} (s : String) : ReadsAs depth (.text s) := by
  refine readsAs_of_succ 0 fun fuel rest _ => ?_
  have hText := readText_writeText s rest
  rw [write, writeText_toList, readValue_succ, List.cons_append, List.append_assoc, opening,
    skipSpaces_cons rfl]
  show scalar '"' (textChars s.toList ++ '"' :: rest) = _
  rw [scalar, if_pos rfl, hText, quoted, String.ofList_toList]
  rfl

/-- A written value is read back at a depth from which its containers can be reached. -/
theorem readsAs {height : Nat} {v : Json} (hFits : v.Fits height) :
    ∀ {depth : Nat}, depth + height ≤ depthLimit → ReadsAs depth v := by
  -- by induction on the value; each container takes one level of depth
  induction hFits with
  | null =>
    intro depth _
    refine readsAs_of_succ 0 fun fuel rest _ => ?_
    rw [readValue_succ]
    rfl
  | bool b =>
    intro depth _
    refine readsAs_of_succ 0 fun fuel rest _ => ?_
    rw [readValue_succ]
    cases b <;> rfl
  | text s => exact fun _ => readsAs_text s
  | list hItems ih =>
    intro depth hDepth
    exact readsAs_list (by omega) hItems fun v hv => ih v hv (by omega)
  | record hMembers ih =>
    intro depth hDepth
    exact readsAs_record (by omega) fun m hm => ih m hm (by omega)

/-- **Read back.** The text of a value without numbers, nested no deeper than the
reader goes, is a whole document, and that document is the value. -/
theorem ofText_write {v : Json} (hFits : v.Fits depthLimit) :
    Source.ofText v.write = ⟨.ofJson v, true⟩ := by
  obtain ⟨enough, hRead⟩ := readsAs hFits (Nat.le_of_eq (Nat.zero_add _))
  have hValue := hRead (max enough (2 * v.write.toList.length + 1)) [] (Nat.le_max_left ..)
  rw [List.append_nil] at hValue
  rw [ofText_eq (Nat.le_max_right enough _), hValue]
  rfl

end ReviewPanel.Json
