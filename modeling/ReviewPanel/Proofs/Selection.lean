import Mathlib.Data.List.Find
import Mathlib.Data.List.Nodup
import ReviewPanel.Proofs.First
import ReviewPanel.Proofs.Search
import ReviewPanel.Workflow.Selection

/-!
# Selection — one agent for each category

A template lists each of its categories once, where it is first listed
(`Template.categories_eq`), and the key of a slot names both the category and
the agent (`slotKey_inj`). So the keys of a selection are pairwise distinct,
which is what lets every selected agent have a slot of its own.

* `Selection.select_eq_ok_iff`    — what a successful selection holds.
* `Selection.select_eq_error_iff` — when there is none.
* `Selection.keys_nodup`          — no key is selected twice.
* `Selection.select_exactly`      — a selection is what the rule of selection
  (`Selection.Follows`) says, and nothing else is.
-/

namespace ReviewPanel

/-! ## Keys of slots -/

/-- The key of a slot determines its category and the name of its agent. -/
theorem slotKey_inj {c c' : Category} {name name' : String} :
    slotKey c name = slotKey c' name' ↔ c = c' ∧ name = name' := by
  constructor
  · intro hKey
    have hChars := congrArg String.toList hKey
    simp only [slotKey, String.toList_append] at hChars
    -- the labels already differ in their first letters
    cases c <;> cases c' <;> simp [Category.label] at hChars <;>
      exact ⟨rfl, String.toList_inj.mp hChars⟩
  · rintro ⟨rfl, rfl⟩
    rfl

/-! ## The categories of a template -/

/-- Listing one more category adds it unless it is there. -/
theorem Template.addCategories_singleton {mark : Category → Bool} {listed : List Category}
    {c : Category} {required : Bool} (hMark : c ∉ listed → mark c = required) :
    addCategories required (listed.eraseDups.map fun c => (c, mark c)) [c] =
      (listed ++ [c]).eraseDups.map fun c => (c, mark c) := by
  have hAny : (listed.eraseDups.map fun c => (c, mark c)).any (·.1 == c) = listed.contains c := by
    rw [Bool.eq_iff_iff]
    simp
  rw [addCategories, List.foldl_cons, List.foldl_nil, hAny, eraseDups_concat]
  split
  · rfl
  · rename_i hNew
    rw [List.map_append, ← hMark fun hOld => hNew (List.contains_iff_mem.mpr hOld)]
    rfl

/-- Categories join a list of distinct ones, all with the marks that they had
where they were first listed. -/
theorem Template.addCategories_eq {required : Bool} {mark : Category → Bool} {cs : List Category} :
    ∀ {listed : List Category}, (∀ c ∈ cs, c ∉ listed → mark c = required) →
      addCategories required (listed.eraseDups.map fun c => (c, mark c)) cs =
        (listed ++ cs).eraseDups.map fun c => (c, mark c) := by
  induction cs with
  | nil =>
    intro listed _
    rw [List.append_nil]
    rfl
  | cons c rest ih =>
    intro listed hMark
    have hHead := addCategories_singleton (hMark c (List.mem_cons_self ..))
    -- what is new to the longer list is new to the shorter one
    have hRest : ∀ x ∈ rest, x ∉ listed ++ [c] → mark x = required := by
      intro x hx hNew
      exact hMark x (List.mem_cons_of_mem _ hx) fun hOld => hNew (List.mem_append_left _ hOld)
    calc addCategories required (listed.eraseDups.map fun c => (c, mark c)) (c :: rest)
        = addCategories required
            (addCategories required (listed.eraseDups.map fun c => (c, mark c)) [c]) rest := rfl
      _ = (listed ++ [c] ++ rest).eraseDups.map fun c => (c, mark c) := by rw [hHead, ih hRest]
      _ = (listed ++ c :: rest).eraseDups.map fun c => (c, mark c) := by
          rw [List.append_assoc, List.singleton_append]

/-- A template lists each of its categories once, in the order of first listing
and the required ones before the others; one that is listed as both is required. -/
theorem Template.categories_eq (t : Template) :
    t.categories =
      (t.required ++ t.optional).eraseDups.map fun c => (c, decide (c ∈ t.required)) := by
  -- the required categories join an empty list, the optional ones what this gives
  have hNone : addCategories true [] t.required =
      addCategories true (([] : List Category).eraseDups.map fun c => (c, decide (c ∈ t.required)))
        t.required := rfl
  have hRequired := hNone.trans (addCategories_eq fun c hc _ => decide_eq_true hc)
  rw [categories, hRequired]
  exact addCategories_eq fun c _ hNew => decide_eq_false hNew

example :
    { Template.ofRequired [.code, .testing, .code] with
      optional := [.testing, .security] }.categories =
      [(.code, true), (.testing, true), (.security, false)] := by decide

theorem Template.categories_nodup (t : Template) : (t.categories.map Prod.fst).Nodup := by
  rw [categories_eq, List.map_map]
  exact (List.map_id _).symm ▸ nodup_eraseDups

/-- The first of the required categories of a kind is the first of this kind
that is marked as required. -/
theorem Template.find?_categories (t : Template) (p : Category → Bool) :
    t.categories.find? (fun e => e.2 && p e.1) = (t.required.find? p).map (·, true) := by
  have hListed : (t.required ++ t.optional).find? (fun c => decide (c ∈ t.required) && p c) =
      t.required.find? p := by
    have hRequired : t.required.find? (fun c => decide (c ∈ t.required) && p c) =
        t.required.find? p := List.find?_congr fun c hc => by simp [hc]
    rw [List.find?_append, hRequired]
    cases hFound : t.required.find? p with
    | some c => rfl
    | none =>
      -- what is listed as optional and required alike is of the kind in neither list
      rw [Option.none_or, List.find?_eq_none]
      intro c _ hc
      obtain ⟨hIn, hKind⟩ : c ∈ t.required ∧ p c = true := by simpa using hc
      exact List.find?_eq_none.mp hFound c hIn hKind
  rw [categories_eq, List.find?_map]
  change ((t.required ++ t.optional).eraseDups.find?
    fun c => decide (c ∈ t.required) && p c).map _ = _
  rw [find?_eraseDups, hListed]
  cases hFound : t.required.find? p with
  | none => rfl
  | some c =>
    have hIn : c ∈ t.required := List.mem_of_find?_eq_some hFound
    simp [hIn]

namespace Selection

variable {t : Template} {stack : Stack} {registry : Registry} {selected : List Selected}

/-! ## The agent of a category -/

/-- The name of an agent holds a text, the case of letters aside. -/
def Names (i : Instance) (text : String) : Prop :=
  (Text.lowercase text).toList <:+: (Text.lowercase i.name).toList

/-- An agent for the language and the framework of a file, both of which are known. -/
def FitsBoth (stack : Stack) (i : Instance) : Prop :=
  ∃ language ∈ stack.language, ∃ framework ∈ stack.framework,
    Names i language ∧ Names i framework

/-- An agent for the language of a file, which is known. -/
def FitsLanguage (stack : Stack) (i : Instance) : Prop :=
  ∃ language ∈ stack.language, Names i language

/-- The rule by which one of the agents of a category is picked for a file. -/
inductive Picks (stack : Stack) (agents : List Instance) : Instance → MatchKind → Prop
  | exact {i : Instance} (hFirst : IsFirst (FitsBoth stack) agents i) : Picks stack agents i .exact
  | language {i : Instance} (hNone : ∀ j ∈ agents, ¬ FitsBoth stack j)
      (hFirst : IsFirst (FitsLanguage stack) agents i) : Picks stack agents i .language
  | fallback {i : Instance} (hNone : ∀ j ∈ agents, ¬ FitsBoth stack j)
      (hNoLanguage : ∀ j ∈ agents, ¬ FitsLanguage stack j) (hHead : agents.head? = some i) :
      Picks stack agents i .fallback

theorem nameHolds_iff {i : Instance} {text : String} :
    nameHolds i (Text.lowercase text) = true ↔ Names i text :=
  Text.contains_iff

instance (i : Instance) (text : String) : Decidable (Names i text) :=
  decidable_of_iff _ nameHolds_iff

instance (stack : Stack) : DecidablePred (FitsBoth stack) := fun i =>
  inferInstanceAs (Decidable (∃ language ∈ stack.language, ∃ framework ∈ stack.framework,
    Names i language ∧ Names i framework))

instance (stack : Stack) : DecidablePred (FitsLanguage stack) := fun i =>
  inferInstanceAs (Decidable (∃ language ∈ stack.language, Names i language))

/-- An exact match is looked for among the agents that fit both. -/
theorem findExact?_eq (stack : Stack) (agents : List Instance) :
    findExact? agents (stack.language.map Text.lowercase) (stack.framework.map Text.lowercase) =
      agents.find? fun i => decide (FitsBoth stack i) := by
  obtain ⟨language, framework, fileType⟩ := stack
  -- where one of the two is unknown nobody fits both
  cases language with
  | none => exact (List.find?_eq_none.mpr (by simp [FitsBoth])).symm
  | some language =>
    cases framework with
    | none => exact (List.find?_eq_none.mpr (by simp [FitsBoth])).symm
    | some framework =>
      have hFits : ∀ i, (nameHolds i (Text.lowercase language) &&
          nameHolds i (Text.lowercase framework)) =
          decide (FitsBoth ⟨some language, some framework, fileType⟩ i) := by
        intro i
        rw [Bool.eq_iff_iff]
        simp [FitsBoth, nameHolds_iff]
      simp only [findExact?, Option.map_some, hFits]

theorem findLanguage?_eq (stack : Stack) (agents : List Instance) :
    findLanguage? agents (stack.language.map Text.lowercase) =
      agents.find? fun i => decide (FitsLanguage stack i) := by
  obtain ⟨language, framework, fileType⟩ := stack
  cases language with
  | none => exact (List.find?_eq_none.mpr (by simp [FitsLanguage])).symm
  | some language =>
    have hFits : ∀ i, nameHolds i (Text.lowercase language) =
        decide (FitsLanguage ⟨some language, framework, fileType⟩ i) := by
      intro i
      rw [Bool.eq_iff_iff]
      simp [FitsLanguage, nameHolds_iff]
    simp only [findLanguage?, Option.map_some, hFits]

/-- The agent that is picked is the one that the rule asks for. -/
theorem pick?_eq_some_iff {agents : List Instance} {i : Instance} {kind : MatchKind} :
    pick? agents stack = some (i, kind) ↔ Picks stack agents i kind := by
  -- what each of the two searches finds, and what it means that it finds nothing
  have hBoth : ∀ {x}, agents.find? (fun i => decide (FitsBoth stack i)) = some x ↔
      IsFirst (FitsBoth stack) agents x := find?_eq_some_iff_isFirst fun _ => decide_eq_true_iff
  have hNotBoth : agents.find? (fun i => decide (FitsBoth stack i)) = none ↔
      ∀ j ∈ agents, ¬ FitsBoth stack j := by simp
  have hLanguage : ∀ {x}, agents.find? (fun i => decide (FitsLanguage stack i)) = some x ↔
      IsFirst (FitsLanguage stack) agents x :=
    find?_eq_some_iff_isFirst fun _ => decide_eq_true_iff
  have hNotLanguage : agents.find? (fun i => decide (FitsLanguage stack i)) = none ↔
      ∀ j ∈ agents, ¬ FitsLanguage stack j := by simp
  unfold pick?
  simp only [findExact?_eq, findLanguage?_eq]
  constructor
  · intro hPick
    split at hPick
    · rename_i x hFound
      cases hPick
      exact .exact (hBoth.mp hFound)
    · rename_i hNone
      split at hPick
      · rename_i x hFound
        cases hPick
        exact .language (hNotBoth.mp hNone) (hLanguage.mp hFound)
      · rename_i hNoLanguage
        obtain ⟨x, hHead, hx⟩ := Option.map_eq_some_iff.mp hPick
        cases hx
        exact .fallback (hNotBoth.mp hNone) (hNotLanguage.mp hNoLanguage) hHead
  · intro hPicks
    cases hPicks with
    | exact hFirst => rw [hBoth.mpr hFirst]
    | language hNone hFirst => rw [hNotBoth.mpr hNone, hLanguage.mpr hFirst]
    | fallback hNone hNoLanguage hHead =>
      rw [hNotBoth.mpr hNone, hNotLanguage.mpr hNoLanguage, hHead]
      rfl

/-- Nobody is picked iff there is nobody. -/
theorem pick?_eq_none_iff {agents : List Instance} : pick? agents stack = none ↔ agents = [] := by
  constructor
  · intro hNone
    simp only [pick?] at hNone
    split at hNone
    · cases hNone
    · split at hNone
      · cases hNone
      · simpa using hNone
  · rintro rfl
    simp only [pick?, findExact?_eq, findLanguage?_eq]
    rfl

/-- Whoever is picked is there. -/
theorem Picks.mem {agents : List Instance} {i : Instance} {kind : MatchKind}
    (hPicks : Picks stack agents i kind) : i ∈ agents := by
  cases hPicks with
  | exact hFirst =>
    obtain ⟨before, after, rfl, -, -⟩ := hFirst
    exact List.mem_append_right _ (List.mem_cons_self ..)
  | language _ hFirst =>
    obtain ⟨before, after, rfl, -, -⟩ := hFirst
    exact List.mem_append_right _ (List.mem_cons_self ..)
  | fallback _ _ hHead => exact List.mem_of_mem_head? hHead

/-- Whoever is picked fits the language, unless nobody does and the first is picked. -/
theorem Picks.fitsLanguage_or_head {agents : List Instance} {i : Instance} {kind : MatchKind}
    (hPicks : Picks stack agents i kind) :
    FitsLanguage stack i ∨
      (∀ j ∈ agents, ¬ FitsLanguage stack j) ∧ agents.head? = some i := by
  cases hPicks with
  | exact hFirst =>
    obtain ⟨_, _, _, ⟨language, hLanguage, _, _, hNames, _⟩, _⟩ := hFirst
    exact Or.inl ⟨language, hLanguage, hNames⟩
  | language _ hFirst =>
    obtain ⟨_, _, _, hFits, _⟩ := hFirst
    exact Or.inl hFits
  | fallback _ hNoLanguage hHead => exact Or.inr ⟨hNoLanguage, hHead⟩

/-! ## What a selection holds -/

/-- The agent that stands for one category of a template, if it has any. -/
def chosen? (stack : Stack) (registry : Registry) (e : Category × Bool) : Option Selected :=
  (pick? (registry.agents e.1) stack).map fun p => ⟨e.1, e.2, p.2, p.1⟩

theorem chosen?_eq_some_iff {e : Category × Bool} {s : Selected} :
    chosen? stack registry e = some s ↔
      s.category = e.1 ∧ s.required = e.2 ∧
        Picks stack (registry.agents e.1) s.choice s.kind := by
  rw [chosen?, Option.map_eq_some_iff]
  constructor
  · rintro ⟨⟨i, kind⟩, hPick, rfl⟩
    exact ⟨rfl, rfl, pick?_eq_some_iff.mp hPick⟩
  · rintro ⟨hCategory, hRequired, hPicks⟩
    refine ⟨(s.choice, s.kind), pick?_eq_some_iff.mpr hPicks, ?_⟩
    rw [← hCategory, ← hRequired]

theorem chosen?_eq_none_iff {e : Category × Bool} :
    chosen? stack registry e = none ↔ registry.agents e.1 = [] := by
  rw [chosen?, Option.map_eq_none_iff, pick?_eq_none_iff]

/-- One category is refused if it is required and has no agent. -/
theorem selectCategory_eq (e : Category × Bool) :
    selectCategory stack registry e =
      if (e.2 && (registry.agents e.1).isEmpty) = true then .error (.noSuitableAgent e.1)
      else .ok (chosen? stack registry e) := by
  unfold selectCategory chosen?
  cases hPick : pick? (registry.agents e.1) stack with
  | some p =>
    have hSome : registry.agents e.1 ≠ [] := fun hNil => by
      rw [pick?_eq_none_iff.mpr hNil] at hPick
      cases hPick
    simp [hSome]
  | none => simp [pick?_eq_none_iff.mp hPick]

/-- A selection is refused for the first required category without an agent;
else it holds the agents of the categories, in order. -/
theorem select_eq (t : Template) (stack : Stack) (registry : Registry) :
    select t stack registry =
      match t.required.find? fun c => (registry.agents c).isEmpty with
      | some c => .error (.noSuitableAgent c)
      | none => .ok (t.categories.filterMap (chosen? stack registry)) := by
  have hRefused := t.find?_categories fun c => (registry.agents c).isEmpty
  rw [select]
  cases hMissing : t.required.find? fun c => (registry.agents c).isEmpty with
  | some c =>
    rw [hMissing, Option.map_some] at hRefused
    -- the first category that is required and has no agent is the first one refused
    have hFirst : IsFirst (fun e => ∃ err, selectCategory stack registry e = .error err)
        t.categories (c, true) := by
      rw [← find?_eq_some_iff_isFirst _]
      · exact hRefused
      · intro e
        rw [selectCategory_eq]
        split <;> simp_all
    have hError : selectCategory stack registry (c, true) = .error (.noSuitableAgent c) := by
      have hEmpty := List.find?_some hRefused
      rw [selectCategory_eq, if_pos hEmpty]
    rw [mapM_eq_error_iff.mpr ⟨_, hFirst, hError⟩]
    rfl
  | none =>
    rw [hMissing, Option.map_none, List.find?_eq_none] at hRefused
    have hAll : t.categories.mapM (selectCategory stack registry) =
        .ok (t.categories.map (chosen? stack registry)) := by
      rw [mapM_eq_ok_iff, List.forall₂_map_right_iff, List.forall₂_same]
      intro e he
      rw [selectCategory_eq, if_neg (hRefused e he)]
    rw [hAll]
    change Except.ok ((t.categories.map (chosen? stack registry)).filterMap id) = _
    rw [List.filterMap_map]
    rfl

/-- A selection fails for the first required category that has no agent, and
for no other reason. -/
theorem select_eq_error_iff {error : WorkflowError} :
    select t stack registry = .error error ↔
      ∃ c, IsFirst (fun c => registry.agents c = []) t.required c ∧
        error = .noSuitableAgent c := by
  have hMissing : ∀ {c}, t.required.find? (fun c => (registry.agents c).isEmpty) = some c ↔
      IsFirst (fun c => registry.agents c = []) t.required c :=
    find?_eq_some_iff_isFirst fun _ => List.isEmpty_iff
  simp only [← hMissing, select_eq]
  cases t.required.find? fun c => (registry.agents c).isEmpty with
  | none => simp
  | some c => simp [eq_comm]

/-- A selection succeeds iff every required category has an agent, and holds
the agents of all categories, in order. -/
theorem select_eq_ok_iff :
    select t stack registry = .ok selected ↔
      (∀ c ∈ t.required, registry.agents c ≠ []) ∧
        selected = t.categories.filterMap (chosen? stack registry) := by
  have hComplete : t.required.find? (fun c => (registry.agents c).isEmpty) = none ↔
      ∀ c ∈ t.required, registry.agents c ≠ [] := by simp
  rw [← hComplete, select_eq]
  cases t.required.find? fun c => (registry.agents c).isEmpty with
  | none => simp [eq_comm]
  | some c => simp

theorem exists_select_iff :
    (∃ selected, select t stack registry = .ok selected) ↔
      ∀ c ∈ t.required, registry.agents c ≠ [] := by
  simp only [select_eq_ok_iff, exists_and_left, exists_eq, and_true]

/-! ## Distinctness -/

/-- The categories of the agents that are chosen are those that have an agent. -/
theorem category_filterMap_chosen (entries : List (Category × Bool)) :
    (entries.filterMap (chosen? stack registry)).map Selected.category =
      (entries.map Prod.fst).filter fun c => !(registry.agents c).isEmpty := by
  induction entries with
  | nil => rfl
  | cons e rest ih =>
    rw [List.filterMap_cons, List.map_cons, List.filter_cons]
    cases hEntry : chosen? stack registry e with
    | none => simp [chosen?_eq_none_iff.mp hEntry, ih]
    | some s =>
      have hSome : registry.agents e.1 ≠ [] := fun hNil => by
        rw [chosen?_eq_none_iff.mpr hNil] at hEntry
        cases hEntry
      simp [hSome, ih, (chosen?_eq_some_iff.mp hEntry).1]

/-- No category is selected twice. -/
theorem category_nodup (hSelect : select t stack registry = .ok selected) :
    (selected.map Selected.category).Nodup := by
  rw [(select_eq_ok_iff.mp hSelect).2, category_filterMap_chosen]
  exact t.categories_nodup.filter _

/-- No key is selected twice. -/
theorem keys_nodup (hSelect : select t stack registry = .ok selected) :
    (keys selected).Nodup := by
  -- keys of different categories differ
  have hCategories := category_nodup hSelect
  rw [List.Nodup, List.pairwise_map] at hCategories
  rw [keys, List.Nodup, List.pairwise_map]
  exact hCategories.imp fun hNe hKey => hNe (slotKey_inj.mp hKey).1

/-! ## The rule of selection -/

/-- The rule of selection: one entry for each category that is listed and has an
agent, in the order of first listing and the required categories before the
others; marked as required iff it is listed as such; with the agent that is
picked for the file. -/
structure Follows (t : Template) (stack : Stack) (registry : Registry)
    (selected : List Selected) : Prop where
  categories : selected.map Selected.category =
    (t.required ++ t.optional).eraseDups.filter fun c => !(registry.agents c).isEmpty
  required   : ∀ s ∈ selected, s.required = true ↔ s.category ∈ t.required
  picks      : ∀ s ∈ selected, Picks stack (registry.agents s.category) s.choice s.kind

theorem follows_chosen (t : Template) (stack : Stack) (registry : Registry) :
    Follows t stack registry (t.categories.filterMap (chosen? stack registry)) := by
  have hEntry : ∀ s ∈ t.categories.filterMap (chosen? stack registry),
      s.required = decide (s.category ∈ t.required) ∧
        Picks stack (registry.agents s.category) s.choice s.kind := by
    intro s hs
    obtain ⟨e, he, hChosen⟩ := List.mem_filterMap.mp hs
    obtain ⟨hCategory, hRequired, hPicks⟩ := chosen?_eq_some_iff.mp hChosen
    rw [t.categories_eq] at he
    obtain ⟨c, -, rfl⟩ := List.mem_map.mp he
    rw [hCategory]
    exact ⟨hRequired, hPicks⟩
  refine ⟨?_, fun s hs => ?_, fun s hs => (hEntry s hs).2⟩
  · rw [category_filterMap_chosen, t.categories_eq, List.map_map]
    exact congrArg (List.filter _) (List.map_id _)
  · rw [(hEntry s hs).1, decide_eq_true_iff]

/-- The rule leaves no choice. -/
theorem Follows.eq_chosen (hFollows : Follows t stack registry selected) :
    selected = t.categories.filterMap (chosen? stack registry) := by
  set listed := (t.required ++ t.optional).eraseDups
  set choose : Category → Option Selected := fun c =>
    chosen? stack registry (c, decide (c ∈ t.required))
  -- each entry is what is chosen for its category
  have hEntry : ∀ s ∈ selected, choose s.category = some s := by
    intro s hs
    refine chosen?_eq_some_iff.mpr ⟨rfl, ?_, hFollows.picks s hs⟩
    rw [Bool.eq_iff_iff, hFollows.required s hs, decide_eq_true_iff]
  have hSelf : (selected.map Selected.category).filterMap choose = selected := by
    rw [List.filterMap_map]
    exact (List.filterMap_eq_map_iff_forall_eq_some.mpr hEntry).trans (List.map_id _)
  rw [← hSelf, hFollows.categories, List.filterMap_filter, t.categories_eq, List.filterMap_map]
  apply List.filterMap_congr
  intro c _
  -- nothing is chosen for a category without agents
  by_cases hNil : registry.agents c = []
  · simp [hNil, choose, chosen?_eq_none_iff.mpr]
  · simp [hNil, choose]

/-- Nobody is selected only where nothing is required and none of the optional
categories has an agent. -/
theorem agents_eq_nil_of_select_eq_nil (hSelect : select t stack registry = .ok []) :
    t.required = [] ∧ ∀ c ∈ t.optional, registry.agents c = [] := by
  obtain ⟨hRequired, hNil⟩ := select_eq_ok_iff.mp hSelect
  have hCategories := (follows_chosen t stack registry).categories
  rw [← hNil, List.map_nil, eq_comm, List.filter_eq_nil_iff] at hCategories
  have hListed : ∀ c ∈ t.required ++ t.optional, registry.agents c = [] := by
    intro c hc
    simpa using hCategories c (List.mem_eraseDups.mpr hc)
  refine ⟨List.eq_nil_iff_forall_not_mem.mpr fun c hc => ?_, fun c hc => ?_⟩
  · exact hRequired c hc (hListed c (List.mem_append_left _ hc))
  · exact hListed c (List.mem_append_right _ hc)

/--
**Selection is exactly its rule.** A selection fails iff some required category
has no agent, and then for the first such category. Else there is a selection,
and it is the one list that the rule describes.
-/
theorem select_exactly (t : Template) (stack : Stack) (registry : Registry) :
    (∀ error, select t stack registry = .error error ↔
      ∃ c, IsFirst (fun c => registry.agents c = []) t.required c ∧
        error = .noSuitableAgent c) ∧
    ((∃ selected, select t stack registry = .ok selected) ↔
      ∀ c ∈ t.required, registry.agents c ≠ []) ∧
    (∀ selected, select t stack registry = .ok selected ↔
      (∀ c ∈ t.required, registry.agents c ≠ []) ∧ Follows t stack registry selected) := by
  refine ⟨fun error => select_eq_error_iff, exists_select_iff, fun selected => ?_⟩
  rw [select_eq_ok_iff]
  refine and_congr_right fun _ => ⟨?_, Follows.eq_chosen⟩
  rintro rfl
  exact follows_chosen t stack registry

end Selection

end ReviewPanel
