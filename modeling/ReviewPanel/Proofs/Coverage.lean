import ReviewPanel.Proofs.Lowercase
import ReviewPanel.Proofs.Result
import ReviewPanel.Proofs.Reviewer

/-!
# Coverage — which files the built-in agents accept

Three tables have to agree: the languages that extensions stand for, the names
of agents, in which languages are looked for, and the extensions of each agent.
They do: the extensions of an agent for Python stand for a language that its
name holds, and those of the others for languages that no name of an agent for
Python holds. So an agent is never picked for a file that it rejects while
another one of its category accepts it (`Builtin.validate_of_picks`), although
for TypeScript no name is found and the agent is merely the first of its
category.

Main result:

* `Panel.reviews_what_is_covered` — the slots of the built-in agents hold
  results for exactly the files that their category covers.
-/

namespace ReviewPanel

/-! ## Languages of paths -/

namespace Stack

/-- No extension of the table of languages has a letter that tells the two ways
of lowercasing apart. -/
theorem languages_plain :
    ∀ entry ∈ languages, ∀ e ∈ entry.2, e.toList.all Text.isPlain = true := by decide

/-- The language of an extension. -/
def languageOf? (ext : String) : Option String :=
  (languages.find? fun entry => entry.2.contains ext).map Prod.fst

/-- The language goes by the extension alone. -/
theorem detectLanguage_eq_bind {path : String} :
    detectLanguage path = (lowerExtension? path).bind languageOf? := by
  rw [detectLanguage]
  cases lowerExtension? path with
  | none => rfl
  | some ext =>
    rw [Option.bind_some, languageOf?]
    change (languages.find? fun entry => entry.2.contains ext).bind _ = _
    cases languages.find? fun entry => entry.2.contains ext <;> rfl

/-- The language of a path goes by the ASCII letters of its extension. -/
theorem detectLanguage_eq {path ext : String} (hExt : Text.extension? path = some ext) :
    detectLanguage path = languageOf? (Text.lowerAscii ext) := by
  have hFind : languages.find? (fun entry => entry.2.contains (Text.lowercase ext)) =
      languages.find? fun entry => entry.2.contains (Text.lowerAscii ext) :=
    List.find?_congr fun entry hEntry => Text.contains_lowercase (languages_plain entry hEntry)
  rw [detectLanguage_eq_bind, lowerExtension?, hExt, Option.map_some, Option.bind_some,
    languageOf?, hFind]
  rfl

end Stack

namespace Builtin

open Selection

variable {client : Option Llm.Client} {path content : String} {i j : Instance} {kind : MatchKind}
  {c : Category}

theorem language_of_python (hExt : HasExtension path Python.extensions) :
    Stack.detectLanguage path = some "python" := by
  obtain ⟨ext, hSome, hMem⟩ := hExt
  have hTable : ∀ e ∈ Python.extensions, Stack.languageOf? e = some "python" := by decide
  rw [Stack.detectLanguage_eq hSome, hTable _ hMem]

/-- The extensions of the first stack are those of two languages. -/
theorem language_of_react (hExt : HasExtension path React.extensions) :
    ∃ l ∈ ["javascript", "typescript"], Stack.detectLanguage path = some l := by
  obtain ⟨ext, hSome, hMem⟩ := hExt
  have hTable : ∀ e ∈ React.extensions,
      ∃ l ∈ ["javascript", "typescript"], Stack.languageOf? e = some l := by decide
  rw [Stack.detectLanguage_eq hSome]
  exact hTable _ hMem

/-! ## Languages and names -/

/-- A pair of agents of one category: the first understands the files of React,
the second those of Python and says so in its name. -/
structure IsPair (react python : Instance) : Prop where
  first  : react.agent.extensions = React.extensions
  second : python.agent.extensions = Python.extensions
  /-- Of the two names only the second one holds the language of Python. -/
  names  : Names python "python" ∧ ¬ Names react "python"
  others : ∀ l ∈ ["javascript", "typescript"], ¬ Names python l

/-- The first of the agents that review code is for one stack, the second for the other. -/
theorem isPair_code : IsPair ⟨0, React.codeAgent client⟩ ⟨1, Python.codeAgent client⟩ := by
  have hNames : Names ⟨1, Python.codeAgent none⟩ "python" ∧
      ¬ Names ⟨0, React.codeAgent none⟩ "python" := by decide
  have hOthers : ∀ l ∈ ["javascript", "typescript"], ¬ Names ⟨1, Python.codeAgent none⟩ l := by
    decide
  exact ⟨rfl, rfl, hNames, hOthers⟩

/-- So are those that review tests. -/
theorem isPair_testing : IsPair ⟨2, React.testAgent client⟩ ⟨3, Python.testAgent client⟩ := by
  have hNames : Names ⟨3, Python.testAgent none⟩ "python" ∧
      ¬ Names ⟨2, React.testAgent none⟩ "python" := by decide
  have hOthers : ∀ l ∈ ["javascript", "typescript"], ¬ Names ⟨3, Python.testAgent none⟩ l := by
    decide
  exact ⟨rfl, rfl, hNames, hOthers⟩

/-- An agent fits a file of a known language iff it is named for the language. -/
theorem fitsLanguage_detect_iff {l : String} (hLanguage : Stack.detectLanguage path = some l) :
    FitsLanguage (Stack.detect path content) i ↔ Names i l := by
  simp [FitsLanguage, Stack.detect, hLanguage]

/-! ## The right agent is picked -/

/-- Of a pair, an agent is not picked for a file that it rejects and the other accepts. -/
theorem IsPair.validate_of_picks {react python : Instance} (hPair : IsPair react python)
    (hPicks : Picks (Stack.detect path content) [react, python] i kind)
    (hMem : j ∈ [react, python]) (hAccepts : j.agent.validate path content = true) :
    i.agent.validate path content = true := by
  have hPicked : i = react ∨ i = python := by simpa using hPicks.mem
  have hOther : j = react ∨ j = python := by simpa using hMem
  rcases hOther with rfl | rfl
  · -- nobody is found for the language, or the one who is: the first in either case
    rw [Agent.validate, hPair.first] at hAccepts
    obtain ⟨l, hl, hLanguage⟩ := language_of_react (react_accepts_iff.mp hAccepts).2
    rcases hPicked with rfl | rfl
    · rwa [Agent.validate, hPair.first]
    · rcases hPicks.fitsLanguage_or_head with hFits | ⟨-, hHead⟩
      · exact absurd ((fitsLanguage_detect_iff hLanguage).mp hFits) (hPair.others l hl)
      · cases hHead
        rwa [Agent.validate, hPair.first]
  · -- the second accepts, so the language is its own, and it is found
    rw [Agent.validate, hPair.second] at hAccepts
    have hLanguage := language_of_python (python_accepts_iff.mp hAccepts).2
    rcases hPicked with rfl | rfl
    · rcases hPicks.fitsLanguage_or_head with hFits | ⟨hNobody, -⟩
      · exact absurd ((fitsLanguage_detect_iff hLanguage).mp hFits) hPair.names.2
      · exact absurd ((fitsLanguage_detect_iff hLanguage).mpr hPair.names.1)
          (hNobody _ (by simp))
    · rwa [Agent.validate, hPair.second]

/-- No built-in agent is picked for a file that it rejects while another one of
its category accepts it. -/
theorem validate_of_picks
    (hPicks : Picks (Stack.detect path content) ((Registry.builtin client).agents c) i kind)
    (hMem : j ∈ (Registry.builtin client).agents c)
    (hAccepts : j.agent.validate path content = true) : i.agent.validate path content = true := by
  cases c with
  | code => exact isPair_code.validate_of_picks hPicks hMem hAccepts
  | testing => exact isPair_testing.validate_of_picks hPicks hMem hAccepts
  | security =>
    have hPicked := hPicks.mem
    rw [agents_security, List.mem_singleton] at hPicked hMem
    rwa [hPicked, ← hMem]

/-! ## What a category covers -/

/-- The extensions of the files that the agents for code and for tests understand. -/
def coveredExtensions : List String := ["js", "jsx", "ts", "tsx", "py", "pyi"]

/-- A file that has text, and unless it is only scanned one of the extensions. -/
def Covers (c : Category) (path content : String) : Prop :=
  HasText content ∧ (c = .security ∨ HasExtension path coveredExtensions)

/-- The covered extensions are those of either stack. -/
theorem hasExtension_covered_iff :
    HasExtension path coveredExtensions ↔
      HasExtension path React.extensions ∨ HasExtension path Python.extensions := by
  have hMem : ∀ e, e ∈ coveredExtensions ↔ e ∈ React.extensions ∨ e ∈ Python.extensions := by
    intro e
    rw [← List.mem_append]
    rfl
  simp only [HasExtension, hMem, and_or_left, exists_or]

/-- One of a pair accepts a file iff the file has text and is covered. -/
theorem IsPair.exists_validate_iff {react python : Instance} (hPair : IsPair react python) :
    (∃ j ∈ [react, python], j.agent.validate path content = true) ↔
      HasText content ∧ HasExtension path coveredExtensions := by
  simp only [List.mem_cons, List.not_mem_nil, or_false, exists_eq_or_imp, exists_eq_left,
    Agent.validate, hPair.first, hPair.second, react_accepts_iff, python_accepts_iff,
    hasExtension_covered_iff, and_or_left]

/-- A category covers the files that some agent of it accepts. -/
theorem covers_iff_exists :
    Covers c path content ↔
      ∃ j ∈ (Registry.builtin client).agents c, j.agent.validate path content = true := by
  cases c with
  | code =>
    rw [agents_code, isPair_code.exists_validate_iff, Covers]
    simp
  | testing =>
    rw [agents_testing, isPair_testing.exists_validate_iff, Covers]
    simp
  | security =>
    simp only [agents_security, List.mem_singleton, exists_eq_left, Covers, true_or, and_true]
    exact acceptsFile_nil_iff.symm

/-- Whoever is picked accepts the files that the category covers. -/
theorem validate_iff_covers
    (hPicks : Picks (Stack.detect path content) ((Registry.builtin client).agents c) i kind) :
    i.agent.validate path content = true ↔ Covers c path content := by
  rw [@covers_iff_exists client]
  constructor
  · intro hAccepts
    exact ⟨i, hPicks.mem, hAccepts⟩
  · rintro ⟨j, hMem, hAccepts⟩
    exact validate_of_picks hPicks hMem hAccepts

end Builtin

/-! ## Panels of built-in agents -/

namespace Panel

/-- A panel of the built-in agents, with the built-in templates and its own way
to detect stacks. Its gates and keywords may be any. -/
structure IsBuiltin (client : Option Llm.Client) (p : Panel) : Prop where
  registry  : p.registry = .builtin client
  templates : p.templates = .builtin
  detect    : p.detect = Stack.detect

variable {client : Option Llm.Client} {p : Panel} {session : Session} {w : Workflow}
  {path content : String} {context : Option Context} {t : Template} {selected : List Selected}

theorem isBuiltin_ofRegistry : IsBuiltin client (ofRegistry (.builtin client)) := ⟨rfl, rfl, rfl⟩

/-- Every request has a result on a panel of the built-in agents. -/
theorem IsBuiltin.exists_select (hPanel : IsBuiltin client p) (w : Workflow)
    (path content : String) :
    ∃ selected, Selection.select (TemplateSet.builtinTemplate w) (p.detect path content)
      p.registry = .ok selected := by
  rw [hPanel.registry, Selection.exists_select_iff]
  intro c _
  cases c <;> exact List.cons_ne_nil _ _

theorem IsBuiltin.execute_eq_ok (hPanel : IsBuiltin client p)
    (hSelect : Selection.select (TemplateSet.builtinTemplate w) (p.detect path content)
      p.registry = .ok selected) :
    (p.execute session w path content context).2 =
      .ok (p.resultOf w (TemplateSet.builtinTemplate w)
        (p.stepsOf (TemplateSet.builtinTemplate w) path content context selected)) := by
  have hTemplate : p.templates.get? w = some (TemplateSet.builtinTemplate w) := by
    rw [hPanel.templates]
    rfl
  exact execute_eq_ok_iff.mpr ⟨_, _, hTemplate, hSelect, rfl⟩

/-- Every selected agent has its slot, with the outcome of its analysis. -/
theorem exists_slot (hSelect : Selection.select t (p.detect path content) p.registry = .ok selected)
    (context : Option Context) {s : Selected} (hMem : s ∈ selected) :
    ∃ told, (Execution.slots (p.stepsOf t path content context selected)).get? s.key =
      some ((s.choice.agent.analyze path content told).outcome s.choice.name t.deadline) := by
  set steps := p.stepsOf t path content context selected
  have hSteps : steps.map Step.selected = selected := Execution.map_selected_run
  have hTimes : Execution.timingKeys steps = Selection.keys selected := Execution.timingKeys_run
  obtain ⟨x, hx, rfl⟩ := List.mem_map.mp (hSteps ▸ hMem)
  have hSlot := Execution.get?_slots (hTimes ▸ Selection.keys_nodup hSelect) hx
  rw [congrArg Step.outcome (Execution.eq_step_of_mem_run hx)] at hSlot
  exact ⟨x.context, hSlot⟩

/-- Every selected agent is picked from the built-in agents of its category. -/
theorem IsBuiltin.picks (hPanel : IsBuiltin client p)
    (hSelect : Selection.select t (p.detect path content) p.registry = .ok selected)
    {s : Selected} (hMem : s ∈ selected) :
    Selection.Picks (Stack.detect path content) ((Registry.builtin client).agents s.category)
      s.choice s.kind := by
  rw [hPanel.detect, hPanel.registry] at hSelect
  obtain ⟨-, rfl⟩ := Selection.select_eq_ok_iff.mp hSelect
  exact (Selection.follows_chosen _ _ _).picks s hMem

/-- The categories of a built-in template are selected in the order of listing. -/
theorem IsBuiltin.map_category (hPanel : IsBuiltin client p)
    (hSelect : Selection.select (TemplateSet.builtinTemplate w) (p.detect path content)
      p.registry = .ok selected) :
    selected.map Selected.category =
      (TemplateSet.builtinTemplate w).required ++ (TemplateSet.builtinTemplate w).optional := by
  obtain ⟨-, rfl⟩ := Selection.select_eq_ok_iff.mp hSelect
  rw [(Selection.follows_chosen _ _ _).categories, hPanel.registry]
  cases w <;> rfl

/--
**The built-in agents cover exactly the files they claim.** A panel of the
built-in agents with the built-in templates has a result for every request, with
one slot for each category of the template. The slot of a category holds a
result iff the category covers the file: for code and for tests, iff the file
has text and one of their extensions; for security, iff it has text. Every other
slot holds the rejection of its agent. In particular no agent is selected for a
file that it rejects while another one of its category accepts it.
-/
theorem reviews_what_is_covered (hPanel : IsBuiltin client p) (session : Session) (w : Workflow)
    (path content : String) (context : Option Context) :
    ∃ selected result,
      Selection.select (TemplateSet.builtinTemplate w) (Stack.detect path content)
          (.builtin client) = .ok selected ∧
        (p.execute session w path content context).2 = .ok result ∧
        selected.map Selected.category =
          (TemplateSet.builtinTemplate w).required ++ (TemplateSet.builtinTemplate w).optional ∧
        result.report.slots.keys = Selection.keys selected ∧
        ∀ s ∈ selected,
          s.choice ∈ (Registry.builtin client).agents s.category ∧
            (∀ i ∈ (Registry.builtin client).agents s.category,
              i.agent.validate path content = true →
                s.choice.agent.validate path content = true) ∧
            (Builtin.Covers s.category path content →
              ∃ found, result.report.slots.get? s.key = some (.success found)) ∧
            (¬ Builtin.Covers s.category path content →
              result.report.slots.get? s.key = some (.failure
                ⟨"Invalid input for agent " ++ s.choice.name ++
                  ": unsupported or empty input: " ++ path, .execution⟩)) := by
  obtain ⟨selected, hSelect⟩ := hPanel.exists_select w path content
  have hDescribes : (p.resultOf w _ (p.stepsOf _ path content context selected)).Describes p _
      selected _ := resultOf_describes hSelect
  have hBuiltin := hSelect
  rw [hPanel.detect, hPanel.registry] at hBuiltin
  refine ⟨selected, _, hBuiltin, hPanel.execute_eq_ok hSelect, hPanel.map_category hSelect,
    hDescribes.agents, ?_⟩
  intro s hs
  -- the agent is picked from its category, and is a reviewer
  have hPicks := hPanel.picks hSelect hs
  obtain ⟨profile, review, hReviews⟩ := Builtin.exists_reviews hPicks.mem
  obtain ⟨told, hSlot⟩ := exists_slot hSelect context hs
  rw [hReviews.outcome_eq] at hSlot
  have hCovers := Builtin.validate_iff_covers hPicks
  refine ⟨hPicks.mem, fun i hi => Builtin.validate_of_picks hPicks hi, ?_, ?_⟩
  · intro hCovered
    rw [if_pos (hCovers.mpr hCovered)] at hSlot
    exact ⟨_, hSlot⟩
  · intro hNot
    rw [if_neg (mt hCovers.mp hNot), Builtin.ofError_rejection, ← hReviews.name] at hSlot
    exact hSlot

/-- For a file of TypeScript every slot holds a result, however its extension is
written. -/
theorem reviews_what_is_covered_typescript :
    IsBuiltin none (ofRegistry (.builtin none)) ∧
      ∃ (selected : List Selected) (result : WorkflowResult),
        ((ofRegistry (.builtin none)).execute .empty .fullAnalysis "src/App.TSX" "x" none).2 =
            .ok result ∧
          selected.map Selected.category = [.code, .testing, .security] ∧
          ∀ s ∈ selected, ∃ found, result.report.slots.get? s.key = some (.success found) := by
  have hPanel : IsBuiltin none (ofRegistry (.builtin none)) := isBuiltin_ofRegistry
  obtain ⟨selected, result, -, hOk, hCategories, -, hSlots⟩ :=
    reviews_what_is_covered hPanel .empty .fullAnalysis
      "src/App.TSX" "x" none
  refine ⟨hPanel, selected, result, hOk, hCategories, fun s hs => ?_⟩
  have hText : Builtin.HasText "x" := ⟨'x', by decide, by decide⟩
  have hExtension : Builtin.HasExtension "src/App.TSX" Builtin.coveredExtensions :=
    ⟨"TSX", by decide, by decide⟩
  exact (hSlots s hs).2.2.1 ⟨hText, Or.inr hExtension⟩

end Panel

end ReviewPanel
