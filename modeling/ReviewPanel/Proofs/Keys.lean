import ReviewPanel.Proofs.Registrations
import ReviewPanel.Proofs.Report
import ReviewPanel.Proofs.Requests

/-!
# Keys — one agent, one key, one view

The key of a slot begins with the label of a category, and no label goes on where
another one ends. So a key can be taken apart again whatever the name of the agent
(`slotKey_inj`), even one that reads like a key itself, and three things follow. A key
leads back to the one selected agent that carries it. The counters of a panel have an
entry for each registration and none of them stands in the way of another. And since
each label holds the word by which the view of its category is made, every result that
an agent gives is seen in the view of the category that it was selected for.

* `Selection.get?_eq_some_iff`   — a key leads to the selected agent that carries it.
* `Panel.counts_each`            — the counters of a panel, agent by agent.
* `Execution.shows_results`      — a result is seen in the view of its category.
* `Panel.keys_identify_agents`   — all of it.
-/

namespace ReviewPanel

/-! ## Keys of a selection -/

namespace Selection

variable {plan : Template} {stack : Stack} {registry : Registry} {selected : List Selected}

/-- A key leads to the one selected agent that carries it. -/
theorem get?_eq_some_iff (hSelect : select plan stack registry = .ok selected) {key : String}
    {s : Selected} : get? selected key = some s ↔ s ∈ selected ∧ s.key = key := by
  constructor
  · exact Roster.mem_of_find?
  · rintro ⟨hMem, rfl⟩
    exact Roster.find?_name (keys_nodup hSelect) hMem

end Selection

/-! ## Keys of the counters -/

namespace Panel

variable {p : Panel} {session : Session} {r : Registry}

/-- The keys of a registry are those of its places: leaving out the categories without
agents leaves out no key. -/
theorem map_fst_keyedAgents :
    (keyedAgents r).map Prod.fst = r.places.map fun place => slotKey place.1 place.2 := by
  have hKeys : ∀ cs : List Category,
      ((cs.filter fun c => !(r.agents c).isEmpty).flatMap fun c =>
        (r.agents c).map fun i => slotKey c i.name) =
      cs.flatMap fun c => (r.agents c).map fun i => slotKey c i.name := by
    intro cs
    induction cs with
    | nil => rfl
    | cons c rest ih =>
      rw [List.filter_cons, List.flatMap_cons, ← ih]
      -- a category without agents is left out on one side and adds nothing on the other
      cases hAgents : r.agents c with
      | nil => simp
      | cons i others => simp [hAgents]
  have hOwn : (keyedAgents r).map Prod.fst =
      r.categories.flatMap fun c => (r.agents c).map fun i => slotKey c i.name := by
    simp only [keyedAgents, List.map_flatMap, List.map_map]
    rfl
  rw [hOwn, Registry.categories, hKeys]
  simp only [Registry.places, Registry.names, List.map_flatMap, List.map_map]
  rfl

/-- Where no category repeats a name, no two registrations share a key. -/
theorem keyedAgents_nodup (hNames : ∀ c, (r.names c).Nodup) :
    ((keyedAgents r).map Prod.fst).Nodup := by
  rw [map_fst_keyedAgents]
  refine (Registry.places_nodup hNames).map ?_
  intro place place' hKey
  obtain ⟨hCategory, hName⟩ := slotKey_inj.mp hKey
  exact Prod.ext hCategory hName

/-- What the counters of a panel say of the agents of its registry. -/
structure CountsEach (p : Panel) (session : Session) : Prop where
  size  : (p.counters session).size = p.registry.size
  each  : ∀ c, ∀ i ∈ p.registry.agents c,
            (p.counters session).get? (slotKey c i.name) = some (session.counters i.id)
  other : ∀ key n, (p.counters session).get? key = some n →
            ∃ c, ∃ i ∈ p.registry.agents c, key = slotKey c i.name ∧ n = session.counters i.id

/-- Every agent is listed with its counters, under a key of its own. -/
theorem counts_each (hNames : ∀ c, (p.registry.names c).Nodup) : p.CountsEach session where
  size := by
    have hKeys : (((keyedAgents p.registry).map fun e => (e.1, session.counters e.2.id)).map
        Prod.fst).Nodup := by
      rw [List.map_map]
      exact keyedAgents_nodup hNames
    -- no entry is lost, so there is one for each key, and one key for each place
    have hEntries := (Table.entries_ofList_perm hKeys).length_eq
    have hPlaces := congrArg List.length (map_fst_keyedAgents (r := p.registry))
    rw [List.length_map] at hEntries
    rw [List.length_map, List.length_map] at hPlaces
    rw [Registry.size_eq_length_places, ← hPlaces]
    exact hEntries
  each c i hAgent :=
    (get?_counters_iff (keyedAgents_nodup hNames)).mpr
      ⟨i, mem_keyedAgents_iff.mpr ⟨c, hAgent, rfl⟩, rfl⟩
  other key n hFound := by
    obtain ⟨i, hMem, rfl⟩ := (get?_counters_iff (keyedAgents_nodup hNames)).mp hFound
    obtain ⟨c, hAgent, rfl⟩ := mem_keyedAgents_iff.mp hMem
    exact ⟨c, i, hAgent, rfl, rfl⟩

end Panel

/-! ## Views by category -/

/-- The view of a report that is meant for a category. -/
def Report.viewFor (r : Report) : Category → Table RawResult
  | .code => r.codeAnalysis
  | .testing => r.testResults
  | .security => r.securityFindings

/-- The word by which the view of a category is made. -/
def Category.viewWord : Category → String
  | .code => "code"
  | .testing => "test"
  | .security => "security"

/-- A view shows the results whose keys have the word of its category. -/
theorem Report.viewFor_ofSlots {slots : Slots} {c : Category} :
    (ofSlots slots).viewFor c = view c.viewWord slots.successes := by
  cases c <;> rfl

/-- Every key of a category holds the word of its view, whatever the name of the agent. -/
theorem Category.viewWord_infix {c : Category} {name : String} :
    c.viewWord.toList <:+: (slotKey c name).toList := by
  have hLabel : c.viewWord.toList <+: c.label.toList := by
    cases c <;> decide
  rw [slotKey, String.toList_append, String.toList_append, List.append_assoc]
  exact (hLabel.trans (List.prefix_append _ _)).isInfix

namespace Execution

variable {plan t : Template} {stack : Stack} {registry : Registry} {selected : List Selected}
  {path content : String} {context : Context}

/-- A result that an agent gives in time fills its slot, and is seen in the view of the
category that the agent was selected for. -/
theorem shows_results (hSelect : Selection.select plan stack registry = .ok selected) {s : Step}
    (hMem : s ∈ run t path content context selected) {result : RawResult}
    (hSuccess : s.run.outcome s.selected.choice.name t.deadline = .success result) :
    (slots (run t path content context selected)).get? s.selected.key = some (.success result) ∧
      ((Report.ofSlots (slots (run t path content context selected))).viewFor
        s.selected.category).get? s.selected.key = some result := by
  have hKeys : (timingKeys (run t path content context selected)).Nodup := by
    rw [timingKeys_run]
    exact Selection.keys_nodup hSelect
  have hOutcome : s.outcome = .success result := by
    rw [← hSuccess, eq_step_of_mem_run hMem]
    rfl
  have hSlot := get?_slots hKeys hMem
  rw [hOutcome] at hSlot
  -- the view keeps an entry if its key holds the word of the view, and this one's label does
  rw [← slots_keys hKeys] at hKeys
  refine ⟨hSlot, ?_⟩
  rw [Report.viewFor_ofSlots, Report.get?_view hKeys]
  exact ⟨hSlot, Category.viewWord_infix⟩

end Execution

/-! ## Agents whose names read like keys -/

/-- The same agent for code and for security, and one for tests under the name of a category. -/
def Registry.wordyEntries : List (Category × Instance) :=
  let twofold : Instance := ⟨7, .ofRun "testing_code" (.immediate [] (.answered (.empty "both")))⟩
  [(.code, twofold),
    (.testing, ⟨8, .ofRun "code" (.immediate [] (.answered (.empty "tests")))⟩),
    (.security, twofold)]

def Registry.wordy : Registry := empty.registerAll wordyEntries

def Selection.wordy : List Selected :=
  Registry.wordyEntries.map fun e => ⟨e.1, true, .fallback, e.2⟩

theorem Selection.select_wordy : select .troubled .unknown .wordy = .ok wordy := rfl

namespace Panel

/--
**Keys identify agents and lead to their own view.** A key determines the category and
the name that it is made of. The keys of a selection are distinct, and each leads back to
the selected agent that carries it and to no other. A panel whose registry is filled in
any way counts each registration under a key of its own: it has as many counters as
registrations, and under each key those of the agent of the key. And whatever the selected
agents do, every result that one of them gives in time fills the slot of its own key, and
is what the view of its category shows under this key.
-/
theorem keys_identify_agents :
    (∀ c c' name name', slotKey c name = slotKey c' name' → c = c' ∧ name = name') ∧
    (∀ plan stack registry selected, Selection.select plan stack registry = .ok selected →
      (Selection.keys selected).Nodup ∧
      (∀ key s, Selection.get? selected key = some s ↔ s ∈ selected ∧ s.key = key) ∧
      ∀ (t : Template) path content context,
        let steps := Execution.run t path content context selected
        steps.map Step.selected = selected ∧
          ∀ s ∈ steps, s.run = s.selected.choice.agent.analyze path content s.context ∧
            ∀ result, s.run.outcome s.selected.choice.name t.deadline = .success result →
              (Execution.slots steps).get? s.selected.key = some (.success result) ∧
                ((Report.ofSlots (Execution.slots steps)).viewFor
                  s.selected.category).get? s.selected.key = some result) ∧
    (∀ (calls : List (Category × Instance)) (p : Panel) (session : Session),
      p.registry = Registry.empty.registerAll calls → p.CountsEach session) := by
  refine ⟨fun _ _ _ _ hKey => slotKey_inj.mp hKey, ?_, ?_⟩
  · intro plan stack registry selected hSelect
    refine ⟨Selection.keys_nodup hSelect, fun _ _ => Selection.get?_eq_some_iff hSelect, ?_⟩
    intro t path content context steps
    refine ⟨Execution.map_selected_run, ?_⟩
    intro s hMem
    refine ⟨?_, fun result hSuccess => Execution.shows_results hSelect hMem hSuccess⟩
    rw [Execution.eq_step_of_mem_run hMem]
    rfl
  · intro calls p session hFilled
    -- registering replaces what had the same name, so no category repeats one
    have hNames : ∀ c, (p.registry.names c).Nodup := by
      intro c
      rw [hFilled]
      exact Registry.names_nodup
    exact counts_each hNames

/-- The agent for tests is called like a category, and the other one like its key; still
each of the three slots has its own key, its view and its counters. -/
theorem keys_identify_agents_wordy :
    Selection.select .troubled .unknown .wordy = .ok Selection.wordy ∧
      Selection.keys Selection.wordy =
        ["code_testing_code", "testing_code", "security_testing_code"] ∧
      ((Report.ofSlots (Execution.slots
          (Execution.run .troubled "a.py" "x" .empty Selection.wordy))).viewFor .testing).get?
            "testing_code" = some (.empty "tests") ∧
      ((ofRegistry .wordy).counters ⟨[⟨8, .analyze, [.analysis 2], []⟩]⟩).size = 3 ∧
      ((ofRegistry .wordy).counters ⟨[⟨8, .analyze, [.analysis 2], []⟩]⟩).get? "testing_code" =
        some ⟨1, 0, 2, 0, 0, true⟩ := by
  obtain ⟨-, hSelections, hCounters⟩ := keys_identify_agents
  obtain ⟨-, -, hRuns⟩ := hSelections _ _ _ _ Selection.select_wordy
  obtain ⟨-, hSteps⟩ := hRuns .troubled "a.py" "x" .empty
  have hEach := hCounters Registry.wordyEntries (ofRegistry .wordy)
    ⟨[⟨8, .analyze, [.analysis 2], []⟩]⟩ rfl
  refine ⟨Selection.select_wordy, rfl, ?_, hEach.size.trans rfl, ?_⟩
  · exact ((hSteps _ (List.mem_of_getElem? (i := 1) rfl)).2 _ rfl).2
  · exact hEach.each .testing _ List.mem_cons_self

end Panel

end ReviewPanel
