import Mathlib.Order.Monotone.Defs
import ReviewPanel.Proofs.Schedule

/-!
# Interleavings — the slots of agents side by side

The selected agents are spawned as the jobs of one schedule, and slots are
filled with what becomes of them, by position. The timers of these jobs are
those of the runtime they are spawned on, which is no part of this library.
What is relied on is a `Runtime`: a timer goes off no sooner than the instant
that it was set for, less than a tick after it, and no later than one that was
set for a later instant; and the end of an agent is noticed no later than a
timer that was set for it would go off.

So a deadline passes a little late, by less than a tick, and how late depends
on when the job began (`Runtime.patience`). An agent that ends within its
deadline is always in time, and one that takes a tick longer never is. What
becomes of one that ends in between depends on when its job began, and on
nothing else.

* `Run.endsInTime_clock_iff`      — in time means within the patience.
* `Execution.get?_fanIn`          — the slot of an agent.
* `Execution.fanIn_eq_slots`      — agents side by side fill the slots of `run`.
* `Execution.interleavings_agree` — all of this, for every selection.
-/

namespace ReviewPanel

open Numeric

variable {α : Type}

/-! ## Runtimes -/

/-- The timers of a runtime, on a clock that counts nanoseconds. -/
structure Runtime where
  /-- The instant at which a timer goes off, given the one it was set for. -/
  due : Nat → Nat
  /-- The instant at which the end of a named agent is noticed. -/
  noticed : (name : String) → Nat → Nat
  le_due     : ∀ t, t ≤ due t
  due_lt     : ∀ t, due t < t + Duration.nanosPerTick
  due_mono   : Monotone due
  /-- A timer is not late where it was set for an instant at which timers go off. -/
  due_due    : ∀ t, due (due t) = due t
  le_noticed : ∀ name t, t ≤ noticed name t
  noticed_le : ∀ name t, noticed name t ≤ due t

namespace Runtime

variable (runtime : Runtime)

/-- How long a job that begins at an instant is waited for: from then until the
timer of its deadline goes off. -/
def patience (since : Nat) (limit : Duration) : Duration :=
  ⟨runtime.due (since + limit.nanoseconds) - since⟩

/-- Instants of a runtime as those of a clock. -/
def clock : Clock where
  ends name since d := runtime.noticed name (since + d.nanoseconds) - since
  patience since limit := (runtime.patience since limit).nanoseconds

/-- Jobs are waited for until their deadlines, and less than a tick longer. -/
theorem patience_bounds (since : Nat) (limit : Duration) :
    limit.nanoseconds ≤ (runtime.patience since limit).nanoseconds ∧
      (runtime.patience since limit).nanoseconds <
        limit.nanoseconds + Duration.nanosPerTick := by
  have hLow := runtime.le_due (since + limit.nanoseconds)
  have hHigh := runtime.due_lt (since + limit.nanoseconds)
  simp only [patience]
  omega

/-- What ends before a timer has gone off is noticed before. -/
theorem noticed_le_due_iff {name : String} {t u : Nat} :
    runtime.noticed name t ≤ runtime.due u ↔ t ≤ runtime.due u := by
  constructor
  · intro hNoticed
    exact Nat.le_trans (runtime.le_noticed name t) hNoticed
  · intro hBefore
    calc runtime.noticed name t
        ≤ runtime.due t := runtime.noticed_le name t
      _ ≤ runtime.due (runtime.due u) := runtime.due_mono hBefore
      _ = runtime.due u := runtime.due_due u

/-- The first instant of whole milliseconds that is not before another one. -/
def nextMilli (t : Nat) : Nat :=
  (t + 999999) / Duration.nanosPerTick * Duration.nanosPerTick

theorem le_nextMilli (t : Nat) : t ≤ nextMilli t := by
  simp only [nextMilli, Duration.nanosPerTick]
  omega

theorem nextMilli_lt (t : Nat) : nextMilli t < t + Duration.nanosPerTick := by
  simp only [nextMilli, Duration.nanosPerTick]
  omega

theorem nextMilli_mono : Monotone nextMilli := by
  intro t u hLe
  simp only [nextMilli, Duration.nanosPerTick]
  omega

theorem nextMilli_nextMilli (t : Nat) : nextMilli (nextMilli t) = nextMilli t := by
  simp only [nextMilli, Duration.nanosPerTick]
  omega

/-- A runtime whose timers go off at whole milliseconds. -/
def millis : Runtime where
  due := nextMilli
  noticed _ := nextMilli
  le_due := le_nextMilli
  due_lt := nextMilli_lt
  due_mono := nextMilli_mono
  due_due := nextMilli_nextMilli
  le_noticed _ := le_nextMilli
  noticed_le _ _ := Nat.le_refl _

end Runtime

/-! ## Runs on a runtime -/

namespace Run

variable {runtime : Runtime} {name : String} {since : Nat} {limit bound : Duration} {r : Run α}

/-- A run is in time iff it takes no longer than it is waited for, however long
it takes until its end is noticed. -/
theorem endsInTime_clock_iff :
    r.endsInTime runtime.clock name since limit = true ↔
      r.FinishesWithin (runtime.patience since limit) := by
  unfold endsInTime FinishesWithin
  cases r.duration with
  | none => simp
  | some d =>
    have hSince := runtime.le_due (since + limit.nanoseconds)
    have hBegan := runtime.le_noticed name (since + d.nanoseconds)
    have hNoticed := @Runtime.noticed_le_due_iff runtime name (since + d.nanoseconds)
      (since + limit.nanoseconds)
    simp only [Option.some.injEq, exists_eq_left']
    rw [decide_eq_true_eq]
    simp only [Runtime.clock, Runtime.patience]
    omega

/-- A run takes no longer than its deadline, or else a tick longer at least. -/
def IsClearOf (limit : Duration) (r : Run α) : Prop :=
  ∀ d, r.duration = some d →
    d.nanoseconds ≤ limit.nanoseconds ∨ limit.nanoseconds + Duration.nanosPerTick ≤ d.nanoseconds

/-- For a run that is clear of its deadline, a part of a tick does not matter. -/
theorem IsClearOf.finishesWithin_iff (hClear : r.IsClearOf limit)
    (hBound : limit.nanoseconds ≤ bound.nanoseconds ∧
      bound.nanoseconds < limit.nanoseconds + Duration.nanosPerTick) :
    r.FinishesWithin bound ↔ r.FinishesWithin limit := by
  constructor
  · rintro ⟨d, hDuration, hIn⟩
    exact ⟨d, hDuration, by have := hClear d hDuration; omega⟩
  · rintro ⟨d, hDuration, hIn⟩
    exact ⟨d, hDuration, hIn.trans hBound.1⟩

/-- The verdict on a run that is clear of its deadline does not depend on when
it begins, and is the one on ticks. -/
theorem IsClearOf.verdict_eq (hClear : r.IsClearOf limit) :
    r.verdict runtime.clock name since limit = r.verdict .ticks name 0 limit := by
  have hSame : r.endsInTime runtime.clock name since limit = r.endsWithin limit := by
    rw [Bool.eq_iff_iff, endsInTime_clock_iff, endsWithin_iff,
      hClear.finishesWithin_iff (runtime.patience_bounds since limit),
      hClear.finishesWithin_iff limit.roundedUp_bounds]
  rw [verdict_ticks, verdict, hSame]

/-- The verdict on a run depends on how long it takes and how it ends. -/
theorem verdict_congr {clock : Clock} {r' : Run α} (hDuration : r'.duration = r.duration)
    (hEnding : r'.ending = r.ending) :
    r'.verdict clock name since limit = r.verdict clock name since limit := by
  unfold verdict endsInTime
  rw [hDuration, hEnding]

end Run

/-! ## What is recorded of an ending -/

/-- What is recorded of the job of an agent that has ended. -/
def Execution.settle (name : String) : Ending RawResult → Outcome
  | .answered result => .success result
  | .failed e => .failure (.ofError e)
  | .panicked => .failure ⟨s!"Agent {name} panicked", .panicked⟩

/-- No error is recorded as a panic. -/
theorem Failure.kind_ofError_ne_panicked {e : AgentError} : (ofError e).kind ≠ .panicked := by
  cases e <;> simp [ofError, FailureKind.ofError]

/-- What an outcome says of a run that has a deadline and is waited for as long
as a bound. -/
structure Outcome.Describes (o : Outcome) (name : String) (limit bound : Duration)
    (r : Run RawResult) : Prop where
  success  : ∀ result, o = .success result ↔
               r.FinishesWithin bound ∧ r.ending = .answered result
  timeout  : o = .failure ⟨"Agent " ++ name ++ " timed out after " ++
                 limit.toBinary.plainText .double ++ "s", .timeout⟩ ↔
               ¬ r.FinishesWithin bound ∨
                 ∃ e, r.ending = .failed e ∧ Failure.ofError e = .ofError (.overdue name limit)
  panicked : (∃ text, o = .failure ⟨text, .panicked⟩) ↔
               r.FinishesWithin bound ∧ r.ending = .panicked
  failed   : ∀ e, r.FinishesWithin bound → r.ending = .failed e → o = .failure (.ofError e)

namespace Run

variable {runtime : Runtime} {name : String} {since : Nat} {limit : Duration} {r : Run RawResult}

theorem settle_verdict_ticks :
    Execution.settle name (r.verdict .ticks name 0 limit) = r.outcome name limit := by
  rw [verdict_ticks, outcome]
  split
  · cases r.ending <;> rfl
  · rfl

/-- What is recorded of the verdict on a run describes it. -/
theorem settle_verdict_describes :
    (Execution.settle name (r.verdict runtime.clock name since limit)).Describes name limit
      (runtime.patience since limit) r := by
  have hText : Failure.ofError (.overdue name limit) = ⟨"Agent " ++ name ++ " timed out after " ++
      limit.toBinary.plainText .double ++ "s", .timeout⟩ := rfl
  by_cases hTime : r.FinishesWithin (runtime.patience since limit)
  · rw [verdict, if_pos (endsInTime_clock_iff.mpr hTime)]
    cases hEnding : r.ending with
    | answered result => constructor <;> simp [Execution.settle, hTime, hEnding]
    | failed e =>
      have hKind : ∀ text, Failure.ofError e ≠ ⟨text, .panicked⟩ := fun text hEq =>
        Failure.kind_ofError_ne_panicked (congrArg Failure.kind hEq)
      constructor <;> simp [Execution.settle, hTime, hEnding, hText, hKind]
    | panicked => constructor <;> simp [Execution.settle, hTime, hEnding]
  · rw [verdict, if_neg (mt endsInTime_clock_iff.mp hTime)]
    constructor <;> simp [Execution.settle, hTime, hText]

end Run

/-! ## Spawning the selected agents and joining them -/

namespace Execution

variable {a : Assignment} {context : Context} {selected : List Selected} {clock : Clock}
  {finishes : List (Finish RawResult)}

/-- The selected agents as jobs that are about to begin. -/
def spawn (a : Assignment) (context : Context) (selected : List Selected) :
    Schedule RawResult :=
  .spawn (selected.map fun s => (s.choice.name, s.choice.agent.analyze a.path a.content context))

/-- Matches the endings of the jobs with the selection, by position. -/
def fanIn (selected : List Selected) (endings : List (Ending RawResult)) : Slots :=
  (selected.zip endings).foldl
    (fun slots p => slots.insert p.1.key (settle p.1.choice.name p.2)) .empty

theorem toList_fanIn {endings : List (Ending RawResult)}
    (hKeys : (Selection.keys selected).Nodup) (hLength : selected.length = endings.length) :
    (fanIn selected endings).toList =
      (selected.zip endings).map fun p => ⟨p.1.key, settle p.1.choice.name p.2⟩ := by
  have hMatched : (selected.zip endings).map (fun p => p.1.key) = Selection.keys selected := by
    have hAll := List.map_fst_zip (Nat.le_of_eq hLength)
    rw [Selection.keys, ← congrArg (List.map Selected.key) hAll, List.map_map]
    rfl
  exact Slots.toList_fill (hMatched ▸ hKeys)

theorem keys_fanIn {endings : List (Ending RawResult)}
    (hKeys : (Selection.keys selected).Nodup) (hLength : selected.length = endings.length) :
    (fanIn selected endings).keys = Selection.keys selected := by
  have hAll := List.map_fst_zip (Nat.le_of_eq hLength)
  rw [Slots.keys, toList_fanIn hKeys hLength, List.map_map, Selection.keys,
    ← congrArg (List.map Selected.key) hAll, List.map_map]
  rfl

/-- Each selected agent has a slot, with what is recorded of the verdict on its run. -/
theorem get?_fanIn (hKeys : (Selection.keys selected).Nodup)
    (hDone : (spawn a context selected).Finishes clock a.limit finishes)
    {i : Nat} {s : Selected} (hAt : selected[i]? = some s) {f : Finish RawResult}
    (hFinish : finishes[i]? = some f) :
    (fanIn selected (finishes.map Finish.ending)).get? s.key =
      some (settle s.choice.name ((s.choice.agent.analyze a.path a.content context).verdict clock
        s.choice.name f.since a.limit)) := by
  have hVerdicts := hDone.forall₂
  rw [List.forall₂_map_left_iff, List.forall₂_iff_zip] at hVerdicts
  obtain ⟨hLength, hVerdict⟩ := hVerdicts
  rw [← List.length_map (f := Finish.ending)] at hLength
  have hPair : (s, f) ∈ selected.zip finishes :=
    List.mem_of_getElem? (List.getElem?_zip_eq_some.mpr ⟨hAt, hFinish⟩)
  have hEnding : (s, f.ending) ∈ selected.zip (finishes.map Finish.ending) := by
    rw [List.zip_map_right]
    exact List.mem_map.mpr ⟨(s, f), hPair, rfl⟩
  -- the slot is in its place in the list of slots
  have hSlot : (⟨s.key, settle s.choice.name f.ending⟩ : Slot) ∈
      (fanIn selected (finishes.map Finish.ending)).toList := by
    rw [toList_fanIn hKeys hLength]
    exact List.mem_map.mpr ⟨(s, f.ending), hEnding, rfl⟩
  rw [← hVerdict hPair]
  exact Slots.get?_of_mem (keys_fanIn hKeys hLength ▸ hKeys) hSlot

/-- Where all selected agents are clear of their deadline, every interleaving
that completes fills the slots of agents side by side. -/
theorem fanIn_eq_slots {runtime : Runtime}
    (hClear : ∀ s ∈ selected, (s.choice.agent.analyze a.path a.content context).IsClearOf a.limit)
    (hDone : (spawn a context selected).Finishes runtime.clock a.limit finishes) :
    fanIn selected (finishes.map Finish.ending) = slots (sideBySide a context selected) := by
  have hMatched : selected.zip (finishes.map Finish.ending) = selected.map _ :=
    hDone.zip_eq (fun name run => run.verdict .ticks name 0 a.limit) fun s hs _ =>
      (hClear s hs).verdict_eq
  rw [fanIn, hMatched, List.foldl_map, slots, sideBySide, List.foldl_map]
  congr 1
  funext slots s
  exact congrArg (slots.insert s.key) Run.settle_verdict_ticks

/--
**Schedule independence.** Take any runtime. However the jobs of the selected
agents interleave, they can all end, and any of them may begin at any instant.
Once they have ended, each has one slot, and that slot describes its own run:
an answer counts when it is there while the agent is waited for, from the
instant at which its job began. Two interleavings differ in nothing but the
beginnings of the jobs; and where no selected agent takes longer than its
deadline by less than a tick, not even these matter: the slots are those of
`run` side by side. Nobody else matters for an agent: in every selection that
has an agent under the same key whose run takes as long and ends alike, that
agent has the same slot, if it began at the same instant or is clear of its
deadline.
-/
theorem interleavings_agree {plan : Template} {stack : Stack} {registry : Registry}
    (hSelect : Selection.select plan stack registry = .ok selected)
    (runtime : Runtime) (t : Template) (path content : String) (context : Context) :
    let a : Assignment := ⟨path, content, t.deadline⟩
    let analysis (c : Selected) := c.choice.agent.analyze path content context
    (∀ s, Schedule.Reaches runtime.clock t.deadline (spawn a context selected) s →
      ∃ finishes, s.Finishes runtime.clock t.deadline finishes) ∧
    (∀ i < selected.length, ∀ since, ∃ finishes f,
      (spawn a context selected).Finishes runtime.clock t.deadline finishes ∧
        finishes[i]? = some f ∧ f.since = since) ∧
    (∀ finishes, (spawn a context selected).Finishes runtime.clock t.deadline finishes →
      let results := fanIn selected (finishes.map Finish.ending)
      results.keys = Selection.keys selected ∧
      finishes.length = selected.length ∧
      (∀ (i : Nat) c f, selected[i]? = some c → finishes[i]? = some f →
        ∃ o, results.get? c.key = some o ∧
          o.Describes c.choice.name t.deadline (runtime.patience f.since t.deadline) (analysis c)) ∧
      (∀ finishes', (spawn a context selected).Finishes runtime.clock t.deadline finishes' →
        finishes'.map Finish.since = finishes.map Finish.since → finishes' = finishes) ∧
      ((∀ c ∈ selected, (analysis c).IsClearOf t.deadline) →
        results = slots (run { t with parallel := true } path content context selected))) ∧
    (∀ {plan' : Template} {stack' : Stack} {registry' : Registry} {selected' : List Selected},
      Selection.select plan' stack' registry' = .ok selected' →
      ∀ finishes finishes',
        (spawn a context selected).Finishes runtime.clock t.deadline finishes →
        (spawn a context selected').Finishes runtime.clock t.deadline finishes' →
        ∀ (i : Nat) c f (i' : Nat) c' f', selected[i]? = some c → finishes[i]? = some f →
          selected'[i']? = some c' → finishes'[i']? = some f' → c'.key = c.key →
          (analysis c').duration = (analysis c).duration →
          (analysis c').ending = (analysis c).ending →
          f'.since = f.since ∨ (analysis c).IsClearOf t.deadline →
          (fanIn selected' (finishes'.map Finish.ending)).get? c.key =
            (fanIn selected (finishes.map Finish.ending)).get? c.key) ∧
    ∀ since, t.deadline.nanoseconds ≤ (runtime.patience since t.deadline).nanoseconds ∧
      (runtime.patience since t.deadline).nanoseconds <
        t.deadline.nanoseconds + Duration.nanosPerTick := by
  intro a analysis
  have hKeys := Selection.keys_nodup hSelect
  refine ⟨?_, ?_, ?_, ?_, fun since => runtime.patience_bounds since t.deadline⟩
  · intro s hReach
    exact Schedule.exists_finishes hReach
  · intro i hi since
    exact Schedule.exists_finishes_since (by rwa [List.length_map]) since
  · intro finishes hDone results
    have hLength : selected.length = finishes.length := by
      have hVerdicts := hDone.forall₂.length_eq
      rwa [List.length_map] at hVerdicts
    refine ⟨keys_fanIn hKeys (by rwa [List.length_map]), hLength.symm, ?_, ?_, ?_⟩
    · intro i c f hAt hFinish
      exact ⟨_, get?_fanIn (a := a) hKeys hDone hAt hFinish, Run.settle_verdict_describes⟩
    · intro finishes' hDone' hSince
      exact hDone'.eq_of_since hDone hSince
    · intro hClear
      exact fanIn_eq_slots (a := a) hClear hDone
  · intro plan' stack' registry' selected' hSelect' finishes finishes' hDone hDone'
      i c f i' c' f' hAt hFinish hAt' hFinish' hKey hDuration hEnding hBegan
    have hName : c'.choice.name = c.choice.name := (slotKey_inj.mp hKey).2
    have hSlot := get?_fanIn (a := a) hKeys hDone hAt hFinish
    have hSlot' := get?_fanIn (a := a) (Selection.keys_nodup hSelect') hDone' hAt' hFinish'
    -- both slots hold what is recorded of the same verdict under the same name
    rw [hKey, hName, Run.verdict_congr hDuration hEnding] at hSlot'
    rw [hSlot, hSlot']
    rcases hBegan with hSame | hClear
    · rw [hSame]
    · rw [hClear.verdict_eq, hClear.verdict_eq]

/-- On a runtime of whole milliseconds, where the other two agents are in no
trouble, the one that never ends has the slot that it has among the troubled. -/
theorem interleavings_agree_troubled :
    Selection.select .troubled .unknown .troubled = .ok Selection.troubled ∧
      Selection.select .troubled .unknown .recovered = .ok Selection.recovered ∧
      ∃ finishes finishes',
        (spawn ⟨"a.py", "x", .ofMillis 100⟩ .empty Selection.troubled).Finishes
          Runtime.millis.clock (.ofMillis 100) finishes ∧
        (spawn ⟨"a.py", "x", .ofMillis 100⟩ .empty Selection.recovered).Finishes
          Runtime.millis.clock (.ofMillis 100) finishes' ∧
        (fanIn Selection.recovered (finishes'.map Finish.ending)).get? "security_slow_scanner" =
          (fanIn Selection.troubled (finishes.map Finish.ending)).get? "security_slow_scanner" ∧
        (fanIn Selection.troubled (finishes.map Finish.ending)).get? "security_slow_scanner" =
          some (.failure (.ofError (.overdue "slow_scanner" (.ofMillis 100)))) := by
  obtain ⟨-, hBegin, hSlots, hIsolated, -⟩ :=
    interleavings_agree Selection.select_troubled .millis .troubled "a.py" "x" .empty
  obtain ⟨-, hBegin', -⟩ :=
    interleavings_agree Selection.select_recovered .millis .troubled "a.py" "x" .empty
  -- the scanner begins at different instants, and is clear of its deadline
  obtain ⟨finishes, f, hDone, hAt, -⟩ := hBegin 2 (by decide) 5
  obtain ⟨finishes', f', hDone', hAt', -⟩ := hBegin' 2 (by decide) 7
  have hClear : ∀ c ∈ Selection.troubled,
      (c.choice.agent.analyze "a.py" "x" .empty).IsClearOf (.ofMillis 100) := by
    simp [Selection.troubled, Registry.troubledEntries, Agent.ofRun, Run.IsClearOf, Run.refused,
      Run.immediate, Duration.zero]
  refine ⟨Selection.select_troubled, Selection.select_recovered, finishes, finishes', hDone,
    hDone', ?_, ?_⟩
  · exact hIsolated Selection.select_recovered finishes finishes' hDone hDone' 2 _ f 2 _ f' rfl
      hAt rfl hAt' rfl rfl rfl (Or.inr (hClear _ (List.mem_of_getElem? (i := 2) rfl)))
  · rw [(hSlots finishes hDone).2.2.2.2 hClear]
    rfl

end Execution

/-! ### Between two ticks

Under a deadline of one nanosecond less than a second, one agent answers after
a whole second, and another one returns the error of a deadline at once.
-/

def Template.late : Template :=
  { Template.ofRequired [.code, .testing] with deadline := ⟨999999999⟩ }

def Run.slow : Run RawResult := ⟨[], [], some (.ofSeconds 1), .answered (.empty "slow")⟩

def Run.hasty : Run RawResult := .refused (.overdue "hasty" Template.late.deadline)

def Registry.late : Registry :=
  empty.registerAll [(.code, ⟨0, .ofRun "slow" .slow⟩), (.testing, ⟨1, .ofRun "hasty" .hasty⟩)]

def Selection.late : List Selected :=
  [⟨.code, true, .fallback, ⟨0, .ofRun "slow" .slow⟩⟩,
    ⟨.testing, true, .fallback, ⟨1, .ofRun "hasty" .hasty⟩⟩]

namespace Execution

/-- The hasty agent says that it is late, whether it is or not. -/
theorem verdict_hasty (clock : Clock) (since : Nat) :
    Run.hasty.verdict clock "hasty" since Template.late.deadline =
      .failed (.overdue "hasty" Template.late.deadline) := by
  unfold Run.verdict
  split <;> rfl

/-- The slow agent may begin at any instant, and the slots tell what it comes to. -/
theorem exists_finishes_late (since : Nat) :
    ∃ finishes,
      (spawn ⟨"a.py", "x", Template.late.deadline⟩ .empty Selection.late).Finishes
        Runtime.millis.clock Template.late.deadline finishes ∧
      (fanIn Selection.late (finishes.map Finish.ending)).get? "code_slow" =
        some (settle "slow" (Run.slow.verdict Runtime.millis.clock "slow" since
          Template.late.deadline)) ∧
      (fanIn Selection.late (finishes.map Finish.ending)).get? "testing_hasty" =
        some (.failure (.ofError (.overdue "hasty" Template.late.deadline))) := by
  have hSelect : Selection.select .late .unknown .late = .ok Selection.late := rfl
  have hKeys := Selection.keys_nodup hSelect
  obtain ⟨finishes, slow, hDone, hSlow, hSince⟩ := @Schedule.exists_finishes_since _
    Runtime.millis.clock Template.late.deadline (Selection.late.map fun s =>
      (s.choice.name, s.choice.agent.analyze "a.py" "x" .empty)) 0 (by decide) since
  -- both jobs have finished
  have hLength : 2 = finishes.length := hDone.forall₂.length_eq
  obtain ⟨hasty, hHasty⟩ : ∃ f, finishes[1]? = some f := ⟨_, List.getElem?_eq_getElem (by omega)⟩
  have hFirst := get?_fanIn (a := ⟨"a.py", "x", Template.late.deadline⟩) hKeys hDone rfl hSlow
  have hSecond := get?_fanIn (a := ⟨"a.py", "x", Template.late.deadline⟩) hKeys hDone rfl hHasty
  refine ⟨finishes, hDone, hSince ▸ hFirst, hSecond.trans ?_⟩
  exact congrArg (fun ending => some (settle "hasty" ending)) (verdict_hasty _ _)

/-- An agent that takes longer than its deadline may succeed, if it begins on a
tick, and fail if it does not; and one that is in time may have the failure of
its deadline. -/
theorem late_answer_succeeds :
    Selection.select .late .unknown .late = .ok Selection.late ∧
      (∃ finishes,
        (spawn ⟨"a.py", "x", Template.late.deadline⟩ .empty Selection.late).Finishes
          Runtime.millis.clock Template.late.deadline finishes ∧
        (fanIn Selection.late (finishes.map Finish.ending)).get? "code_slow" =
          some (.success (.empty "slow")) ∧
        ¬ Run.slow.FinishesWithin Template.late.deadline ∧
        (fanIn Selection.late (finishes.map Finish.ending)).get? "testing_hasty" =
          some (.failure (.ofError (.overdue "hasty" Template.late.deadline))) ∧
        Run.hasty.FinishesWithin Template.late.deadline) ∧
      ∃ finishes,
        (spawn ⟨"a.py", "x", Template.late.deadline⟩ .empty Selection.late).Finishes
          Runtime.millis.clock Template.late.deadline finishes ∧
        (fanIn Selection.late (finishes.map Finish.ending)).get? "code_slow" =
          some (.failure (.ofError (.overdue "slow" Template.late.deadline))) := by
  -- the same two agents, spawned at either instant
  obtain ⟨early, hEarly, hSlow, hHasty⟩ := exists_finishes_late 0
  obtain ⟨later, hLater, hSlow', -⟩ := exists_finishes_late 1
  refine ⟨rfl, ⟨early, hEarly, hSlow, ?_, hHasty, ⟨.zero, rfl, by decide⟩⟩, later, hLater, hSlow'⟩
  rintro ⟨d, hDuration, hIn⟩
  cases hDuration
  exact absurd hIn (by decide)

end Execution

end ReviewPanel
