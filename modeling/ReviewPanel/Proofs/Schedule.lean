import Mathlib.Algebra.GroupWithZero.Nat
import Mathlib.Algebra.Order.Group.Nat
import Mathlib.Algebra.Order.BigOperators.Group.List
import Mathlib.Logic.Relation
import ReviewPanel.Proofs.Execution

/-!
# Schedules — agents side by side, in any order

`Execution.sideBySide` says what becomes of each agent as if nobody else were
there. Here the same agents are jobs that share one clock. A job begins when
it is first looked at; it may be looked at any number of times, in any order
with the others; it ends with its agent or with its deadline, whichever is
found first, and the agent is looked at before the deadline. The clock does
not run past a timer that is due. When all jobs have ended, their endings are
matched with the selection by position.

When a timer goes off is for the clock to say (`Clock`): it may be later than
the instant that the timer was set for, and how much later may depend on that
instant. So how a job ends may hang on when it began, which is kept with its
ending (`Finish`), but on no other job.

* `Schedule.Finishes.forall₂`   — every interleaving that completes gives each
  job the ending that its own run, beginning and deadline determine
  (`Job.OnTime` is the invariant).
* `Schedule.exists_finishes`    — no interleaving is ever stuck.
* `Schedule.exists_finishes_since` — any job may begin at any instant.
* `Schedule.Finishes.zip_eq`    — where beginnings do not matter for any job,
  all interleavings that complete agree.
-/

namespace ReviewPanel

open Numeric

variable {α : Type}

/-! ## Ends and deadlines -/

/-- A length of time, rounded up to whole ticks of the clock. -/
def Numeric.Duration.roundedUp (t : Duration) : Duration := .ofMillis t.ticks

/-- Rounding up to whole ticks adds less than a tick. -/
theorem Numeric.Duration.roundedUp_bounds (t : Duration) :
    t.nanoseconds ≤ t.roundedUp.nanoseconds ∧
      t.roundedUp.nanoseconds < t.nanoseconds + Duration.nanosPerTick := by
  simp only [Duration.roundedUp, Duration.ofMillis, Duration.ticks, Duration.nanosPerTick]
  omega

/-- Timers count whole ticks: they tell two lengths of time apart exactly when
the second one, rounded up, is the shorter. -/
theorem Numeric.Duration.ticks_le_iff {d t : Duration} :
    d.ticks ≤ t.ticks ↔ d.nanoseconds ≤ t.roundedUp.nanoseconds := by
  simp only [Duration.roundedUp, Duration.ofMillis, Duration.ticks, Duration.nanosPerTick]
  omega

/-- A run that ends, and takes no longer than a bound. -/
def Run.FinishesWithin (r : Run α) (bound : Duration) : Prop :=
  ∃ d, r.duration = some d ∧ d.nanoseconds ≤ bound.nanoseconds

/-- The ticks of the clock round a deadline up, and nothing else. -/
theorem Run.endsWithin_iff {r : Run α} {limit : Duration} :
    r.endsWithin limit = true ↔ r.FinishesWithin limit.roundedUp := by
  unfold Run.endsWithin Run.FinishesWithin
  cases r.duration with
  | none => simp
  | some d => simp [Duration.ticks_le_iff]

/-! ## Clocks -/

/-- What a clock makes of the lengths of time that start at one of its instants. -/
structure Clock where
  /-- How long after it began the run of a named agent is found to have ended. -/
  ends : (name : String) → (since : Nat) → Duration → Nat
  /-- How long after a run began its deadline passes. -/
  patience : (since : Nat) → (limit : Duration) → Nat

/-- A clock that ticks, under jobs that begin on its ticks. -/
def Clock.ticks : Clock where
  ends _ _ d := d.ticks
  patience _ limit := limit.ticks

namespace Run

variable (clock : Clock) (name : String) (since : Nat) (limit : Duration)

/-- Whether a run that began at an instant is found to have ended when its
deadline passes. -/
def endsInTime (r : Run α) : Bool :=
  match r.duration with
  | some d => clock.ends name since d ≤ clock.patience since limit
  | none => false

/-- How a run under a deadline ends for whoever waits for it. -/
def verdict (r : Run α) : Ending α :=
  if r.endsInTime clock name since limit then r.ending else .failed (.overdue name limit)

/-- How long whoever waits for a run waits. -/
def wait (r : Run α) : Nat :=
  match r.duration with
  | some d => min (clock.ends name since d) (clock.patience since limit)
  | none => clock.patience since limit

/-- On ticks, it does not matter when a run begins. -/
theorem verdict_ticks (r : Run α) : r.verdict .ticks name since limit =
    if r.endsWithin limit then r.ending else .failed (.overdue name limit) := rfl

end Run

/-! ## Jobs -/

/-- When a job began, and how it ended. -/
structure Finish (α : Type) where
  since : Nat
  ending : Ending α

/-- How far a job has come. -/
inductive Progress (α : Type)
  | spawned
  | running (since : Nat)
  | ended (finish : Finish α)

/-- The job of waiting for one agent. -/
structure Job (α : Type) where
  name : String
  run : Run α
  progress : Progress α

namespace Job

variable (clock : Clock) (limit : Duration)

/-- What is found some time after a job has begun: its agent's ending, or,
failing that, its deadline. -/
def found? (since elapsed : Nat) (j : Job α) : Option (Ending α) :=
  if j.run.duration.any (fun d => decide (clock.ends j.name since d ≤ elapsed)) then
    some j.run.ending
  else if clock.patience since limit ≤ elapsed then some (.failed (.overdue j.name limit))
  else none

/-- Where a job that began at an instant stands. -/
def standing (now since : Nat) (j : Job α) : Progress α :=
  match j.found? clock limit since (now - since) with
  | some e => .ended ⟨since, e⟩
  | none => .running since

/-- Looks at a job, which begins if it has not yet. -/
def poll (now : Nat) (j : Job α) : Job α :=
  match j.progress with
  | .spawned => { j with progress := j.standing clock limit now now }
  | .running since => { j with progress := j.standing clock limit now since }
  | .ended _ => j

/-- A job none of whose timers is due. -/
def Quiet (now : Nat) (j : Job α) : Prop :=
  ∀ since, j.progress = .running since → j.found? clock limit since (now - since) = none

/-- The instant at which a job began, once it has. -/
def since? (j : Job α) : Option Nat :=
  match j.progress with
  | .spawned => none
  | .running since => some since
  | .ended f => some f.since

def finish? (j : Job α) : Option (Finish α) :=
  match j.progress with
  | .ended f => some f
  | _ => none

end Job

/-! ## Schedules -/

/-- Jobs in the order in which they were spawned, and the instant on their clock. -/
structure Schedule (α : Type) where
  now : Nat
  jobs : List (Job α)

namespace Schedule

/-- One move: a job is looked at, or the clock goes on while no job is due. -/
inductive Move (clock : Clock) (limit : Duration) : Schedule α → Schedule α → Prop
  | poll (now : Nat) (before after : List (Job α)) (j : Job α) :
      Move clock limit ⟨now, before ++ j :: after⟩
        ⟨now, before ++ j.poll clock limit now :: after⟩
  | tick (now : Nat) (jobs : List (Job α)) (hQuiet : ∀ j ∈ jobs, j.Quiet clock limit now) :
      Move clock limit ⟨now, jobs⟩ ⟨now + 1, jobs⟩

variable (clock : Clock) (limit : Duration)

/-- Some interleaving leads from one schedule to the other. -/
def Reaches : Schedule α → Schedule α → Prop := Relation.ReflTransGen (Move clock limit)

/-- How all jobs finished, in the order of spawning, once all have ended. -/
def finishes? (s : Schedule α) : Option (List (Finish α)) := s.jobs.mapM Job.finish?

/-- Some interleaving completes with these beginnings and endings. -/
def Finishes (s : Schedule α) (finishes : List (Finish α)) : Prop :=
  ∃ s', Reaches clock limit s s' ∧ s'.finishes? = some finishes

/-- Some interleaving completes with these endings. -/
def Completes (s : Schedule α) (endings : List (Ending α)) : Prop :=
  ∃ finishes, s.Finishes clock limit finishes ∧ endings = finishes.map Finish.ending

/-- Named runs, about to be looked at for the first time. -/
def spawn (calls : List (String × Run α)) : Schedule α :=
  ⟨0, calls.map fun c => ⟨c.1, c.2, .spawned⟩⟩

end Schedule

/-! ## Jobs are on time -/

namespace Job

variable {clock : Clock} {limit : Duration} {now since : Nat} {j : Job α}

variable (clock limit) in
/-- The invariant of a job: the clock has not run past its timers, and its
ending, once it has one, is the verdict on its run. -/
def OnTime (now : Nat) (j : Job α) : Prop :=
  match j.progress with
  | .spawned => True
  | .running since => since ≤ now ∧ now - since ≤ j.run.wait clock j.name since limit
  | .ended f => f.ending = j.run.verdict clock j.name f.since limit

@[simp] theorem poll_name : (j.poll clock limit now).name = j.name := by
  unfold poll
  split <;> rfl

@[simp] theorem poll_run : (j.poll clock limit now).run = j.run := by
  unfold poll
  split <;> rfl

/-- What is found no later than the timers allow is the verdict. -/
theorem eq_verdict_of_found {elapsed : Nat} {e : Ending α}
    (hWaited : elapsed ≤ j.run.wait clock j.name since limit)
    (hFound : j.found? clock limit since elapsed = some e) :
    e = j.run.verdict clock j.name since limit := by
  unfold found? at hFound
  unfold Run.wait at hWaited
  unfold Run.verdict Run.endsInTime
  -- an agent that never ends is found at its deadline only
  cases hDuration : j.run.duration with
  | none =>
    simp only [hDuration, Option.any_none, Bool.false_eq_true, if_false] at hFound ⊢
    split at hFound
    · exact (Option.some.inj hFound).symm
    · cases hFound
  | some d =>
    simp only [hDuration, Option.any_some, decide_eq_true_eq] at hFound hWaited ⊢
    split at hFound
    · -- the agent has ended, and the clock had not passed the deadline
      rw [if_pos (by omega)]
      exact (Option.some.inj hFound).symm
    · split at hFound
      · rw [if_neg (by omega)]
        exact (Option.some.inj hFound).symm
      · cases hFound

/-- Where nothing is found, both timers are still ahead. -/
theorem lt_wait_of_not_found {elapsed : Nat}
    (hNone : j.found? clock limit since elapsed = none) :
    elapsed < j.run.wait clock j.name since limit := by
  unfold found? at hNone
  unfold Run.wait
  cases hDuration : j.run.duration with
  | none =>
    simp only [hDuration, Option.any_none, Bool.false_eq_true, if_false] at hNone ⊢
    split at hNone
    · cases hNone
    · omega
  | some d =>
    simp only [hDuration, Option.any_some, decide_eq_true_eq] at hNone ⊢
    split at hNone
    · cases hNone
    · split at hNone
      · cases hNone
      · omega

theorem onTime_standing (hSince : since ≤ now)
    (hWaited : now - since ≤ j.run.wait clock j.name since limit) :
    OnTime clock limit now { j with progress := j.standing clock limit now since } := by
  unfold OnTime standing
  -- found or not, the clock is not past the timers
  cases hFound : j.found? clock limit since (now - since) with
  | none => exact ⟨hSince, hWaited⟩
  | some e => exact eq_verdict_of_found hWaited hFound

/-- Looking at a job keeps it on time. -/
theorem onTime_poll (hTime : j.OnTime clock limit now) :
    (j.poll clock limit now).OnTime clock limit now := by
  unfold poll
  split
  · exact onTime_standing (Nat.le_refl _) (by omega)
  · rename_i since hRunning
    rw [OnTime, hRunning] at hTime
    exact onTime_standing hTime.1 hTime.2
  · exact hTime

/-- The clock may go on under a job that is on time and not due. -/
theorem onTime_tick (hTime : j.OnTime clock limit now) (hQuiet : j.Quiet clock limit now) :
    j.OnTime clock limit (now + 1) := by
  unfold OnTime at *
  cases hProgress : j.progress with
  | spawned => trivial
  | running since =>
    rw [hProgress] at hTime
    -- nothing is due, so the timers are ahead
    have hAhead := lt_wait_of_not_found (hQuiet since hProgress)
    exact ⟨by omega, by omega⟩
  | ended f =>
    rw [hProgress] at hTime
    exact hTime

theorem since?_standing :
    since? { j with progress := j.standing clock limit now since } = some since := by
  unfold since? standing
  cases j.found? clock limit since (now - since) <;> rfl

/-- Looking at a job does not change when it began. -/
theorem since?_poll (hBegan : j.since? = some since) :
    (j.poll clock limit now).since? = some since := by
  unfold poll
  split
  · rename_i hSpawned
    rw [since?, hSpawned] at hBegan
    cases hBegan
  · rename_i began hRunning
    rw [since?, hRunning] at hBegan
    rw [since?_standing, ← hBegan]
  · exact hBegan

end Job

namespace Schedule

variable {clock : Clock} {limit : Duration} {s s' : Schedule α}

/-! ## What every interleaving comes to -/

variable (clock limit) in
/-- Every job of a schedule is on time. -/
def OnTime (s : Schedule α) : Prop := ∀ j ∈ s.jobs, j.OnTime clock limit s.now

/-- The names and runs of the jobs, which no move changes. -/
def calls (s : Schedule α) : List (String × Run α) := s.jobs.map fun j => (j.name, j.run)

theorem onTime_spawn (calls : List (String × Run α)) : (spawn calls).OnTime clock limit := by
  intro j hj
  obtain ⟨c, -, rfl⟩ := List.mem_map.mp hj
  trivial

theorem calls_spawn (calls : List (String × Run α)) : (spawn calls).calls = calls := by
  rw [Schedule.calls, spawn, List.map_map]
  exact List.map_id _

/-- One move keeps every job on time and every call as it is. -/
theorem Move.preserves (hMove : Move clock limit s s') (hTime : s.OnTime clock limit) :
    s'.OnTime clock limit ∧ s'.calls = s.calls := by
  cases hMove with
  | poll now before after j =>
    -- only the job that is looked at changes
    refine ⟨?_, by simp [calls]⟩
    intro x hx
    rcases List.mem_append.mp hx with hBefore | hRest
    · exact hTime x (List.mem_append_left _ hBefore)
    · rcases List.mem_cons.mp hRest with rfl | hAfter
      · exact Job.onTime_poll (hTime j (by simp))
      · exact hTime x (by simp [hAfter])
  | tick now jobs hQuiet =>
    exact ⟨fun x hx => Job.onTime_tick (hTime x hx) (hQuiet x hx), rfl⟩

/-- A whole interleaving keeps every job on time and every call as it is. -/
theorem Reaches.preserves (hReach : Reaches clock limit s s') (hTime : s.OnTime clock limit) :
    s'.OnTime clock limit ∧ s'.calls = s.calls := by
  induction hReach with
  | refl => exact ⟨hTime, rfl⟩
  | tail _ hMove ih =>
    obtain ⟨hMid, hCalls⟩ := ih
    obtain ⟨hEnd, hSame⟩ := hMove.preserves hMid
    exact ⟨hEnd, hSame.trans hCalls⟩

/-- The instant at which the job at a place began, once it has. -/
def since? (s : Schedule α) (i : Nat) : Option Nat := s.jobs[i]?.bind Job.since?

/-- No move changes when a job began. -/
theorem Move.keeps_since {i since : Nat} (hMove : Move clock limit s s')
    (hBegan : s.since? i = some since) : s'.since? i = some since := by
  cases hMove with
  | poll now before after j =>
    simp only [Schedule.since?, List.getElem?_append, List.getElem?_cons] at hBegan ⊢
    split_ifs at hBegan ⊢
    · exact hBegan
    · exact Job.since?_poll hBegan
    · exact hBegan
  | tick => exact hBegan

/-- Nor does a whole interleaving. -/
theorem Reaches.keeps_since {i since : Nat} (hReach : Reaches clock limit s s')
    (hBegan : s.since? i = some since) : s'.since? i = some since := by
  induction hReach with
  | refl => exact hBegan
  | tail _ hMove ih => exact hMove.keeps_since ih

theorem finish?_eq_some_iff {j : Job α} {f : Finish α} :
    j.finish? = some f ↔ j.progress = .ended f := by
  unfold Job.finish?
  cases j.progress <;> simp

/-- Once all jobs have ended, each of them has finished by itself. -/
theorem forall₂_of_finishes? {finishes : List (Finish α)} (hEnded : s.finishes? = some finishes) :
    List.Forall₂ (fun j f => j.progress = .ended f) s.jobs finishes := by
  obtain ⟨now, jobs⟩ := s
  unfold finishes? at hEnded
  simp only at hEnded ⊢
  induction jobs generalizing finishes with
  | nil =>
    rw [← Option.some.inj hEnded]
    exact .nil
  | cons j rest ih =>
    rw [List.mapM_cons] at hEnded
    simp only [Option.bind_eq_bind, Option.bind_eq_some_iff, Option.pure_def,
      Option.some.injEq] at hEnded
    obtain ⟨f, hHead, fs, hTail, rfl⟩ := hEnded
    exact .cons (finish?_eq_some_iff.mp hHead) (ih hTail)

/-- When a job has finished, it tells when it began. -/
theorem since?_of_finishes? {finishes : List (Finish α)} (hEnded : s.finishes? = some finishes)
    (i : Nat) : s.since? i = finishes[i]?.map Finish.since := by
  have hFinished := forall₂_of_finishes? hEnded
  obtain ⟨now, jobs⟩ := s
  unfold Schedule.since?
  simp only at hFinished ⊢
  clear hEnded
  induction hFinished generalizing i with
  | nil => rfl
  | cons hHead _ ih =>
    cases i with
    | zero => simp [Job.since?, hHead]
    | succ i => exact ih i

/-- **Confluence.** Every interleaving that completes gives each run the
verdict on it, whatever becomes of the others. -/
theorem Finishes.forall₂ {calls : List (String × Run α)} {finishes : List (Finish α)}
    (hDone : (spawn calls).Finishes clock limit finishes) :
    List.Forall₂ (fun c f => f.ending = c.2.verdict clock c.1 f.since limit) calls finishes := by
  obtain ⟨s', hReach, hEnded⟩ := hDone
  obtain ⟨hTime, hCalls⟩ := hReach.preserves (onTime_spawn calls)
  rw [← calls_spawn calls, ← hCalls, Schedule.calls, List.forall₂_map_left_iff]
  have hFinished := forall₂_of_finishes? hEnded
  rw [List.forall₂_iff_zip] at hFinished ⊢
  refine ⟨hFinished.1, fun {j f} hMem => ?_⟩
  -- the job is on time, and it has ended
  have hOnTime := hTime j (List.of_mem_zip hMem).1
  rwa [Job.OnTime, hFinished.2 hMem] at hOnTime

/-- Interleavings that complete differ in nothing but when the jobs began. -/
theorem Finishes.eq_of_since {calls : List (String × Run α)} {finishes finishes' : List (Finish α)}
    (hDone : (spawn calls).Finishes clock limit finishes)
    (hDone' : (spawn calls).Finishes clock limit finishes')
    (hSince : finishes.map Finish.since = finishes'.map Finish.since) : finishes = finishes' := by
  have hVerdicts := hDone.forall₂
  have hVerdicts' := hDone'.forall₂
  clear hDone hDone'
  induction hVerdicts generalizing finishes' with
  | nil =>
    cases hVerdicts' with
    | nil => rfl
  | @cons c f _ _ hHead _ ih =>
    cases hVerdicts' with
    | @cons _ f' _ _ hHead' hTail' =>
      obtain ⟨hBegan, hRest⟩ := List.cons.inj hSince
      -- the verdict is about the same run, from the same beginning
      have hEnding : f.ending = f'.ending := by rw [hHead, hHead', hBegan]
      have hFinish : f = f' := by
        cases f
        cases f'
        cases hBegan
        cases hEnding
        rfl
      rw [hFinish, ih hRest hTail']

/-- Where it does not matter for any run when it begins, every interleaving
that completes gives each the same verdict. -/
theorem Finishes.endings_eq {calls : List (String × Run α)} {finishes : List (Finish α)}
    (verdict : String → Run α → Ending α)
    (hSteady : ∀ c ∈ calls, ∀ since, c.2.verdict clock c.1 since limit = verdict c.1 c.2)
    (hDone : (spawn calls).Finishes clock limit finishes) :
    finishes.map Finish.ending = calls.map fun c => verdict c.1 c.2 := by
  have hVerdicts := hDone.forall₂
  clear hDone
  induction hVerdicts with
  | nil => rfl
  | cons hHead _ ih =>
    rw [List.map_cons, List.map_cons, hHead, hSteady _ (List.mem_cons_self ..),
      ih fun c hc => hSteady c (List.mem_cons_of_mem _ hc)]

/-- Matched by position, each of those whose runs these are meets its own verdict. -/
theorem Finishes.zip_eq {β : Type} {name : β → String} {run : β → Run α} {xs : List β}
    {finishes : List (Finish α)} (verdict : String → Run α → Ending α)
    (hSteady : ∀ x ∈ xs, ∀ since,
      (run x).verdict clock (name x) since limit = verdict (name x) (run x))
    (hDone : (spawn (xs.map fun x => (name x, run x))).Finishes clock limit finishes) :
    xs.zip (finishes.map Finish.ending) = xs.map fun x => (x, verdict (name x) (run x)) := by
  have hCalls : ∀ c ∈ xs.map (fun x => (name x, run x)), ∀ since,
      c.2.verdict clock c.1 since limit = verdict c.1 c.2 := by
    intro c hc
    obtain ⟨x, hx, rfl⟩ := List.mem_map.mp hc
    exact hSteady x hx
  rw [hDone.endings_eq verdict hCalls, List.map_map, ← List.map_prod_left_eq_zip]
  rfl

/-- On ticks, when the jobs began does not matter. -/
theorem Completes.zip_eq {β : Type} {name : β → String} {run : β → Run α} {xs : List β}
    {endings : List (Ending α)}
    (hDone : (spawn (xs.map fun x => (name x, run x))).Completes .ticks limit endings) :
    xs.zip endings = xs.map fun x => (x, (run x).verdict .ticks (name x) 0 limit) := by
  obtain ⟨finishes, hFinishes, rfl⟩ := hDone
  exact hFinishes.zip_eq (fun name run => run.verdict .ticks name 0 limit) fun _ _ _ => rfl

end Schedule

/-! ## No interleaving is stuck -/

namespace Job

variable {clock : Clock} {limit : Duration} {now : Nat} {j : Job α}

variable (clock limit) in
/-- How many moves a job may still need: one for each instant that it may be
waited for, one to end it and one to begin it. -/
def remaining (now : Nat) (j : Job α) : Nat :=
  match j.progress with
  | .spawned => j.run.wait clock j.name now limit + 2
  | .running since => j.run.wait clock j.name since limit + 1 - (now - since)
  | .ended _ => 0

/-- Where a job that was begun is found, it has less remaining than it had. -/
theorem remaining_standing {since : Nat} :
    remaining clock limit now { j with progress := j.standing clock limit now since } ≤
      j.run.wait clock j.name since limit + 1 - (now - since) := by
  unfold remaining standing
  cases j.found? clock limit since (now - since) with
  | none => exact Nat.le_refl _
  | some e => exact Nat.zero_le _

/-- A job that has not ended either comes closer to its end when it is looked
at, or waits for its timers. -/
theorem ended_or_progress (hTime : j.OnTime clock limit now) :
    (∃ f, j.progress = .ended f) ∨
      (j.poll clock limit now).remaining clock limit now < j.remaining clock limit now ∨
      (j.Quiet clock limit now ∧
        j.remaining clock limit (now + 1) < j.remaining clock limit now) := by
  cases hProgress : j.progress with
  | spawned =>
    right; left
    rw [poll, hProgress]
    have hLeft := @remaining_standing _ clock limit now j now
    have hAll : j.remaining clock limit now = j.run.wait clock j.name now limit + 2 := by
      rw [remaining, hProgress]
    simp only
    omega
  | running since =>
    right
    rw [OnTime, hProgress] at hTime
    obtain ⟨hSince, hWaited⟩ := hTime
    have hLeft : j.remaining clock limit now =
        j.run.wait clock j.name since limit + 1 - (now - since) := by
      rw [remaining, hProgress]
    -- a job that is due ends when it is looked at; any other one waits
    cases hFound : j.found? clock limit since (now - since) with
    | some e =>
      left
      have hZero : (j.poll clock limit now).remaining clock limit now = 0 := by
        simp [poll, hProgress, standing, hFound, remaining]
      omega
    | none =>
      right
      refine ⟨?_, ?_⟩
      · intro since' hSince'
        rw [hProgress, Progress.running.injEq] at hSince'
        rw [← hSince', hFound]
      · have hNext : j.remaining clock limit (now + 1) =
            j.run.wait clock j.name since limit + 1 - (now + 1 - since) := by
          rw [remaining, hProgress]
        have hAhead := lt_wait_of_not_found hFound
        omega
  | ended f => exact Or.inl ⟨f, rfl⟩

end Job

namespace Schedule

variable {clock : Clock} {limit : Duration}

theorem finishes?_of_all_ended {s : Schedule α}
    (hEnded : ∀ j ∈ s.jobs, ∃ f, j.progress = .ended f) :
    ∃ finishes, s.finishes? = some finishes := by
  obtain ⟨now, jobs⟩ := s
  unfold finishes?
  induction jobs with
  | nil => exact ⟨[], rfl⟩
  | cons j rest ih =>
    obtain ⟨f, hHead⟩ := hEnded j (List.mem_cons_self ..)
    obtain ⟨fs, hTail⟩ := ih fun x hx => hEnded x (List.mem_cons_of_mem _ hx)
    refine ⟨f :: fs, ?_⟩
    rw [List.mapM_cons, finish?_eq_some_iff.mpr hHead]
    simp only at hTail
    simp [hTail]

variable (clock limit) in
/-- What the jobs of a schedule have remaining, all together. -/
def remaining (s : Schedule α) : Nat :=
  (s.jobs.map (Job.remaining clock limit s.now)).sum

/-- A schedule that is on time has ended, or some move leaves less remaining. -/
theorem all_ended_or_move {s : Schedule α} (hTime : s.OnTime clock limit) :
    (∀ j ∈ s.jobs, ∃ f, j.progress = .ended f) ∨
      ∃ s', Move clock limit s s' ∧ s'.remaining clock limit < s.remaining clock limit := by
  obtain ⟨now, jobs⟩ := s
  by_cases hDue : ∃ j ∈ jobs,
      (j.poll clock limit now).remaining clock limit now < j.remaining clock limit now
  · -- some job is worth looking at
    obtain ⟨j, hj, hLess⟩ := hDue
    obtain ⟨before, after, rfl⟩ := List.append_of_mem hj
    right
    refine ⟨_, .poll now before after j, ?_⟩
    simp only [remaining, List.map_append, List.map_cons, List.sum_append, List.sum_cons]
    omega
  · -- looking at a job changes nothing any more, so each has ended or waits
    have hRest : ∀ j ∈ jobs, (∃ f, j.progress = .ended f) ∨
        (j.Quiet clock limit now ∧
          j.remaining clock limit (now + 1) < j.remaining clock limit now) := by
      intro j hj
      rcases Job.ended_or_progress (hTime j hj) with hEnded | hPoll | hWait
      · exact Or.inl hEnded
      · exact absurd ⟨j, hj, hPoll⟩ hDue
      · exact Or.inr hWait
    by_cases hAll : ∀ j ∈ jobs, ∃ f, j.progress = .ended f
    · exact Or.inl hAll
    · -- all that have not ended wait for their timers: the clock may go on
      push Not at hAll
      obtain ⟨w, hw, hWaiting⟩ := hAll
      have hQuiet : ∀ j ∈ jobs, j.Quiet clock limit now := by
        intro j hj
        rcases hRest j hj with ⟨f, hEnded⟩ | hWait
        · intro since hSince
          rw [hEnded] at hSince
          cases hSince
        · exact hWait.1
      right
      refine ⟨_, .tick now jobs hQuiet, ?_⟩
      -- no job is further from its end than before, and `w` is nearer
      apply List.sum_lt_sum
      · intro j hj
        rcases hRest j hj with ⟨f, hEnded⟩ | hWait
        · simp [Job.remaining, hEnded]
        · exact Nat.le_of_lt hWait.2
      · refine ⟨w, hw, ?_⟩
        rcases hRest w hw with ⟨f, hEnded⟩ | hWait
        · exact absurd hEnded (hWaiting f)
        · exact hWait.2

/-- **Progress.** A schedule that is on time can always be completed, by moves
that leave less and less remaining. -/
theorem exists_finishes_of_onTime (n : Nat) :
    ∀ s : Schedule α, s.OnTime clock limit → s.remaining clock limit = n →
      ∃ finishes, s.Finishes clock limit finishes := by
  induction n using Nat.strongRecOn with
  | ind n ih =>
    intro s hTime hLeft
    rcases all_ended_or_move hTime with hAll | ⟨s', hMove, hLess⟩
    · obtain ⟨finishes, hEnded⟩ := finishes?_of_all_ended hAll
      exact ⟨finishes, s, .refl, hEnded⟩
    · obtain ⟨finishes, s'', hReach, hEnded⟩ :=
        ih _ (hLeft ▸ hLess) s' (hMove.preserves hTime).1 rfl
      exact ⟨finishes, s'', .head hMove hReach, hEnded⟩

/-- Whatever happened to some named runs so far, all of them can still end. -/
theorem exists_finishes {calls : List (String × Run α)} {s : Schedule α}
    (hReach : Reaches clock limit (spawn calls) s) : ∃ finishes, s.Finishes clock limit finishes :=
  exists_finishes_of_onTime _ s (hReach.preserves (onTime_spawn calls)).1 rfl

/-- While nobody has been looked at, the clock may go on. -/
theorem reaches_later (calls : List (String × Run α)) (now : Nat) :
    Reaches clock limit (spawn calls) ⟨now, (spawn calls).jobs⟩ := by
  induction now with
  | zero => exact .refl
  | succ now ih =>
    refine ih.tail (.tick now _ fun j hj since hRunning => ?_)
    obtain ⟨c, -, rfl⟩ := List.mem_map.mp hj
    cases hRunning

/-- Any job may begin at any instant. -/
theorem exists_finishes_since {calls : List (String × Run α)} {i : Nat} (hi : i < calls.length)
    (since : Nat) :
    ∃ finishes f, (spawn calls).Finishes clock limit finishes ∧ finishes[i]? = some f ∧
      f.since = since := by
  obtain ⟨before, c, after, rfl, rfl⟩ : ∃ before c after,
      calls = before ++ c :: after ∧ before.length = i :=
    ⟨calls.take i, calls[i], calls.drop (i + 1), by simp, by simp; omega⟩
  -- nothing happens until then, and this job is looked at first
  have hLater := @reaches_later _ clock limit (before ++ c :: after) since
  rw [show (spawn (before ++ c :: after)).jobs = _ from List.map_append, List.map_cons] at hLater
  have hBegun := hLater.tail (.poll since _ _ _)
  obtain ⟨finishes, s', hReach, hEnded⟩ := exists_finishes hBegun
  have hSince : s'.since? before.length = some since := by
    refine hReach.keeps_since ?_
    rw [Schedule.since?, List.getElem?_append_right (by simp), List.length_map, Nat.sub_self]
    exact Job.since?_standing
  rw [since?_of_finishes? hEnded, Option.map_eq_some_iff] at hSince
  obtain ⟨f, hf, hSince⟩ := hSince
  exact ⟨finishes, f, ⟨s', hBegun.trans hReach, hEnded⟩, hf, hSince⟩

theorem exists_completes {calls : List (String × Run α)} {s : Schedule α}
    (hReach : Reaches clock limit (spawn calls) s) :
    ∃ endings, s.Completes clock limit endings := by
  obtain ⟨finishes, hDone⟩ := exists_finishes hReach
  exact ⟨_, finishes, hDone, rfl⟩

end Schedule

end ReviewPanel
