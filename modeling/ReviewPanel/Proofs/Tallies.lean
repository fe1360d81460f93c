import ReviewPanel.Proofs.Capabilities
import ReviewPanel.Proofs.Counters

/-!
# Tallies — counters that mean what they say

An agent counts when an operation starts; whoever looks at its counters wants to know how the
operations ended. For the built-in agents the two agree. Ask one of them for any sequence of
operations, directly or through the check of a capability, and write down what each of them
returned (`Instance.actAll`): the counters can be read off these notes (`Counters.Tells`).

An operation counts at most once, so a note stands for at most one use (`Note.usage?`). To
optimize is to analyze, which the inner analysis counts and nothing else. What is refused as
unsupported, and a chat without a message, stands for none and leaves no trace.

* `Counters.ofUsage_eq`        — what the counters of a sequence of uses hold.
* `Builtin.Operates.usage_act` — one operation counts what its note stands for.
* `Instance.usage_actAll`      — so does a whole sequence.
* `Instance.counters_tell`     — the counters, read off the notes.
-/

namespace ReviewPanel

/-! ## Uses -/

namespace Usage

def isAnalysis : Usage → Bool
  | .analysis _ => true
  | _ => false

/-- The issues that a use reports. -/
def issues : Usage → Nat
  | .analysis issues => issues
  | _ => 0

end Usage

namespace Counters

/-- **Sums.** Each counter holds the number of uses of its kind and one holds the sum of the
issues, both in 64 bits; and any use at all is noticed. -/
theorem ofUsage_eq (uses : List Usage) :
    ofUsage uses =
      ⟨.ofNat (uses.countP Usage.isAnalysis), .ofNat (uses.countP (· = .failure)),
        .ofNat (uses.map Usage.issues).sum, .ofNat (uses.countP (· = .chat)),
        .ofNat (uses.countP (· = .testGeneration)), !uses.isEmpty⟩ := by
  induction uses with
  | nil => rfl
  | cons u rest ih =>
    -- the first use adds to the start of each sum
    rw [← List.singleton_append, ofUsage_append, ih, add_def]
    show ofUsage [u] + _ = _
    cases u <;>
      simp [ofUsage, record, zero, add_def, List.countP_cons, Usage.isAnalysis, Usage.issues,
        UInt64.ofNat_add, UInt64.add_comm]

end Counters

/-! ## Operations and notes -/

/-- An operation that is asked of an agent: directly, or through the check of its capability. -/
inductive Action
  | analyze (path content : String) (context : Context)
  | direct (call : Call)
  | checked (call : Call)

/-- The number of issues that an analysis reports, if it is answered. -/
def Agent.issueCount (a : Agent) (path content : String) (context : Context) : Nat :=
  match (a.analyze path content context).ending with
  | .answered result => result.issues.length
  | _ => 0

/-- The issues of the analysis that is part of a call. -/
def Call.issues (a : Agent) : Call → Nat
  | .optimize path content context => a.issueCount path content context
  | _ => 0

/-- A chat without a message that has text. -/
def Call.LacksMessage : Call → Prop
  | .chat context => ∀ message, context.message? = some message → ¬ Builtin.HasText message
  | _ => False

namespace Action

def operation : Action → Operation
  | .analyze .. => .analyze
  | .direct call => call.operation
  | .checked call => call.operation

/-- The issues of the analysis that an agent performs for an action: the analysis itself, or
the one that an optimization runs on the same file. -/
def issues (a : Agent) : Action → Nat
  | .analyze path content context => a.issueCount path content context
  | .direct call => call.issues a
  | .checked call => call.issues a

/-- What an agent does when it is asked; an error when nothing is entered. -/
def run (a : Agent) (asked : Nat) : Action → Except AgentError (Run Product)
  | .analyze path content context => .ok ((a.analyze path content context).map .result)
  | .direct call => .ok (a.perform asked call)
  | .checked call => a.performThrough asked call

def LacksMessage : Action → Prop
  | .analyze .. => False
  | .direct call => call.LacksMessage
  | .checked call => call.LacksMessage

end Action

/-- A note of what was asked, and of what was returned. -/
structure Note where
  action : Action
  ending : Ending Product

namespace Note

def isAnswered (n : Note) : Bool :=
  match n.ending with
  | .answered _ => true
  | _ => false

/-- Whether the input was found to be invalid. -/
def isInvalid (n : Note) : Bool :=
  match n.ending with
  | .failed (.invalidInput ..) => true
  | _ => false

/-- An analysis or an optimization that was answered. -/
def isAnalysis (n : Note) : Bool := n.action.operation ∈ [.analyze, .optimize] && n.isAnswered

/-- An operation on a file that was found to be invalid. -/
def isFailure (n : Note) : Bool :=
  n.action.operation ∈ [.analyze, .optimize, .generateTests] && n.isInvalid

def isGeneration (n : Note) : Bool := n.action.operation = .generateTests && n.isAnswered

def isChat (n : Note) : Bool := n.action.operation = .chat && n.isAnswered

def isCounted (n : Note) : Bool := n.isAnalysis || n.isFailure || n.isGeneration || n.isChat

/-- The use that a note stands for. -/
def usage? (a : Agent) (n : Note) : Option Usage :=
  if n.isAnalysis then some (.analysis (n.action.issues a))
  else if n.isFailure then some .failure
  else if n.isGeneration then some .testGeneration
  else if n.isChat then some .chat
  else none

end Note

/-- Counters that tell, modulo `2 ^ 64`, what the notes about an agent say. -/
structure Counters.Tells (c : Counters) (a : Agent) (notes : List Note) : Prop where
  analyses       : c.analyses.toNat = notes.countP Note.isAnalysis % 2 ^ 64
  issuesReported : c.issuesReported.toNat =
                     ((notes.filter Note.isAnalysis).map (·.action.issues a)).sum % 2 ^ 64
  failures       : c.failures.toNat = notes.countP Note.isFailure % 2 ^ 64
  testsGenerated : c.testsGenerated.toNat = notes.countP Note.isGeneration % 2 ^ 64
  chats          : c.chats.toNat = notes.countP Note.isChat % 2 ^ 64
  hasRun         : c.hasRun = true ↔ ∃ n ∈ notes, n.isCounted = true

namespace Instance

/-- One action of an instance, and the note of it. -/
def act (i : Instance) (session : Session) (action : Action) : Session × Note :=
  let (session, ending) :=
    session.enter i.id action.operation (action.run i.agent session.asked)
  (session, ⟨action, ending⟩)

/-- Actions, one after the other. -/
def actAll (i : Instance) (session : Session) : List Action → Session × List Note
  | [] => (session, [])
  | action :: rest =>
    let (session, note) := i.act session action
    let (session, notes) := i.actAll session rest
    (session, note :: notes)

end Instance

/-! ## What notes stand for -/

namespace Note

variable {a : Agent} {n : Note} {notes : List Note}

/-- A test of uses, applied to the use that a note stands for, tests the kinds of the note. At
most one of these holds. -/
theorem test_usage? (test : Usage → Bool) :
    ((n.usage? a).map test).getD false =
      (n.isAnalysis && test (.analysis (n.action.issues a)) || n.isFailure && test .failure ||
        n.isGeneration && test .testGeneration || n.isChat && test .chat) := by
  unfold usage? isAnalysis isFailure isGeneration isChat isAnswered isInvalid
  -- the kinds are told apart by the operation, and those of one operation by how it ended
  cases n.action.operation <;> rcases n.ending with _ | (_ | _ | _ | _ | _ | _ | _) | _ <;> simp

/-- A counter of the uses that pass a test counts notes. -/
theorem toNat_countP_usage? (test : Usage → Bool) :
    (UInt64.ofNat ((notes.filterMap (usage? a)).countP test)).toNat =
      (notes.countP fun n =>
        (n.isAnalysis && test (.analysis (n.action.issues a)) || n.isFailure && test .failure ||
          n.isGeneration && test .testGeneration || n.isChat && test .chat)) % 2 ^ 64 := by
  rw [UInt64.toNat_ofNat', List.countP_filterMap]
  simp only [test_usage?]

theorem issues_usage? :
    ((notes.filterMap (usage? a)).map Usage.issues).sum =
      ((notes.filter isAnalysis).map (·.action.issues a)).sum := by
  induction notes with
  | nil => rfl
  | cons n rest ih =>
    rw [List.filterMap_cons, List.filter_cons]
    by_cases hAnalysis : n.isAnalysis = true
    · have hUse : n.usage? a = some (.analysis (n.action.issues a)) := if_pos hAnalysis
      rw [hUse, if_pos hAnalysis, List.map_cons, List.map_cons, List.sum_cons, List.sum_cons, ih]
      rfl
    · -- a use of any other kind has no issues
      rw [if_neg hAnalysis, ← ih, usage?, if_neg hAnalysis]
      split_ifs <;> simp [Usage.issues]

theorem isSome_usage? : (n.usage? a).isSome = n.isCounted := by
  have hTest := test_usage? (a := a) (n := n) fun _ => true
  simp only [Bool.and_true] at hTest
  rw [isCounted, ← hTest]
  cases n.usage? a <;> rfl

/-- What notes stand for, once counted, can be read off the notes. -/
theorem tells_usage? (a : Agent) (notes : List Note) :
    (Counters.ofUsage (notes.filterMap (usage? a))).Tells a notes := by
  rw [Counters.ofUsage_eq]
  constructor
  case analyses => exact (toNat_countP_usage? _).trans (by simp [Usage.isAnalysis])
  case issuesReported =>
    show (UInt64.ofNat _).toNat = _
    rw [issues_usage?, UInt64.toNat_ofNat']
  case failures => exact (toNat_countP_usage? _).trans (by simp)
  case testsGenerated => exact (toNat_countP_usage? _).trans (by simp)
  case chats => exact (toNat_countP_usage? _).trans (by simp)
  case hasRun =>
    show (!(notes.filterMap (usage? a)).isEmpty) = true ↔ _
    rw [Bool.not_eq_true', List.isEmpty_eq_false_iff, Ne, List.filterMap_eq_nil_iff]
    push Not
    simp only [← isSome_usage? (a := a), Option.isSome_iff_ne_none]

end Note

/-! ## One action -/

namespace Session

variable {α : Type} {s : Session} {agent : Nat} {operation : Operation}

theorem usage_enter_ok {r : Run α} :
    (s.enter agent operation (.ok r)).1.usage agent = s.usage agent ++ r.usage := by
  show (s.append [event agent operation r]).usage agent = _
  simp [usage, append, event]

/-- What counts and asks nothing is not noticed, whether it is entered or not. -/
theorem enter_idle {r : Except AgentError (Run α)}
    (hIdle : ∀ run, r = .ok run → run.usage = [] ∧ run.queries = []) :
    (s.enter agent operation r).1.queries = s.queries ∧
      ∀ other, (s.enter agent operation r).1.counters other = s.counters other := by
  cases r with
  | error e => exact ⟨rfl, fun _ => rfl⟩
  | ok run =>
    obtain ⟨hUsage, hQueries⟩ := hIdle run rfl
    refine ⟨?_, fun other => ?_⟩
    · show (s.append [event agent operation run]).queries = _
      simp [queries, append, event, hQueries]
    · show (s.append [event agent operation run]).counters other = _
      have hNone : counters ⟨[event agent operation run]⟩ other = 0 := by
        -- whoever is meant, the event has no uses
        unfold counters usage
        by_cases hOther : agent = other <;> simp [event, hOther, hUsage] <;> rfl
      rw [counters_append, hNone, add_zero]

end Session

namespace Builtin

variable {client : Option Llm.Client} {a : Agent} {p : Profile} {i : Instance} {s : Session}
  {review : (path content : String) → Context → RawResult} {asked : Nat} {action : Action}

/-- An analysis of a file that is accepted reports the issues of the review. -/
theorem Reviews.issueCount_eq (hReviews : Reviews a p review) {path content : String}
    (hAccepts : acceptsFile p.extensions path content = true) (context : Context) :
    a.issueCount path content context = (review path content context).issues.length := by
  rw [Agent.issueCount, hReviews.analyze, Profile.onFile, if_pos hAccepts]
  rfl

theorem Operates.usage_analyze (hOperates : Operates a p review client) (path content : String)
    (context : Context) :
    let run := (a.analyze path content context).map Product.result
    run.usage = (Note.usage? a ⟨.analyze path content context, run.ending⟩).toList := by
  intro run
  have hRun : run = (p.onFile path content (Profile.finished (review path content context))).map
      .result := congrArg (Run.map Product.result) (hOperates.reviews.analyze path content context)
  rw [hRun, Profile.onFile]
  by_cases hAccepts : acceptsFile p.extensions path content = true
  · rw [if_pos hAccepts]
    show [Usage.analysis _] = [Usage.analysis (a.issueCount path content context)]
    rw [hOperates.reviews.issueCount_eq hAccepts]
  · -- a file that is not accepted is a failure in both
    rw [if_neg hAccepts]
    rfl

/-- A call counts what the note of it stands for. -/
theorem Operates.usage_perform (hOperates : Operates a p review client) (c : Call) :
    (a.perform asked c).usage =
      (Note.usage? a ⟨.direct c, (a.perform asked c).ending⟩).toList := by
  cases c with
  | chat context =>
    rw [Agent.perform, hOperates.chats.chat, Profile.chat]
    -- any message is answered and counted, with the help of a language model or without
    cases Profile.messageOf? context with
    | none => rfl
    | some message => cases client <;> rfl
  | generateTests path content context =>
    rw [Agent.perform]
    cases hOperates.generates with
    | declared hDeclares answer hOperation =>
      -- tests are generated, or the file is invalid and that is a failure
      rw [hOperation, Profile.onFile]
      split <;> rfl
    | lacking hLacks hOperation =>
      rw [hOperation]
      rfl
  | optimize path content context =>
    rw [Agent.perform]
    cases hOperates.optimizes with
    | declared hDeclares answer hOperation =>
      rw [hOperation, Profile.onFile]
      by_cases hAccepts : acceptsFile p.extensions path content = true
      · -- the analysis inside is the only one that is counted
        rw [if_pos hAccepts]
        show [Usage.analysis _] = [Usage.analysis (a.issueCount path content context)]
        rw [hOperates.reviews.issueCount_eq hAccepts]
      · rw [if_neg hAccepts]
        rfl
    | lacking hLacks hOperation =>
      rw [hOperation]
      rfl

/-- **One use.** An action counts what the note of it stands for, and nothing else. -/
theorem Operates.usage_act (hOperates : Operates i.agent p review client) :
    (i.act s action).1.usage i.id =
      s.usage i.id ++ ((i.act s action).2.usage? i.agent).toList := by
  cases action with
  | analyze path content context =>
    show (s.enter i.id .analyze (.ok _)).1.usage i.id = _
    rw [Session.usage_enter_ok, hOperates.usage_analyze]
    rfl
  | direct c =>
    show (s.enter i.id c.operation (.ok _)).1.usage i.id = _
    rw [Session.usage_enter_ok, hOperates.usage_perform]
    rfl
  | checked c =>
    -- the check asks whether the capability is declared
    have hRun : (Action.checked c).run i.agent s.asked =
        if i.agent.supports c.capability then .ok (i.agent.perform s.asked c)
        else .error (.unsupported i.agent.name c.capability) := Agent.performThrough_eq
    rw [Instance.act, hRun]
    by_cases hSupports : i.agent.supports c.capability = true
    · rw [if_pos hSupports]
      show (s.enter i.id c.operation (.ok _)).1.usage i.id = _
      rw [Session.usage_enter_ok, hOperates.usage_perform]
      rfl
    · -- nothing is entered, and the note is that of a refusal
      rw [if_neg hSupports]
      show s.usage i.id = s.usage i.id ++ ((Note.mk (.checked c) (.failed _)).usage? i.agent).toList
      cases c <;> exact (List.append_nil _).symm

/-- A call that fails as unsupported, or a chat without a message, counts and asks nothing. -/
theorem Operates.perform_idle (hOperates : Operates a p review client) {c : Call}
    (hIdle : (a.perform asked c).ending.isUnsupported = true ∨ c.LacksMessage) :
    (a.perform asked c).usage = [] ∧ (a.perform asked c).queries = [] := by
  rcases hIdle with hUnsupported | hNothing
  · rw [hOperates.perform_of_lacks (hOperates.isUnsupported_iff.mp hUnsupported)]
    exact ⟨rfl, rfl⟩
  · cases c with
    | chat context =>
      have hNone : Profile.messageOf? context = none := by
        unfold Profile.messageOf?
        cases hMessage : context.message? with
        | none => rfl
        | some message =>
          have hBlank : Text.isBlankText message = true := by
            rw [← Bool.not_eq_false, isBlankText_eq_false_iff]
            exact hNothing message hMessage
          exact if_pos hBlank
      rw [Agent.perform, hOperates.chats.chat, Profile.chat, hNone]
      exact ⟨rfl, rfl⟩
    | generateTests => cases hNothing
    | optimize => cases hNothing

/-- **Nothing.** An action that is refused as unsupported, or that is a chat without a message,
is as good as none: nothing is counted, for any agent, and no language model is asked. -/
theorem Operates.act_idle (hOperates : Operates i.agent p review client)
    (hIdle : (i.act s action).2.ending.isUnsupported = true ∨ action.LacksMessage) :
    (i.act s action).1.queries = s.queries ∧
      ∀ agent, (i.act s action).1.counters agent = s.counters agent := by
  refine Session.enter_idle fun run hRun => ?_
  cases action with
  | analyze path content context =>
    -- an analysis is never refused as unsupported
    rcases hIdle with hUnsupported | hNothing
    · change ((i.agent.analyze path content context).ending.map Product.result).isUnsupported =
        true at hUnsupported
      rw [Ending.isUnsupported_map, hOperates.reviews.analyze, Profile.onFile] at hUnsupported
      split at hUnsupported <;> cases hUnsupported
    · cases hNothing
  | direct c =>
    cases hRun
    exact hOperates.perform_idle hIdle
  | checked c =>
    change i.agent.performThrough s.asked c = .ok run at hRun
    have hEnding : (i.act s (.checked c)).2.ending = run.ending := by
      show (s.enter i.id c.operation (i.agent.performThrough s.asked c)).2 = _
      rw [hRun]
      rfl
    rw [hEnding] at hIdle
    -- what is entered is the operation itself
    rw [Agent.performThrough_eq] at hRun
    split at hRun
    · cases hRun
      exact hOperates.perform_idle hIdle
    · cases hRun

end Builtin

/-! ## Sequences of actions -/

namespace Instance

variable {client : Option Llm.Client} {category : Category} {i : Instance} {s : Session}
  {actions : List Action}

theorem actAll_cons {action : Action} {rest : List Action} :
    i.actAll s (action :: rest) =
      ((i.actAll (i.act s action).1 rest).1,
        (i.act s action).2 :: (i.actAll (i.act s action).1 rest).2) := rfl

/-- There is a note of each action, in order. -/
theorem action_actAll : (i.actAll s actions).2.map Note.action = actions := by
  induction actions generalizing s with
  | nil => rfl
  | cons action rest ih => rw [actAll_cons, List.map_cons, ih, act]

/-- A sequence of actions counts what the notes of it stand for. -/
theorem usage_actAll {p : Builtin.Profile}
    {review : (path content : String) → Context → RawResult}
    (hOperates : Builtin.Operates i.agent p review client) :
    (i.actAll s actions).1.usage i.id =
      s.usage i.id ++ (i.actAll s actions).2.filterMap (Note.usage? i.agent) := by
  induction actions generalizing s with
  | nil => exact (List.append_nil _).symm
  | cons action rest ih =>
    rw [actAll_cons, ih, hOperates.usage_act, List.filterMap_cons, List.append_assoc]
    cases (i.act s action).2.usage? i.agent <;> rfl

/--
**The counters tell.** Take an instance of a built-in agent that has counted nothing yet, with or
without a language model, and ask it for any sequence of operations, directly or through the
check of a capability. Its counters tell, modulo `2 ^ 64`, what came of them: how many analyses
and optimizations were answered, and how many issues there were in these analyses; how many
operations on files failed because their input is invalid; how many tests were generated and
chats answered; and that it ran, if any of these was counted. Whatever came before, an operation
that fails as unsupported, or a chat without a message that has text, changes no counter.
-/
theorem counters_tell (hMem : i ∈ (Registry.builtin client).agents category)
    (hFresh : s.usage i.id = []) :
    (∀ actions, (i.actAll s actions).2.map Note.action = actions ∧
      ((i.actAll s actions).1.counters i.id).Tells i.agent (i.actAll s actions).2) ∧
    ∀ (session : Session) (action : Action),
      (i.act session action).2.ending.isUnsupported = true ∨ action.LacksMessage →
        (i.act session action).1.queries = session.queries ∧
          ∀ agent, (i.act session action).1.counters agent = session.counters agent := by
  obtain ⟨p, review, hOperates⟩ := Builtin.exists_operates hMem
  refine ⟨fun actions => ⟨action_actAll, ?_⟩, fun session action => hOperates.act_idle⟩
  -- nothing was counted before, so the uses are those of the notes
  have hUsage : (i.actAll s actions).1.usage i.id =
      (i.actAll s actions).2.filterMap (Note.usage? i.agent) := by
    rw [usage_actAll hOperates, hFresh, List.nil_append]
  rw [Session.counters, hUsage]
  exact Note.tells_usage? _ _

/-- Six operations are asked of an agent that writes tests for Python. One is refused by the
check and one has no message; the others are counted, each in one way. -/
theorem counters_tell_mixed :
    let i : Instance := ⟨3, Builtin.Python.testAgent none⟩
    let actions : List Action :=
      [.analyze "a.py" "x = 1" .empty, .analyze "a.txt" "x = 1" .empty,
        .direct (.generateTests "a.py" "x = 1" .empty), .checked (.optimize "a.py" "x = 1" .empty),
        .checked (.chat (Context.empty.withMessage "Why?")), .direct (.chat .empty)]
    let counters := (i.actAll .empty actions).1.counters 3
    counters.analyses.toNat = 1 ∧ counters.failures.toNat = 1 ∧
      counters.testsGenerated.toNat = 1 ∧ counters.chats.toNat = 1 ∧ counters.hasRun = true := by
  intro i actions counters
  have hMem : i ∈ (Registry.builtin none).agents .testing := List.mem_of_getElem? (i := 1) rfl
  obtain ⟨hAll, -⟩ := counters_tell hMem (s := .empty) rfl
  obtain ⟨-, hTells⟩ := hAll actions
  refine ⟨hTells.analyses.trans rfl, hTells.failures.trans rfl, hTells.testsGenerated.trans rfl,
    hTells.chats.trans rfl, hTells.hasRun.mpr ?_⟩
  exact ⟨_, List.mem_of_getElem? (i := 1) rfl, rfl⟩

end Instance

end ReviewPanel
