import ReviewPanel.Proofs.Replies

/-!
# Capabilities — operations behind their check

Three operations of an agent are optional, and each of them is bound to a capability. A
call goes through the check of its capability, and the check decides before anything is
entered. So what an agent does in an operation that it does not declare is of no
consequence: the call is refused, and agent, counters and language model are left as they
were. All that an agent can do is done by the calls that it declares; the others can be
struck from any sequence of calls without a trace (`LiveAgent.callAll_filter`).

An agent may have a state of its own. A `LiveAgent` is an agent in each of its states,
and every operation that is entered may leave another state behind.

The built-in agents offer each optional operation exactly if they declare it
(`Builtin.Operates`), so for them it makes no difference whether a call is checked.

* `Agent.performThrough_eq`         — one check for all three operations.
* `LiveAgent.call_of_undeclared`    — a call that is refused has no effect.
* `LiveAgent.call_of_declared`      — any other enters its operation once.
* `LiveAgent.capabilities_are_checked` — both, for every sequence of calls, and what
  the built-in agents do when they are called directly.
-/

namespace ReviewPanel

/-! ## Calls -/

/-- A call of an operation that an agent may lack. -/
inductive Call
  | chat (context : Context)
  | generateTests (path content : String) (context : Context)
  | optimize (path content : String) (context : Context)

namespace Call

def operation : Call → Operation
  | .chat _ => .chat
  | .generateTests .. => .generateTests
  | .optimize .. => .optimize

/-- The capability that the operation is bound to. -/
def capability : Call → Capability
  | .chat _ => .chatSupport
  | .generateTests .. => .testGeneration
  | .optimize .. => .codeOptimization

end Call

/-- What an operation returns: a text or a result. -/
inductive Product
  | text (value : String)
  | result (value : RawResult)

section Maps

variable {α β : Type}

def Ending.map (f : α → β) : Ending α → Ending β
  | .answered x => .answered (f x)
  | .failed e => .failed e
  | .panicked => .panicked

/-- Whether an operation ends in the error that the agent does not support it. -/
def Ending.isUnsupported : Ending α → Bool
  | .failed e => e.isUnsupported
  | _ => false

/-- What a result is turned into does not change whether the call was refused. -/
@[simp]
theorem Ending.isUnsupported_map {f : α → β} {e : Ending α} :
    (e.map f).isUnsupported = e.isUnsupported := by
  cases e <;> rfl

def Run.map (f : α → β) (r : Run α) : Run β := ⟨r.usage, r.queries, r.duration, r.ending.map f⟩

/-- Starts an operation of an agent, unless it is refused, and tells how it ends. -/
def Session.enter (s : Session) (agent : Nat) (operation : Operation) :
    Except AgentError (Run α) → Session × Ending α
  | .ok run => (s.append [event agent operation run], run.ending)
  | .error e => (s, .failed e)

end Maps

namespace Agent

variable {a : Agent} {asked : Nat} {c : Call}

/-- The operation that a call names, called directly. -/
def perform (a : Agent) (asked : Nat) : Call → Run Product
  | .chat context => (a.chat asked context).map .text
  | .generateTests path content context => (a.generateTests path content context).map .text
  | .optimize path content context => (a.optimize path content context).map .result

/-- The same through the check of its capability. -/
def performThrough (a : Agent) (asked : Nat) : Call → Except AgentError (Run Product)
  | .chat context => (a.chatThrough asked context).map (Run.map .text)
  | .generateTests path content context =>
    (a.generateTestsThrough path content context).map (Run.map .text)
  | .optimize path content context => (a.optimizeThrough path content context).map (Run.map .result)

/-- All three operations stand behind the same check. -/
theorem performThrough_eq :
    a.performThrough asked c =
      if a.supports c.capability then .ok (a.perform asked c)
      else .error (.unsupported a.name c.capability) := by
  -- a check that passes hands on the operation, and one that fails its own error
  have hGuarded : ∀ {α : Type} (capability : Capability) (run : Run α) (f : α → Product),
      (a.guarded capability run).map (Run.map f) =
        if a.supports capability then .ok (run.map f)
        else .error (.unsupported a.name capability) := by
    intro α capability run f
    rw [guarded, require]
    -- either way the check has been decided before the operation is looked at
    split <;> rfl
  cases c with
  | chat context => exact hGuarded _ _ _
  | generateTests path content context => exact hGuarded _ _ _
  | optimize path content context => exact hGuarded _ _ _

end Agent

/-! ## Agents with a state -/

/-- An agent with a state of its own. What it is called and what it declares stay as they
are; what its operations do may depend on the state, and may change it. -/
structure LiveAgent (σ : Type) where
  id : Nat
  name : String
  capabilities : CapabilitySet
  /-- The agent in a state. -/
  view : σ → Agent
  /-- The state that is left when an operation was entered in a state, by an agent that
  is told how many queries were sent before. -/
  after : σ → (asked : Nat) → Call → σ
  view_name : ∀ state, (view state).name = name
  view_capabilities : ∀ state, (view state).capabilities = capabilities

/-- How far things have come: the state of an agent, and the record of what was asked. -/
structure Stage (σ : Type) where
  state : σ
  session : Session

namespace LiveAgent

variable {σ : Type} {m : LiveAgent σ} {stage : Stage σ} {c : Call} {calls : List Call}

/-- Whether an agent declares the capability of a call. -/
def declares (m : LiveAgent σ) (c : Call) : Bool := m.capabilities.contains c.capability

/-- The operation that a call names, as it goes at a stage. -/
def runAt (m : LiveAgent σ) (stage : Stage σ) (c : Call) : Run Product :=
  (m.view stage.state).perform stage.session.asked c

/-- The stage after a call was entered: the event is recorded, the state may be another. -/
def entered (m : LiveAgent σ) (stage : Stage σ) (c : Call) : Stage σ :=
  ⟨m.after stage.state stage.session.asked c,
    stage.session.append [Session.event m.id c.operation (m.runAt stage c)]⟩

/-- A call, and what it returns. -/
def call (m : LiveAgent σ) (stage : Stage σ) (c : Call) : Stage σ × Ending Product :=
  let through := (m.view stage.state).performThrough stage.session.asked c
  let (session, ending) := stage.session.enter m.id c.operation through
  (⟨if through.isOk then m.after stage.state stage.session.asked c else stage.state, session⟩,
    ending)

/-- Calls, one after the other. -/
def callAll (m : LiveAgent σ) (stage : Stage σ) : List Call → Stage σ × List (Ending Product)
  | [] => (stage, [])
  | c :: rest =>
    let (stage, ending) := m.call stage c
    let (stage, endings) := m.callAll stage rest
    (stage, ending :: endings)

/-! ## One call -/

/-- A call goes through iff the capability is declared. -/
theorem through_eq :
    (m.view stage.state).performThrough stage.session.asked c =
      if m.declares c then .ok (m.runAt stage c)
      else .error (.unsupported m.name c.capability) := by
  rw [Agent.performThrough_eq, Agent.supports, m.view_capabilities, m.view_name]
  rfl

/-- **Refusal.** A call that the agent does not declare returns the error that names agent and
capability, and leaves the stage as it was. -/
theorem call_of_undeclared (hLacks : m.declares c = false) :
    m.call stage c = (stage, .failed (.unsupported m.name c.capability)) := by
  have hThrough : (m.view stage.state).performThrough stage.session.asked c =
      .error (.unsupported m.name c.capability) := by
    rw [through_eq, hLacks]
    rfl
  rw [call, hThrough]
  rfl

/-- **Entry.** Any other call enters its operation once, and returns what the operation
returns. -/
theorem call_of_declared (hDeclares : m.declares c = true) :
    m.call stage c = (m.entered stage c, (m.runAt stage c).ending) := by
  have hThrough : (m.view stage.state).performThrough stage.session.asked c =
      .ok (m.runAt stage c) := by
    rw [through_eq, hDeclares]
    rfl
  rw [call, hThrough]
  rfl

/-! ## Sequences of calls -/

theorem callAll_cons {rest : List Call} :
    m.callAll stage (c :: rest) =
      ((m.callAll (m.call stage c).1 rest).1,
        (m.call stage c).2 :: (m.callAll (m.call stage c).1 rest).2) := rfl

/-- Calls are made one by one, so together or in two parts. -/
theorem callAll_append {before after : List Call} :
    m.callAll stage (before ++ after) =
      ((m.callAll (m.callAll stage before).1 after).1,
        (m.callAll stage before).2 ++ (m.callAll (m.callAll stage before).1 after).2) := by
  induction before generalizing stage with
  | nil => rfl
  | cons c rest ih => rw [List.cons_append, callAll_cons, ih, callAll_cons, List.cons_append]

/-- Every call has an answer. -/
theorem length_callAll : (m.callAll stage calls).2.length = calls.length := by
  induction calls generalizing stage with
  | nil => rfl
  | cons c rest ih => rw [callAll_cons, List.length_cons, ih, List.length_cons]

/-- A call among others returns what it returns at the stage to which those before it lead. -/
theorem getElem?_callAll {before after : List Call} :
    (m.callAll stage (before ++ c :: after)).2[before.length]? =
      some (m.call (m.callAll stage before).1 c).2 := by
  have hBefore : (m.callAll stage before).2.length = before.length := length_callAll
  rw [callAll_append, callAll_cons]
  show ((m.callAll stage before).2 ++ _)[before.length]? = _
  rw [List.getElem?_append_right (by omega), hBefore, Nat.sub_self, List.getElem?_cons_zero]

/-- Calls that are refused can be struck out: neither the stage at the end nor what the other
calls return depends on them. -/
theorem callAll_filter :
    (m.callAll stage calls).1 = (m.callAll stage (calls.filter m.declares)).1 ∧
      ((calls.zip (m.callAll stage calls).2).filter fun e => m.declares e.1) =
        (calls.filter m.declares).zip (m.callAll stage (calls.filter m.declares)).2 := by
  induction calls generalizing stage with
  | nil => exact ⟨rfl, rfl⟩
  | cons c rest ih =>
    rw [callAll_cons, List.zip_cons_cons, List.filter_cons, List.filter_cons]
    by_cases hDeclares : m.declares c = true
    · obtain ⟨hStage, hOthers⟩ := @ih (m.call stage c).1
      rw [if_pos hDeclares, if_pos hDeclares, callAll_cons, List.zip_cons_cons]
      exact ⟨hStage, congrArg _ hOthers⟩
    · -- the others are made at the same stage with and without the refused one
      rw [if_neg hDeclares, if_neg hDeclares]
      rw [Bool.not_eq_true] at hDeclares
      rw [call_of_undeclared hDeclares]
      exact ih

/-- The operations that are entered are those of the declared calls, once each and in order. -/
theorem events_callAll :
    (m.callAll stage calls).1.session.events.map (fun e => (e.agent, e.operation)) =
      stage.session.events.map (fun e => (e.agent, e.operation)) ++
        (calls.filter m.declares).map fun c => (m.id, c.operation) := by
  induction calls generalizing stage with
  | nil => exact (List.append_nil _).symm
  | cons c rest ih =>
    rw [callAll_cons, ih, List.filter_cons]
    by_cases hDeclares : m.declares c = true
    · rw [if_pos hDeclares, call_of_declared hDeclares, List.map_cons]
      show ((stage.session.events ++ [_]).map _) ++ _ = _
      rw [List.map_append, List.append_assoc]
      rfl
    · rw [if_neg hDeclares, call_of_undeclared (Bool.not_eq_true _ ▸ hDeclares)]

/-- What a sequence of calls comes to. -/
structure Checked (m : LiveAgent σ) (stage : Stage σ) (calls : List Call) : Prop where
  refused : ∀ before c after, calls = before ++ c :: after → m.declares c = false →
              (m.callAll stage (before ++ [c])).1 = (m.callAll stage before).1 ∧
                (m.callAll stage calls).2[before.length]? =
                  some (.failed (.unsupported m.name c.capability))
  entered : ∀ before c after, calls = before ++ c :: after → m.declares c = true →
              (m.callAll stage (before ++ [c])).1 = m.entered (m.callAll stage before).1 c ∧
                (m.callAll stage calls).2[before.length]? =
                  some (m.runAt (m.callAll stage before).1 c).ending
  left    : (m.callAll stage calls).1 = (m.callAll stage (calls.filter m.declares)).1
  answers : ((calls.zip (m.callAll stage calls).2).filter fun e => m.declares e.1) =
              (calls.filter m.declares).zip (m.callAll stage (calls.filter m.declares)).2
  events  : (m.callAll stage calls).1.session.events.map (fun e => (e.agent, e.operation)) =
              stage.session.events.map (fun e => (e.agent, e.operation)) ++
                (calls.filter m.declares).map fun c => (m.id, c.operation)

/-- Whatever the calls, each is checked. -/
theorem checked_callAll (m : LiveAgent σ) (stage : Stage σ) (calls : List Call) :
    m.Checked stage calls where
  refused := by
    rintro before c after rfl hLacks
    refine ⟨?_, ?_⟩
    · rw [callAll_append, callAll_cons, call_of_undeclared hLacks]
      rfl
    · rw [getElem?_callAll, call_of_undeclared hLacks]
  entered := by
    rintro before c after rfl hDeclares
    refine ⟨?_, ?_⟩
    · rw [callAll_append, callAll_cons, call_of_declared hDeclares]
      rfl
    · rw [getElem?_callAll, call_of_declared hDeclares]
  left := callAll_filter.1
  answers := callAll_filter.2
  events := events_callAll

end LiveAgent

/-! ## The built-in agents -/

namespace Builtin

variable {client : Option Llm.Client} {a : Agent} {p : Profile} {asked : Nat} {c : Call}
  {review : (path content : String) → Context → RawResult}

/-- An operation on files that a built-in agent either declares and has, for the files that
it accepts, or neither declares nor has. -/
inductive Offers {α : Type} (a : Agent) (p : Profile) (capability : Capability)
    (usage : (path content : String) → Context → Usage)
    (operation : (path content : String) → Context → Run α) : Prop
  | declared (hDeclares : a.supports capability = true)
      (answer : (path content : String) → Context → α)
      (hOperation : ∀ path content context, operation path content context =
        p.onFile path content
          (.immediate [usage path content context] (.answered (answer path content context)))) :
      Offers a p capability usage operation
  | lacking (hLacks : a.supports capability = false)
      (hOperation : ∀ path content context, operation path content context =
        p.lacking capability) : Offers a p capability usage operation

/-- An agent all of whose operations are those of a profile and a review: it reviews files,
chats, and has the optional operations that it declares. To optimize, it reviews the file. -/
structure Operates (a : Agent) (p : Profile)
    (review : (path content : String) → Context → RawResult) (client : Option Llm.Client) :
    Prop where
  reviews   : Reviews a p review
  chats     : Chats a p client
  generates : Offers a p .testGeneration (fun _ _ _ => .testGeneration) a.generateTests
  optimizes : Offers a p .codeOptimization
                (fun path content context => .analysis (review path content context).issues.length)
                a.optimize

/-- Every built-in agent operates by a profile and a review. -/
theorem exists_operates {category : Category} {i : Instance}
    (hMem : i ∈ (Registry.builtin client).agents category) :
    ∃ p review, Operates i.agent p review client := by
  -- all profiles are listed, so each agent chats
  have hListed : ∀ p, p ∈ [React.codeProfile, Python.codeProfile, React.testProfile,
      Python.testProfile, Security.profile] → p ∈ profiles := fun _ hp => hp
  cases category with
  | code =>
    -- the first of the two can optimize
    simp only [agents_code, List.mem_cons, List.not_mem_nil, or_false] at hMem
    rcases hMem with rfl | rfl
    · exact ⟨_, _, reviews_reactCode, ⟨hListed _ (by simp), rfl, rfl, rfl⟩,
        .lacking rfl fun _ _ _ => rfl,
        .declared rfl (fun path content _ => React.optimizations path content) fun _ _ _ => rfl⟩
    · exact ⟨_, _, reviews_pythonCode, ⟨hListed _ (by simp), rfl, rfl, rfl⟩,
        .lacking rfl fun _ _ _ => rfl, .lacking rfl fun _ _ _ => rfl⟩
  | testing =>
    -- both can write tests
    simp only [agents_testing, List.mem_cons, List.not_mem_nil, or_false] at hMem
    rcases hMem with rfl | rfl
    · exact ⟨_, _, reviews_reactTest, ⟨hListed _ (by simp), rfl, rfl, rfl⟩,
        .declared rfl (fun path content _ => React.testText path content) fun _ _ _ => rfl,
        .lacking rfl fun _ _ _ => rfl⟩
    · exact ⟨_, _, reviews_pythonTest, ⟨hListed _ (by simp), rfl, rfl, rfl⟩,
        .declared rfl (fun path content _ => Python.testText path content) fun _ _ _ => rfl,
        .lacking rfl fun _ _ _ => rfl⟩
  | security =>
    rw [agents_security] at hMem
    rw [List.mem_singleton.mp hMem]
    exact ⟨_, _, reviews_security, ⟨hListed _ (by simp), rfl, rfl, rfl⟩,
      .lacking rfl fun _ _ _ => rfl, .lacking rfl fun _ _ _ => rfl⟩

/-- On a file, an operation fails as unsupported only where it is lacking. -/
theorem Offers.isUnsupported_iff {α : Type} {capability : Capability}
    {usage : (path content : String) → Context → Usage}
    {operation : (path content : String) → Context → Run α}
    (hOffers : Offers a p capability usage operation) (path content : String) (context : Context) :
    (operation path content context).ending.isUnsupported = true ↔
      a.supports capability = false := by
  cases hOffers with
  | declared hDeclares answer hOperation =>
    rw [hOperation, Profile.onFile, hDeclares]
    -- a file that is not accepted is a fault of the file
    split <;> simp [Run.immediate, Ending.isUnsupported, AgentError.isUnsupported,
      Profile.rejection]
  | lacking hLacks hOperation =>
    rw [hOperation, hLacks]
    exact iff_of_true rfl rfl

/-- Without the capability, the operation is not reached. -/
theorem Offers.eq_lacking {α : Type} {capability : Capability}
    {usage : (path content : String) → Context → Usage}
    {operation : (path content : String) → Context → Run α}
    (hOffers : Offers a p capability usage operation) (hLacks : a.supports capability = false)
    (path content : String) (context : Context) :
    operation path content context = p.lacking capability := by
  cases hOffers with
  | declared hDeclares _ _ =>
    rw [hLacks] at hDeclares
    cases hDeclares
  | lacking _ hOperation => exact hOperation path content context

/-- A chat that is answered is not refused. -/
theorem isUnsupported_chat {context : Context} :
    (p.chat client asked context).ending.isUnsupported = false := by
  unfold Profile.chat
  cases Profile.messageOf? context with
  | none => rfl
  | some message => cases client <;> rfl

/-- Called directly, a built-in agent fails as unsupported exactly in the operations that it
does not declare. -/
theorem Operates.isUnsupported_iff (hOperates : Operates a p review client) :
    (a.perform asked c).ending.isUnsupported = true ↔ a.supports c.capability = false := by
  cases c with
  | chat context =>
    have hChat : (a.chat asked context).ending.isUnsupported = false := by
      rw [hOperates.chats.chat]
      exact isUnsupported_chat
    show ((a.chat asked context).ending.map Product.text).isUnsupported = true ↔
      a.supports .chatSupport = false
    rw [Ending.isUnsupported_map, hChat, hOperates.chats.supports]
    simp
  | generateTests path content context =>
    show ((a.generateTests path content context).ending.map Product.text).isUnsupported = true ↔ _
    rw [Ending.isUnsupported_map]
    exact hOperates.generates.isUnsupported_iff path content context
  | optimize path content context =>
    show ((a.optimize path content context).ending.map Product.result).isUnsupported = true ↔ _
    rw [Ending.isUnsupported_map]
    exact hOperates.optimizes.isUnsupported_iff path content context

/-- An operation that a built-in agent does not declare is refused by the agent itself, with
the error of the check, and counts and asks nothing. -/
theorem Operates.perform_of_lacks (hOperates : Operates a p review client)
    (hLacks : a.supports c.capability = false) :
    a.perform asked c = .refused (.unsupported a.name c.capability) := by
  rw [hOperates.reviews.name]
  cases c with
  | chat context =>
    -- all built-in agents declare that they chat
    have hDeclares := hOperates.chats.supports
    rw [show a.supports .chatSupport = false from hLacks] at hDeclares
    cases hDeclares
  | generateTests path content context =>
    rw [Agent.perform, hOperates.generates.eq_lacking hLacks]
    rfl
  | optimize path content context =>
    rw [Agent.perform, hOperates.optimizes.eq_lacking hLacks]
    rfl

end Builtin

namespace LiveAgent

/--
**Capabilities are checked.** Take any agent, whatever state it has and whatever its operations
do, also those that it does not declare, and any sequence of calls through the check. A call
that the agent does not declare returns the error that it is unsupported, with the name of the
agent and the capability, and leaves the stage as it was: nothing is entered, counted or asked
of a language model, and neither the stage at the end nor the answer to any other call depends
on it. Any other call enters its operation once and returns what this returns. The built-in
agents keep to this by themselves: called directly, they fail as unsupported exactly in the
operations that they do not declare, and with the same error.
-/
theorem capabilities_are_checked :
    (∀ {σ : Type} (m : LiveAgent σ) (stage : Stage σ) (calls : List Call), m.Checked stage calls) ∧
    ∀ (client : Option Llm.Client) (category : Category),
      ∀ i ∈ (Registry.builtin client).agents category, ∀ (asked : Nat) (c : Call),
        ((i.agent.perform asked c).ending.isUnsupported = true ↔
          i.agent.supports c.capability = false) ∧
        (i.agent.supports c.capability = false →
          (i.agent.perform asked c).ending =
              .failed (.unsupported i.agent.name c.capability) ∧
            i.agent.performThrough asked c =
              .error (.unsupported i.agent.name c.capability)) := by
  refine ⟨fun m stage calls => m.checked_callAll stage calls, ?_⟩
  intro client category i hMem asked c
  obtain ⟨p, review, hOperates⟩ := Builtin.exists_operates hMem
  refine ⟨hOperates.isUnsupported_iff, fun hLacks => ⟨?_, ?_⟩⟩
  · -- called directly, the agent itself refuses
    rw [hOperates.perform_of_lacks hLacks]
    rfl
  · rw [Agent.performThrough_eq, hLacks]
    rfl

/-- An agent that chats without declaring to. Its state is the number of operations entered,
and its texts tell the first from the others. -/
def talkative : LiveAgent Nat where
  id := 0
  name := "talkative"
  capabilities := .ofList [.testGeneration]
  view entered :=
    { (default : Agent) with
      name := "talkative"
      capabilities := .ofList [.testGeneration]
      chat := fun _ _ => .immediate [.chat] (.answered "hello")
      generateTests := fun _ _ _ =>
        .immediate [.testGeneration] (.answered (if entered = 0 then "first" else "more")) }
  after entered _ _ := entered + 1
  view_name _ := rfl
  view_capabilities _ := rfl

/-- The chat in front is refused without a trace, so the tests are still the first; and an
agent for Python says itself that it does not optimize. -/
theorem capabilities_are_checked_talkative :
    (talkative.callAll ⟨0, .empty⟩ [.chat .empty, .generateTests "a.py" "x" .empty]).2[0]? =
        some (.failed (.unsupported "talkative" .chatSupport)) ∧
      (talkative.callAll ⟨0, .empty⟩ [.chat .empty, .generateTests "a.py" "x" .empty]).2[1]? =
        some (.answered (.text "first")) ∧
      (talkative.callAll ⟨0, .empty⟩ [.chat .empty, .generateTests "a.py" "x" .empty]).1.state =
        1 ∧
      ((Builtin.Python.codeAgent none).perform 0 (.optimize "a.py" "x" .empty)).ending =
        .failed (.unsupported "python_code" .codeOptimization) := by
  obtain ⟨hChecked, hBuiltin⟩ := capabilities_are_checked
  have hCalls := hChecked talkative ⟨0, .empty⟩ [.chat .empty, .generateTests "a.py" "x" .empty]
  have hPython := hBuiltin none .code ⟨1, Builtin.Python.codeAgent none⟩
    (List.mem_of_getElem? (i := 1) rfl) 0 (.optimize "a.py" "x" .empty)
  refine ⟨(hCalls.refused [] _ _ rfl rfl).2, ?_, ?_, (hPython.2 rfl).1⟩
  · exact (hCalls.entered [.chat .empty] _ _ rfl rfl).2
  · rw [hCalls.left]
    rfl

end LiveAgent

end ReviewPanel
