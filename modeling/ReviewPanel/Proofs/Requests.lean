import ReviewPanel.Proofs.Counters
import ReviewPanel.Proofs.Panel
import ReviewPanel.Proofs.Replies

/-!
# Requests — one after the other

The agents of a panel are shared by all its requests, and count what they do.
Nothing that they count is ever read to answer a request, and what a request
adds to the record of a session does not depend on the record. So each request
is answered as if it came first, and the counters add up over the requests,
in whatever order these come. The one thing that a chat could learn of earlier
requests is how many queries a language model has been sent; without a model,
the built-in agents do not look at it.

* `respond_eq`               — what one request does, whatever came before it.
* `respondAll_eq`            — what a sequence of requests does.
* `requests_are_independent` — for panels of the built-in agents.
-/

namespace ReviewPanel

/-- A request to a panel. -/
inductive Request
  | workflow (w : Workflow) (path content : String) (context : Option Context)
  | named (name path content : String) (context : Option Context)
  | chat (message chatType : String) (context : Option Context)

/-- What a request is answered. -/
inductive Answer
  | result (answer : Except RequestError WorkflowResult)
  | reply (answer : Except RequestError ChatResponse)

namespace Router

variable {r : Router} {message : String} {t : ChatType} {session : Session}
  {context : Option Context} {told : Context} {agents : List Instance}

/-- Agents that do not look at the number of earlier queries are started each by
itself. -/
theorem startAll_eq
    (hIgnores : ∀ i ∈ agents, ∀ asked, i.agent.chat asked told = i.agent.chat 0 told) :
    ∀ asked, startAll told asked agents = agents.map fun i => (i, i.agent.chat 0 told) := by
  induction agents with
  | nil => exact fun _ => rfl
  | cons i rest ih =>
    intro asked
    have hRest := ih fun j hj => hIgnores j (List.mem_cons_of_mem _ hj)
    rw [startAll, hRest, hIgnores i List.mem_cons_self, List.map_cons]

/-- If the agents ignore how often they were asked, a chat is the one of a fresh session; the
calls are recorded behind those of the session. -/
theorem chat_eq (hIgnores : ∀ i ∈ r.consulted message t, ∀ asked told,
      i.agent.chat asked told = i.agent.chat 0 told) :
    r.chat session message t context =
      (session.append (r.chat .empty message t context).1.events,
        (r.chat .empty message t context).2) := by
  obtain ⟨e, hRefuses⟩ | ⟨hText, hSome⟩ := r.refuses_or_routed message t
  · -- a refused chat leaves either session as it is
    rw [chat_refused hRefuses, chat_refused hRefuses]
    exact Prod.ext Session.append_nil.symm rfl
  · have hAlike : ∀ i ∈ r.consulted message t, ∀ asked,
        i.agent.chat asked (contextFor message t (context.getD .empty)) =
          i.agent.chat 0 (contextFor message t (context.getD .empty)) :=
      fun i hi asked => hIgnores i hi asked _
    rw [chat_of_routed hText hSome, chat_of_routed hText hSome, startAll_eq hAlike,
      startAll_eq hAlike]
    rfl

end Router

namespace Panel

variable {p : Panel} {session : Session} {c : Config} {requests : List Request}

/-- Answers a request. -/
def respond (p : Panel) (session : Session) : Request → Session × Answer
  | .workflow w path content context =>
    (p.execute session w path content context).map id .result
  | .named name path content context =>
    (p.executeNamed session name path content context).map id .result
  | .chat message chatType context => (p.chat session message chatType context).map id .reply

/-- Answers requests, one after the other. -/
def respondAll (p : Panel) (session : Session) : List Request → Session × List Answer
  | [] => (session, [])
  | q :: rest =>
    let (session, answer) := p.respond session q
    let (session, answers) := p.respondAll session rest
    (session, answer :: answers)

/-- The agents of a panel do not look at the number of earlier queries. -/
def IgnoresQueries (p : Panel) : Prop :=
  ∀ category, ∀ i ∈ p.registry.agents category, ∀ asked told,
    i.agent.chat asked told = i.agent.chat 0 told

/-! ## One request -/

/-- So is a workflow, whose agents have no way to look at the session. -/
theorem execute_append {w : Workflow} {path content : String} {context : Option Context} :
    p.execute session w path content context =
      (session.append (p.execute .empty w path content context).1.events,
        (p.execute .empty w path content context).2) := by
  cases hTemplate : p.templates.get? w with
  | none =>
    rw [execute_of_no_template hTemplate, execute_of_no_template hTemplate]
    exact Prod.ext Session.append_nil.symm rfl
  | some t =>
    rw [execute_eq hTemplate, execute_eq hTemplate]
    cases Selection.select t (p.detect path content) p.registry with
    | error e => exact Prod.ext Session.append_nil.symm rfl
    | ok selected => rfl

/-- Looking the workflow up by name does not change that. -/
theorem executeNamed_append {name path content : String} {context : Option Context} :
    p.executeNamed session name path content context =
      (session.append (p.executeNamed .empty name path content context).1.events,
        (p.executeNamed .empty name path content context).2) := by
  rw [executeNamed, executeNamed]
  cases Workflow.parse name with
  | error e => exact Prod.ext Session.append_nil.symm rfl
  | ok w => exact execute_append

/-- Nor does reading the type of a chat. -/
theorem chat_append (hIgnores : p.IgnoresQueries) {message chatType : String}
    {context : Option Context} :
    p.chat session message chatType context =
      (session.append (p.chat .empty message chatType context).1.events,
        (p.chat .empty message chatType context).2) := by
  rw [chat, chat]
  cases ChatType.parse chatType with
  | error e => exact Prod.ext Session.append_nil.symm rfl
  | ok t =>
    have hConsulted : ∀ i ∈ p.router.consulted message t, ∀ asked told,
        i.agent.chat asked told = i.agent.chat 0 told := by
      intro i hi
      obtain ⟨category, -, hAgent⟩ :=
        Router.exists_category_of_mem_route (Router.mem_consulted_iff.mp hi).1
      exact hIgnores category i hAgent
    simp only
    rw [Router.chat_eq hConsulted]

/-- **Step.** Every request is answered as if it came first, and adds to the
record what it would be alone. -/
theorem respond_eq (hIgnores : p.IgnoresQueries) (session : Session) (q : Request) :
    p.respond session q =
      (session.append (p.respond .empty q).1.events, (p.respond .empty q).2) := by
  cases q with
  | workflow w path content context =>
    rw [respond, execute_append]
    simp only [respond, Prod.map_apply, Prod.map_fst, Prod.map_snd, id_eq]
  | named name path content context =>
    rw [respond, executeNamed_append]
    simp only [respond, Prod.map_apply, Prod.map_fst, Prod.map_snd, id_eq]
  | chat message chatType context =>
    rw [respond, chat_append hIgnores]
    simp only [respond, Prod.map_apply, Prod.map_fst, Prod.map_snd, id_eq]

/-! ## Many requests -/

/-- **Run.** A sequence of requests is answered request by request, and the
record grows by what each of them adds alone. -/
theorem respondAll_eq (hIgnores : p.IgnoresQueries) (requests : List Request) :
    ∀ session, p.respondAll session requests =
      (session.append (requests.flatMap fun q => (p.respond .empty q).1.events),
        requests.map fun q => (p.respond .empty q).2) := by
  induction requests with
  | nil =>
    intro session
    exact Prod.ext Session.append_nil.symm rfl
  | cons q rest ih =>
    intro session
    simp only [respondAll, respond_eq hIgnores session q, ih, Session.append_append,
      List.flatMap_cons, List.map_cons]

/-- By induction on the requests, since each one adds what it would add on its own. -/
theorem counters_respondAll (hIgnores : p.IgnoresQueries) (requests : List Request)
    (agent : Nat) : ∀ session, (p.respondAll session requests).1.counters agent =
      session.counters agent +
        (requests.map fun q => (p.respond .empty q).1.counters agent).sum := by
  induction requests with
  | nil => exact fun session => (add_zero _).symm
  | cons q rest ih =>
    intro session
    have hHead : (p.respond session q).1 = session.append (p.respond .empty q).1.events := by
      rw [respond_eq hIgnores]
    have hRest : (p.respondAll session (q :: rest)).1 =
        (p.respondAll (p.respond session q).1 rest).1 := rfl
    -- what the first request adds is counted before the others
    rw [hRest, ih, hHead, Session.counters_append, List.map_cons, List.sum_cons, add_assoc]

/-! ## The counters of a panel -/

/-- The agents are listed category by category, each under the key of its slot. -/
theorem mem_keyedAgents_iff {r : Registry} {key : String} {i : Instance} :
    (key, i) ∈ keyedAgents r ↔
      ∃ category, i ∈ r.agents category ∧ key = slotKey category i.name := by
  simp only [keyedAgents, List.mem_flatMap, List.mem_map, Prod.mk.injEq, Registry.categories,
    List.mem_filter]
  constructor
  · rintro ⟨category, -, i, hAgent, rfl, rfl⟩
    exact ⟨category, hAgent, rfl⟩
  · rintro ⟨category, hAgent, rfl⟩
    have hListed : category ∈ Category.all := by cases category <;> decide
    have hSome : (!(r.agents category).isEmpty) = true := by
      simpa using List.ne_nil_of_mem hAgent
    exact ⟨category, ⟨hListed, hSome⟩, i, hAgent, rfl, rfl⟩

/-- If no two agents share a key, the counters under a key are those of its agent. -/
theorem get?_counters_iff (hKeys : ((keyedAgents p.registry).map Prod.fst).Nodup) {key : String}
    {n : Counters} :
    (p.counters session).get? key = some n ↔
      ∃ i, (key, i) ∈ keyedAgents p.registry ∧ n = session.counters i.id := by
  have hFirst : ((keyedAgents p.registry).map fun e => (e.1, session.counters e.2.id)).map
      Prod.fst = (keyedAgents p.registry).map Prod.fst := by
    rw [List.map_map]
    rfl
  rw [← hFirst] at hKeys
  rw [counters]
  -- keys that are distinct for the agents are distinct for their counters
  refine (Table.get?_ofList_iff hKeys).trans ?_
  rw [List.mem_map]
  constructor
  · rintro ⟨⟨key, i⟩, hMem, hEntry⟩
    cases hEntry
    exact ⟨i, hMem, rfl⟩
  · rintro ⟨i, hMem, rfl⟩
    exact ⟨(key, i), hMem, rfl⟩

/-! ## The built-in agents -/

/-- No two built-in agents share a key. -/
theorem keyedAgents_builtin_nodup {client : Option Llm.Client} :
    ((keyedAgents (.builtin client)).map Prod.fst).Nodup := by
  have hKeys : (keyedAgents (.builtin client)).map Prod.fst =
      [slotKey .code "javascript_react_code", slotKey .code "python_code",
        slotKey .testing "javascript_react_test", slotKey .testing "python_test",
        slotKey .security "security_scanner"] := rfl
  rw [hKeys]
  simp [slotKey_inj]

/-- Without a model, the built-in agents answer with a fixed text. -/
theorem IsSetUp.ignoresQueries (hSetUp : IsSetUp (.builtin none) c p) : p.IgnoresQueries := by
  intro category i hAgent asked told
  rw [hSetUp.parts.1] at hAgent
  -- without a model, the number is not looked at
  obtain ⟨profile, hChats⟩ := Builtin.exists_chats hAgent
  rw [hChats.chat]
  rfl

/--
**Requests do not influence each other.** On a panel of the built-in agents, without
a language model, every sequence of requests is answered request by request as if each
came first. Afterwards every agent has counted the sum of what it counts for each of
the requests alone. So in any other order the same requests have the same answers, and
leave the same counters.
-/
theorem requests_are_independent (hSetUp : IsSetUp (.builtin none) c p)
    (requests : List Request) :
    (p.respondAll .empty requests).2 = requests.map (fun q => (p.respond .empty q).2) ∧
    (∀ category, ∀ i ∈ (Registry.builtin none).agents category, ∀ session, ∃ n,
      (p.counters session).get? (slotKey category i.name) = some n) ∧
    (∀ key n, (p.counters (p.respondAll .empty requests).1).get? key = some n ↔
      ∃ alone : Request → Counters,
        (∀ q, (p.counters (p.respond .empty q).1).get? key = some (alone q)) ∧
        n = (requests.map alone).sum) ∧
    (∀ reordered, reordered.Perm requests →
      (reordered.zip (p.respondAll .empty reordered).2).Perm
        (requests.zip (p.respondAll .empty requests).2) ∧
      p.counters (p.respondAll .empty reordered).1 =
        p.counters (p.respondAll .empty requests).1) := by
  have hIgnores := hSetUp.ignoresQueries
  have hRegistry := hSetUp.parts.1
  have hKeys : ((keyedAgents p.registry).map Prod.fst).Nodup := by
    rw [hRegistry]
    exact keyedAgents_builtin_nodup
  -- both for any sequence, so that they hold in any order
  have hAnswers : ∀ qs, (p.respondAll .empty qs).2 = qs.map fun q => (p.respond .empty q).2 := by
    intro qs
    rw [respondAll_eq hIgnores]
  have hSum : ∀ qs agent, (p.respondAll .empty qs).1.counters agent =
      (qs.map fun q => (p.respond .empty q).1.counters agent).sum := by
    intro qs agent
    rw [counters_respondAll hIgnores]
    exact zero_add _
  refine ⟨hAnswers requests, ?_, ?_, ?_⟩
  · intro category i hAgent session
    rw [← hRegistry] at hAgent
    exact ⟨_, (get?_counters_iff hKeys).mpr
      ⟨i, mem_keyedAgents_iff.mpr ⟨category, hAgent, rfl⟩, rfl⟩⟩
  · intro key n
    constructor
    · intro hFound
      obtain ⟨i, hMem, rfl⟩ := (get?_counters_iff hKeys).mp hFound
      exact ⟨fun q => (p.respond .empty q).1.counters i.id,
        fun q => (get?_counters_iff hKeys).mpr ⟨i, hMem, rfl⟩, hSum requests i.id⟩
    · rintro ⟨alone, hAlone, rfl⟩
      -- the key is the key of some agent, and of no other
      obtain ⟨i, hMem, -⟩ := (get?_counters_iff hKeys).mp (hAlone (.chat "" "" none))
      have hSame : alone = fun q => (p.respond .empty q).1.counters i.id := by
        funext q
        have hCounted : (p.counters (p.respond .empty q).1).get? key =
            some ((p.respond .empty q).1.counters i.id) :=
          (get?_counters_iff hKeys).mpr ⟨i, hMem, rfl⟩
        rw [hAlone q] at hCounted
        exact Option.some.inj hCounted
      rw [hSame, ← hSum]
      exact (get?_counters_iff hKeys).mpr ⟨i, hMem, rfl⟩
  · intro reordered hPerm
    constructor
    · rw [hAnswers, hAnswers, ← List.map_prod_left_eq_zip, ← List.map_prod_left_eq_zip]
      exact hPerm.map _
    · have hCounters : ∀ agent, (p.respondAll .empty reordered).1.counters agent =
          (p.respondAll .empty requests).1.counters agent := by
        intro agent
        rw [hSum, hSum]
        exact (hPerm.map _).sum_eq
      simp only [counters, hCounters]

def audit : Request := .workflow .securityAudit "a.py" "" none

/-- The audit of a blank file is a failure of the scanner each time, and a chat without a
message, between two of them, leaves nothing. -/
theorem requests_are_independent_audits :
    IsSetUp (.builtin none) .default (ofRegistry (.builtin none)) ∧
      ((ofRegistry (.builtin none)).counters ((ofRegistry (.builtin none)).respondAll .empty
          [audit, .chat "" "general" none, audit]).1).get? "security_security_scanner" =
        some ⟨0, 2, 0, 0, 0, true⟩ := by
  have hSetUp : IsSetUp (.builtin none) .default (ofRegistry (.builtin none)) := .plain
  obtain ⟨-, hKnown, hSums, -⟩ :=
    requests_are_independent hSetUp [audit, .chat "" "general" none, audit]
  have hScanner : ∀ session, ∃ n, ((ofRegistry (.builtin none)).counters session).get?
      "security_security_scanner" = some n :=
    hKnown .security ⟨4, Builtin.Security.agent none⟩ List.mem_cons_self
  choose counted hCounted using hScanner
  have hAudit : counted ((ofRegistry (.builtin none)).respond .empty audit).1 =
      ⟨0, 1, 0, 0, 0, true⟩ := Option.some.inj ((hCounted _).symm.trans rfl)
  have hChat : counted ((ofRegistry (.builtin none)).respond .empty (.chat "" "general" none)).1 =
      0 := Option.some.inj ((hCounted _).symm.trans rfl)
  refine ⟨hSetUp, (hSums _ _).mpr ⟨_, fun q => hCounted _, ?_⟩⟩
  simp only [List.map_cons, List.map_nil, hAudit, hChat]
  rfl

end Panel

end ReviewPanel
