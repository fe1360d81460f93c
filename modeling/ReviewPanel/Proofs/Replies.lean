import Mathlib.Data.List.TakeWhile
import ReviewPanel.Proofs.Chat

/-!
# Replies — the built-in agents in a chat

Every built-in agent declares to chat, and answers any message that has text:
with the text of its language model where there is one that replies with some,
and otherwise with the fixed text of its profile (`Builtin.Says`). Neither the
context nor the keywords can keep it from that, so a chat with the built-in
agents is answered by all that it goes to.

* `Chats.answers`           — what one built-in agent answers.
* `consulted_eq_route`      — all that are routed are consulted.
* `builtin_always_answers`  — the chat as a whole.
-/

namespace ReviewPanel

open Numeric

/-! ## Texts that are not blank -/

/-- Dropping characters of one kind from the front keeps all others. -/
theorem Text.mem_trimLeft {c : Char} {cs : List Char} (hMem : c ∈ cs)
    (hBlank : isBlank c = false) : c ∈ trimLeft cs := by
  rw [← List.takeWhile_append_dropWhile (p := isBlank) (l := cs), List.mem_append] at hMem
  rcases hMem with hFront | hRest
  · rw [List.mem_takeWhile_imp hFront] at hBlank
    cases hBlank
  · exact hRest

/-- Trimming leaves a text that is not blank. -/
theorem Builtin.HasText.trim {text : String} (hText : HasText text) : HasText (Text.trim text) := by
  obtain ⟨c, hMem, hBlank⟩ := hText
  -- the character is dropped at neither end
  have hLeft := Text.mem_trimLeft hMem hBlank
  have hRight : c ∈ Text.trimRight (Text.trimLeft text.toList) :=
    List.mem_reverse.mpr (Text.mem_trimLeft (List.mem_reverse.mpr hLeft) hBlank)
  refine ⟨c, ?_, hBlank⟩
  rwa [Text.trim, String.toList_ofList, Text.trimChars]

namespace Builtin

/-- A text that begins with a character that is not blank. -/
theorem hasText_ofList {c : Char} {cs : List Char} (hBlank : Text.isBlank c = false) :
    HasText (String.ofList (c :: cs)) := by
  refine ⟨c, ?_, hBlank⟩
  rw [String.toList_ofList]
  exact List.mem_cons_self

variable {client : Option Llm.Client} {a : Agent} {p : Profile} {message : String}

/-! ## What an agent says -/

/-- What an agent with a fixed text says when it has been given a reply, or none:
the text of a successful reply that is not blank, and otherwise its own. -/
inductive Says (fallback : String) : Option Llm.Reply → String → Prop
  | replied {reply : Llm.Reply} (hSuccess : reply.success = true) (hText : HasText reply.text) :
      Says fallback (some reply) reply.text
  | fixed {reply? : Option Llm.Reply}
      (hNothing : ∀ reply, reply? = some reply → reply.success = true → ¬ HasText reply.text) :
      Says fallback reply? fallback

/-- A model is quoted if it answers with a text, and the fallback is said if not. -/
theorem says_text? (fallback : String) (reply : Llm.Reply) :
    Says fallback (some reply) (reply.text?.getD fallback) := by
  by_cases hReply : reply.success = true ∧ HasText reply.text
  · obtain ⟨hSuccess, hText⟩ := hReply
    have hSome : reply.text? = some reply.text := by
      rw [Llm.Reply.text?, hSuccess, isBlankText_eq_false_iff.mpr hText]
      rfl
    rw [hSome]
    exact .replied hSuccess hText
  · have hNone : reply.text? = none := by
      rw [Llm.Reply.text?, if_neg]
      rwa [Bool.and_eq_true, Bool.not_eq_true', isBlankText_eq_false_iff]
    rw [hNone]
    refine .fixed fun _ hSame hSuccess hText => ?_
    cases hSame
    exact hReply ⟨hSuccess, hText⟩

/-- So something is said in either case. -/
theorem Says.hasText {fallback text : String} {reply? : Option Llm.Reply}
    (hSays : Says fallback reply? text) (hFallback : HasText fallback) : HasText text := by
  cases hSays with
  | replied hSuccess hText => exact hText
  | fixed hNothing => exact hFallback

/-! ## The built-in profiles -/

/-- The profiles of the built-in agents. -/
def profiles : List Profile :=
  [React.codeProfile, Python.codeProfile, React.testProfile, Python.testProfile, Security.profile]

theorem profile_names_nodup : (profiles.map Profile.name).Nodup := by
  decide

/-- No fallback is blank. -/
theorem hasText_fallback (hMem : p ∈ profiles) : HasText p.fallback := by
  simp only [profiles, List.mem_cons, List.not_mem_nil, or_false] at hMem
  -- each text is unfolded to its characters, of which only the first is looked at
  rcases hMem with rfl | rfl | rfl | rfl | rfl
  · rw [React.codeProfile]
    exact hasText_ofList rfl
  · rw [Python.codeProfile]
    exact hasText_ofList rfl
  · rw [React.testProfile]
    exact hasText_ofList rfl
  · rw [Python.testProfile]
    exact hasText_ofList rfl
  · rw [Security.profile]
    exact hasText_ofList rfl

/-- An agent that chats by a profile, and declares to. -/
structure Chats (a : Agent) (p : Profile) (client : Option Llm.Client) : Prop where
  profile  : p ∈ profiles
  name     : a.name = p.name
  supports : a.supports .chatSupport = true
  chat     : a.chat = p.chat client

/-- No other profile has the name. -/
theorem Chats.find?_eq (hChats : Chats a p client) :
    Roster.find? Profile.name a.name profiles = some p := by
  rw [hChats.name]
  exact Roster.find?_name profile_names_nodup hChats.profile

/-- Every built-in agent chats. -/
theorem exists_chats {c : Category} {i : Instance}
    (hMem : i ∈ (Registry.builtin client).agents c) : ∃ p, Chats i.agent p client := by
  cases c with
  | code =>
    simp only [agents_code, List.mem_cons, List.not_mem_nil, or_false] at hMem
    rcases hMem with rfl | rfl
    · exact ⟨React.codeProfile, by simp [profiles], rfl, rfl, rfl⟩
    · exact ⟨Python.codeProfile, by simp [profiles], rfl, rfl, rfl⟩
  | testing =>
    simp only [agents_testing, List.mem_cons, List.not_mem_nil, or_false] at hMem
    rcases hMem with rfl | rfl
    · exact ⟨React.testProfile, by simp [profiles], rfl, rfl, rfl⟩
    · exact ⟨Python.testProfile, by simp [profiles], rfl, rfl, rfl⟩
  | security =>
    rw [agents_security] at hMem
    rw [List.mem_singleton.mp hMem]
    exact ⟨Security.profile, by simp [profiles], rfl, rfl, rfl⟩

/-! ## One agent in a chat -/

/-- The message of a chat is the one that the agent takes up. -/
theorem messageOf?_contextFor (hText : HasText message) (t : ChatType) (context : Context) :
    Profile.messageOf? (Router.contextFor message t context) = some message := by
  have hValue := (Router.contextFor_told message t context).2.2 Context.messageKey
  have hKeys : Context.messageKey ≠ Context.chatTypeKey := by decide
  rw [if_neg hKeys, if_pos rfl] at hValue
  have hMessage : (Router.contextFor message t context).message? = some message := by
    rw [Context.message?, Context.text?, hValue]
    rfl
  simp only [Profile.messageOf?, hMessage, isBlankText_eq_false_iff.mpr hText,
    Bool.false_eq_true, if_false]

/-- An agent that chats by a profile answers in time, if its language model does. -/
theorem Chats.answers {limit : Duration} (hChats : Chats a p client) (hText : HasText message)
    (hPrompt : ∀ m, client = some m → ∀ asked query,
      (m.answer asked query).delay.nanoseconds ≤ limit.nanoseconds)
    (t : ChatType) (context : Context) (asked : Nat) :
    let told := Router.contextFor message t context
    ∃ text, (a.chat asked told).AnswersWithin limit text ∧
      Says p.fallback (client.map fun m => (m.answer asked (p.query message told)).reply) text := by
  intro told
  have hTaken : Profile.messageOf? told = some message := messageOf?_contextFor hText t context
  rw [hChats.chat, Profile.chat, hTaken]
  cases client with
  | none =>
    -- no model, no reply
    refine ⟨p.fallback, ⟨⟨.zero, rfl, Nat.zero_le _⟩, rfl⟩, .fixed fun _ hReply => ?_⟩
    cases hReply
  | some m =>
    -- the run takes as long as the model does
    have hDelay := hPrompt m rfl asked (p.query message told)
    have hTime := hDelay.trans limit.roundedUp_bounds.1
    exact ⟨_, ⟨⟨_, rfl, hTime⟩, rfl⟩, says_text? _ _⟩

end Builtin

/-! ## A chat with the built-in agents -/

namespace Run

variable {name text : String} {limit : Duration} {r : Run String}

theorem AnswersWithin.section?_eq (hAnswers : r.AnswersWithin limit text) :
    r.section? name limit = some ("## " ++ name ++ "\n" ++ Text.trim text) := by
  rw [section?_eq_some_iff]
  exact ⟨text, hAnswers, rfl⟩

theorem AnswersWithin.complaint?_eq (hAnswers : r.AnswersWithin limit text) :
    r.complaint? name limit = none := by
  rw [complaint?, chatTurn_eq_answered_iff.mpr hAnswers]
  rfl

end Run

namespace Router

open Builtin

variable {client : Option Llm.Client} {keywords : KeywordTable} {limit : Duration}
  {message : String} {t : ChatType} {i : Instance}

/-- Every agent that a message is routed to is built in. -/
theorem exists_chats_of_mem_route
    (hMem : i ∈ (Router.mk (.builtin client) keywords limit).route message t) :
    ∃ p, Chats i.agent p client := by
  obtain ⟨c, -, hAgent⟩ := exists_category_of_mem_route hMem
  exact exists_chats hAgent

/-- There is a first agent in every category, so each message is routed. -/
theorem route_builtin_ne_nil :
    (Router.mk (.builtin client) keywords limit).route message t ≠ [] := by
  rw [Ne, route_eq_nil_iff]
  intro hNone
  -- all chats consult the code agents, of which there are two
  have hCode : Category.code ∈ t.categories := by cases t <;> decide
  have hEmpty := hNone .code hCode
  simp only [agents_code] at hEmpty
  cases hEmpty

/-- All built-in agents can chat. -/
theorem consulted_eq_route :
    (Router.mk (.builtin client) keywords limit).consulted message t =
      (Router.mk (.builtin client) keywords limit).route message t := by
  rw [consulted, List.filter_eq_self]
  intro i hMem
  obtain ⟨p, hChats⟩ := exists_chats_of_mem_route hMem
  exact hChats.supports

/-- Whoever is asked chats by a profile, and answers in time. -/
theorem Asks.exists_answer {context : Option Context} {calls : List (Instance × Run String)}
    (hAsks : (Router.mk (.builtin client) keywords limit).Asks message t context calls)
    (hText : HasText message)
    (hPrompt : ∀ m, client = some m → ∀ asked query,
      (m.answer asked query).delay.nanoseconds ≤ limit.nanoseconds)
    {c : Instance × Run String} (hMem : c ∈ calls) :
    let told := contextFor message t (context.getD .empty)
    ∃ p, Chats c.1.agent p client ∧ ∃ asked text, c.2 = c.1.agent.chat asked told ∧
      c.2.AnswersWithin limit text ∧
      Says p.fallback (client.map fun m => (m.answer asked (p.query message told)).reply) text := by
  intro told
  obtain ⟨hConsulted, asked, hRun⟩ := hAsks.run_eq hMem
  obtain ⟨p, hChats⟩ := exists_chats_of_mem_route (mem_consulted_iff.mp hConsulted).1
  obtain ⟨text, hAnswers, hSays⟩ := hChats.answers hText hPrompt t (context.getD .empty) asked
  rw [← hRun] at hAnswers
  exact ⟨p, hChats, asked, text, hRun, hAnswers, hSays⟩

/--
**The built-in agents always answer.** Whatever the keywords and the context are,
a message that has text is routed to some of the built-in agents, and all of these
answer; there is nothing to complain of. The answer has one section for each agent
that was asked. Its text is not blank: it is the text that the language model
replied to that agent's query, if there is a language model and its reply was
successful and not blank, and else the fixed text of the agent of that name.
-/
theorem builtin_always_answers (keywords : KeywordTable) (hText : HasText message)
    (hPrompt : ∀ m, client = some m → ∀ asked query,
      (m.answer asked query).delay.nanoseconds ≤ limit.nanoseconds)
    (t : ChatType) (context : Option Context) :
    let r : Router := ⟨.builtin client, keywords, limit⟩
    let told := contextFor message t (context.getD .empty)
    (∀ session, ∃ answer calls, (r.chat session message t context).2 = .ok answer ∧
      r.Asks message t context calls ∧
      ∀ endings, (spawn calls).Completes .ticks limit endings → gather calls endings = answer) ∧
    ∀ calls endings, r.Asks message t context calls → (spawn calls).Completes .ticks limit endings →
      let answer := gather calls endings
      answer.success = true ∧ answer.errors = [] ∧ answer.agentsUsed ≠ [] ∧
      answer.agentsUsed = (r.route message t).map Instance.name ∧
      ∃ sections, answer.response = "\n\n".intercalate sections ∧
        List.Forall₂ (fun c s => ∃ p, Roster.find? Profile.name c.1.name profiles = some p ∧
            ∃ asked text, c.2 = c.1.agent.chat asked told ∧
            Says p.fallback (client.map fun m => (m.answer asked (p.query message told)).reply)
              text ∧
            HasText (Text.trim text) ∧ s = "## " ++ c.1.name ++ "\n" ++ Text.trim text)
          calls sections := by
  intro r told
  constructor
  · intro session
    -- the message is routed, since every category has a first agent
    obtain ⟨calls, hAsks, hAnswered⟩ :=
      exists_asks_of_routed (r := r) hText route_builtin_ne_nil session context
    refine ⟨merge (turns limit calls), calls, by rw [hAnswered], hAsks, fun endings hDone => ?_⟩
    exact gather_eq hDone
  · intro calls endings hAsks hDone answer
    have hDescribes : answer.Describes limit calls := gather_describes hDone
    have hAnswers := fun c hc => hAsks.exists_answer hText hPrompt (c := c) hc
    have hNames : answer.agentsUsed = (r.route message t).map Instance.name := by
      rw [hDescribes.agents, ← consulted_eq_route, ← hAsks.agents, List.map_map]
      rfl
    have hUsed : answer.agentsUsed ≠ [] := by
      rw [hNames, Ne, List.map_eq_nil_iff]
      exact route_builtin_ne_nil
    refine ⟨?_, ?_, hUsed, hNames, _, hDescribes.response, ?_⟩
    · -- somebody was asked, and whoever is asked answers
      have hSome : calls ≠ [] := by
        rintro rfl
        exact hUsed hDescribes.agents
      obtain ⟨c, hc⟩ := List.exists_mem_of_ne_nil calls hSome
      obtain ⟨p, -, asked, text, -, hInTime, -⟩ := hAnswers c hc
      exact hDescribes.success.mpr ⟨c, hc, text, hInTime⟩
    · rw [hDescribes.errors, List.filterMap_eq_nil_iff]
      intro c hc
      obtain ⟨p, -, asked, text, -, hInTime, -⟩ := hAnswers c hc
      exact hInTime.complaint?_eq
    · -- each call has its section, in the order of the calls
      apply forall₂_filterMap
      intro c hc
      obtain ⟨p, hChats, asked, text, hRun, hInTime, hSays⟩ := hAnswers c hc
      have hSaid : HasText text := hSays.hasText (hasText_fallback hChats.profile)
      exact ⟨_, hInTime.section?_eq, p, hChats.find?_eq, asked, text, hRun, hSays, hSaid.trim, rfl⟩

/-- Three agents are asked, and answer, although the model fails the second and has
nothing to say to the third, and the context has a blank message of its own. -/
theorem builtin_always_answers_unhelped :
    let client : Llm.Client := .ofReplies [.ok "Use a key.", .failed "down", .ok " "]
    let r : Router := ⟨.builtin (some client), .empty, .ofSeconds 30⟩
    HasText "Any advice?" ∧
      (∀ asked query, (client.answer asked query).delay.nanoseconds ≤
        (Duration.ofSeconds 30).nanoseconds) ∧
      ∃ calls endings, r.Asks "Any advice?" .analysis (some (Context.empty.withMessage " ")) calls ∧
        (spawn calls).Completes .ticks (.ofSeconds 30) endings ∧
        (gather calls endings).success = true ∧ (gather calls endings).errors = [] ∧
        (gather calls endings).agentsUsed =
          ["javascript_react_code", "javascript_react_test", "security_scanner"] := by
  intro client r
  have hText : HasText "Any advice?" := hasText_ofList rfl
  have hDelay : ∀ asked query, (client.answer asked query).delay.nanoseconds ≤
      (Duration.ofSeconds 30).nanoseconds := fun _ _ => Nat.zero_le _
  have hPrompt : ∀ m, some client = some m → ∀ asked query,
      (m.answer asked query).delay.nanoseconds ≤ (Duration.ofSeconds 30).nanoseconds := by
    rintro _ ⟨⟩
    exact hDelay
  obtain ⟨hAnswered, hAll⟩ := builtin_always_answers .empty hText hPrompt .analysis
    (some (Context.empty.withMessage " "))
  obtain ⟨answer, calls, -, hAsks, -⟩ := hAnswered .empty
  -- some interleaving completes, and the answer is that of any
  obtain ⟨endings, hDone⟩ := Schedule.exists_completes (s := spawn calls) (.refl)
  obtain ⟨hSuccess, hErrors, -, hNames, -⟩ := hAll calls endings hAsks hDone
  exact ⟨hText, hDelay, calls, endings, hAsks, hDone, hSuccess, hErrors, hNames⟩

end Router

end ReviewPanel
