import ReviewPanel.Proofs.Completions
import ReviewPanel.Proofs.Table
import ReviewPanel.Proofs.WrittenValues

/-!
# Attempts — how a query to a model ends

A query is sent as a request, and sent again while a server cannot be reached, is at fault or is
busy, three times in all. The first answer of another kind settles the query. So what becomes of
a query hangs on the first three things that the server does, and on nothing behind the one that
settles it.

The invariant of the loop (`UnderWay`) is that no behaviour so far has settled the query, each
was met with one request, and the error that is kept describes the last of them. An attempt
keeps it or settles the query (`UnderWay.next`, `exists_settled`), and three attempts
end in one of two ways (`ends_generate`).

* `Message.readsBack`      — messages are read back.
* `messages?_requestFor`   — a request carries the history and then the prompt.
* `ends_generate`          — how a query ends.
* `queries_end_within_three` — the number of requests, what they carry and the reply.
-/

namespace ReviewPanel.Llm

/-! ## Messages of a request -/

namespace Message

variable {g : Number → Number}

/-- A role is written as its label. -/
theorem role_readsBack (role : Role) :
    ReadsBack g (Datum.asVariant .json Role.ofLabel?) (fun role => .text role.label) role := by
  show (Datum.text role.label).asVariant .json Role.ofLabel? = .ok role
  cases role <;> rfl

/-- A message is read back. -/
theorem readsBack (m : Message) : ReadsBack g ofDatum toJson m := by
  apply readsBack_object fun m : Message =>
    [("role", .text m.role.label), ("content", .text m.content)]
  · show ["role", "content"].Nodup
    decide
  intro fs hFields
  have hRole : fs.required 0 (Datum.asVariant .json Role.ofLabel?) = Except.ok m.role :=
    hFields.readsBack "role" rfl (by simp) (role_readsBack _)
  have hContent : fs.required 1 Datum.asText = Except.ok m.content :=
    hFields.readsBack "content" rfl (by simp) (readsBack_text _)
  rw [hRole, hContent]
  rfl

end Message

namespace Http

/-- The messages that are read from a request. -/
def Request.messages? (r : Request) : Option (List Message) :=
  (r.body.member? "messages").bind fun m => (Datum.asList Message.ofDatum (.ofJson m)).toOption

/-- A request carries the history and then the prompt. -/
theorem messages?_requestFor (s : Settings) (q : Query) :
    (requestFor s q).messages? = some (q.history ++ [⟨.user, q.prompt⟩]) := by
  have hNames : ["model", "messages", "max_tokens"].Nodup := by decide
  have hMember : (requestFor s q).body.member? "messages" =
      some (.list ((messages q).map Message.toJson)) :=
    (Table.get?_ofList_iff (by exact hNames)).mpr (by simp)
  have hRead : ReadsBack id (Datum.asList Message.ofDatum)
      (fun ms => .list (ms.map Message.toJson)) (messages q) :=
    readsBack_list fun m _ => m.readsBack
  rw [ReadsBack, Json.respell_id] at hRead
  rw [Request.messages?, hMember, Option.bind_some, hRead]
  rfl

/-! ## What a server does -/

/-- A behaviour that settles a query: an answer that does not say that the server is at fault or
busy. -/
def Behaviour.Settles : Behaviour → Prop
  | .unreachable _ => False
  | .answers status _ => ¬ (500 ≤ status ∧ status ≤ 599) ∧ status ≠ 429

/-- The behaviour with this number, counted from zero, is the first that settles a query. -/
def SettlesAt (server : Nat → Behaviour) (k : Nat) : Prop :=
  (server k).Settles ∧ ∀ i < k, ¬ (server i).Settles

/-- A successful answer with a body in which a content is that of the first choice. -/
def Answers (b : Behaviour) (content : String) : Prop :=
  ∃ status body more, b = .answers status body ∧ 200 ≤ status ∧ status ≤ 299 ∧
    HasChoices body (content :: more)

/-- What is reported of a behaviour with this number, counted from one, that is no such answer. -/
inductive Describes (faultOf : String → String) (number : Nat) : Behaviour → String → Prop
  | unreachable (error : String) :
      Describes faultOf number (.unreachable error) s!"Network error: {error}"
  | retried {status : Nat} {body : String} (hAgain : ¬ (Behaviour.answers status body).Settles) :
      Describes faultOf number (.answers status body)
        s!"LLM API error {statusText status} (attempt {number}/{maxAttempts}): {body}"
  | refused {status : Nat} {body : String} (hSettles : (Behaviour.answers status body).Settles)
      (hStatus : ¬ (200 ≤ status ∧ status ≤ 299)) :
      Describes faultOf number (.answers status body) s!"LLM API error {statusText status}: {body}"
  | unread {status : Nat} {body : String} (hStatus : 200 ≤ status ∧ status ≤ 299)
      (hBody : ∀ contents, ¬ HasChoices body contents) :
      Describes faultOf number (.answers status body)
        s!"Failed to parse response: {faultOf body}"
  | empty {status : Nat} {body : String} (hStatus : 200 ≤ status ∧ status ≤ 299)
      (hBody : HasChoices body []) :
      Describes faultOf number (.answers status body) "No choices in LLM response"

/-- An answer settles a query iff its status is not one to try again after. -/
theorem isRetried_eq_false_iff {status : Nat} (body : String) :
    isRetried status = false ↔ (Behaviour.answers status body).Settles := by
  simp only [isRetried, Behaviour.Settles, Bool.or_eq_false_iff, Bool.and_eq_false_iff,
    decide_eq_false_iff_not, beq_eq_false_iff_ne]
  omega

theorem isSuccess_iff {status : Nat} : isSuccess status = true ↔ 200 ≤ status ∧ status ≤ 299 := by
  simp only [isSuccess, Bool.and_eq_true, decide_eq_true_eq]
  omega

/-! ## Single attempts -/

variable {faultOf : String → String} {server : Nat → Behaviour} {request : Request}
  {lastError : String}
  {requests : List Request}

/-- A behaviour that does not settle the query is described by the error that is kept. -/
theorem exists_retry {b : Behaviour} (hAgain : ¬ b.Settles) (attempt : Nat) :
    ∃ error, attemptResult faultOf attempt b = .retry error ∧
      Describes faultOf (attempt + 1) b error := by
  cases b with
  | unreachable error => exact ⟨_, rfl, .unreachable error⟩
  | answers status body =>
    have hRetried : isRetried status = true := by
      rw [← Bool.not_eq_false, isRetried_eq_false_iff body]
      exact hAgain
    refine ⟨_, ?_, .retried hAgain⟩
    rw [attemptResult, if_pos hRetried]

/-- The reply that a behaviour leads to. -/
def Concludes (faultOf : String → String) (number : Nat) (b : Behaviour) (reply : Reply) : Prop :=
  (∃ content, Answers b content ∧ reply = .ok content) ∨
    ∃ error, Describes faultOf number b error ∧ reply = .failed error

/-- The reply of a successful answer hangs on the choices of its body. -/
theorem concludes_replyOfBody {number status : Nat} {body : String}
    (hStatus : 200 ≤ status ∧ status ≤ 299) :
    Concludes faultOf number (.answers status body) (replyOfBody faultOf body) := by
  unfold replyOfBody
  cases hFound : choices? body with
  | none =>
    refine Or.inr ⟨_, .unread hStatus fun contents hHas => ?_, rfl⟩
    rw [← choices?_eq_some_iff, hFound] at hHas
    cases hHas
  | some contents =>
    have hHas := choices?_eq_some_iff.mp hFound
    cases contents with
    | nil => exact Or.inr ⟨_, .empty hStatus hHas, rfl⟩
    | cons content more =>
      exact Or.inl ⟨content, ⟨status, body, more, rfl, hStatus.1, hStatus.2, hHas⟩, rfl⟩

/-- A behaviour that settles the query leads to a reply. -/
theorem exists_settled {b : Behaviour} (hSettles : b.Settles) (attempt : Nat) :
    ∃ reply, attemptResult faultOf attempt b = .settled reply ∧
      Concludes faultOf (attempt + 1) b reply := by
  cases b with
  | unreachable error => exact hSettles.elim
  | answers status body =>
    have hNotRetried : ¬ isRetried status = true := by
      rw [Bool.not_eq_true]
      exact (isRetried_eq_false_iff body).mpr hSettles
    rw [attemptResult, if_neg hNotRetried]
    by_cases hSuccess : isSuccess status = true
    · rw [if_pos hSuccess]
      exact ⟨_, rfl, concludes_replyOfBody (isSuccess_iff.mp hSuccess)⟩
    · rw [if_neg hSuccess]
      exact ⟨_, rfl, Or.inr ⟨_, .refused hSettles (mt isSuccess_iff.mpr hSuccess), rfl⟩⟩

/-! ## Attempts in a row -/

/-- After some attempts the query is under way if no behaviour has settled it. -/
structure UnderWay (faultOf : String → String) (server : Nat → Behaviour) (request : Request)
    (attempts : Nat) (lastError : String) (requests : List Request) : Prop where
  again     : ∀ i < attempts, ¬ (server i).Settles
  requests  : requests = List.replicate attempts request
  described : ∀ last, attempts = last + 1 →
                Describes faultOf attempts (server last) lastError

/-- One more attempt that does not settle the query keeps it under way. -/
theorem UnderWay.next {attempts : Nat} {error : String}
    (hUnderWay : UnderWay faultOf server request attempts lastError requests)
    (hAgain : ¬ (server attempts).Settles)
    (hError : Describes faultOf (attempts + 1) (server attempts) error) :
    UnderWay faultOf server request (attempts + 1) error (requests ++ [request]) := by
  refine ⟨fun i hi => ?_, ?_, ?_⟩
  · rcases Nat.lt_succ_iff_lt_or_eq.mp hi with hBefore | rfl
    · exact hUnderWay.again i hBefore
    · exact hAgain
  · rw [hUnderWay.requests, List.replicate_succ']
  · intro last hLast
    obtain rfl := Nat.succ.inj hLast
    exact hError

/-- How a query ends for which so many attempts are made: with the behaviour that settles it,
or with the last one. -/
def Ends (faultOf : String → String) (server : Nat → Behaviour) (request : Request)
    (attempts : Nat) (x : Exchange) : Prop :=
  (∃ k < attempts, SettlesAt server k ∧ x.requests = List.replicate (k + 1) request ∧
      Concludes faultOf (k + 1) (server k) x.reply) ∨
    (∀ i < attempts, ¬ (server i).Settles) ∧ x.requests = List.replicate attempts request ∧
      ∀ last, attempts = last + 1 →
        ∃ error, Describes faultOf attempts (server last) error ∧ x.reply = .failed error

/-- Attempts in a row end a query: one of them settles it, or all are made. -/
theorem ends_attemptsFrom (left : Nat) :
    ∀ {attempts : Nat} {lastError : String} {requests : List Request} (waited : Nat),
      UnderWay faultOf server request attempts lastError requests →
        Ends faultOf server request (attempts + left)
          (attemptsFrom faultOf request server lastError requests waited attempts left) := by
  -- on the attempts that are left; the invariant is about those that were made
  induction left with
  | zero =>
    intro attempts lastError requests waited hUnderWay
    exact Or.inr ⟨hUnderWay.again, hUnderWay.requests,
      fun last hLast => ⟨lastError, hUnderWay.described last hLast, rfl⟩⟩
  | succ left ih =>
    intro attempts lastError requests waited hUnderWay
    rw [attemptsFrom]
    by_cases hSettles : (server attempts).Settles
    · obtain ⟨reply, hReply, hConcludes⟩ := exists_settled hSettles attempts
      rw [hReply]
      refine Or.inl ⟨attempts, by omega, ⟨hSettles, hUnderWay.again⟩, ?_, hConcludes⟩
      show requests ++ [request] = _
      rw [hUnderWay.requests, List.replicate_succ']
    · obtain ⟨error, hRetry, hError⟩ := exists_retry hSettles attempts
      rw [hRetry]
      have hRest := ih (waited + pauseSeconds attempts) (hUnderWay.next hSettles hError)
      rwa [Nat.add_right_comm] at hRest

/-- A query starts with three attempts left and none made. -/
theorem ends_generate (faultOf : String → String) (s : Settings) (q : Query)
    (server : Nat → Behaviour) :
    Ends faultOf server (requestFor s q) 3 (generate faultOf s q server) := by
  have hStart : UnderWay faultOf server (requestFor s q) 0 "Max retries exceeded" [] :=
    ⟨fun i hi => absurd hi (Nat.not_lt_zero i), rfl, fun last hLast => absurd hLast (by omega)⟩
  exact ends_attemptsFrom 3 0 hStart

/-! ## Queries -/

/-- There is one attempt that settles a query at most, the first one that can. -/
theorem SettlesAt.unique {k k' : Nat} (hk : SettlesAt server k) (hk' : SettlesAt server k') :
    k = k' := by
  rcases Nat.lt_trichotomy k k' with hLt | hEq | hGt
  · exact absurd hk.1 (hk'.2 k hLt)
  · exact hEq
  · exact absurd hk'.1 (hk.2 k' hGt)

/-- A behaviour answers with one text at most. -/
theorem Answers.content_eq {b : Behaviour} {content content' : String}
    (hAnswers : Answers b content) (hAnswers' : Answers b content') : content = content' := by
  obtain ⟨status, body, more, rfl, -, -, hBody⟩ := hAnswers
  obtain ⟨_, _, more', hSame, -, -, hBody'⟩ := hAnswers'
  obtain ⟨-, rfl⟩ := Behaviour.answers.inj hSame
  exact (List.cons.inj (hBody.contents_eq hBody')).1

/-- There is nothing to report of a successful answer with a choice. -/
theorem Describes.not_answers {b : Behaviour} {number : Nat} {error content : String}
    (hError : Describes faultOf number b error) : ¬ Answers b content := by
  rintro ⟨status, body, more, rfl, hLow, hHigh, hBody⟩
  cases hError with
  | retried hAgain => exact hAgain ⟨by omega, by omega⟩
  | refused _ hStatus => exact hStatus ⟨hLow, hHigh⟩
  | unread _ hNone => exact hNone _ hBody
  | empty _ hNone => exact absurd (hBody.contents_eq hNone) (List.cons_ne_nil _ _)

theorem ok_ne_failed (content error : String) : Reply.ok content ≠ Reply.failed error := by
  intro hEq
  have hSuccess : true = false := congrArg Reply.success hEq
  cases hSuccess

/-- A reply with a text is one that succeeds with it, and has no error. -/
theorem eq_ok_iff {reply : Reply} {content : String} :
    reply = .ok content ↔
      reply.success = true ∧ reply.text = content ∧ reply.error = none := by
  obtain ⟨success, text, error⟩ := reply
  simp [Reply.ok]

theorem ok_injective : Function.Injective Reply.ok := fun _ _ hEq => congrArg Reply.text hEq

namespace Ends

variable {attempts last k : Nat} {x : Exchange}

/-- Every request is the same. -/
theorem eq_request (hEnds : Ends faultOf server request attempts x) {r : Request}
    (hr : r ∈ x.requests) :
    r = request := by
  rcases hEnds with ⟨k, -, -, hRequests, -⟩ | ⟨-, hRequests, -⟩
  · rw [hRequests] at hr
    exact List.eq_of_mem_replicate hr
  · rw [hRequests] at hr
    exact List.eq_of_mem_replicate hr

/-- The settling attempt is the last one, if there are attempts enough to reach it. -/
theorem length_requests (hEnds : Ends faultOf server request attempts x)
    (hSettles : SettlesAt server k) :
    x.requests.length = min attempts (k + 1) := by
  rcases hEnds with ⟨k', hk', hSettles', hRequests, -⟩ | ⟨hAgain, hRequests, -⟩
  · obtain rfl := hSettles.unique hSettles'
    rw [hRequests, List.length_replicate]
    omega
  · -- the attempts are over before the query is settled
    have hLate : attempts ≤ k := by
      by_contra hNot
      exact hAgain k (by omega) hSettles.1
    rw [hRequests, List.length_replicate]
    omega

/-- If none settles, all attempts are made. -/
theorem length_requests_of_forall (hEnds : Ends faultOf server request attempts x)
    (hNone : ∀ k, ¬ (server k).Settles) : x.requests.length = attempts := by
  rcases hEnds with ⟨k, -, hSettles, -, -⟩ | ⟨-, hRequests, -⟩
  · exact absurd hSettles.1 (hNone k)
  · rw [hRequests, List.length_replicate]

/-- A query succeeds iff one of its attempts settles it with a text. -/
theorem reply_eq_ok_iff (hEnds : Ends faultOf server request (last + 1) x) (content : String) :
    x.reply = .ok content ↔ ∃ k < last + 1, SettlesAt server k ∧ Answers (server k) content := by
  rcases hEnds with ⟨k, hk, hSettles, -, hReply⟩ | ⟨hAgain, -, hLast⟩
  · constructor
    · intro hOk
      rcases hReply with ⟨told, hAnswers, hTold⟩ | ⟨error, -, hFailed⟩
      · rw [ok_injective (hOk.symm.trans hTold)]
        exact ⟨k, hk, hSettles, hAnswers⟩
      · exact absurd (hOk.symm.trans hFailed) (ok_ne_failed _ _)
    · rintro ⟨k', -, hSettles', hAnswers'⟩
      obtain rfl := hSettles.unique hSettles'
      rcases hReply with ⟨told, hAnswers, hTold⟩ | ⟨error, hError, -⟩
      · rw [hTold, hAnswers.content_eq hAnswers']
      · exact absurd hAnswers' hError.not_answers
  · obtain ⟨error, -, hFailed⟩ := hLast last rfl
    rw [hFailed]
    refine iff_of_false (ok_ne_failed _ _).symm ?_
    rintro ⟨k, hk, hSettles, -⟩
    exact hAgain k hk hSettles.1

/-- A query that no successful answer settles in time has a failure for its reply, with the
error of the behaviour that counts. -/
theorem reply_eq_failed (hEnds : Ends faultOf server request (last + 1) x)
    (hNone : ¬ ∃ k < last + 1, SettlesAt server k ∧ ∃ content, Answers (server k) content) :
    ∃ error, x.reply = .failed error ∧
      ((∃ k < last + 1, SettlesAt server k ∧ Describes faultOf (k + 1) (server k) error) ∨
        (∀ k < last + 1, ¬ (server k).Settles) ∧
          Describes faultOf (last + 1) (server last) error) := by
  rcases hEnds with ⟨k, hk, hSettles, -, ⟨content, hAnswers, -⟩ | ⟨error, hError, hFailed⟩⟩ |
    ⟨hAgain, -, hLast⟩
  · exact absurd ⟨k, hk, hSettles, content, hAnswers⟩ hNone
  · exact ⟨error, hFailed, Or.inl ⟨k, hk, hSettles, hError⟩⟩
  · obtain ⟨error, hError, hFailed⟩ := hLast last rfl
    exact ⟨error, hFailed, Or.inr ⟨hAgain, hError⟩⟩

end Ends

/--
**Queries end within three requests.** Take any settings, any query and anything that a server may
do with one request after the other. If the first behaviour that settles the query is the one after
`k` others, then `k + 1` requests are sent, but three at most; and three if there is none. Each of
them carries the history and then the prompt as a message of the user. The reply is a success, with
a content as its text and no error, iff the behaviour that settles the query is one of the first
three, a successful answer with this content in its first choice. In every other case the reply is
no success, its text is empty, and its error describes the behaviour that settles the query if it
is among the first three, and the third one otherwise. What choices a body has is said of its
document (`HasChoices`), and a completion that was written has those it was written with.
-/
theorem queries_end_within_three (faultOf : String → String) (s : Settings) (q : Query)
    (server : Nat → Behaviour) :
    let x := generate faultOf s q server
    (∀ k, SettlesAt server k → x.requests.length = min 3 (k + 1)) ∧
    ((∀ k, ¬ (server k).Settles) → x.requests.length = 3) ∧
    (∀ r ∈ x.requests, r.messages? = some (q.history ++ [⟨.user, q.prompt⟩])) ∧
    (∀ content, x.reply.success = true ∧ x.reply.text = content ∧ x.reply.error = none ↔
      ∃ k < 3, SettlesAt server k ∧ Answers (server k) content) ∧
    ((¬ ∃ k < 3, SettlesAt server k ∧ ∃ content, Answers (server k) content) →
      x.reply.success = false ∧ x.reply.text = "" ∧ ∃ error, x.reply.error = some error ∧
        ((∃ k < 3, SettlesAt server k ∧ Describes faultOf (k + 1) (server k) error) ∨
          (∀ k < 3, ¬ (server k).Settles) ∧ Describes faultOf 3 (server 2) error)) ∧
    ∀ contents, HasChoices (completion contents).write contents := by
  intro x
  -- one lemma about how the attempts end, and one for each thing said of the reply
  have hEnds := ends_generate faultOf s q server
  refine ⟨fun k hSettles => hEnds.length_requests hSettles, hEnds.length_requests_of_forall,
    fun r hr => ?_, fun content => ?_, fun hNone => ?_, hasChoices_write⟩
  · rw [hEnds.eq_request hr, messages?_requestFor]
  · rw [← eq_ok_iff]
    exact hEnds.reply_eq_ok_iff content
  · obtain ⟨error, hFailed, hError⟩ := hEnds.reply_eq_failed hNone
    exact ⟨congrArg Reply.success hFailed, congrArg Reply.text hFailed, error,
      congrArg Reply.error hFailed, hError⟩

/-- A server that is first out of reach, then busy, and answers the third request. -/
def recovers : Nat → Behaviour
  | 0 => .unreachable "connection refused"
  | 1 => .answers 429 "later"
  | _ => .answers 200 (completion ["yes"]).write

theorem queries_end_within_three_recovers :
    SettlesAt recovers 2 ∧ Answers (recovers 2) "yes" ∧
      (generate id (.ofKey "key") ⟨"hi", []⟩ recovers).requests.length = 3 ∧
      (generate id (.ofKey "key") ⟨"hi", []⟩ recovers).reply.success = true ∧
      (generate id (.ofKey "key") ⟨"hi", []⟩ recovers).reply.text = "yes" := by
  have hSettles : SettlesAt recovers 2 := by
    refine ⟨⟨by decide, by decide⟩, fun i hi => ?_⟩
    match i, hi with
    | 0, _ => exact id
    | 1, _ => exact fun hBusy => hBusy.2 rfl
  obtain ⟨hCount, -, -, hReply, -, hWritten⟩ :=
    queries_end_within_three id (.ofKey "key") ⟨"hi", []⟩ recovers
  have hAnswers : Answers (recovers 2) "yes" :=
    ⟨200, _, [], rfl, by decide, by decide, hWritten ["yes"]⟩
  obtain ⟨hSuccess, hText, -⟩ := (hReply "yes").mpr ⟨2, by decide, hSettles, hAnswers⟩
  exact ⟨hSettles, hAnswers, hCount 2 hSettles, hSuccess, hText⟩

end Http

end ReviewPanel.Llm
