/-
This file says what a single attempt over HTTP gives back. A request goes out when the configuration
has a URL for the endpoint that can be requested at all, and then everything depends on the reply:
the attempt has an answer exactly when the status is one of success and the body decodes to the kind
of answer that the endpoint gives. How a network comes to its reply, and what else it does, makes no
difference.
-/

import Banana.Http.Client

namespace Banana.Http

open Backend

/-! ### The request -/

/-- The request that an attempt sends, or why it sends none. -/
def request? (config : Config) (endpoint : Endpoint) (content : String) :
    Except Failure Request :=
  match config.url? endpoint with
  | .error failure => .error failure
  | .ok url =>
    match requestFault? url with
    | some reason => .error (.transport reason)
    | none => .ok (requestFor endpoint url content)

theorem ask_of_request {m : Type → Type} [Monad m] {network : Network m} {config : Config}
    {endpoint : Endpoint} {content : String} {request : Request}
    (sends : request? config endpoint content = .ok request) :
    ask network config endpoint content = (do
      let exchange ← network.exchange request config.timeout
      pure ⟨readReply endpoint (config.timeout.getD 0) exchange.reply, exchange.delay⟩) := by
  unfold ask
  cases found : config.url? endpoint with
  | error failure => simp only [request?, found, reduceCtorEq] at sends
  | ok url =>
    cases fault : requestFault? url with
    | some reason => simp only [request?, found, fault, reduceCtorEq] at sends
    | none =>
      simp only [request?, found, fault, Except.ok.injEq] at sends
      simp only [sends, fault]

theorem ask_of_no_request {m : Type → Type} [Monad m] {network : Network m} {config : Config}
    {endpoint : Endpoint} {content : String} {failure : Failure}
    (fails : request? config endpoint content = .error failure) :
    ask network config endpoint content = pure ⟨.error failure, 0⟩ := by
  unfold ask
  cases found : config.url? endpoint with
  | error failure =>
    simp only [request?, found, Except.error.injEq] at fails
    simp only [fails]
  | ok url =>
    cases fault : requestFault? url with
    | some reason =>
      simp only [request?, found, fault, Except.error.injEq] at fails
      simp only [fault, fails]
    | none => simp only [request?, found, fault, reduceCtorEq] at fails

/-! ### The reply -/

/-- The network that has the same reply to everything. -/
def Network.replying (reply : Reply) : Network Id where
  exchange _ _ := ⟨reply, 0⟩

/-- What an attempt makes of a reply. It is never computed: the lemmas below say what it is. -/
@[irreducible]
def answerTo (config : Config) (endpoint : Endpoint) (content : String) (reply : Reply) :
    Except Failure endpoint.Answer :=
  (ask (m := Id) (.replying reply) config endpoint content).answer

/-- Whether an attempt reaches a backend, the reply has a status of success, and its body decodes
to an answer. -/
structure Accepts (config : Config) (endpoint : Endpoint) (content : String) (reply : Reply)
    (answer : endpoint.Answer) : Prop where
  sends : ∃ request, request? config endpoint content = .ok request
  decodes : ∃ status body, reply = .answer status body ∧ 200 ≤ status ∧ status < 300 ∧
    endpoint.decodeBytes body = .ok answer

theorem readReply_eq_ok_iff (endpoint : Endpoint) (limit : Nat) (reply : Reply)
    (answer : endpoint.Answer) :
    readReply endpoint limit reply = .ok answer ↔
      ∃ status body, reply = .answer status body ∧ 200 ≤ status ∧ status < 300 ∧
        endpoint.decodeBytes body = .ok answer := by
  cases reply with
  | broken reason => simp [readReply]
  | late => simp [readReply]
  | answer status body =>
    by_cases success : 200 ≤ status ∧ status < 300
    · have isSuccess : isSuccess status = true := by simp [Http.isSuccess, success]
      simp only [readReply, isSuccess, if_true]
      constructor
      · exact fun decodes => ⟨status, body, rfl, success.1, success.2, decodes⟩
      · rintro ⟨_, _, ⟨⟩, -, -, decodes⟩
        exact decodes
    · have isFailure : isSuccess status = false := by
        simp only [Http.isSuccess, Bool.and_eq_false_iff, decide_eq_false_iff_not]
        omega
      simp only [readReply, isFailure]
      constructor
      · intro isOk
        cases isOk
      · rintro ⟨_, _, ⟨⟩, atLeast, below, -⟩
        exact absurd ⟨atLeast, below⟩ success

/-- When a request goes out, the answer is read from the reply. -/
theorem answerTo_of_request {config : Config} {endpoint : Endpoint} {content : String}
    {request : Request} (sends : request? config endpoint content = .ok request) (reply : Reply) :
    answerTo config endpoint content reply =
      readReply endpoint (config.timeout.getD 0) reply := by
  rw [answerTo, ask_of_request sends]
  rfl

/-- An attempt has an answer exactly when the reply to it is accepted. -/
theorem answerTo_eq_ok_iff (config : Config) (endpoint : Endpoint) (content : String)
    (reply : Reply) (answer : endpoint.Answer) :
    answerTo config endpoint content reply = .ok answer ↔
      Accepts config endpoint content reply answer := by
  cases found : request? config endpoint content with
  | error failure =>
    rw [answerTo, ask_of_no_request found]
    constructor
    · intro isOk
      cases isOk
    · rintro ⟨⟨_, sends⟩, -⟩
      rw [found] at sends
      cases sends
  | ok request =>
    rw [answerTo_of_request found, readReply_eq_ok_iff]
    exact ⟨fun decodes => ⟨⟨request, found⟩, decodes⟩, fun accepts => accepts.decodes⟩

/-- Whatever a network with a state does, an attempt has the answer to some reply. -/
theorem exists_ask_eq_answerTo {σ : Type} (network : Network (StateM σ)) (config : Config)
    (endpoint : Endpoint) (content : String) (state : σ) :
    ∃ reply, (ask network config endpoint content state).1.answer =
      answerTo config endpoint content reply := by
  cases found : request? config endpoint content with
  | error failure =>
    refine ⟨.late, ?_⟩
    rw [answerTo, ask_of_no_request found, ask_of_no_request found]
    rfl
  | ok request =>
    refine ⟨(network.exchange request config.timeout state).1.reply, ?_⟩
    rw [answerTo_of_request found, ask_of_request found]
    rfl

end Banana.Http
