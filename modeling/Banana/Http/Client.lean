/-
This file asks the type checker over HTTP. An answer counts when its status is one of success, and
then its body has to decode; any other status is a failure that keeps the body as text. A URL that
names no host, or another scheme than HTTP, is never requested.
-/

import Banana.Backend.Config
import Banana.Http.Exchange

namespace Banana.Http

open Backend

/-- The method that an endpoint is asked with. -/
def Method.ofEndpoint : Endpoint → Method
  | .catalog => .get
  | _ => .post

/-- What is wrong with text in the place of a host: it ends too early, or has too many colons, or
there is no scheme before it. -/
def hostFault (text : List Char) : String :=
  let host := text.takeWhile fun c => c != '/' && c != '?' && c != '#'
  if host.length < text.length then "invalid format"
  else if 1 < ((host.reverse.takeWhile (· != '@')).count ':') then "invalid authority"
  else "client error (UserAbsoluteUriRequired)"

/-- Why a URL can not be requested. -/
def requestFault? (url : Url) : Option String :=
  match url.authority with
  | some authority =>
    if authority.host.isEmpty then some "invalid format"
    else if url.scheme = "http".toList then none
    else some cannotConnect
  | none => some (hostFault url.text.toList)

/-- The request for an endpoint at a URL. -/
def requestFor (endpoint : Endpoint) (url : Url) (content : String) : Request where
  method := .ofEndpoint endpoint
  url := url
  body := if endpoint = .catalog then "" else contentBody content

/-- Whether a status is one of success. -/
def isSuccess (status : Nat) : Bool :=
  200 ≤ status && status < 300

/-- The answer of an endpoint in a reply. -/
def readReply (endpoint : Endpoint) (limit : Nat) : Reply → Except Failure endpoint.Answer
  | .broken reason => .error (.transport reason)
  | .late => .error (.timeout limit)
  | .answer status body =>
    if isSuccess status then
      endpoint.decodeBytes body
    else
      .error (.status status (String.ofList (Text.decodeUtf8Leniently body)))

/-- An answer, and how many milliseconds after the request it comes. -/
structure Arrival (endpoint : Endpoint) where
  answer : Except Failure endpoint.Answer
  delay : Nat

/-- Asks an endpoint once. -/
def ask {m : Type → Type} [Monad m] (network : Network m) (config : Config) (endpoint : Endpoint)
    (content : String) : m (Arrival endpoint) :=
  match config.url? endpoint with
  | .error failure => pure ⟨.error failure, 0⟩
  | .ok url =>
    match requestFault? url with
    | some reason => pure ⟨.error (.transport reason), 0⟩
    | none => do
      let exchange ← network.exchange (requestFor endpoint url content) config.timeout
      pure ⟨readReply endpoint (config.timeout.getD 0) exchange.reply, exchange.delay⟩

end Banana.Http
