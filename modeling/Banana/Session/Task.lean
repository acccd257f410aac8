/-
This file holds calls that run against answers which arrive in batches. The answers that have
arrived for a call and are not yet taken wait in a queue for each endpoint; a call that is polled
takes them, one trip after the other, until every trip has ended or finds its queue empty.
-/

import Banana.Session.Trip

namespace Banana.Session

open Backend

/-- The answers that wait to be taken, by endpoint. -/
def Replies : Type := (endpoint : Endpoint) → List (Except Failure endpoint.Answer)

namespace Replies

/-- No answers. -/
def none : Replies := fun _ => []

/-- How many answers wait. -/
def size (replies : Replies) : Nat :=
  (replies .catalog).length + (replies .types).length + (replies .check).length +
    (replies .submission).length

/-- The answers of two batches, those of the first batch before those of the second. -/
def append (first second : Replies) : Replies := fun endpoint =>
  first endpoint ++ second endpoint

/-- The answers without the first one from an endpoint. -/
def drop (replies : Replies) (taken : Endpoint) : Replies := fun endpoint =>
  if endpoint = taken then (replies endpoint).drop 1 else replies endpoint

end Replies

/-- A request to the type checker as it is listed for a reader: the endpoint and the source. -/
abbrev Listed := Endpoint × Option String

/-- A session, the answers that wait, and the requests made so far. -/
structure Poll where
  session : Session
  replies : Replies
  requests : List Listed

/-- Lists a request for a trip. -/
def Poll.ask (poll : Poll) (trip : Trip) : Poll :=
  { poll with requests := poll.requests ++ [(trip.endpoint, trip.content)] }

/-- Lets a trip take waiting answers, at most `room` of them. A new attempt is a new request. -/
def Poll.advance : Nat → Poll → Trip → Poll × Progress
  | 0, poll, trip => (poll, .waiting trip)
  | room + 1, poll, trip =>
    match poll.replies trip.endpoint with
    | [] => (poll, .waiting trip)
    | answer :: _ =>
      let (session, progress) := poll.session.receive trip answer
      let next := { poll with session := session, replies := poll.replies.drop trip.endpoint }
      match progress with
      | .finished outcome => (next, .finished outcome)
      | .waiting again => advance room (next.ask again) again

/-- Lets a trip take as many waiting answers as it can. -/
def Poll.run (poll : Poll) : Progress → Poll × Progress
  | .waiting trip => poll.advance poll.replies.size trip
  | .finished outcome => (poll, .finished outcome)

/-- Lets trips take answers, one trip after the other. -/
def Poll.runAll : Poll → List Progress → Poll × List Progress
  | poll, [] => (poll, [])
  | poll, progress :: rest =>
    let (poll, first) := poll.run progress
    let (poll, others) := poll.runAll rest
    (poll, first :: others)

/-- Starts trips and lets them take answers, one trip after the other. -/
def Poll.startAll : Poll → List Trip → Poll × List Progress
  | poll, [] => (poll, [])
  | poll, trip :: rest =>
    let (poll, first) := (poll.ask trip).run (.waiting trip)
    let (poll, others) := poll.startAll rest
    (poll, first :: others)

/-- A call that has been started: how far its trips have come, and the answers that wait. -/
structure Task where
  call : Call
  trips : List Progress
  replies : Replies

/-- Starts a call for which some answers wait already. -/
def Task.start (session : Session) (call : Call) (replies : Replies) :
    Session × Task × List Listed :=
  let (session, trips) := session.start call
  let (poll, progress) := Poll.startAll ⟨session, replies, []⟩ trips
  (poll.session, ⟨call, progress, poll.replies⟩, poll.requests)

/-- Lets a call go on with more answers. -/
def Task.resume (session : Session) (task : Task) (replies : Replies) :
    Session × Task × List Listed :=
  let (poll, progress) := Poll.runAll ⟨session, task.replies.append replies, []⟩ task.trips
  (poll.session, { task with trips := progress, replies := poll.replies }, poll.requests)

/-! ### Results -/

/-- What a call gives back. -/
inductive Result where
  | single (outcome : Outcome)
  /-- What an edit did: nothing stands for a refresh or a check that failed. -/
  | changed (refresh : Option RefreshOutcome) (report : Option Report)

/-- What a refresh did, unless it failed. -/
def Outcome.refreshed? : Outcome → Option RefreshOutcome
  | refreshed outcome => some outcome
  | _ => none

/-- The report of a check, unless it failed. -/
def Outcome.report? : Outcome → Option Report
  | checked report => report
  | _ => none

/-- What a call gives back when its trips have ended. -/
def Result.ofOutcomes? : Call → List Outcome → Option Result
  | .change _, [refresh, check] => some (.changed refresh.refreshed? check.report?)
  | .change _, _ => none
  | _, [outcome] => some (.single outcome)
  | _, _ => none

/-- What a call gives back, when all its trips have ended. -/
def Task.result? (task : Task) : Option Result :=
  (task.trips.mapM Progress.outcome?).bind (Result.ofOutcomes? task.call)

end Banana.Session
