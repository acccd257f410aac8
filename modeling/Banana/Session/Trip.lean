/-
This file holds the exchanges between an editor and the type checker while they are under way. A
trip waits for one answer at a time; what arrives either ends it or sends it on another attempt, and
only the end of a trip changes the session. Any number of trips may be under way at once.
-/

import Banana.Backend.Retry
import Banana.Session.Basic

namespace Banana

open Backend Schema

namespace Session

/-- What an editor asks of a session. -/
inductive Call where
  | loadCatalog
  | refresh (source : String)
  | typecheck (source : String)
  /-- The reaction to an edit: a refresh and a check. -/
  | change (source : String)
  | submit (source : String)
  deriving DecidableEq

/-- An exchange that waits for an answer. A refresh and a check know their number, and what may be
tried again knows which attempt this is. -/
inductive Trip where
  | loadCatalog (attempt : UInt32)
  | refresh (number : Nat) (source : String) (attempt : UInt32)
  | typecheck (number : Nat) (source : String)
  | submit (source : String)
  deriving DecidableEq

/-- Which endpoint a trip waits for. -/
def Trip.endpoint : Trip → Endpoint
  | loadCatalog _ => .catalog
  | refresh _ _ _ => .types
  | typecheck _ _ => .check
  | submit _ => .submission

/-- The source that a trip is about. -/
def Trip.content : Trip → Option String
  | loadCatalog _ => none
  | refresh _ source _ | typecheck _ source | submit source => some source

/-- How a trip ended. A check that fails has no report. -/
inductive Outcome where
  | loaded (grammar : Grammar)
  | refreshed (outcome : RefreshOutcome)
  | checked (report : Option Report)
  | submitted (report : Report)
  | failed (failure : Failure)

/-- How far a trip has come. -/
inductive Progress where
  | waiting (trip : Trip)
  | finished (outcome : Outcome)

/-- The outcome of a trip that has ended. -/
def Progress.outcome? : Progress → Option Outcome
  | waiting _ => none
  | finished outcome => some outcome

/-- The number that the next refresh or check gets, and the session after it is taken. -/
def takeNumber (session : Session) : Session × Nat :=
  ({ session with lastNumber := session.lastNumber + 1 }, session.lastNumber + 1)

/-- The trips of a call, each in its first attempt. -/
def start (session : Session) : Call → Session × List Trip
  | .loadCatalog => (session, [.loadCatalog 1])
  | .refresh source =>
    let (session, number) := session.takeNumber
    (session, [.refresh number source 1])
  | .typecheck source =>
    let (session, number) := session.takeNumber
    (session, [.typecheck number source])
  | .change source =>
    let (session, refreshNumber) := session.takeNumber
    let (session, checkNumber) := session.takeNumber
    (session, [.refresh refreshNumber source 1, .typecheck checkNumber source])
  | .submit source => (session, [.submit source])

/-- The session and a trip after an answer has arrived for it. -/
def receive (session : Session) :
    (trip : Trip) → Except Failure trip.endpoint.Answer → Session × Progress
  | .loadCatalog attempt, answer =>
    match afterAttempt session.retries attempt answer with
    | .again next => (session, .waiting (.loadCatalog next))
    | .over (.ok catalog) =>
      let loaded := session.applyCatalog catalog
      (loaded, .finished (.loaded loaded.grammar))
    | .over (.error failure) => (session, .finished (.failed failure))
  | .refresh number source attempt, answer =>
    match afterAttempt session.retries attempt answer with
    | .again next => (session, .waiting (.refresh number source next))
    | .over (.ok fresh) =>
      let (refreshed, outcome) := session.applyTable number fresh
      (refreshed, .finished (.refreshed outcome))
    | .over (.error failure) => (session, .finished (.failed failure))
  | .typecheck number _, answer =>
    match answer with
    | .ok report => (session.applyReport number report, .finished (.checked (some report)))
    | .error _ => (session, .finished (.checked none))
  | .submit _, answer =>
    match answer with
    | .ok report => (session, .finished (.submitted report))
    | .error failure => (session, .finished (.failed failure))

end Session

end Banana
