/-
This file runs the calls of a session over a network. The trips of calls that are made together are
all under way at once: each sends its request when it starts, and the answers are taken in the
order in which they arrive, those that arrive together in the order of their requests.
-/

import Banana.Http.Client
import Banana.Session.Task

namespace Banana.Session

open Backend Http

variable {m : Type → Type} [Monad m]

/-- The session with the settings of a configuration. -/
def ofConfig (config : Config) : Session :=
  { retries := config.retries }

/-- A trip whose answer is on its way: when it is due, and which of the trips made together it
is. -/
structure Flight where
  due : Nat
  index : Nat
  trip : Trip
  answer : Except Failure trip.endpoint.Answer

/-- Sends the request of a trip at a time. -/
def launch (network : Network m) (config : Config) (now index : Nat) (trip : Trip) : m Flight := do
  let arrival ← ask network config trip.endpoint (trip.content.getD "")
  pure ⟨now + arrival.delay, index, trip, arrival.answer⟩

/-- The flight that is due first, of several the one in front, and the others. -/
def earliest? : List Flight → Option (Flight × List Flight)
  | [] => none
  | flight :: rest =>
    match earliest? rest with
    | some (other, others) =>
      if other.due < flight.due then some (other, flight :: others) else some (flight, rest)
    | none => some (flight, [])

/-- Takes answers, at most `room` of them, until no flight is left. Each trip that has ended is
listed with its place among the trips made together. -/
def land (network : Network m) (config : Config) : Nat → Session → List Flight →
    List (Nat × Outcome) → m (Session × List (Nat × Outcome))
  | 0, session, _, ended => pure (session, ended)
  | room + 1, session, flights, ended =>
    match earliest? flights with
    | none => pure (session, ended)
    | some (flight, others) =>
      match session.receive flight.trip flight.answer with
      | (session, .finished outcome) =>
        land network config room session others ((flight.index, outcome) :: ended)
      | (session, .waiting trip) => do
        let again ← launch network config flight.due flight.index trip
        land network config room session (others ++ [again]) ended

/-- Sends the requests of trips, the first of which has a place among the trips made together. -/
def launchAll (network : Network m) (config : Config) : Nat → List Trip → m (List Flight)
  | _, [] => pure []
  | index, trip :: rest => do
    let flight ← launch network config 0 index trip
    let others ← launchAll network config (index + 1) rest
    pure (flight :: others)

/-- The trips of calls that are made together, and how many each call has. -/
def startTogether (session : Session) : List Call → Session × List Trip × List (Call × Nat)
  | [] => (session, [], [])
  | call :: rest =>
    let (session, trips) := session.start call
    let (session, others, counts) := startTogether session rest
    (session, trips ++ others, (call, trips.length) :: counts)

/-- What calls give back, the first of which has its first trip at a place. -/
def resultsFrom (ended : List (Nat × Outcome)) : Nat → List (Call × Nat) → List (Option Result)
  | _, [] => []
  | first, (call, count) :: rest =>
    let outcomes := (List.range' first count).mapM fun index => ended.lookup index
    outcomes.bind (Result.ofOutcomes? call) :: resultsFrom ended (first + count) rest

/-- Makes calls together. Each trip is given as many attempts as its session allows. -/
def performAll (network : Network m) (config : Config) (session : Session) (calls : List Call) :
    m (Session × List (Option Result)) := do
  let (session, trips, counts) := session.startTogether calls
  let flights ← launchAll network config 0 trips
  let room := trips.length * (session.retries.toNat + 1)
  let (session, ended) ← land network config room session flights []
  pure (session, resultsFrom ended 0 counts)

/-- Makes one call. -/
def perform (network : Network m) (config : Config) (session : Session) (call : Call) :
    m (Session × Option Result) := do
  let (session, results) ← performAll network config session [call]
  pure (session, results.head?.join)

end Banana.Session
