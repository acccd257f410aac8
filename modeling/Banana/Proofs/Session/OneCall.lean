/-
This file follows a call that is made alone and has a single trip. Nothing else is on its way, so
each answer is taken as soon as it is there, and either ends the call or sends the same trip on
another attempt from the moment at which it was due.
-/

import Mathlib
import Banana.Proofs.Session.RoundTrips
import Banana.Session.Online

namespace Banana.Session

open Backend Http

variable {σ : Type} (network : Network (StateM σ)) (config : Config)

/-- A trip that is on its way alone, with its answers taken until it has ended. -/
def alone (room : Nat) (session : Session) (now : Nat) (trip : Trip) :
    StateM σ (Session × List (Nat × Outcome)) := do
  let flight ← launch network config now 0 trip
  land network config room session [flight] []

/-- Where nothing is on its way, nothing is taken. -/
theorem land_nil (room : Nat) (session : Session) (ended : List (Nat × Outcome)) :
    land network config room session [] ended = pure (session, ended) := by
  cases room <;> rfl

variable {network config}

/-- A trip whose request goes out is launched with the answer to the reply that comes back. -/
theorem launch_of_exchange {now index delay : Nat} {trip : Trip} {request : Request}
    {reply : Reply} {state later : σ}
    (sends : request? config trip.endpoint (trip.content.getD "") = .ok request)
    (exchanged : network.exchange request config.timeout state = (⟨reply, delay⟩, later)) :
    launch network config now index trip state =
      (⟨now + delay, index, trip, trip.answerTo config reply⟩, later) := by
  rw [Trip.answerTo, answerTo_of_request sends, launch, ask_of_request sends]
  simp only [bind, StateT.bind, exchanged]
  rfl

theorem alone_of_finished {room now : Nat} {session last : Session} {trip : Trip} {flight : Flight}
    {outcome : Outcome} {state later : σ}
    (launched : launch network config now 0 trip state = (flight, later)) (first : flight.index = 0)
    (ends : session.receive flight.trip flight.answer = (last, .finished outcome)) :
    alone network config (room + 1) session now trip state = ((last, [(0, outcome)]), later) := by
  simp only [alone, bind, StateT.bind, launched, land, earliest?, ends, land_nil, first]
  rfl

theorem alone_of_waiting {room now : Nat} {session last : Session} {trip again : Trip}
    {flight : Flight} {state later : σ}
    (launched : launch network config now 0 trip state = (flight, later)) (first : flight.index = 0)
    (goesOn : session.receive flight.trip flight.answer = (last, .waiting again)) :
    alone network config (room + 1) session now trip state =
      alone network config room last flight.due again later := by
  simp only [alone, bind, StateT.bind, launched, land, earliest?, goesOn, first, List.nil_append]

/-- A call with a single trip makes it alone. -/
theorem perform_of_single {session started : Session} {call : Call} {trip : Trip}
    (starts : session.start call = (started, [trip])) {last : Session} {outcome : Outcome}
    {state later : σ}
    (ends : alone network config (started.retries.toNat + 1) started 0 trip state =
      ((last, [(0, outcome)]), later)) :
    perform network config session call state =
      ((last, Result.ofOutcomes? call [outcome]), later) := by
  cases launched : launch network config 0 0 trip state with
  | mk flight middle =>
    simp only [alone, bind, StateT.bind, launched] at ends
    simp only [perform, performAll, startTogether, starts, launchAll, bind, StateT.bind, launched,
      pure, StateT.pure, List.append_nil, List.length_singleton, Nat.one_mul, ends]
    rfl

end Banana.Session
