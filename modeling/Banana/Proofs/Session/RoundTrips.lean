/-
This file follows a session whose trips run over HTTP against a backend that may reply anything: any
status, any bytes, a broken connection or nothing in time, and something else to each attempt. What
a trip was replied is kept beside it, attempt by attempt, and a trip that has ended is kept with the
session just before its end and just after, so that a statement about a run is a statement about the
ends that it has seen.

The content is that a trip succeeds exactly when the reply to its last attempt is accepted, that one
which fails has changed nothing, and that every other one has changed its own part of the session
and no more: a load the catalog and the grammar, a refresh the table and its number, a check the
report and its number, and a submission nothing. Between the ends of trips nothing but the counter
of refreshes and checks moves.
-/

import Banana.Proofs.Http.Attempts
import Banana.Proofs.Session.History

namespace Banana.Session

open Backend Http Schema

/-! ### Parts of a session -/

/-- Whether two sessions differ at most in the part that the answers of an endpoint are kept in. -/
def DifferAtMostAt (first second : Session) : Endpoint → Prop
  | .catalog => ∃ catalog grammar,
      second = { first with catalog := catalog, grammar := grammar }
  | .types => ∃ table number, second = { first with table := table, tableNumber := number }
  | .check => ∃ report number, second = { first with report := report, reportNumber := number }
  | .submission => second = first

theorem differAtMostAt_self (session : Session) (endpoint : Endpoint) :
    session.DifferAtMostAt session endpoint := by
  cases endpoint with
  | catalog => exact ⟨session.catalog, session.grammar, rfl⟩
  | types => exact ⟨session.table, session.tableNumber, rfl⟩
  | check => exact ⟨session.report, session.reportNumber, rfl⟩
  | submission => rfl

/-- What can be read off a session without asking anyone. A reading gives back a value and no
session. -/
inductive Reading where
  | complete (text : String)
  | completeAt (source : String) (line column : Nat)
  | highlight (source : String)
  | catalog
  | grammar
  | table
  | report
  | markers

/-- What a reading gives back. -/
abbrev Reading.Value : Reading → Type
  | complete _ | completeAt _ _ _ => List Completion.Candidate
  | highlight _ => Except Grammar.Fault (List Highlight.Token)
  | catalog => Catalog
  | grammar => Grammar
  | table => TypeTable
  | report => Report
  | markers => List Report.Marker

/-- What a reading gives back in a session. -/
def read (session : Session) : (reading : Reading) → reading.Value
  | .complete text => session.complete text
  | .completeAt source line column => session.completeAt source line column
  | .highlight source => session.highlight source
  | .catalog => session.catalog
  | .grammar => session.grammar
  | .table => session.table
  | .report => session.report
  | .markers => session.markers

/-- The endpoints whose answers a reading looks at. -/
def Reading.endpoints : Reading → List Endpoint
  | complete _ | completeAt _ _ _ => [.catalog, .types]
  | highlight _ | catalog | grammar => [.catalog]
  | table => [.types]
  | report | markers => [.check]

/-- What is kept for the other endpoints is the same. -/
theorem DifferAtMostAt.same_elsewhere {first second : Session} {endpoint : Endpoint}
    (differ : first.DifferAtMostAt second endpoint) :
    (endpoint ≠ .catalog → second.catalog = first.catalog ∧ second.grammar = first.grammar) ∧
    (endpoint ≠ .types → second.table = first.table) ∧
    (endpoint ≠ .check → second.report = first.report) := by
  cases endpoint with
  | catalog =>
    obtain ⟨_, _, rfl⟩ := differ
    exact ⟨fun notLooked => absurd rfl notLooked, fun _ => rfl, fun _ => rfl⟩
  | types =>
    obtain ⟨_, _, rfl⟩ := differ
    exact ⟨fun _ => ⟨rfl, rfl⟩, fun notLooked => absurd rfl notLooked, fun _ => rfl⟩
  | check =>
    obtain ⟨_, _, rfl⟩ := differ
    exact ⟨fun _ => ⟨rfl, rfl⟩, fun _ => rfl, fun notLooked => absurd rfl notLooked⟩
  | submission =>
    cases differ
    exact ⟨fun _ => ⟨rfl, rfl⟩, fun _ => rfl, fun _ => rfl⟩

/-- A reading that does not look at what has changed gives back what it gave before. -/
theorem read_eq_of_differAtMostAt {first second : Session} {endpoint : Endpoint}
    (differ : first.DifferAtMostAt second endpoint) {reading : Reading}
    (elsewhere : endpoint ∉ reading.endpoints) : second.read reading = first.read reading := by
  obtain ⟨sameCatalog, sameTable, sameReport⟩ := differ.same_elsewhere
  cases reading <;>
    simp_all [Reading.endpoints, read, complete, completeAt, highlight, markers]

/-- The start of a call moves the counter at most. -/
theorem start_moves_counter (session : Session) (call : Call) :
    ∃ number, (session.start call).1 = { session with lastNumber := number } := by
  cases call <;> exact ⟨_, rfl⟩

/-! ### Success -/

/-- Whether a trip has brought what was asked for. -/
def Outcome.Succeeds : Outcome → Prop
  | loaded _ | refreshed _ | checked (some _) | submitted _ => True
  | checked none | failed _ => False

/-- What a trip makes of the reply to an attempt. -/
def Trip.answerTo (config : Config) (trip : Trip) (reply : Reply) :
    Except Failure trip.endpoint.Answer :=
  Http.answerTo config trip.endpoint (trip.content.getD "") reply

/-- Whether the reply to an attempt brings what the trip has asked for. -/
def Trip.Accepts (config : Config) (trip : Trip) (reply : Reply) : Prop :=
  ∃ answer, Http.Accepts config trip.endpoint (trip.content.getD "") reply answer

/-- The answer to a reply, by whether it is accepted. -/
theorem Trip.answerTo_cases (config : Config) (trip : Trip) (reply : Reply) :
    (trip.Accepts config reply ∧ ∃ answer, trip.answerTo config reply = .ok answer) ∨
    (¬ trip.Accepts config reply ∧ ∃ failure, trip.answerTo config reply = .error failure) := by
  cases found : trip.answerTo config reply with
  | ok answer => exact Or.inl ⟨⟨answer, (answerTo_eq_ok_iff ..).mp found⟩, answer, rfl⟩
  | error failure =>
    refine Or.inr ⟨?_, failure, rfl⟩
    rintro ⟨answer, accepts⟩
    have isOk : trip.answerTo config reply = .ok answer := (answerTo_eq_ok_iff ..).mpr accepts
    rw [found] at isOk
    cases isOk

/-- Trips that ask for the same thing accept the same replies. -/
theorem Trip.accepts_iff_of_same {config : Config} {trip other : Trip}
    (sameEndpoint : other.endpoint = trip.endpoint) (sameContent : other.content = trip.content)
    (reply : Reply) : other.Accepts config reply ↔ trip.Accepts config reply := by
  rw [Accepts, Accepts, sameEndpoint, sameContent]

/-- A trip that gets what it asked for ends with success, and changes its own part at most. -/
theorem receive_ok_changes (session : Session) (trip : Trip) (answer : trip.endpoint.Answer) :
    (∃ outcome, (session.receive trip (.ok answer)).2 = .finished outcome ∧ outcome.Succeeds) ∧
      session.DifferAtMostAt (session.receive trip (.ok answer)).1 trip.endpoint := by
  cases trip with
  | loadCatalog attempt => exact ⟨⟨_, rfl, trivial⟩, _, _, rfl⟩
  | refresh number source attempt =>
    exact ⟨⟨_, rfl, trivial⟩, applyTable_frame session number answer⟩
  | typecheck number source =>
    exact ⟨⟨_, rfl, trivial⟩, applyReport_frame session number answer⟩
  | submit source => exact ⟨⟨_, rfl, trivial⟩, rfl⟩

/-! ### Runs over HTTP -/

/-- A trip under way, with the replies to its attempts so far, latest first. -/
structure Attempted where
  trip : Trip
  replies : List Reply

/-- A trip that has ended: the replies to its attempts, latest first, how it ended, and the session
just before its end and just after. -/
structure RoundTrip where
  trip : Trip
  replies : List Reply
  outcome : Outcome
  before : Session
  after : Session

/-- A session with the trips under way and those that have ended, latest first. -/
structure Traffic where
  session : Session
  underWay : List Attempted
  ended : List RoundTrip

namespace Traffic

/-- A session before any call. -/
def initial (retries : UInt32) : Traffic := ⟨{ retries := retries }, [], []⟩

/-- A call starts. -/
def start (traffic : Traffic) (call : Call) : Traffic where
  session := (traffic.session.start call).1
  underWay := traffic.underWay ++ (traffic.session.start call).2.map fun trip => ⟨trip, []⟩
  ended := traffic.ended

/-- The backend replies to the current attempt of a trip that is under way between others. -/
def reply (config : Config) (traffic : Traffic) (before : List Attempted) (attempted : Attempted)
    (after : List Attempted) (reply : Reply) : Traffic :=
  let replies := reply :: attempted.replies
  match traffic.session.receive attempted.trip (attempted.trip.answerTo config reply) with
  | (session, .waiting again) => ⟨session, before ++ ⟨again, replies⟩ :: after, traffic.ended⟩
  | (session, .finished outcome) =>
    ⟨session, before ++ after,
      ⟨attempted.trip, replies, outcome, traffic.session, session⟩ :: traffic.ended⟩

/-- What can happen next: a call starts, the backend replies anything to some attempt, a trip is
dropped, or something is read. -/
inductive Step (config : Config) : Traffic → Traffic → Prop
  | start (traffic : Traffic) (call : Call) : Step config traffic (traffic.start call)
  | reply (traffic : Traffic) (before : List Attempted) (attempted : Attempted)
      (after : List Attempted) (reply : Reply)
      (waits : traffic.underWay = before ++ attempted :: after) :
      Step config traffic (traffic.reply config before attempted after reply)
  | drop (traffic : Traffic) (before : List Attempted) (attempted : Attempted)
      (after : List Attempted) (waits : traffic.underWay = before ++ attempted :: after) :
      Step config traffic { traffic with underWay := before ++ after }
  | read (traffic : Traffic) (reading : Reading) : Step config traffic traffic

/-- What may be reached from somewhere by any number of steps. -/
abbrev Steps (config : Config) : Traffic → Traffic → Prop := Relation.ReflTransGen (Step config)

/-- What may be reached from a session before any call. -/
def Reachable (config : Config) (traffic : Traffic) : Prop :=
  ∃ retries, Steps config (initial retries) traffic

/-! ### One reply -/

/-- What a reply can do: one that is accepted ends the trip with success, and any other one leaves
the session alone, whether the trip goes on asking for the same thing or ends with a failure. -/
theorem reply_cases (config : Config) (traffic : Traffic) (before : List Attempted)
    (attempted : Attempted) (after : List Attempted) (reply : Reply) :
    (∃ outcome last, attempted.trip.Accepts config reply ∧ outcome.Succeeds ∧
      traffic.session.DifferAtMostAt last attempted.trip.endpoint ∧
      traffic.reply config before attempted after reply =
        ⟨last, before ++ after, ⟨attempted.trip, reply :: attempted.replies, outcome,
          traffic.session, last⟩ :: traffic.ended⟩) ∨
    (∃ outcome, ¬ attempted.trip.Accepts config reply ∧ ¬ outcome.Succeeds ∧
      traffic.reply config before attempted after reply =
        ⟨traffic.session, before ++ after, ⟨attempted.trip, reply :: attempted.replies, outcome,
          traffic.session, traffic.session⟩ :: traffic.ended⟩) ∨
    (∃ again : Trip, ¬ attempted.trip.Accepts config reply ∧
      again.endpoint = attempted.trip.endpoint ∧ again.content = attempted.trip.content ∧
      traffic.reply config before attempted after reply =
        ⟨traffic.session, before ++ ⟨again, reply :: attempted.replies⟩ :: after,
          traffic.ended⟩) := by
  unfold Traffic.reply
  rcases attempted.trip.answerTo_cases config reply with
    ⟨accepts, answer, isOk⟩ | ⟨refuses, failure, isError⟩
  · rw [isOk]
    obtain ⟨⟨outcome, ends, succeeds⟩, differ⟩ :=
      receive_ok_changes traffic.session attempted.trip answer
    cases received : traffic.session.receive attempted.trip (.ok answer) with
    | mk last progress =>
      rw [received] at ends differ
      cases ends
      exact Or.inl ⟨outcome, last, accepts, succeeds, differ, rfl⟩
  · rw [isError, receive_error_eq]
    rcases attempted.trip.afterFailure_cases traffic.session.retries failure with
      ⟨again, goesOn, -, sameEndpoint, sameContent⟩ | ⟨outcome, ends, isOne⟩
    · rw [goesOn]
      exact Or.inr (Or.inr ⟨again, refuses, sameEndpoint, sameContent, rfl⟩)
    · rw [ends]
      have fails : ¬ outcome.Succeeds := by rcases isOne with rfl | rfl <;> exact id
      exact Or.inr (Or.inl ⟨outcome, refuses, fails, rfl⟩)

/-! ### The invariant -/

end Traffic

/-- What is true of every trip that has ended. -/
structure RoundTrip.KeepsToItsPart (config : Config) (roundTrip : RoundTrip) : Prop where
  succeeds_iff : roundTrip.outcome.Succeeds ↔
    ∃ reply, roundTrip.replies.head? = some reply ∧ roundTrip.trip.Accepts config reply
  earlier : ∀ reply ∈ roundTrip.replies.tail, ¬ roundTrip.trip.Accepts config reply
  failure : ¬ roundTrip.outcome.Succeeds → roundTrip.after = roundTrip.before
  ownPart : roundTrip.before.DifferAtMostAt roundTrip.after roundTrip.trip.endpoint

namespace Traffic

/-- The trips under way have had no reply that they accept, and those that have ended have kept to
their part. -/
structure KeepsToParts (config : Config) (traffic : Traffic) : Prop where
  underWay : ∀ attempted ∈ traffic.underWay, ∀ reply ∈ attempted.replies,
    ¬ attempted.trip.Accepts config reply
  ended : ∀ roundTrip ∈ traffic.ended, roundTrip.KeepsToItsPart config

theorem KeepsToParts.reply {config : Config} {traffic : Traffic}
    (keeps : traffic.KeepsToParts config) {before after : List Attempted} {attempted : Attempted}
    (waits : traffic.underWay = before ++ attempted :: after) (reply : Reply) :
    (traffic.reply config before attempted after reply).KeepsToParts config := by
  have refused := keeps.underWay
  rw [waits, List.forall_mem_append, List.forall_mem_cons] at refused
  obtain ⟨refusedBefore, refusedHere, refusedAfter⟩ := refused
  have refusedOthers := List.forall_mem_append.mpr ⟨refusedBefore, refusedAfter⟩
  rcases traffic.reply_cases config before attempted after reply with
    ⟨outcome, last, accepts, succeeds, differ, ends⟩ | ⟨outcome, refuses, fails, ends⟩ |
      ⟨again, refuses, sameEndpoint, sameContent, goesOn⟩
  · rw [ends]
    refine ⟨refusedOthers, List.forall_mem_cons.mpr ⟨?_, keeps.ended⟩⟩
    exact ⟨⟨fun _ => ⟨reply, rfl, accepts⟩, fun _ => succeeds⟩, refusedHere,
      fun fails => absurd succeeds fails, differ⟩
  · rw [ends]
    refine ⟨refusedOthers, List.forall_mem_cons.mpr ⟨?_, keeps.ended⟩⟩
    refine ⟨⟨fun succeeds => absurd succeeds fails, ?_⟩, refusedHere, fun _ => rfl, ?_⟩
    · rintro ⟨_, ⟨⟩, accepts⟩
      exact absurd accepts refuses
    · exact differAtMostAt_self traffic.session attempted.trip.endpoint
  · rw [goesOn]
    refine ⟨List.forall_mem_append.mpr ⟨refusedBefore, List.forall_mem_cons.mpr ⟨?_, refusedAfter⟩⟩,
      keeps.ended⟩
    intro earlier member
    rw [Trip.accepts_iff_of_same sameEndpoint sameContent]
    rcases List.mem_cons.mp member with rfl | earlierStill
    · exact refuses
    · exact refusedHere earlier earlierStill

theorem KeepsToParts.step {config : Config} {first last : Traffic}
    (keeps : first.KeepsToParts config) (step : Step config first last) :
    last.KeepsToParts config := by
  cases step with
  | start call =>
    refine ⟨List.forall_mem_append.mpr ⟨keeps.underWay, ?_⟩, keeps.ended⟩
    intro attempted member
    obtain ⟨trip, -, rfl⟩ := List.mem_map.mp member
    exact fun _ none => absurd none List.not_mem_nil
  | reply before attempted after reply waits => exact keeps.reply waits reply
  | drop before attempted after waits =>
    have refused := keeps.underWay
    rw [waits, List.forall_mem_append, List.forall_mem_cons] at refused
    exact ⟨List.forall_mem_append.mpr ⟨refused.1, refused.2.2⟩, keeps.ended⟩
  | read reading => exact keeps

theorem Reachable.keepsToParts {config : Config} {traffic : Traffic}
    (reachable : Reachable config traffic) : traffic.KeepsToParts config := by
  obtain ⟨retries, steps⟩ := reachable
  induction steps with
  | refl =>
    exact ⟨fun _ none => absurd none List.not_mem_nil, fun _ none => absurd none List.not_mem_nil⟩
  | tail _ step inductionHypothesis => exact inductionHypothesis.step step

/-- What a step does to the session: the start of a call moves the counter, the end of a trip is put
into the history with the session before it and after it, and everything else leaves the session as
it was. -/
theorem Step.session_cases {config : Config} {first last : Traffic}
    (step : Step config first last) :
    (last.ended = first.ended ∧ last.session = first.session) ∨
    (∃ call number, last = first.start call ∧
      last.session = { first.session with lastNumber := number }) ∨
    (∃ roundTrip : RoundTrip, last.ended = roundTrip :: first.ended ∧
      roundTrip.before = first.session ∧ roundTrip.after = last.session) := by
  cases step with
  | start call =>
    obtain ⟨number, movesCounter⟩ := start_moves_counter first.session call
    exact Or.inr (Or.inl ⟨call, number, rfl, movesCounter⟩)
  | drop before attempted after waits => exact Or.inl ⟨rfl, rfl⟩
  | read reading => exact Or.inl ⟨rfl, rfl⟩
  | reply before attempted after reply waits =>
    rcases first.reply_cases config before attempted after reply with
      ⟨outcome, final, -, -, -, ends⟩ | ⟨outcome, -, -, ends⟩ | ⟨again, -, -, -, goesOn⟩
    · rw [ends]
      exact Or.inr (Or.inr ⟨_, rfl, rfl, rfl⟩)
    · rw [ends]
      exact Or.inr (Or.inr ⟨_, rfl, rfl, rfl⟩)
    · rw [goesOn]
      exact Or.inl ⟨rfl, rfl⟩

/-! ### Runs over HTTP are runs -/

/-- A step over HTTP is a step in which an answer arrives, or none at all. -/
theorem Step.exists_work {config : Config} {first last : Traffic} (step : Step config first last)
    {work : Work} (sameSession : work.session = first.session)
    (sameTrips : work.waiting = first.underWay.map Attempted.trip) :
    ∃ next : Work, Work.Steps work next ∧ next.session = last.session ∧
      next.waiting = last.underWay.map Attempted.trip := by
  cases step with
  | start call =>
    refine ⟨work.start call, .single (.start work call), ?_, ?_⟩
    · exact congrArg (fun session => (Session.start session call).1) sameSession
    · rw [Work.start, Traffic.start, List.map_append, List.map_map, sameTrips, sameSession]
      exact congrArg _ (List.map_id _).symm
  | drop before attempted after waits =>
    rw [waits, List.map_append, List.map_cons] at sameTrips
    exact ⟨_, .single (.drop work _ _ _ sameTrips), sameSession, List.map_append.symm⟩
  | read reading => exact ⟨work, .refl, sameSession, sameTrips⟩
  | reply before attempted after reply waits =>
    rw [waits, List.map_append, List.map_cons] at sameTrips
    refine ⟨_, .single (.receive work _ attempted.trip _ (attempted.trip.answerTo config reply)
      sameTrips), ?_⟩
    unfold Work.receive Traffic.reply
    rw [sameSession]
    cases first.session.receive attempted.trip (attempted.trip.answerTo config reply) with
    | mk session progress =>
      cases progress with
      | waiting again =>
        refine ⟨rfl, ?_⟩
        dsimp only
        rw [List.map_append, List.map_cons]
      | finished outcome =>
        refine ⟨rfl, ?_⟩
        dsimp only
        rw [List.map_append]

/-- A session that is reached over HTTP is one that any answers could lead to, so what holds after
any run of steps holds of it. -/
theorem Reachable.exists_work {config : Config} {traffic : Traffic}
    (reachable : Reachable config traffic) :
    ∃ work : Work, work.Reachable ∧ work.session = traffic.session ∧
      work.waiting = traffic.underWay.map Attempted.trip := by
  obtain ⟨retries, steps⟩ := reachable
  induction steps with
  | refl => exact ⟨.initial retries, ⟨retries, .refl⟩, rfl, rfl⟩
  | tail _ step inductionHypothesis =>
    obtain ⟨work, reachable, sameSession, sameTrips⟩ := inductionHypothesis
    obtain ⟨next, furtherSteps, isSession, areTrips⟩ := step.exists_work sameSession sameTrips
    exact ⟨next, reachable.steps furtherSteps, isSession, areTrips⟩

end Traffic

end Banana.Session
