/-
This file ties the calls that are made together over a network to runs over HTTP. A network may have
a state of its own and reply anything; the answers are on their way for as long as it says, and they
are taken when they are due. Whatever the order is, taking one is the step in which the backend
replies, so the calls lead to a session that steps can reach, and the ends that they report are ends
that the run has seen.

The trips on their way are kept in the order in which they were sent last, and the trips under way
in the order in which they started, so the two agree up to their order only.
-/

import Mathlib
import Banana.Proofs.Session.RoundTrips
import Banana.Session.Online

namespace Banana.Session

open Backend Http Traffic

variable {σ : Type} (network : Network (StateM σ)) (config : Config)

/-- Whether the answer that is on its way is what a trip makes of some reply. -/
def Flight.HasReply (flight : Flight) : Prop :=
  ∃ reply, flight.answer = flight.trip.answerTo config reply

/-! ### Sending -/

/-- What is launched is the trip, with the answer to some reply. -/
theorem exists_launch_eq (now index : Nat) (trip : Trip) (state : σ) :
    ∃ due reply later, launch network config now index trip state =
      (⟨due, index, trip, trip.answerTo config reply⟩, later) := by
  obtain ⟨reply, sameAnswer⟩ :=
    exists_ask_eq_answerTo network config trip.endpoint (trip.content.getD "") state
  have sameTripAnswer : _ = trip.answerTo config reply := sameAnswer
  unfold launch
  generalize ask network config trip.endpoint (trip.content.getD "") = asked at sameTripAnswer ⊢
  refine ⟨now + (asked state).1.delay, reply, (asked state).2, ?_⟩
  rw [← sameTripAnswer]
  rfl

theorem exists_launchAll_eq (index : Nat) (trips : List Trip) (state : σ) :
    ∃ flights later, launchAll network config index trips state = (flights, later) ∧
      flights.map Flight.trip = trips ∧ ∀ flight ∈ flights, flight.HasReply config := by
  induction trips generalizing index state with
  | nil => exact ⟨[], state, rfl, rfl, fun _ none => absurd none List.not_mem_nil⟩
  | cons trip rest inductionHypothesis =>
    obtain ⟨due, reply, middle, launched⟩ := exists_launch_eq network config 0 index trip state
    obtain ⟨others, later, launchedOthers, areTrips, haveReplies⟩ :=
      inductionHypothesis (index + 1) middle
    refine ⟨⟨due, index, trip, trip.answerTo config reply⟩ :: others, later, ?_,
      congrArg (trip :: ·) areTrips, List.forall_mem_cons.mpr ⟨⟨reply, rfl⟩, haveReplies⟩⟩
    simp only [launchAll, bind, StateT.bind, launched, launchedOthers]
    rfl

/-- The flight that is due first is one of them, and the others are left. -/
theorem earliest?_perm {flights : List Flight} {first : Flight} {others : List Flight}
    (found : earliest? flights = some (first, others)) : flights.Perm (first :: others) := by
  induction flights generalizing first others with
  | nil => cases found
  | cons flight rest inductionHypothesis =>
    rw [earliest?] at found
    cases earlier : earliest? rest with
    | none =>
      cases rest with
      | nil =>
        rw [earlier] at found
        cases found
        exact List.Perm.refl _
      | cons next further =>
        rw [earliest?] at earlier
        split at earlier
        · split at earlier <;> cases earlier
        · cases earlier
    | some pair =>
      obtain ⟨other, remaining⟩ := pair
      rw [earlier] at found
      have rearranged := inductionHypothesis earlier
      by_cases before : other.due < flight.due
      · simp only [if_pos before, Option.some.injEq, Prod.mk.injEq] at found
        obtain ⟨rfl, rfl⟩ := found
        exact (rearranged.cons flight).trans (.swap _ _ _)
      · simp only [if_neg before, Option.some.injEq, Prod.mk.injEq] at found
        obtain ⟨rfl, rfl⟩ := found
        exact List.Perm.refl _

/-! ### Taking answers -/

/-- Calls that start together start one after the other. -/
theorem steps_startTogether (calls : List Call) (traffic : Traffic) :
    ∃ last : Traffic, Steps config traffic last ∧ last.ended = traffic.ended ∧
      last.session = (traffic.session.startTogether calls).1 ∧
      last.underWay.map Attempted.trip =
        traffic.underWay.map Attempted.trip ++ (traffic.session.startTogether calls).2.1 := by
  induction calls generalizing traffic with
  | nil => exact ⟨traffic, .refl, rfl, rfl, (List.append_nil _).symm⟩
  | cons call rest inductionHypothesis =>
    obtain ⟨last, steps, noneEnds, sameSession, sameTrips⟩ :=
      inductionHypothesis (traffic.start call)
    refine ⟨last, .head (.start traffic call) steps, noneEnds, sameSession, sameTrips.trans ?_⟩
    show (traffic.underWay ++ _).map Attempted.trip ++ _ = _
    rw [List.map_append, List.map_map, List.append_assoc]
    exact congrArg _ (congrArg (· ++ _) (List.map_id _))

/-- The trip of the flight that is due first is under way between others, and these are the trips of
the other flights. -/
theorem exists_underWay_of_earliest? {traffic : Traffic} {flights remaining : List Flight}
    {first : Flight} {others : List Trip}
    (waits : (traffic.underWay.map Attempted.trip).Perm (flights.map Flight.trip ++ others))
    (found : earliest? flights = some (first, remaining)) :
    ∃ before replies after, traffic.underWay = before ++ ⟨first.trip, replies⟩ :: after ∧
      (before.map Attempted.trip ++ after.map Attempted.trip).Perm
        (remaining.map Flight.trip ++ others) := by
  have waitsFirst : (traffic.underWay.map Attempted.trip).Perm
      (first.trip :: (remaining.map Flight.trip ++ others)) :=
    waits.trans (((earliest?_perm found).map Flight.trip).append_right others)
  obtain ⟨⟨trip, replies⟩, member, isTrip⟩ :=
    List.mem_map.mp (waitsFirst.mem_iff.mpr List.mem_cons_self)
  obtain ⟨before, after, isUnderWay⟩ := List.append_of_mem member
  obtain rfl : trip = first.trip := isTrip
  rw [isUnderWay, List.map_append, List.map_cons] at waitsFirst
  exact ⟨before, replies, after, isUnderWay, (List.perm_middle.symm.trans waitsFirst).cons_inv⟩

/-- Taking the answers that are on their way is a run in which the backend replies; the induction is
on how many are taken. -/
theorem steps_land (room : Nat) (traffic : Traffic) (flights : List Flight)
    (ended : List (Nat × Outcome)) (state : σ) (others : List Trip)
    (waits : (traffic.underWay.map Attempted.trip).Perm (flights.map Flight.trip ++ others))
    (replied : ∀ flight ∈ flights, flight.HasReply config) :
    ∃ (last : Traffic) (fresh : List RoundTrip), Steps config traffic last ∧
      last.ended = fresh ++ traffic.ended ∧
      last.session = (land network config room traffic.session flights ended state).1.1 ∧
      ∀ entry ∈ (land network config room traffic.session flights ended state).1.2,
        entry ∈ ended ∨ ∃ roundTrip ∈ fresh, roundTrip.outcome = entry.2 := by
  induction room generalizing traffic flights ended state with
  | zero => exact ⟨traffic, [], .refl, rfl, rfl, fun _ member => Or.inl member⟩
  | succ room inductionHypothesis =>
    rw [land]
    cases found : earliest? flights with
    | none => exact ⟨traffic, [], .refl, rfl, rfl, fun _ member => Or.inl member⟩
    | some pair =>
      obtain ⟨first, remaining⟩ := pair
      obtain ⟨isReplied, repliedOthers⟩ := List.forall_mem_cons.mp fun flight member =>
        replied flight ((earliest?_perm found).mem_iff.mpr member)
      obtain ⟨before, replies, after, isUnderWay, waitOthers⟩ :=
        exists_underWay_of_earliest? waits found
      obtain ⟨due, index, waiting, answer⟩ := first
      obtain ⟨reply, sameAnswer⟩ := isReplied
      obtain rfl : answer = waiting.answerTo config reply := sameAnswer
      have step : Step config traffic _ :=
        .reply traffic before ⟨waiting, replies⟩ after reply isUnderWay
      unfold Traffic.reply at step
      dsimp only at step ⊢
      cases received : traffic.session.receive waiting (waiting.answerTo config reply) with
      | mk session progress =>
        rw [received] at step
        cases progress with
        | finished outcome =>
          obtain ⟨last, fresh, steps, endedLater, sameSession, seen⟩ := inductionHypothesis
            ⟨session, before ++ after,
              ⟨waiting, reply :: replies, outcome, traffic.session, session⟩ :: traffic.ended⟩
            remaining ((index, outcome) :: ended) state
            (by rw [List.map_append]; exact waitOthers) repliedOthers
          refine ⟨last, fresh ++ [⟨waiting, reply :: replies, outcome, traffic.session, session⟩],
            .head step steps, ?_, sameSession, fun entry member => ?_⟩
          · rw [endedLater, List.append_assoc]
            rfl
          rcases seen entry member with isEnded | ⟨roundTrip, isFresh, sameOutcome⟩
          · rcases List.mem_cons.mp isEnded with rfl | isOld
            · exact Or.inr ⟨_, List.mem_append_right fresh (List.mem_singleton_self _), rfl⟩
            · exact Or.inl isOld
          · exact Or.inr ⟨roundTrip, List.mem_append_left _ isFresh, sameOutcome⟩
        | waiting again =>
          obtain ⟨nextDue, nextReply, later, launched⟩ :=
            exists_launch_eq network config due index again state
          obtain ⟨last, fresh, steps, endedLater, sameSession, seen⟩ := inductionHypothesis
            ⟨session, before ++ ⟨again, reply :: replies⟩ :: after, traffic.ended⟩
            (remaining ++ [⟨nextDue, index, again, again.answerTo config nextReply⟩]) ended later
            (by
              rw [List.map_append, List.map_cons, List.map_append, List.append_assoc]
              exact (List.perm_middle.trans (waitOthers.cons again)).trans List.perm_middle.symm)
            (List.forall_mem_append.mpr
              ⟨repliedOthers, List.forall_mem_singleton.mpr ⟨nextReply, rfl⟩⟩)
          refine ⟨last, fresh, .head step steps, endedLater, ?_⟩
          simp only [bind, StateT.bind, launched]
          exact ⟨sameSession, seen⟩

/-- A call gives back a single outcome only when it has a single trip. -/
theorem eq_singleton_of_single {call : Call} {outcomes : List Outcome} {outcome : Outcome}
    (isSingle : Result.ofOutcomes? call outcomes = some (.single outcome)) :
    outcomes = [outcome] := by
  match outcomes with
  | [] => cases call <;> cases isSingle
  | [only] => cases call <;> cases isSingle <;> rfl
  | [first, second] => cases call <;> cases isSingle
  | first :: second :: third :: rest => cases call <;> cases isSingle

/-- What is looked up for every index is there for some of them. -/
theorem exists_lookup_of_mapM {ended : List (Nat × Outcome)} {indices : List Nat}
    {outcomes : List Outcome}
    (found : indices.mapM (fun index => ended.lookup index) = some outcomes)
    {outcome : Outcome} (member : outcome ∈ outcomes) :
    ∃ index, ended.lookup index = some outcome := by
  induction indices generalizing outcomes with
  | nil =>
    cases found
    cases member
  | cons index rest inductionHypothesis =>
    simp only [List.mapM_cons, bind, Option.bind_eq_some_iff, pure, Option.some.injEq] at found
    obtain ⟨first, isFirst, others, areOthers, rfl⟩ := found
    rcases List.mem_cons.mp member with rfl | isOther
    · exact ⟨index, isFirst⟩
    · exact inductionHypothesis areOthers isOther

/-- A single outcome that a call gives back is one that its trips have ended with. -/
theorem exists_ended_of_single {ended : List (Nat × Outcome)} {first : Nat}
    {counts : List (Call × Nat)} {outcome : Outcome}
    (member : some (.single outcome) ∈ resultsFrom ended first counts) :
    ∃ entry ∈ ended, entry.2 = outcome := by
  induction counts generalizing first with
  | nil => cases member
  | cons pair rest inductionHypothesis =>
    obtain ⟨call, count⟩ := pair
    rcases List.mem_cons.mp member with isFirst | isLater
    · obtain ⟨outcomes, found, isSingle⟩ := Option.bind_eq_some_iff.mp isFirst.symm
      rw [eq_singleton_of_single isSingle] at found
      obtain ⟨index, isEnded⟩ := exists_lookup_of_mapM found (List.mem_singleton_self outcome)
      obtain ⟨before, after, split, -⟩ := List.lookup_eq_some_iff.mp isEnded
      exact ⟨(index, outcome), split ▸ List.mem_append_right before List.mem_cons_self, rfl⟩
    · exact inductionHypothesis isLater

/-- Making calls together is a run over HTTP, whatever the network does, and every outcome that
they give back is one that a trip has ended with in that run. -/
theorem steps_performAll (traffic : Traffic) (calls : List Call) (state : σ) :
    ∃ (last : Traffic) (fresh : List RoundTrip), Steps config traffic last ∧
      last.ended = fresh ++ traffic.ended ∧
      last.session = (performAll network config traffic.session calls state).1.1 ∧
      ∀ outcome, some (.single outcome) ∈
        (performAll network config traffic.session calls state).1.2 →
          ∃ roundTrip ∈ fresh, roundTrip.outcome = outcome := by
  obtain ⟨started, startSteps, noneEnds, sameSession, sameTrips⟩ :=
    steps_startTogether config calls traffic
  unfold performAll
  generalize traffic.session.startTogether calls = begun at sameSession sameTrips ⊢
  obtain ⟨session, trips, counts⟩ := begun
  obtain rfl : started.session = session := sameSession
  obtain ⟨flights, middle, launched, areTrips, haveReplies⟩ :=
    exists_launchAll_eq network config 0 trips state
  have waits : (started.underWay.map Attempted.trip).Perm
      (flights.map Flight.trip ++ traffic.underWay.map Attempted.trip) := by
    rw [sameTrips, areTrips]
    exact List.perm_append_comm
  obtain ⟨last, fresh, steps, endedLater, lastSession, seen⟩ := steps_land network config
    (trips.length * (started.session.retries.toNat + 1)) started flights [] middle _ waits
    haveReplies
  refine ⟨last, fresh, startSteps.trans steps, noneEnds ▸ endedLater, ?_⟩
  simp only [bind, StateT.bind, launched]
  refine ⟨lastSession, fun outcome member => ?_⟩
  obtain ⟨entry, isEnded, rfl⟩ := exists_ended_of_single member
  rcases seen entry isEnded with none | isSeen
  · cases none
  · exact isSeen

/-! ### Any run -/

/-- In any run over HTTP a trip that has ended has succeeded exactly when the reply to its last
attempt was accepted; one that failed has changed nothing, any other one has changed its own part at
most, and what does not look at that part reads the same before and after. Apart from the ends of
trips only the start of a call moves anything, and that is the counter. Making calls together over
a network is such a run. -/
theorem round_trips_keep_to_their_parts {config : Config} {traffic : Traffic}
    (reachable : traffic.Reachable config) :
    (∀ roundTrip ∈ traffic.ended, roundTrip.KeepsToItsPart config ∧
      ∀ reading : Reading, roundTrip.trip.endpoint ∉ reading.endpoints →
        roundTrip.after.read reading = roundTrip.before.read reading) ∧
    (∀ next, Step config traffic next →
      (next.ended = traffic.ended ∧ next.session = traffic.session) ∨
      (∃ call number, next = traffic.start call ∧
        next.session = { traffic.session with lastNumber := number }) ∨
      (∃ roundTrip : RoundTrip, next.ended = roundTrip :: traffic.ended ∧
        roundTrip.before = traffic.session ∧ roundTrip.after = next.session)) ∧
    ∀ {σ : Type} (network : Network (StateM σ)) (calls : List Call) (state : σ),
      ∃ (last : Traffic) (fresh : List RoundTrip), Steps config traffic last ∧
        last.ended = fresh ++ traffic.ended ∧
        last.session = (performAll network config traffic.session calls state).1.1 ∧
        ∀ outcome, some (.single outcome) ∈
          (performAll network config traffic.session calls state).1.2 →
            ∃ roundTrip ∈ fresh, roundTrip.outcome = outcome := by
  refine ⟨fun roundTrip member => ?_, fun next step => step.session_cases,
    fun network calls state => steps_performAll network config traffic calls state⟩
  have keeps := reachable.keepsToParts.ended roundTrip member
  exact ⟨keeps, fun reading elsewhere => read_eq_of_differAtMostAt keeps.ownPart elsewhere⟩

/-- A refusal. -/
def refusal : Reply := .answer 503 []

/-- A catalog with one component. -/
def sourceReply : Reply :=
  .answer 200 (Text.encodeUtf8 "\x7b\"components\":[\x7b\"name\":\"Source\"\x7d]\x7d".toList)

/-- A run of one load that is refused at first and then gets a catalog. -/
def loadAfterRefusal : Traffic :=
  ((Traffic.initial 2).start .loadCatalog).reply .default [] ⟨.loadCatalog 1, []⟩ [] refusal
    |>.reply .default [] ⟨.loadCatalog 2, [refusal]⟩ [] sourceReply

/-- That run ends with a load that succeeds at its second attempt, and leaves the type table
alone. -/
theorem second_attempt_keeps_table :
    loadAfterRefusal.Reachable .default ∧
      ∃ roundTrip ∈ loadAfterRefusal.ended,
        roundTrip.replies = [sourceReply, refusal] ∧ roundTrip.outcome.Succeeds ∧
        roundTrip.after.read .catalog = ⟨[.new "Source" ""]⟩ ∧
        roundTrip.after.read .table = roundTrip.before.read .table := by
  have requestable : (request? .default .catalog "").isOk := by cbv
  obtain ⟨request, sends⟩ : ∃ request, request? .default .catalog "" = .ok request := by
    cases sent : request? .default .catalog "" with
    | ok request => exact ⟨request, rfl⟩
    | error failure =>
      rw [sent] at requestable
      cases requestable
  have refused : (Trip.loadCatalog 1).answerTo .default refusal = .error (.status 503 "") :=
    (answerTo_of_request sends refusal).trans (by cbv)
  have loaded : (Trip.loadCatalog 2).answerTo .default sourceReply = .ok ⟨[.new "Source" ""]⟩ :=
    (answerTo_of_request sends sourceReply).trans (by cbv)
  have goesOn : ((Traffic.initial 2).start .loadCatalog).reply .default [] ⟨.loadCatalog 1, []⟩ []
      refusal = ⟨{ retries := 2 }, [⟨.loadCatalog 2, [refusal]⟩], []⟩ := by
    simp only [Traffic.reply, refused]
    rfl
  have ends : loadAfterRefusal.ended = [⟨.loadCatalog 2, [sourceReply, refusal],
      .loaded (.ofComponents [.new "Source" ""]), { retries := 2 },
      applyCatalog { retries := 2 } ⟨[.new "Source" ""]⟩⟩] := by
    rw [loadAfterRefusal, goesOn]
    simp only [Traffic.reply, loaded]
    rfl
  have reachable : loadAfterRefusal.Reachable .default :=
    ⟨2, .tail (.tail (.tail .refl (.start _ .loadCatalog))
      (.reply _ [] ⟨.loadCatalog 1, []⟩ [] refusal rfl))
      (.reply _ [] ⟨.loadCatalog 2, [refusal]⟩ [] sourceReply (by rw [goesOn]; rfl))⟩
  obtain ⟨keepsToParts, -⟩ := round_trips_keep_to_their_parts reachable
  have member := ends ▸ List.mem_singleton_self _
  exact ⟨reachable, _, member, rfl, trivial, rfl,
    (keepsToParts _ member).2 .table (by decide)⟩

end Banana.Session
