/-
This file runs a catalog load and a refresh against a stand-in of which the next requests fail.
Three counts go together: the failures that the stand-in still has to give, the attempts that the
call may still make, and the requests that have been recorded. Each attempt that meets a failure
uses up one of the failures and records one request, so the call ends at the first request after the
failures, or else when it may not go on, whichever comes first.
-/

import Banana.Proofs.Session.OneCall
import Banana.Proofs.Session.RoundTrips
import Banana.Proofs.Stub.Connection

namespace Banana.Stub

open Backend Http Session Schema

/-! ### One request -/

/-- The failure that a stand-in gives. -/
def unavailable : Failure := .status 503 "\x7b\"error\":\"type checker unavailable\"\x7d"

/-- The reply of a stand-in that fails. -/
def refusal : Reply :=
  .answer 503 (Text.encodeUtf8
    (Json.compact (.object [("error", .string "type checker unavailable")])))

/-- A stand-in with a number of failures to give and with some requests recorded, and with the
script of another one. -/
def scripted (stub : Stub) (failures : Nat) (requests : List Recorded) : Stub :=
  { stub with failures := failures, requests := requests }

/-- A request that meets a failure is recorded, and uses the failure up. -/
theorem exchange_refused (stub : Stub) (left : Nat) (requests : List Recorded)
    (request : Request) :
    ∃ delay, Stub.network.exchange request none (stub.scripted (left + 1) requests) =
      (⟨refusal, delay⟩, stub.scripted left (requests ++ [recordedOf request])) :=
  ⟨stub.delayOf (recordedOf request), rfl⟩

/-- A request that meets no failure is recorded, and answered by the script. -/
theorem exchange_answered (stub : Stub) (requests : List Recorded) (request : Request) :
    ∃ delay, Stub.network.exchange request none (stub.scripted 0 requests) =
      (⟨.answer (stub.route (recordedOf request)).status
          (Text.encodeUtf8 (Json.compact (stub.route (recordedOf request)).body)), delay⟩,
        stub.scripted 0 (requests ++ [recordedOf request])) :=
  ⟨stub.delayOf (recordedOf request), rfl⟩

/-- What a trip makes of the failure of a stand-in. -/
theorem answerTo_refusal (port : Nat) (retries : UInt32) (trip : Trip) :
    trip.answerTo (configAt port retries) refusal = .error unavailable := by
  have body : Json.compact (.object [("error", .string "type checker unavailable")]) =
      "\x7b\"error\":\"type checker unavailable\"\x7d".toList := by
    cbv
  rw [Trip.answerTo, answerTo_of_request (request?_configAt port retries _ _), refusal, body]
  show Except.error (Failure.status 503 (String.ofList (Text.decodeUtf8Leniently _))) = _
  rw [Text.decodeUtf8Leniently_encodeUtf8, String.ofList_toList]
  rfl

/-- What a trip makes of an answer whose text decodes. -/
theorem answerTo_stored (port : Nat) (retries : UInt32) (trip : Trip) {json : Json}
    {answer : trip.endpoint.Answer}
    (decodes : trip.endpoint.decode (Json.compact json) = .ok answer) :
    trip.answerTo (configAt port retries) (.answer 200 (Text.encodeUtf8 (Json.compact json))) =
      .ok answer := by
  rw [Trip.answerTo, answerTo_of_request (request?_configAt port retries _ _)]
  show Endpoint.decodeBytes _ (Text.encodeUtf8 (Json.compact json)) = _
  rw [Endpoint.decodeBytes, Json.textOfBytes_encodeUtf8]
  exact decodes

/-! ### Calls that are tried again -/

/-- A trip that may be tried again, apart from the number of its attempt. -/
inductive Retried where
  | catalog
  | table (number : Nat) (source : String)

namespace Retried

/-- The trip in one of its attempts. -/
def trip : Retried → UInt32 → Trip
  | catalog, attempt => .loadCatalog attempt
  | table number source, attempt => .refresh number source attempt

/-- What every attempt is recorded as. -/
def recorded : Retried → Recorded
  | catalog => ⟨"GET", "/banana/metadata", ""⟩
  | table _ source => ⟨"POST", "/banana/metadata", source⟩

/-- A failed attempt is followed by the next one until as many have been made as are allowed. -/
theorem receive_error (retried : Retried) (session : Session) (attempt : UInt32)
    (failure : Failure) :
    session.receive (retried.trip attempt) (.error failure) =
      if attempt ≤ session.retries then (session, .waiting (retried.trip (attempt + 1)))
      else (session, .finished (.failed failure)) := by
  rw [receive_error_eq]
  cases retried with
  | catalog =>
    rw [trip, Trip.afterFailure]
    split <;> rfl
  | table number source =>
    rw [trip, Trip.afterFailure]
    split <;> rfl

/-- Every attempt goes out, and is recorded as it should be. -/
theorem request?_trip (retried : Retried) (port : Nat) (retries attempt : UInt32) :
    ∃ request, recordedOf request = retried.recorded ∧
      request? (configAt port retries) (retried.trip attempt).endpoint
        ((retried.trip attempt).content.getD "") = .ok request := by
  refine ⟨_, ?_, request?_configAt port retries _ _⟩
  cases retried with
  | catalog => exact recordedOf_catalog port ""
  | table number source =>
    have isPosted : Endpoint.types ≠ .catalog := nofun
    exact recordedOf_source port isPosted source

/-- An attempt that meets a failure. -/
theorem launch_refused (retried : Retried) (stub : Stub) (left : Nat) (requests : List Recorded)
    (port : Nat) (retries attempt : UInt32) (now : Nat) :
    ∃ due, launch Stub.network (configAt port retries) now 0 (retried.trip attempt)
        (stub.scripted (left + 1) requests) =
      (⟨due, 0, retried.trip attempt, .error unavailable⟩,
        stub.scripted left (requests ++ [retried.recorded])) := by
  obtain ⟨request, isRecorded, sends⟩ := retried.request?_trip port retries attempt
  obtain ⟨delay, exchanged⟩ := exchange_refused stub left requests request
  rw [launch_of_exchange sends exchanged, answerTo_refusal, isRecorded]
  exact ⟨_, rfl⟩

/-- An attempt that meets no failure. -/
theorem launch_answered (retried : Retried) (stub : Stub) (requests : List Recorded)
    (port : Nat) (retries attempt : UInt32) (now : Nat)
    {answer : (retried.trip attempt).endpoint.Answer}
    (decodes : (retried.trip attempt).endpoint.decode
      (Json.compact (stub.route retried.recorded).body) = .ok answer) :
    ∃ due, launch Stub.network (configAt port retries) now 0 (retried.trip attempt)
        (stub.scripted 0 requests) =
      (⟨due, 0, retried.trip attempt, .ok answer⟩,
        stub.scripted 0 (requests ++ [retried.recorded])) := by
  obtain ⟨request, isRecorded, sends⟩ := retried.request?_trip port retries attempt
  obtain ⟨delay, exchanged⟩ := exchange_answered stub requests request
  have success : (stub.route retried.recorded).status = 200 := by cases retried <;> rfl
  rw [isRecorded, success] at exchanged
  rw [launch_of_exchange sends exchanged,
    answerTo_stored port retries _ decodes]
  exact ⟨_, rfl⟩

/-- A trip that may go on for a number of further attempts, against a stand-in that has a number of
failures left. The induction is on the failures: each one that is met uses up a further attempt. -/
theorem alone_eq (retried : Retried) (stub : Stub) (port : Nat) (retries : UInt32)
    {session last : Session} {outcome : Outcome} (few : session.retries.toNat < 2 ^ 32 - 1)
    (succeeds : ∀ attempt, ∃ answer, (retried.trip attempt).endpoint.decode
        (Json.compact (stub.route retried.recorded).body) = .ok answer ∧
      session.receive (retried.trip attempt) (.ok answer) = (last, .finished outcome))
    (left further : Nat) (attempt : UInt32) (requests : List Recorded) (now : Nat)
    (counted : attempt.toNat + further = session.retries.toNat + 1) :
    alone Stub.network (configAt port retries) (further + 1) session now (retried.trip attempt)
        (stub.scripted left requests) =
      (if left ≤ further then (last, [(0, outcome)]) else (session, [(0, .failed unavailable)]),
        stub.scripted (left - min left (further + 1))
          (requests ++ List.replicate (min left further + 1) retried.recorded)) := by
  induction left generalizing further attempt requests now with
  | zero =>
    obtain ⟨answer, decodes, ends⟩ := succeeds attempt
    obtain ⟨due, launched⟩ := retried.launch_answered stub requests port retries attempt now decodes
    rw [alone_of_finished launched rfl ends, if_pos (Nat.zero_le further), Nat.zero_min,
      Nat.zero_min]
    rfl
  | succ left inductionHypothesis =>
    obtain ⟨due, launched⟩ :=
      retried.launch_refused stub left requests port retries attempt now
    have received := retried.receive_error session attempt unavailable
    cases further with
    | zero =>
      -- As many attempts have been made as are allowed.
      have noMore : ¬ attempt ≤ session.retries := by
        rw [UInt32.le_iff_toNat_le]
        omega
      rw [if_neg noMore] at received
      rw [alone_of_finished launched rfl received, if_neg (Nat.not_succ_le_zero left),
        Nat.min_zero, Nat.min_eq_right (Nat.succ_le_succ (Nat.zero_le left))]
      rfl
    | succ further =>
      have more : attempt ≤ session.retries := by
        rw [UInt32.le_iff_toNat_le]
        omega
      have next : (attempt + 1).toNat = attempt.toNat + 1 := by
        rw [UInt32.toNat_add, UInt32.toNat_one]
        exact Nat.mod_eq_of_lt (by omega)
      rw [if_pos more] at received
      rw [alone_of_waiting launched rfl received, inductionHypothesis further (attempt + 1) _ _
        (by omega), Nat.succ_min_succ, Nat.succ_min_succ, Nat.succ_sub_succ]
      simp only [Nat.add_le_add_iff_right, List.append_assoc, List.singleton_append,
        ← List.replicate_succ]

/-- A call with such a trip, from its first attempt on. -/
theorem perform_eq (retried : Retried) (stub : Stub) (port : Nat) {call : Call}
    {session started last : Session} {outcome : Outcome} (failures : Nat)
    (starts : session.start call = (started, [retried.trip 1]))
    (few : started.retries.toNat < 2 ^ 32 - 1)
    (succeeds : ∀ attempt, ∃ answer, (retried.trip attempt).endpoint.decode
        (Json.compact (stub.route retried.recorded).body) = .ok answer ∧
      started.receive (retried.trip attempt) (.ok answer) = (last, .finished outcome)) :
    session.perform Stub.network (configAt port started.retries) call (stub.failNext failures) =
      (if failures ≤ started.retries.toNat then (last, Result.ofOutcomes? call [outcome])
        else (started, Result.ofOutcomes? call [.failed unavailable]),
        stub.scripted (failures - min failures (started.retries.toNat + 1))
          (stub.requests ++
            List.replicate (min failures started.retries.toNat + 1) retried.recorded)) := by
  have ends := retried.alone_eq stub port started.retries few succeeds failures
    started.retries.toNat 1 stub.requests 0 (Nat.add_comm _ _)
  by_cases enough : failures ≤ started.retries.toNat
  · rw [if_pos enough] at ends ⊢
    exact perform_of_single starts ends
  · rw [if_neg enough] at ends ⊢
    exact perform_of_single starts ends

end Retried

/-! ### Calls against failures -/

/-- The types that are stored for a source. -/
def tableOf (stub : Stub) (source : String) : Json :=
  (Entries.get? source stub.tables).getD (.object [])

/-- A load and a refresh, of any session that is connected to a stand-in of which any number of
requests will fail, are requested until the failures are used up or one more attempt than retries
has been made. Every attempt is recorded and uses up a failure where there is one left. The call
succeeds exactly when there are no more failures than retries; otherwise it ends with the last
failure, and the session keeps everything but the number that a refresh has drawn. -/
theorem perform_against_failures (port : Nat) (isPort : port < 65536) (stub : Stub)
    (session : Session) (few : session.retries.toNat < 2 ^ 32 - 1) (failures : Nat) :
    ∃ base, Stub.config? ("127.0.0.1:" ++ toString port) = .ok base ∧
      (∀ catalog, Endpoint.decode .catalog (Json.compact stub.catalog) = .ok catalog →
        session.perform Stub.network { base with retries := session.retries } .loadCatalog
            (stub.failNext failures) =
          (if failures ≤ session.retries.toNat then
            (session.applyCatalog catalog,
              some (.single (.loaded (.ofComponents catalog.components))))
          else
            (session, some (.single (.failed unavailable))),
          { stub with
            failures := failures - min failures (session.retries.toNat + 1)
            requests := stub.requests ++ List.replicate (min failures session.retries.toNat + 1)
              ⟨"GET", "/banana/metadata", ""⟩ })) ∧
      ∀ source table, Endpoint.decode .types (Json.compact (stub.tableOf source)) = .ok table →
        session.perform Stub.network { base with retries := session.retries } (.refresh source)
            (stub.failNext failures) =
          (if failures ≤ session.retries.toNat then
            ((session.takeNumber.1.applyTable session.takeNumber.2 table).1,
              some (.single (.refreshed
                (session.takeNumber.1.applyTable session.takeNumber.2 table).2)))
          else
            (session.takeNumber.1, some (.single (.failed unavailable))),
          { stub with
            failures := failures - min failures (session.retries.toNat + 1)
            requests := stub.requests ++ List.replicate (min failures session.retries.toNat + 1)
              ⟨"POST", "/banana/metadata", source⟩ }) := by
  refine ⟨configAt port 2, config?_eq isPort, fun catalog decodes => ?_,
    fun source table decodes => ?_⟩
  · have starts : session.start .loadCatalog = (session, [Retried.catalog.trip 1]) := rfl
    exact Retried.catalog.perform_eq stub port failures starts few
      fun _ => ⟨catalog, decodes, rfl⟩
  · have starts : session.start (.refresh source) =
        (session.takeNumber.1, [(Retried.table session.takeNumber.2 source).trip 1]) := rfl
    exact (Retried.table session.takeNumber.2 source).perform_eq stub port failures starts few
      fun _ => ⟨table, decodes, rfl⟩

/-- A stand-in that knows the types of one source. -/
def numberStub : Stub :=
  Stub.setTable {} "x = 1" (.object [("x", .object [("id", .string "number")])])

/-- The types that it knows. -/
def numberTable : TypeTable := .ofList [("x", .number)]

/-- Two failures are met with two retries, and the third attempt brings the types. -/
theorem third_attempt_refreshes :
    ∃ base, Stub.config? ("127.0.0.1:" ++ toString 49152) = .ok base ∧
      Session.perform Stub.network { base with retries := 2 } { retries := 2 } (.refresh "x = 1")
          (numberStub.failNext 2) =
        (({ retries := 2, table := numberTable, tableNumber := 1, lastNumber := 1 },
            some (.single (.refreshed .replaced))),
          { numberStub with
            requests := List.replicate 3 ⟨"POST", "/banana/metadata", "x = 1"⟩ }) := by
  have decodes : Endpoint.decode .types (Json.compact (numberStub.tableOf "x = 1")) =
      .ok numberTable := by
    cbv
  obtain ⟨base, connected, -, refreshes⟩ := perform_against_failures 49152 (by decide) numberStub
    { retries := 2 } (by decide) 2
  exact ⟨base, connected, refreshes "x = 1" _ decodes⟩

end Banana.Stub
