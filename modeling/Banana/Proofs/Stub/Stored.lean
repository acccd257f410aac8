/-
This file says that a stand-in answers about the very source that was posted to it. What it records
of a request is the source, whatever characters that has, so what it answers with is stored under
that source and under no other one. What arrives is what is stored: the text that a JSON value is
sent as spells that value, so an answer is read from the stored value itself. A refresh that meets
no failure therefore ends with the types that are stored for its source: its number is the newest of
the session, so nothing keeps the answer from taking the place of the table.
-/

import Mathlib
import Banana.Proofs.Json.Results
import Banana.Proofs.Schema.TableHistory
import Banana.Proofs.Session.NewestTable
import Banana.Proofs.Stub.Retries
import Banana.Stub.Samples

/-! ### What a JSON value stands for -/

namespace Banana.Backend.Endpoint

/-- The answer that a JSON value stands for, read from the value and not from a text. -/
def decodeValue (endpoint : Endpoint) (json : Json) : Except Failure endpoint.Answer :=
  match endpoint.read? json.toNode with
  | some answer => .ok answer
  | none => .error .decode

/-- The text of a JSON value is decoded to what the value stands for. -/
theorem decode_compact (endpoint : Endpoint) (json : Json) :
    endpoint.decode (Json.compact json) = endpoint.decodeValue json := by
  rw [decode, Json.parse?_compact, Option.bind_some]
  rfl

theorem decodeBytes_compact (endpoint : Endpoint) (json : Json) :
    endpoint.decodeBytes (Text.encodeUtf8 (Json.compact json)) = endpoint.decodeValue json := by
  rw [decodeBytes, Json.textOfBytes_encodeUtf8, decode_compact]

end Banana.Backend.Endpoint

namespace Banana.Schema.TypeTable

open Backend

/-- Whether a variable has the type that the value of a field stands for. -/
def IsTyped (entry : String × ValueType) (field : String × Json) : Prop :=
  entry.1 = field.1 ∧
    ValueType.read? (Json.maxDepth - 1) field.2.toNode = some entry.2

/-- Whether a table shows what fields stand for, one variable for each field and in their order. Of
fields with one name the first says where the variable stands, and the last one its type. -/
structure ShowsFields (table : TypeTable) (fields : List (String × Json)) : Prop where
  shown : ∃ entries, List.Forall₂ IsTyped entries fields ∧ table.Shows entries
  inOrder : (Entries.names fields).Nodup → List.Forall₂ IsTyped table.entries fields

theorem isTyped_of_mapM_pair? {fields : List (String × Json)}
    {entries : List (String × ValueType)}
    (areRead : (Json.fieldNodes fields).mapM (pair? (Json.maxDepth - 1)) = some entries) :
    List.Forall₂ IsTyped entries fields := by
  induction fields generalizing entries with
  | nil =>
    cases areRead
    exact .nil
  | cons field rest inductionHypothesis =>
    obtain ⟨first, others, isFirst, areOthers, rfl⟩ := Json.mapM_cons_eq_some_iff.mp areRead
    simp only [pair?, Json.stringOfUnits?_unitsOf, bind, Option.bind_some,
      Option.bind_eq_some_iff, pure, Option.some.injEq] at isFirst
    obtain ⟨type, isRead, rfl⟩ := isFirst
    exact .cons ⟨rfl, isRead⟩ (inductionHypothesis areOthers)

theorem names_of_isTyped {fields : List (String × Json)} {entries : List (String × ValueType)}
    (typed : List.Forall₂ IsTyped entries fields) :
    Entries.names entries = Entries.names fields := by
  induction typed with
  | nil => rfl
  | cons first _ inductionHypothesis =>
    rw [Entries.names, List.map_cons, first.1]
    exact congrArg (_ :: ·) inductionHypothesis

/-- A table that a JSON value stands for shows the fields of the value. -/
theorem showsFields_of_decodeValue {json : Json} {table : TypeTable}
    (decodes : Endpoint.types.decodeValue json = .ok table) :
    ∃ fields, json = .object fields ∧ table.ShowsFields fields := by
  rw [Endpoint.decodeValue] at decodes
  cases json with
  | object fields =>
    have isRead : Endpoint.types.read? (Json.toNode (.object fields)) =
        ((Json.fieldNodes fields).mapM (pair? (Json.maxDepth - 1))).map ofList :=
      read?_object 126 (Json.fieldNodes fields)
    rw [isRead] at decodes
    cases areRead : (Json.fieldNodes fields).mapM (pair? (Json.maxDepth - 1)) with
    | none =>
      rw [areRead] at decodes
      cases decodes
    | some entries =>
      rw [areRead] at decodes
      cases decodes
      have typed := isTyped_of_mapM_pair? areRead
      refine ⟨fields, rfl, ⟨entries, typed, shows_ofList entries⟩, fun distinct => ?_⟩
      have sameEntries : (ofList entries).entries = entries :=
        Entries.ofList_eq_self (names_of_isTyped typed ▸ distinct)
      rwa [sameEntries]
  | _ => cases decodes

end Banana.Schema.TypeTable

namespace Banana.Stub

open Backend Http Session Schema

/-! ### What is stored for a source -/

/-- What a stand-in has stored for an endpoint about a source, or says where nothing is stored. -/
def stored (stub : Stub) (source : String) : Endpoint → Json
  | .catalog => stub.catalog
  | .types => stub.tableOf source
  | .check | .submission =>
    (Entries.get? source stub.reports).getD
      (.object [("errors", .array []), ("warnings", .array [])])

theorem getD_get?_put {α : Type} (key name : String) (value default : α)
    (entries : List (String × α)) :
    (Entries.get? name (Entries.put key value entries)).getD default =
      if key = name then value else (Entries.get? name entries).getD default := by
  by_cases same : key = name
  · rw [if_pos same, same, Entries.get?_put_self]
    rfl
  · rw [if_neg same, Entries.get?_put_of_ne (Ne.symm same)]

/-- Types are stored for one source and change nothing for any other one. -/
theorem stored_setTable (stub : Stub) (key source : String) (table : Json) (endpoint : Endpoint) :
    (stub.setTable key table).stored source endpoint =
      if endpoint = .types ∧ key = source then table else stub.stored source endpoint := by
  have put := getD_get?_put key source table (.object []) stub.tables
  cases endpoint <;> simp [stored, tableOf, setTable, put]

/-- A report is stored for one source and changes nothing for any other one. -/
theorem stored_setReport (stub : Stub) (key source : String) (report : Json)
    (endpoint : Endpoint) :
    (stub.setReport key report).stored source endpoint =
      if (endpoint = .check ∨ endpoint = .submission) ∧ key = source then report
      else stub.stored source endpoint := by
  have put := getD_get?_put key source report
    (.object [("errors", .array []), ("warnings", .array [])]) stub.reports
  cases endpoint <;> simp [stored, tableOf, setReport, put]

theorem route_source (stub : Stub) {endpoint : Endpoint} (isPosted : endpoint ≠ .catalog)
    (source : String) :
    stub.route ⟨"POST", Config.default.path endpoint, source⟩ =
      ⟨200, stub.stored source endpoint⟩ := by
  cases endpoint with
  | catalog => exact absurd rfl isPosted
  | types => rfl
  | check => rfl
  | submission => rfl

/-! ### One request -/

/-- Whether a stand-in answers about a source within a time limit: it has no failure left to give,
and is not told to take longer. -/
structure AnswersInTime (stub : Stub) (source : String) (limit : Option Nat) : Prop where
  noFailure : stub.failures = 0
  inTime : ∀ time, limit = some time → (Entries.get? source stub.delays).getD 0 ≤ time

/-- Whatever becomes of a request, it is recorded. -/
theorem requests_of_exchange (stub : Stub) (request : Request) (limit : Option Nat) :
    (stub.exchange request limit).2.requests = stub.requests ++ [recordedOf request] := by
  unfold exchange
  generalize recordedOf request = recorded
  dsimp only
  split
  · rfl
  · unfold answer
    split <;> rfl

/-- A request that meets no failure and is answered in time is answered by the script. -/
theorem exchange_of_inTime (stub : Stub) (request : Request) {limit : Option Nat}
    (inTime : stub.AnswersInTime (recordedOf request).content limit) :
    ∃ delay, stub.exchange request limit =
      (⟨.answer (stub.route (recordedOf request)).status
          (Text.encodeUtf8 (Json.compact (stub.route (recordedOf request)).body)), delay⟩,
        stub.record (recordedOf request)) := by
  unfold exchange
  generalize recordedOf request = recorded at inTime
  have answered : (stub.record recorded).answer recorded =
      (stub.record recorded, stub.route recorded) := by
    unfold answer
    split
    · rfl
    next left some => exact absurd (inTime.noFailure.symm.trans some) (Nat.succ_ne_zero left).symm
  dsimp only
  split
  next time late =>
    obtain ⟨isLimit, before⟩ := Option.filter_eq_some_iff.mp late
    exact absurd (inTime.inTime time isLimit) (Nat.not_le_of_lt (of_decide_eq_true before))
  · rw [answered]
    exact ⟨_, rfl⟩

/-! ### Any source -/

/-- The configuration for a stand-in at a port, with a time limit. -/
def limitedConfigAt (port : Nat) (retries : UInt32) (limit : Option Nat) : Config :=
  { configAt port retries with timeout := limit }

/-- What is requested does not depend on how long an answer may take. -/
theorem request?_withTimeout (config : Config) (limit : Option Nat) (endpoint : Endpoint)
    (content : String) :
    request? { config with timeout := limit } endpoint content =
      request? config endpoint content := by
  have sameUrl : Config.url? { config with timeout := limit } endpoint = config.url? endpoint := by
    cases endpoint <;> simp only [Config.url?, Config.urlAt?, Config.path]
  simp only [request?, sameUrl]

section Ask

variable (stub : Stub) (port : Nat) (retries : UInt32) (limit : Option Nat) {endpoint : Endpoint}
  (isPosted : endpoint ≠ .catalog) (source : String)

theorem request?_limitedConfigAt :
    request? (limitedConfigAt port retries limit) endpoint source =
      .ok (requestFor endpoint (endpointUrl port endpoint) source) := by
  rw [limitedConfigAt, request?_withTimeout, request?_configAt]

theorem ask_limitedConfigAt :
    ask Stub.network (limitedConfigAt port retries limit) endpoint source stub =
      let exchanged := stub.exchange (requestFor endpoint (endpointUrl port endpoint) source) limit
      (⟨readReply endpoint (limit.getD 0) exchanged.1.reply, exchanged.1.delay⟩, exchanged.2) := by
  rw [ask_of_request (request?_limitedConfigAt port retries limit source)]
  rfl

include isPosted

/-- Whatever becomes of a request about a source, it is recorded with that source. -/
theorem requests_of_ask :
    (ask Stub.network (limitedConfigAt port retries limit) endpoint source stub).2.requests =
      stub.requests ++ [⟨"POST", Config.default.path endpoint, source⟩] := by
  rw [ask_limitedConfigAt, requests_of_exchange, recordedOf_source port isPosted]

/-- A request about a source is answered with what is stored for that source. -/
theorem exchange_source (inTime : stub.AnswersInTime source limit) :
    ∃ delay, stub.exchange (requestFor endpoint (endpointUrl port endpoint) source) limit =
      (⟨.answer 200 (Text.encodeUtf8 (Json.compact (stub.stored source endpoint))), delay⟩,
        stub.record ⟨"POST", Config.default.path endpoint, source⟩) := by
  have recorded := recordedOf_source port isPosted source
  have sameContent : stub.AnswersInTime
      (recordedOf (requestFor endpoint (endpointUrl port endpoint) source)).content limit := by
    rwa [recorded]
  have exchanged := exchange_of_inTime stub _ sameContent
  rwa [recorded, route_source stub isPosted] at exchanged

theorem answer_of_ask (inTime : stub.AnswersInTime source limit) :
    (ask Stub.network (limitedConfigAt port retries limit) endpoint source stub).1.answer =
      endpoint.decodeValue (stub.stored source endpoint) := by
  obtain ⟨delay, exchanged⟩ := stub.exchange_source port limit isPosted source inTime
  rw [ask_limitedConfigAt, exchanged]
  exact endpoint.decodeBytes_compact (stub.stored source endpoint)

end Ask

/-- A refresh that is made alone and answered in time ends at its first attempt, with the types that
are stored for its source. -/
theorem perform_refresh_of_inTime (stub : Stub) (port : Nat) (retries : UInt32)
    {limit : Option Nat} {session : Session} {source : String}
    (inTime : stub.AnswersInTime source limit) {table : TypeTable}
    (decodes : Endpoint.types.decodeValue (stub.stored source .types) = .ok table) :
    session.perform Stub.network (limitedConfigAt port retries limit) (.refresh source) stub =
      (((session.takeNumber.1.applyTable session.takeNumber.2 table).1,
          some (.single (.refreshed
            (session.takeNumber.1.applyTable session.takeNumber.2 table).2))),
        stub.record ⟨"POST", Config.default.path .types, source⟩) := by
  have isPosted : Endpoint.types ≠ .catalog := nofun
  obtain ⟨delay, exchanged⟩ := stub.exchange_source port limit isPosted source inTime
  let trip : Trip := .refresh session.takeNumber.2 source 1
  have sends : request? (limitedConfigAt port retries limit) trip.endpoint
      (trip.content.getD "") = .ok (requestFor .types (endpointUrl port .types) source) :=
    request?_limitedConfigAt port retries limit source
  have answered : trip.answerTo (limitedConfigAt port retries limit)
      (.answer 200 (Text.encodeUtf8 (Json.compact (stub.stored source .types)))) = .ok table := by
    rw [Trip.answerTo, answerTo_of_request sends]
    exact (Endpoint.decodeBytes_compact .types _).trans decodes
  have launched : launch Stub.network (limitedConfigAt port retries limit) 0 0 trip stub = _ :=
    launch_of_exchange sends exchanged
  rw [answered] at launched
  exact perform_of_single rfl (alone_of_finished launched rfl rfl)

/-- The answer to the refresh that has started last takes the place of the table, if it has
variables. -/
theorem applyTable_of_reachable {work : Work} (reachable : work.Reachable) {table : TypeTable}
    (filled : table.isEmpty = false) :
    work.session.takeNumber.1.applyTable work.session.takeNumber.2 table =
      ({ work.session with
          table := table
          tableNumber := work.session.lastNumber + 1
          lastNumber := work.session.lastNumber + 1 }, .replaced) := by
  have drawn := reachable.tableNumber_le
  rcases applyTable_cases work.session.takeNumber.1 work.session.takeNumber.2 table with
    ⟨older, -⟩ | ⟨-, isEmpty, -⟩ | ⟨-, -, replaced⟩
  · exact absurd older (Nat.not_lt_of_le (Nat.le_succ_of_le drawn))
  · exact absurd (filled.symm.trans isEmpty) Bool.false_ne_true
  · exact replaced

/-- A source that is posted to a stand-in arrives as it is, whatever characters it has: it is
recorded with the request, also where the request fails or comes to nothing in time. What is stored
under that source decides the answer, and what is stored under any other source does not. The answer
is the decoding of the stored value, of which the text that is sent loses nothing: it spells the
value again if the numbers in it are ones that are read as they are written. A refresh that is made
alone, in any session and with any retries and time limit, while the stand-in answers in time, ends
with the types that are stored for its source if there are any; the table shows the fields of the
stored value, key by key and in its order. -/
theorem posted_source_decides_answer (port : Nat) (isPort : port < 65536) (stub : Stub)
    (source : String) :
    ∃ base, Stub.config? ("127.0.0.1:" ++ toString port) = .ok base ∧
      (∀ key json endpoint,
        (stub.setTable key json).stored source endpoint =
            (if endpoint = .types ∧ key = source then json else stub.stored source endpoint) ∧
          (stub.setReport key json).stored source endpoint =
            (if (endpoint = .check ∨ endpoint = .submission) ∧ key = source then json
            else stub.stored source endpoint)) ∧
      (∀ endpoint,
        endpoint.decode (Json.compact (stub.stored source endpoint)) =
            endpoint.decodeValue (stub.stored source endpoint) ∧
          (Json.IsReadable Json.maxDepth (stub.stored source endpoint) →
            Json.ReadsBack (stub.stored source endpoint) →
            Json.parse? (Json.compact (stub.stored source endpoint)) =
              some (stub.stored source endpoint))) ∧
      ∀ retries limit,
        (∀ endpoint, endpoint ≠ .catalog →
          (ask Stub.network { base with retries := retries, timeout := limit } endpoint source
              stub).2.requests = stub.requests ++ [⟨"POST", base.path endpoint, source⟩] ∧
            (stub.AnswersInTime source limit →
              (ask Stub.network { base with retries := retries, timeout := limit } endpoint source
                  stub).1.answer = endpoint.decodeValue (stub.stored source endpoint))) ∧
        ∀ work : Work, work.Reachable → stub.AnswersInTime source limit →
          ∀ table, Endpoint.types.decodeValue (stub.stored source .types) = .ok table →
            table.isEmpty = false →
            work.session.perform Stub.network { base with retries := retries, timeout := limit }
                (.refresh source) stub =
              (({ work.session with
                    table := table
                    tableNumber := work.session.lastNumber + 1
                    lastNumber := work.session.lastNumber + 1 },
                  some (.single (.refreshed .replaced))),
                stub.record ⟨"POST", base.path .types, source⟩) ∧
              ∃ fields, stub.stored source .types = .object fields ∧ table.ShowsFields fields ∧
                ((Entries.names fields).Nodup → table.names = Entries.names fields) := by
  have sameConfig (retries : UInt32) (limit : Option Nat) :
      { configAt port 2 with retries := retries, timeout := limit } =
        limitedConfigAt port retries limit := rfl
  have samePath (endpoint : Endpoint) :
      (configAt port 2).path endpoint = Config.default.path endpoint := by
    cases endpoint <;> rfl
  refine ⟨configAt port 2, config?_eq isPort, fun key json endpoint =>
    ⟨stored_setTable stub key source json endpoint, stored_setReport stub key source json endpoint⟩,
    fun endpoint => ⟨endpoint.decode_compact _, fun readable readsBack => ?_⟩,
    fun retries limit => ?_⟩
  · rw [Json.parse?, Json.parse?_compact]
    exact Json.value?_toNode_of_readsBack readable readsBack
  rw [sameConfig]
  simp only [samePath]
  refine ⟨fun endpoint isPosted => ⟨requests_of_ask stub port retries limit isPosted source,
    fun inTime => answer_of_ask stub port retries limit isPosted source inTime⟩,
    fun work reachable inTime table decodes filled => ⟨?_, ?_⟩⟩
  · rw [perform_refresh_of_inTime stub port retries inTime decodes,
      applyTable_of_reachable reachable filled]
  · obtain ⟨fields, isStored, shows⟩ := TypeTable.showsFields_of_decodeValue decodes
    exact ⟨fields, isStored, shows, fun distinct =>
      TypeTable.names_of_isTyped (shows.inOrder distinct)⟩

/-- A source with a quote, a backslash, a line end, a control character and a character of four
bytes. -/
def awkwardSource : String := "x = \"\\\n\u0001🍌\""

/-- A stand-in that knows the types of that source, of which one has a default that is no integer,
and others for a source that is like it. -/
def awkwardStub : Stub :=
  (Stub.setTable {} "x = \"\\n\"" (.object [("y", sampleKind "string")])).setTable awkwardSource
    sampleTable

/-- A new session gets the types of that source in their order, and the source is recorded as it
is. -/
theorem awkward_source_refreshes :
    ∃ base table, Stub.config? ("127.0.0.1:" ++ toString 49152) = .ok base ∧
      (Work.initial 2).session.perform Stub.network { base with retries := 2, timeout := some 100 }
          (.refresh awkwardSource) awkwardStub =
        (({ retries := 2, table := table, tableNumber := 1, lastNumber := 1 },
            some (.single (.refreshed .replaced))),
          awkwardStub.record ⟨"POST", base.path .types, awkwardSource⟩) ∧
      table.names = ["src", "ldp", "sink"] := by
  have isRead : (Endpoint.types.read? sampleTable.toNode).map TypeTable.isEmpty = some false := by
    decide +kernel
  obtain ⟨table, read, filled⟩ := Option.map_eq_some_iff.mp isRead
  have isStored : awkwardStub.stored awkwardSource .types = sampleTable := rfl
  have decodes : Endpoint.types.decodeValue (awkwardStub.stored awkwardSource .types) =
      .ok table := by
    rw [isStored, Endpoint.decodeValue, read]
  have inTime : awkwardStub.AnswersInTime awkwardSource (some 100) :=
    ⟨rfl, fun _ _ => Nat.zero_le _⟩
  obtain ⟨base, connected, -, -, answers⟩ :=
    posted_source_decides_answer 49152 (by decide) awkwardStub awkwardSource
  have reachable : (Work.initial 2).Reachable := ⟨2, .refl⟩
  obtain ⟨performed, fields, isObject, -, inOrder⟩ :=
    (answers 2 (some 100)).2 _ reachable inTime _ decodes filled
  cases isStored.symm.trans isObject
  exact ⟨base, table, connected, performed, inOrder (by decide)⟩

end Banana.Stub
