/-
This file holds a stand-in for the type checker that answers from a script. It records every
request. A request is about the `content` of its JSON body; the script says which types and which
report belong to a content, how long answers about it take, and how many of the next requests fail.
-/

import Banana.Json.Write
import Banana.Json.Node
import Banana.Text.Utf8

namespace Banana

namespace Stub

/-- A request as the stand-in records it. -/
structure Recorded where
  method : String
  path : String
  content : String
  deriving DecidableEq

/-- What the stand-in answers. -/
structure Response where
  status : Nat
  body : Json

end Stub

/-- The script of a stand-in and what it has recorded. -/
structure Stub where
  catalog : Json := .object [("components", .array [])]
  tables : List (String × Json) := []
  reports : List (String × Json) := []
  /-- How many milliseconds later the answers about a content come. -/
  delays : List (String × Nat) := []
  /-- How many of the next requests fail. -/
  failures : Nat := 0
  requests : List Stub.Recorded := []

namespace Stub

/-! ### Script -/

/-- Sets the catalog. -/
def setCatalog (stub : Stub) (catalog : Json) : Stub :=
  { stub with catalog := catalog }

/-- Sets the types of a content. -/
def setTable (stub : Stub) (content : String) (table : Json) : Stub :=
  { stub with tables := Entries.put content table stub.tables }

/-- Sets the report on a content. -/
def setReport (stub : Stub) (content : String) (report : Json) : Stub :=
  { stub with reports := Entries.put content report stub.reports }

/-- Sets how much later the answers about a content come. -/
def setDelay (stub : Stub) (content : String) (delay : Nat) : Stub :=
  { stub with delays := Entries.put content delay stub.delays }

/-- Lets the next requests fail, however many were to fail before. -/
def failNext (stub : Stub) (count : Nat) : Stub :=
  { stub with failures := count }

/-! ### Requests -/

/-- The content that the body of a request names; the empty text where there is none. -/
def contentOf (body : List UInt8) : String :=
  match (Text.decodeUtf8? body).bind Json.parse? with
  | some (.object fields) =>
    match Entries.get? "content" fields with
    | some (.string content) => content
    | _ => ""
  | _ => ""

/-- The stand-in after a request has come in. -/
def record (stub : Stub) (request : Recorded) : Stub :=
  { stub with requests := stub.requests ++ [request] }

/-- How much later the answer to a request comes. -/
def delayOf (stub : Stub) (request : Recorded) : Nat :=
  (Entries.get? request.content stub.delays).getD 0

/-- The answer to a request that does not fail. -/
def route (stub : Stub) (request : Recorded) : Response :=
  let report := (Entries.get? request.content stub.reports).getD
    (.object [("errors", .array []), ("warnings", .array [])])
  match request.method, request.path with
  | "GET", "/banana/metadata" => ⟨200, stub.catalog⟩
  | "POST", "/banana/metadata" =>
    ⟨200, (Entries.get? request.content stub.tables).getD (.object [])⟩
  | "POST", "/banana/typeck" | "POST", "/banana" => ⟨200, report⟩
  | _, _ => ⟨404, .object [("error", .string "Not Found")]⟩

/-- Answers a recorded request; one that is to fail uses up a failure. -/
def answer (stub : Stub) (request : Recorded) : Stub × Response :=
  match stub.failures with
  | 0 => (stub, stub.route request)
  | left + 1 =>
    ({ stub with failures := left },
      ⟨503, .object [("error", .string "type checker unavailable")]⟩)

end Stub

end Banana
