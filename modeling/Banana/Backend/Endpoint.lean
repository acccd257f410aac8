/-
This file holds the four things that the type checker can be asked for. Each has its own kind of
answer: the catalog, the types of the variables in a source, and a report on a source that is
checked or submitted.
-/

import Banana.Backend.Failure
import Banana.Json.Bytes
import Banana.Json.Write
import Banana.Report.Wire
import Banana.Schema.Wire

namespace Banana.Backend

open Schema

/-- What the type checker is asked for. -/
inductive Endpoint where
  | catalog
  | types
  | check
  | submission
  deriving DecidableEq

namespace Endpoint

/-- All endpoints. -/
def all : List Endpoint := [catalog, types, check, submission]

/-- What an endpoint answers with. -/
abbrev Answer : Endpoint → Type
  | catalog => Catalog
  | types => TypeTable
  | check => Report
  | submission => Report

/-- The answer that a node spells. -/
def read? : (endpoint : Endpoint) → Json.Node → Option endpoint.Answer
  | catalog, node => Catalog.read? Json.maxDepth node
  | types, node => TypeTable.read? Json.maxDepth node
  | check, node => Report.read? Json.maxDepth node
  | submission, node => Report.read? Json.maxDepth node

/-- The answer that a text spells. -/
def decode (endpoint : Endpoint) (text : List Char) : Except Failure endpoint.Answer :=
  match (Json.Node.parse? text).bind endpoint.read? with
  | some answer => .ok answer
  | none => .error .decode

/-- The answer that bytes spell. -/
def decodeBytes (endpoint : Endpoint) (bytes : List UInt8) : Except Failure endpoint.Answer :=
  endpoint.decode (Json.textOfBytes bytes)

end Endpoint

/-- The body of a request about a source. -/
def contentBody (content : String) : String :=
  Json.toText (.object [("content", .string content)])

end Banana.Backend
