/-
This file connects clients to a stand-in for the type checker. A request that takes longer than its
limit is recorded, but it is given up before it is answered.
-/

import Banana.Http.Client
import Banana.Stub.Basic

namespace Banana.Stub

open Backend Http

/-- The configuration that finds a stand-in at an address. -/
def config? (address : String) : Except Failure Config :=
  Config.ofBase? ("http://" ++ address ++ "/")

/-- A request as a stand-in records it. -/
def recordedOf (request : Request) : Recorded where
  method := request.method.name
  path := String.ofList request.url.path
  content := contentOf (Text.encodeUtf8 request.body.toList)

/-- What a stand-in makes of a request within a time limit. -/
def exchange (stub : Stub) (request : Request) (limit : Option Nat) : Exchange × Stub :=
  let recorded := recordedOf request
  let waiting := stub.record recorded
  let delay := stub.delayOf recorded
  match limit.filter (· < delay) with
  | some limit => (⟨.late, limit⟩, waiting)
  | none =>
    let (next, response) := waiting.answer recorded
    (⟨.answer response.status (Text.encodeUtf8 (Json.compact response.body)), delay⟩, next)

/-- The network that reaches a stand-in. -/
def network : Network (StateM Stub) where
  exchange request limit := fun stub => stub.exchange request limit

end Banana.Stub
