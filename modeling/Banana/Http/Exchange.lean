/-
This file holds single exchanges over HTTP as a network sees them: a request goes out, and an answer
comes back after some time, or the connection breaks, or nothing comes in time. A network is any
way of turning requests into replies, with effects of its own.
-/

import Banana.Url.Basic

namespace Banana.Http

/-- What is done at a URL. -/
inductive Method where
  | get
  | post
  deriving DecidableEq

/-- The word for a method. -/
def Method.name : Method → String
  | get => "GET"
  | post => "POST"

/-- A request. Every request states JSON as the type of its body and as the type it accepts. -/
structure Request where
  method : Method
  url : Url
  body : String

/-- What comes back. -/
inductive Reply where
  | answer (status : Nat) (body : List UInt8)
  | broken (reason : String)
  | late

/-- A reply, and how many milliseconds after the request it comes. -/
structure Exchange where
  reply : Reply
  delay : Nat

/-- A way to exchange requests for replies, within a time limit if there is one. -/
structure Network (m : Type → Type) where
  exchange : Request → Option Nat → m Exchange

/-- What is said when no connection can be made. -/
def cannotConnect : String := "client error (Connect)"

/-- The network that reaches nothing. -/
def Network.unreachable : Network Id where
  exchange _ _ := ⟨.broken cannotConnect, 0⟩

end Banana.Http
