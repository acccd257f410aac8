/-
This file holds the ways in which an exchange with the type checker can fail.
-/

import Banana.Url.Basic

namespace Banana.Backend

/-- Why there is no answer of the expected kind. -/
inductive Failure where
  /-- The connection was refused or broke down. -/
  | transport (reason : String)
  /-- The answer was a refusal. -/
  | status (code : Nat) (body : String)
  /-- The body of the answer was not what was expected. -/
  | decode
  | invalidUrl (fault : Url.Fault)
  /-- A file could not be read. -/
  | file (reason : String)
  /-- No answer came in time. -/
  | timeout (limit : Nat)
  | configuration (reason : String)
  deriving DecidableEq

/-- What is said about a failure. -/
def Failure.message : Failure → String
  | transport reason => "transport error: " ++ reason
  | status code body => "backend returned " ++ toString code ++ ": " ++ body
  | decode => "invalid response body"
  | invalidUrl fault => "invalid url: " ++ fault.message
  | file reason => "IO error: " ++ reason
  | timeout limit => "request timed out after " ++ toString limit ++ " ms"
  | configuration reason => "configuration error: " ++ reason

end Banana.Backend
