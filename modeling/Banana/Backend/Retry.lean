/-
This file says when a failed operation is tried again: as long as no more attempts have been made
than retries are allowed. Attempts are counted from one in a 32-bit word.
-/

import Banana.Backend.Failure

namespace Banana.Backend

/-- What follows the outcome of an attempt. -/
inductive AfterAttempt (α : Type) where
  /-- One more attempt, with its number. -/
  | again (attempt : UInt32)
  | over (result : Except Failure α)

/-- What follows the outcome of an attempt with a number. -/
def afterAttempt {α : Type} (retries attempt : UInt32) : Except Failure α → AfterAttempt α
  | .ok value => .over (.ok value)
  | .error failure =>
    if attempt ≤ retries then .again (attempt + 1) else .over (.error failure)

/-- The result of an operation whose attempts from one with a given number on have the listed
outcomes, unless the list ends first, and how many of these attempts are made. -/
def attemptsFrom {α : Type} (retries attempt : UInt32) :
    List (Except Failure α) → Option (Except Failure α) × Nat
  | [] => (none, 1)
  | outcome :: rest =>
    match afterAttempt retries attempt outcome with
    | .over result => (some result, 1)
    | .again next =>
      let (result, count) := attemptsFrom retries next rest
      (result, count + 1)

/-- The result of an operation whose attempts have the listed outcomes, unless the list ends first,
and how many attempts are made. -/
def attempts {α : Type} (retries : UInt32) (outcomes : List (Except Failure α)) :
    Option (Except Failure α) × Nat :=
  attemptsFrom retries 1 outcomes

end Banana.Backend
