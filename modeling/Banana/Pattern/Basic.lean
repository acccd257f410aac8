/-
This file holds the patterns that lexical rules are written in, as trees. A pattern matches a run of
characters at a place of a text; of its several ways to match there the first one counts, in the
order of the alternatives, longest repetition first where it is greedy.
-/

namespace Banana

namespace Pattern

/-- A set of characters, given by ranges or by everything outside them. -/
structure CharSet where
  negated : Bool
  ranges : List (Char × Char)
  deriving DecidableEq

/-- Whether a character belongs to a set. -/
def CharSet.contains (set : CharSet) (c : Char) : Bool :=
  (set.ranges.any fun (low, high) => low ≤ c && c ≤ high) != set.negated

/-- The set of one character. -/
def CharSet.single (c : Char) : CharSet := ⟨false, [(c, c)]⟩

/-- The set of everything but a line feed. -/
def CharSet.withoutFeed : CharSet := ⟨true, [('\n', '\n')]⟩

/-- A condition on a place of a text. -/
inductive Anchor where
  | start
  | finish
  deriving DecidableEq

/-- How a repetition goes on: as often as it can, as rarely as it can, or as often as it can and
never less often afterwards. -/
inductive Manner where
  | greedy
  | reluctant
  | possessive
  deriving DecidableEq

end Pattern

/-- A pattern. -/
inductive Pattern where
  | empty
  | one (set : Pattern.CharSet)
  | anchor (anchor : Pattern.Anchor)
  | sequence (first second : Pattern)
  | either (first second : Pattern)
  | capture (index : Nat) (inner : Pattern)
  | repeated (inner : Pattern) (least : Nat) (most : Option Nat) (greedy : Bool)
  | ahead (positive : Bool) (inner : Pattern)
  | once (inner : Pattern)
  deriving DecidableEq

namespace Pattern

/-- A pattern for one fixed character. -/
def char (c : Char) : Pattern := .one (.single c)

/-- Whether a repetition may be put on the pattern: not on nothing, and not on a mere condition. -/
def isRepeatable : Pattern → Bool
  | .empty | .anchor _ | .ahead _ _ => false
  | _ => true

end Pattern

end Banana
