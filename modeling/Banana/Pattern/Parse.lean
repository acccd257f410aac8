/-
This file builds the tree of a pattern from its tokens, one token at a time, with the groups that
are still open in a list. A pattern is malformed when a parenthesis has no partner, when a
repetition stands where there is nothing to repeat or has its bounds reversed, and when groups are
nested too deeply.
-/

import Banana.Pattern.Token

namespace Banana.Pattern

/-- A part of a pattern that is still growing: the finished alternatives, the parts of the current
one, both in reverse, and the last part, on which a repetition may still be put. -/
structure Growing where
  alternatives : List Pattern := []
  parts : List Pattern := []
  last : Pattern := .empty

/-- Parts in reverse order as one pattern. -/
def joinParts : List Pattern → Pattern
  | [] => .empty
  | [part] => part
  | part :: before => .sequence (joinParts before) part

/-- Alternatives in reverse order as one pattern. -/
def joinAlternatives : Pattern → List Pattern → Pattern
  | last, [] => last
  | last, alternative :: before => joinAlternatives (.either alternative last) before

namespace Growing

/-- Makes a pattern the last part; parts that match nothing but the empty text are left out. -/
def add (growing : Growing) (part : Pattern) : Growing :=
  match growing.last with
  | .empty => { growing with last := part }
  | previous => { growing with parts := previous :: growing.parts, last := part }

/-- The current alternative as one pattern. -/
def current (growing : Growing) : Pattern :=
  match growing.last with
  | .empty => joinParts growing.parts
  | last => joinParts (last :: growing.parts)

/-- Ends the current alternative and starts the next one. -/
def nextAlternative (growing : Growing) : Growing where
  alternatives := growing.current :: growing.alternatives

/-- The finished pattern. -/
def finish (growing : Growing) : Pattern :=
  joinAlternatives growing.current growing.alternatives

/-- Puts a repetition on the last part. -/
def repeatLast? (growing : Growing) (least : Nat) (most : Option Nat) (manner : Manner) :
    Option Growing :=
  if growing.last.isRepeatable && most.all (least ≤ ·) then
    let part := Pattern.repeated growing.last least most (manner != .reluctant)
    some { growing with last := if manner = .possessive then .once part else part }
  else
    none

end Growing

/-- The state of the reader: the innermost open part, the groups around it with what each started
as, and how many capturing groups have been opened. -/
structure Reader where
  inner : Growing := {}
  outer : List (GroupKind × Nat × Growing) := []
  captures : Nat := 0

/-- How many groups may be open at a time. -/
def maxNesting : Nat := 63

/-- What a group with some inside stands for. -/
def groupPattern (kind : GroupKind) (index : Nat) (inside : Pattern) : Pattern :=
  match kind with
  | .capturing => .capture index inside
  | .plain => inside
  | .ahead positive => .ahead positive inside
  | .once => .once inside

/-- The state of the reader after a token. -/
def Reader.step (reader : Reader) : Token → Option Reader
  | .openGroup kind =>
    if reader.outer.length < maxNesting then
      let index := if kind = .capturing then reader.captures + 1 else reader.captures
      some { inner := {}, outer := (kind, index, reader.inner) :: reader.outer, captures := index }
    else
      none
  | .closeGroup =>
    match reader.outer with
    | [] => none
    | (kind, index, around) :: outer =>
      some { reader with
        inner := around.add (groupPattern kind index reader.inner.finish)
        outer := outer }
  | .bar => some { reader with inner := reader.inner.nextAlternative }
  | .one set => some { reader with inner := reader.inner.add (.one set) }
  | .anchor condition => some { reader with inner := reader.inner.add (.anchor condition) }
  | .quantifier least most manner =>
    (reader.inner.repeatLast? least most manner).map fun inner => { reader with inner := inner }

/-- The pattern that a text spells, unless the text is malformed. -/
def parse? (text : List Char) : Option Pattern :=
  match (tokens? text).bind fun tokens => tokens.foldlM Reader.step {} with
  | some { inner, outer := [], .. } => some inner.finish
  | _ => none

end Banana.Pattern
