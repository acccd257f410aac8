/-
This file matches patterns against a text. A match is searched for by trying the ways of a pattern
in order, each with the rest of the pattern as a continuation, and the first way that the
continuation accepts is taken. A repetition without an upper bound that has matched the empty text
does not go on, and all its iterations after the first must match something, so that every search
ends.
-/

import Banana.Pattern.Basic

namespace Banana.Pattern

/-- A place in a text: how many characters lie before it, what follows, and the groups that have
matched so far, latest first. -/
structure Cursor where
  position : Nat
  rest : List Char
  groups : List (Nat × Nat × Nat)

/-- The place after one more character, with what follows there. -/
def Cursor.advance (cursor : Cursor) (rest : List Char) : Cursor :=
  { cursor with position := cursor.position + 1, rest := rest }

/-- Whether a condition holds at a place. -/
def Anchor.holds (anchor : Anchor) (cursor : Cursor) : Bool :=
  match anchor with
  | .start => cursor.position == 0
  | .finish => cursor.rest.isEmpty

/-- A search: the place at the end of the first way that a continuation accepts. -/
abbrev Search := Cursor → (Cursor → Option Cursor) → Option Cursor

/-- Further iterations of a search, each of which matches something. There are no more of them
than characters, which `room` counts. -/
def iterate (search : Search) (greedy : Bool) : Nat → Search
  | 0, cursor, onward => onward cursor
  | room + 1, cursor, onward =>
    let again := fun _ : Unit => search cursor fun next =>
      if cursor.position < next.position then iterate search greedy room next onward else none
    if greedy then
      again () <|> onward cursor
    else
      onward cursor <|> again ()

/-- One iteration of a search or more. -/
def oneOrMore (search : Search) (greedy : Bool) : Search := fun cursor onward =>
  search cursor fun next =>
    if cursor.position < next.position then
      iterate search greedy next.rest.length next onward
    else
      onward next

/-- At most a number of iterations of a search. -/
def atMost (search : Search) (greedy : Bool) : Nat → Search
  | 0, cursor, onward => onward cursor
  | count + 1, cursor, onward =>
    let again := fun _ : Unit => search cursor fun next =>
      atMost search greedy count next onward
    if greedy then
      again () <|> onward cursor
    else
      onward cursor <|> again ()

/-- A number of iterations of a search, followed by another search. -/
def exactly (search last : Search) : Nat → Search
  | 0, cursor, onward => last cursor onward
  | count + 1, cursor, onward => search cursor fun next => exactly search last count next onward

/-- Any number of iterations of a search. -/
def zeroOrMore (search : Search) (greedy : Bool) : Search := fun cursor onward =>
  if greedy then
    oneOrMore search greedy cursor onward <|> onward cursor
  else
    onward cursor <|> oneOrMore search greedy cursor onward

/-- The ways of a pattern at a place, tried in order against a continuation. -/
def search : Pattern → Search
  | .empty, cursor, onward => onward cursor
  | .one set, cursor, onward =>
    match cursor.rest with
    | c :: rest => if set.contains c then onward (cursor.advance rest) else none
    | [] => none
  | .anchor condition, cursor, onward => if condition.holds cursor then onward cursor else none
  | .sequence first second, cursor, onward =>
    first.search cursor fun next => second.search next onward
  | .either first second, cursor, onward =>
    first.search cursor onward <|> second.search cursor onward
  | .capture index inner, cursor, onward =>
    inner.search cursor fun next =>
      onward { next with groups := (index, cursor.position, next.position) :: next.groups }
  | .repeated inner least (some most) greedy, cursor, onward =>
    exactly inner.search (atMost inner.search greedy (most - least)) least cursor onward
  | .repeated inner 0 none greedy, cursor, onward =>
    zeroOrMore inner.search greedy cursor onward
  | .repeated inner (least + 1) none greedy, cursor, onward =>
    exactly inner.search (oneOrMore inner.search greedy) least cursor onward
  | .ahead true inner, cursor, onward =>
    match inner.search cursor some with
    | some found => onward { cursor with groups := found.groups }
    | none => none
  | .ahead false inner, cursor, onward =>
    match inner.search cursor some with
    | some _ => none
    | none => onward cursor
  | .once inner, cursor, onward =>
    match inner.search cursor some with
    | some found => onward found
    | none => none

/-! ### Matches -/

/-- Where a pattern matched, counted in characters, and where its groups did. -/
structure Match where
  start : Nat
  stop : Nat
  groups : List (Nat × Nat × Nat)
  deriving DecidableEq

/-- The part of the match that a group covers, if the group took part in it. -/
def Match.group? (found : Match) (index : Nat) : Option (Nat × Nat) :=
  (found.groups.find? (·.1 == index)).map (·.2)

/-- The match of a pattern that starts at a place. -/
def matchAt? (pattern : Pattern) (cursor : Cursor) : Option Match :=
  (pattern.search cursor some).map fun found =>
    ⟨cursor.position, found.position, found.groups⟩

/-- The match of a pattern that starts earliest from a place on. -/
def findFrom? (pattern : Pattern) (position : Nat) : List Char → Option Match
  | [] => pattern.matchAt? ⟨position, [], []⟩
  | c :: rest =>
    match pattern.matchAt? ⟨position, c :: rest, []⟩ with
    | some found => some found
    | none => findFrom? pattern (position + 1) rest

/-- The match of a pattern that starts earliest in a text. -/
def find? (pattern : Pattern) (text : List Char) : Option Match :=
  pattern.findFrom? 0 text

end Banana.Pattern
