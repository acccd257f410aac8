/-
This file brings texts into the form in which a character with marks on it is one character wherever
there is such a character. The text is first taken apart, its marks are put into the order of their
combining classes, and then each mark that nothing keeps from its character goes into it.
-/

import Banana.Character.CombiningClass
import Banana.Character.Composite

namespace Banana.Text

open Character

/-- The characters that a character is made of. Only the first of two parts is ever made of others,
and that no more than `depth` times. -/
def parts : (depth : Nat) → Char → List Char
  | 0, c => [c]
  | depth + 1, c =>
    match split? c with
    | some (first, second) => parts depth first ++ [second]
    | none => [c]

/-- Puts a character before an ordered text; a mark goes behind the marks of smaller classes. -/
def insertMark (c : Char) : List Char → List Char
  | [] => [c]
  | next :: rest =>
    if combiningClass next ≠ 0 ∧ combiningClass next < combiningClass c then
      next :: insertMark c rest
    else
      c :: next :: rest

/-- A text taken apart, with its marks in order. -/
def decomposed (text : List Char) : List Char :=
  (text.flatMap (parts 3)).foldr insertMark []

/-- Whether nothing between a character and a mark keeps the two apart; `between` are the marks
between them. -/
def reaches (between : List Char) (mark : Char) : Bool :=
  match between.getLast? with
  | some last => combiningClass last < combiningClass mark
  | none => true

/-- The composed form of a character, some marks that stay behind it and a text that goes on. -/
def composeFrom (first : Char) (marks : List Char) : List Char → List Char
  | [] => first :: marks
  | c :: rest =>
    match if reaches marks c then join? first c else none with
    | some whole => composeFrom whole marks rest
    | none =>
      if combiningClass c = 0 then
        first :: marks ++ composeFrom c [] rest
      else
        composeFrom first (marks ++ [c]) rest

/-- A text in which marks are part of their characters wherever they can be. -/
def composed (text : List Char) : List Char :=
  let apart := decomposed text
  let isMark (c : Char) := combiningClass c != 0
  match apart.dropWhile isMark with
  | first :: rest => apart.takeWhile isMark ++ composeFrom first [] rest
  | [] => apart

end Banana.Text
