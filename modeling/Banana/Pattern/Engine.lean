/-
This file holds what a highlighter asks of the engine that its patterns are for: to read the text of
a pattern, and to search a text for the pattern. Which texts are patterns and what they match is up
to the engine. The engine of this library reads a part of the usual syntax.
-/

import Banana.Pattern.Parse
import Banana.Proofs.Pattern.Travel

namespace Banana.Pattern

/-- A pattern engine. A text that is no pattern of it cannot be compiled, and a search finds nothing
where it is given up. -/
structure Engine where
  Regex : Type
  compile? : List Char → Option Regex
  find? : Regex → List Char → Option Match
  /-- A match starts and stops in the text that is searched. -/
  find?_bounds : ∀ {regex : Regex} {text : List Char} {found : Match},
    find? regex text = some found → found.start ≤ found.stop ∧ found.stop ≤ text.length

/-- The engine of this library. -/
abbrev engine : Engine where
  Regex := Pattern
  compile? := parse?
  find? := Pattern.find?
  find?_bounds := find?_bounds

end Banana.Pattern
