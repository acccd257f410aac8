/-
This file holds a named source text as the renderer and the editor see it: a list of lines,
numbered from one.
-/

import Banana.Text.Lines

namespace Banana.Source

/-- A source text and the name it is reported under. -/
structure File where
  name : String
  source : String
  deriving DecidableEq

/-- The lines of the file, in order. -/
def File.lines (file : File) : List (List Char) :=
  Text.lines file.source.toList

/-- How many lines the file has; a file has at least one. -/
def File.lineCount (file : File) : Nat :=
  file.lines.length

/-- The line with a number, counted from one; there is no line zero. -/
def File.line? (file : File) : Nat → Option String
  | 0 => none
  | index + 1 => file.lines[index]?.map String.ofList

end Banana.Source
