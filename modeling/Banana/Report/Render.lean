/-
This file prints markers for a terminal: a headline with the level and the message, the place, and
when the line exists an excerpt of it over a row of carets. The excerpt has a gutter as wide as the
line number. On a marker that stops on another line the carets run for as many columns as the line
has bytes from the marker's column on; otherwise they run from the start column to the stop column.
There is always at least one caret.
-/

import Banana.Source.File
import Banana.Report.Marker

namespace Banana.Report

open Source

/-- The escape codes put around the parts of a rendered marker. -/
structure Paint where
  reset : String
  bold : String
  blue : String
  level : Level → String

/-- No colours: every code is empty. -/
def Paint.plain : Paint := ⟨"", "", "", fun _ => ""⟩

/-- The colours of an ANSI terminal. -/
def Paint.ansi : Paint where
  reset := "\x1b[0m"
  bold := "\x1b[1m"
  blue := "\x1b[1;34m"
  level
    | .error => "\x1b[1;31m"
    | .warning => "\x1b[1;33m"

/-- A row of one character. -/
def row (c : Char) (count : Nat) : String :=
  String.ofList (List.replicate count c)

/-- How many columns of the excerpt stand before the carets. -/
def Marker.indent (marker : Marker) : Nat :=
  max marker.span.start.column 1 - 1

/-- How many carets underline the excerpt of a line. -/
def Marker.caretCount (marker : Marker) (line : String) : Nat :=
  if marker.span.isSingleLine then
    max (marker.span.stop.column - marker.span.start.column) 1
  else
    max (line.utf8ByteSize - marker.indent) 1

/-- The three lines of an excerpt: an empty gutter, the source line, and the carets under it. -/
def Marker.excerpt (paint : Paint) (marker : Marker) (line : String) : List String :=
  let number := toString marker.span.start.line
  let gutter := row ' ' number.length
  let caretLine := row ' ' marker.indent ++ paint.level marker.level ++
    row '^' (marker.caretCount line) ++ paint.reset
  [" " ++ gutter ++ " " ++ paint.blue ++ "|" ++ paint.reset,
    " " ++ paint.blue ++ number ++ paint.reset ++ " |" ++ paint.reset ++ " " ++ line,
    " " ++ gutter ++ " " ++ paint.blue ++ "|" ++ paint.reset ++ " " ++ caretLine]

/-- The headline of a marker. -/
def Marker.headline (paint : Paint) (marker : Marker) : String :=
  paint.level marker.level ++ marker.level.name ++ paint.reset ++ paint.bold ++ ": " ++
    marker.message ++ paint.reset

/-- The line that says where a marker starts. -/
def Marker.location (paint : Paint) (file : File) (marker : Marker) : String :=
  " " ++ paint.blue ++ "-->" ++ paint.reset ++ " " ++ file.name ++ ":" ++
    toString marker.span.start.line ++ ":" ++ toString marker.span.start.column

/-- The lines of a rendered marker; a marker on a line the file does not have shows no excerpt. -/
def Marker.rows (paint : Paint) (file : File) (marker : Marker) : List String :=
  [marker.headline paint, marker.location paint file] ++
    match file.line? marker.span.start.line with
    | some line => marker.excerpt paint line
    | none => []

/-- A marker as text, every line of it ended. -/
def Marker.render (paint : Paint) (file : File) (marker : Marker) : String :=
  String.join ((marker.rows paint file).map (· ++ "\n"))

/-- Markers as text, with an empty line between two of them. -/
def renderAll (paint : Paint) (file : File) (markers : List Marker) : String :=
  "\n".intercalate (markers.map (Marker.render paint file))

end Banana.Report
