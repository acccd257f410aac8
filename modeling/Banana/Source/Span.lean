/-
This file holds places in a source text. Lines and columns count from one, a column counts
characters, and an offset counts bytes from zero; a span runs from its start up to, but not
including, its stop.
-/

import Banana.Text.Bytes

namespace Banana.Source

/-- A place in a source text, in the three coordinates an editor may ask for. -/
structure Position where
  line : Nat
  column : Nat
  offset : Nat
  deriving DecidableEq, Inhabited

/-- A region of a source text, its stop excluded. -/
structure Span where
  start : Position
  stop : Position
  deriving DecidableEq, Inhabited

/-- Whether the span stops on the line it starts on. -/
def Span.isSingleLine (span : Span) : Bool :=
  span.start.line == span.stop.line

/-- The length in bytes, zero when the offsets are reversed. -/
def Span.byteLength (span : Span) : Nat :=
  span.stop.offset - span.start.offset

/-- Whether the span covers no byte. -/
def Span.isEmpty (span : Span) : Bool :=
  span.byteLength == 0

/-- The covered part of a source, if the offsets mark one. -/
def Span.slice (span : Span) (source : String) : Option String :=
  (Text.slice span.start.offset span.stop.offset source.toList).map String.ofList

end Banana.Source
