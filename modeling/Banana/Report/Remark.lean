/-
This file holds what the type checker reports about a program: errors and warnings, each with the
place it concerns and a message.
-/

import Banana.Source.Span

namespace Banana.Report

open Source

/-- One remark of the type checker. Lines and columns count from one, the byte range is half
open. -/
structure Remark where
  startLine : Nat
  startColumn : Nat
  endLine : Nat
  endColumn : Nat
  byteStart : Nat
  byteEnd : Nat
  message : String
  deriving DecidableEq, Inhabited

/-- The region a remark concerns. -/
def Remark.span (remark : Remark) : Span where
  start := ⟨remark.startLine, remark.startColumn, remark.byteStart⟩
  stop := ⟨remark.endLine, remark.endColumn, remark.byteEnd⟩

end Banana.Report

namespace Banana

/-- The answer to a type check or to a submission. -/
structure Report where
  errors : List Report.Remark := []
  warnings : List Report.Remark := []
  deriving DecidableEq, Inhabited

namespace Report

/-- The report that has nothing to say. -/
def empty : Report := {}

/-- Whether the program was found wrong. -/
def hasErrors (report : Report) : Bool :=
  !report.errors.isEmpty

/-- Whether there is neither an error nor a warning. -/
def isEmpty (report : Report) : Bool :=
  report.errors.isEmpty && report.warnings.isEmpty

end Report

end Banana
