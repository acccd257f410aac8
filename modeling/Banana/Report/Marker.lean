/-
This file turns a report into the markers an editor shows: all warnings first, then all errors,
each list in the order of the report.
-/

import Banana.Report.Remark

namespace Banana.Report

open Source

/-- How grave a marker is; a warning does not prevent submission. -/
inductive Level where
  | error
  | warning
  deriving DecidableEq, Inhabited

/-- The word a level is shown as. -/
def Level.name : Level → String
  | error => "error"
  | warning => "warning"

/-- A remark placed on the source, ready to be shown. -/
structure Marker where
  level : Level
  span : Span
  message : String
  deriving DecidableEq, Inhabited

/-- The marker that shows a remark at a level. -/
def Marker.ofRemark (level : Level) (remark : Remark) : Marker where
  level := level
  span := remark.span
  message := remark.message

/-- The markers of a report, warnings before errors. -/
def markers (report : Report) : List Marker :=
  report.warnings.map (Marker.ofRemark .warning) ++
    report.errors.map (Marker.ofRemark .error)

end Banana.Report
