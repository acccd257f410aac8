/-
This file holds the wire format of reports. Line and column numbers are unsigned 32-bit words, the
byte range is a pair of unsigned 64-bit words.
-/

import Banana.Json.Decode
import Banana.Report.Remark

namespace Banana.Report

open Json

/-- A natural number as JSON. -/
def natural (value : Nat) : Json :=
  .number (.integer value)

/-- The wire form of a remark. -/
def Remark.toJson (remark : Remark) : Json :=
  .object [("startLineNumber", natural remark.startLine),
    ("startColumn", natural remark.startColumn),
    ("endLineNumber", natural remark.endLine), ("endColumn", natural remark.endColumn),
    ("byteRange", .array [natural remark.byteStart, natural remark.byteEnd]),
    ("message", .string remark.message)]

/-- The wire form of a report. -/
def toJson (report : Report) : Json :=
  .object [("errors", .array (report.errors.map Remark.toJson)),
    ("warnings", .array (report.warnings.map Remark.toJson))]

/-- The bound of a line or column number. -/
def maxPlace : Nat := UInt32.size

/-- The bound of a byte offset. -/
def maxOffset : Nat := UInt64.size

/-- The byte range that a node spells. -/
def readRange : Nat → Node → Option (Nat × Nat)
  | _ + 1, .array [start, stop] => do
    pure (← start.natural? maxOffset, ← stop.natural? maxOffset)
  | _, _ => none

/-- The remark that a node spells. -/
def Remark.read? : Nat → Node → Option Remark :=
  Node.record?
    ["startLineNumber", "startColumn", "endLineNumber", "endColumn", "byteRange", "message"]
    fun room fields =>
      match fields with
      | [startLine, startColumn, endLine, endColumn, byteRange, message] => do
        let range ← Node.required? (readRange room) byteRange
        pure {
          startLine := ← Node.required? (Node.natural? maxPlace) startLine
          startColumn := ← Node.required? (Node.natural? maxPlace) startColumn
          endLine := ← Node.required? (Node.natural? maxPlace) endLine
          endColumn := ← Node.required? (Node.natural? maxPlace) endColumn
          byteStart := range.1
          byteEnd := range.2
          message := ← Node.required? Node.string? message }
      | _ => none

/-- The report that a node spells. -/
def read? : Nat → Node → Option Report :=
  Node.record? ["errors", "warnings"] fun room fields =>
    match fields with
    | [errors, warnings] => do
      pure {
        errors := ← Node.defaulted? [] (Node.list? Remark.read? room) errors
        warnings := ← Node.defaulted? [] (Node.list? Remark.read? room) warnings }
    | _ => none

end Banana.Report
