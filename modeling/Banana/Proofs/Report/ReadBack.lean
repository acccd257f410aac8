/-
This file proves that remarks and reports whose numbers fit the words that hold them are read again
from the trees they are written as, and that the numbers of those that were read do fit.
-/

import Banana.Proofs.Json.Decoded
import Banana.Proofs.Json.Fields
import Banana.Report.Wire

namespace Banana.Report

open Json

/-! ### Numbers that fit -/

/-- Whether the places of a remark fit words of 32 bits and its byte range words of 64. -/
structure Remark.Fits (remark : Remark) : Prop where
  startLine : remark.startLine < maxPlace
  startColumn : remark.startColumn < maxPlace
  endLine : remark.endLine < maxPlace
  endColumn : remark.endColumn < maxPlace
  byteStart : remark.byteStart < maxOffset
  byteEnd : remark.byteEnd < maxOffset

/-- Whether all numbers of a report fit the words that hold them. -/
structure Fits (report : Report) : Prop where
  errors : ∀ remark ∈ report.errors, remark.Fits
  warnings : ∀ remark ∈ report.warnings, remark.Fits

theorem natural?_toNode {value bound : Nat} (fits : value < bound) :
    (natural value).toNode.natural? bound = some value := by
  show (if digitsValue (Nat.toDigits 10 value) < bound then
    some (digitsValue (Nat.toDigits 10 value)) else none) = _
  rw [digitsValue_toDigits, if_pos fits]

/-! ### Remarks -/

theorem Remark.read?_toNode {remark : Remark} (fits : remark.Fits) (room : Nat) :
    Remark.read? (room + 2) remark.toJson.toNode = some remark := by
  have distinct : (Entries.names [("startLineNumber", natural remark.startLine),
      ("startColumn", natural remark.startColumn), ("endLineNumber", natural remark.endLine),
      ("endColumn", natural remark.endColumn),
      ("byteRange", .array [natural remark.byteStart, natural remark.byteEnd]),
      ("message", .string remark.message)]).Nodup := by
    show List.Nodup ["startLineNumber", "startColumn", "endLineNumber", "endColumn", "byteRange",
      "message"]
    decide
  have range : readRange (room + 1)
      (toNode (.array [natural remark.byteStart, natural remark.byteEnd])) =
        some (remark.byteStart, remark.byteEnd) := by
    rw [toNode, itemNodes_eq_map]
    simp [readRange, natural?_toNode fits.byteStart, natural?_toNode fits.byteEnd]
  rw [Remark.read?, Remark.toJson, record?_toNode distinct]
  simp [Entries.get?, Node.required?, string?_toNode, range, natural?_toNode fits.startLine,
    natural?_toNode fits.startColumn, natural?_toNode fits.endLine,
    natural?_toNode fits.endColumn]

/-! ### Reports -/

theorem read?_toNode {report : Report} (fits : report.Fits) (room : Nat) :
    read? (room + 4) report.toJson.toNode = some report := by
  have distinct : (Entries.names [("errors", Json.array (report.errors.map Remark.toJson)),
      ("warnings", Json.array (report.warnings.map Remark.toJson))]).Nodup := by
    show List.Nodup ["errors", "warnings"]
    decide
  have list {remarks : List Remark} (each : ∀ remark ∈ remarks, remark.Fits) :
      Node.list? Remark.read? (room + 3) (toNode (.array (remarks.map Remark.toJson))) =
        some remarks :=
    list?_toNode fun remark member => Remark.read?_toNode (each remark member) room
  rw [read?, toJson, record?_toNode distinct]
  simp [Entries.get?, Node.defaulted?, list fits.errors, list fits.warnings]

/-! ### Reports that were read -/

theorem lt_of_natural? {bound value : Nat} {node : Node}
    (read : node.natural? bound = some value) : value < bound := by
  cases node with
  | number literal =>
    rw [Node.natural?, Literal.natural?] at read
    split at read
    · dsimp only at read
      split at read
      · next below =>
        cases read
        exact below
      · cases read
    · cases read
  | _ => cases read

theorem Remark.fits_of_read? {room : Nat} {node : Node} {remark : Remark}
    (read : Remark.read? room node = some remark) : remark.Fits := by
  have place {field : Option Node} {value : Nat}
      (read : Node.required? (Node.natural? maxPlace) field = some value) : value < maxPlace := by
    obtain ⟨child, -, read⟩ := Option.bind_eq_some_iff.mp read
    exact lt_of_natural? read
  have range {room : Nat} {field : Option Node} {bounds : Nat × Nat}
      (read : Node.required? (readRange room) field = some bounds) :
      bounds.1 < maxOffset ∧ bounds.2 < maxOffset := by
    obtain ⟨child, -, read⟩ := Option.bind_eq_some_iff.mp read
    rw [readRange.eq_def] at read
    split at read
    · simp only [bind, Option.bind_eq_some_iff, pure, Option.some.injEq] at read
      obtain ⟨start, isStart, stop, isStop, rfl⟩ := read
      exact ⟨lt_of_natural? isStart, lt_of_natural? isStop⟩
    · cases read
  rw [Remark.read?] at read
  obtain ⟨left, slots, rfl, -, read⟩ := record?_eq_some_iff.mp read
  split at read
  · simp only [bind, Option.bind_eq_some_iff, pure, Option.some.injEq] at read
    obtain ⟨bounds, areBounds, startLine, isStartLine, startColumn, isStartColumn, endLine,
      isEndLine, endColumn, isEndColumn, _, -, rfl⟩ := read
    exact ⟨place isStartLine, place isStartColumn, place isEndLine, place isEndColumn,
      (range areBounds).1, (range areBounds).2⟩
  · cases read

theorem fits_of_read? {room : Nat} {node : Node} {report : Report}
    (read : read? room node = some report) : report.Fits := by
  rw [read?] at read
  obtain ⟨left, slots, rfl, -, read⟩ := record?_eq_some_iff.mp read
  split at read
  · simp only [bind, Option.bind_eq_some_iff, pure, Option.some.injEq] at read
    obtain ⟨errors, areErrors, warnings, areWarnings, rfl⟩ := read
    refine ⟨fun remark member => ?_, fun remark member => ?_⟩
    · obtain ⟨_, item, -, isRemark⟩ := forall_of_defaulted_list? areErrors remark member
      exact Remark.fits_of_read? isRemark
    · obtain ⟨_, item, -, isRemark⟩ := forall_of_defaulted_list? areWarnings remark member
      exact Remark.fits_of_read? isRemark
  · cases read

end Banana.Report
