/-
This file says which columns of a source line are underlined in a rendered marker. The carets start
below the start of the span. On a span that stops on the same line they cover the columns up to its
stop. On one that stops on another line they should go on to the end of the line, but columns count
characters, and there as many carets are printed as the line has bytes from the start column on.
They reach past the end of the line when it has a character outside of ASCII.
-/

import Mathlib
import Banana.Proofs.Source.Places
import Banana.Report.Render

namespace Banana.Text

theorem utf8Length_toList (text : String) : utf8Length text.toList = text.utf8ByteSize := by
  rw [← String.utf8Len_toList]
  induction text.toList with
  | nil => rfl
  | cons c rest inductionHypothesis =>
    rw [utf8Length, String.utf8Len_cons, inductionHypothesis, Nat.add_comm]

/-- A text takes as many bytes as it has characters exactly if all of them are of ASCII. -/
theorem utf8Length_eq_length_iff (text : List Char) :
    utf8Length text = text.length ↔ ∀ c ∈ text, c ≤ '\x7f' := by
  induction text with
  | nil => exact ⟨fun _ _ member => absurd member List.not_mem_nil, fun _ => rfl⟩
  | cons c rest inductionHypothesis =>
    have positive := c.utf8Size_pos
    have longer := Source.length_le_utf8Length rest
    have oneByte : c.utf8Size = 1 ↔ c ≤ '\x7f' := Char.utf8Size_eq_one_iff
    rw [List.forall_mem_cons, ← inductionHypothesis, ← oneByte, utf8Length, List.length_cons]
    omega

end Banana.Text

namespace Banana.Source

/-- Whether a span starts in a line or right behind it and does not stop further behind it, if it
stops on that line. -/
structure Span.FitsOn (span : Span) (line : String) : Prop where
  start_pos : 1 ≤ span.start.column
  start_le : span.start.column ≤ line.length + 1
  stop_le : span.isSingleLine = true → span.stop.column ≤ line.length + 1

/-- How many columns of its first line a span takes: those up to its stop, or all from its start on
if it stops on another line. At least one is shown. -/
def Span.columnsOn (span : Span) (line : String) : Nat :=
  if span.isSingleLine then max 1 (span.stop.column - span.start.column)
  else max 1 (line.length - (span.start.column - 1))

end Banana.Source

namespace Banana.Report

open Source

/-! ### The rendered text -/

/-- What stands in front of a row of an excerpt. -/
def gutter (content : String) : String := " " ++ content ++ " | "

/-- The rows above the source line: the headline, the place and an empty gutter. -/
def Marker.above (file : File) (marker : Marker) : String :=
  marker.level.name ++ ": " ++ marker.message ++ "\n" ++
    " --> " ++ file.name ++ ":" ++ toString marker.span.start.line ++ ":" ++
      toString marker.span.start.column ++ "\n" ++
    " " ++ row ' ' (toString marker.span.start.line).length ++ " |\n"

/-- A source line and a row of carets below it, behind a number of columns. The number of the line
stands in the gutter of the one, and as many blanks in that of the other. -/
def underlined (number : Nat) (line : String) (indent carets : Nat) : String :=
  gutter (toString number) ++ line ++ "\n" ++
    gutter (row ' ' (toString number).length) ++ row ' ' indent ++ row '^' carets ++ "\n"

theorem length_row (c : Char) (count : Nat) : (row c count).length = count := by
  rw [row, String.length_ofList, List.length_replicate]

theorem length_gutter_row (content : String) :
    (gutter (row ' ' content.length)).length = (gutter content).length := by
  simp only [gutter, String.length_append, length_row]

/-- Different numbers of carets make different texts. -/
theorem underlined_inj {above line : String} {number indent first second : Nat} :
    above ++ underlined number line indent first = above ++ underlined number line indent second ↔
      first = second := by
  refine ⟨fun same => ?_, fun same => same ▸ rfl⟩
  have rows := String.append_left_inj _ |>.mp (String.append_right_inj _ |>.mp same)
  have lengths := congrArg String.length (String.append_right_inj _ |>.mp rows)
  rwa [length_row, length_row] at lengths

/-- Without colours a marker on a line that the file has is rendered as that line over carets. -/
theorem render_plain {file : File} {marker : Marker} {line : String}
    (isLine : file.line? marker.span.start.line = some line) :
    marker.render .plain file = marker.above file ++
      underlined marker.span.start.line line marker.indent (marker.caretCount line) := by
  rw [Marker.render, Marker.rows, isLine, ← String.toList_inj]
  simp [Marker.excerpt, Marker.headline, Marker.location, Marker.above, underlined, gutter,
    Paint.plain]

/-! ### The number of carets -/

/-- Whether the carets below a line count its columns: the span of the marker stops on the line, or
the line takes one byte for each character, or its bytes come to an end where the span starts. -/
def Marker.CountsColumns (marker : Marker) (line : String) : Prop :=
  marker.span.isSingleLine = true ∨ (∀ c ∈ line.toList, c ≤ '\x7f') ∨
    line.utf8ByteSize ≤ marker.span.start.column

theorem Marker.indent_eq {marker : Marker} {line : String} (fits : marker.span.FitsOn line) :
    marker.indent = marker.span.start.column - 1 := by
  rw [Marker.indent, Nat.max_eq_left fits.start_pos]

/-- Where the carets count columns they are as many as the span calls for, and only one that has to
be there reaches past the end of the line. -/
theorem Marker.CountsColumns.caretCount {marker : Marker} {line : String}
    (countsColumns : marker.CountsColumns line) (fits : marker.span.FitsOn line) :
    marker.caretCount line = marker.span.columnsOn line ∧
      (marker.caretCount line = 1 ∨
        marker.span.start.column - 1 + marker.caretCount line ≤ line.length) := by
  have start := fits.start_le
  have positive := fits.start_pos
  rw [Marker.caretCount, Span.columnsOn, Marker.indent_eq fits]
  cases sameLine : marker.span.isSingleLine with
  | true =>
    have stop := fits.stop_le sameLine
    rw [if_pos rfl, if_pos rfl]
    omega
  | false =>
    have bytes : line.utf8ByteSize = line.length ∨
        line.utf8ByteSize ≤ marker.span.start.column := by
      rcases countsColumns with isSingle | ascii | atEnd
      · rw [sameLine] at isSingle
        cases isSingle
      · rw [← Text.utf8Length_toList, ← String.length_toList]
        exact Or.inl ((Text.utf8Length_eq_length_iff _).mpr ascii)
      · exact Or.inr atEnd
    have longer := Source.length_le_utf8Length line.toList
    rw [Text.utf8Length_toList, String.length_toList] at longer
    rw [if_neg Bool.false_ne_true, if_neg Bool.false_ne_true]
    omega

/-- Elsewhere they are as many as the line has bytes from the start of the span on, which is more,
and they reach past the end of the line. -/
theorem Marker.caretCount_of_not_countsColumns {marker : Marker} {line : String}
    (otherwise : ¬ marker.CountsColumns line) (fits : marker.span.FitsOn line) :
    marker.caretCount line = line.utf8ByteSize - (marker.span.start.column - 1) ∧
      marker.span.columnsOn line < marker.caretCount line ∧ 1 < marker.caretCount line ∧
      line.length < marker.span.start.column - 1 + marker.caretCount line := by
  obtain ⟨notSingle, notAscii, before⟩ :
      marker.span.isSingleLine ≠ true ∧ ¬ (∀ c ∈ line.toList, c ≤ '\x7f') ∧
        ¬ line.utf8ByteSize ≤ marker.span.start.column := by
    simpa only [Marker.CountsColumns, not_or] using otherwise
  have start := fits.start_le
  have positive := fits.start_pos
  have longer := Source.length_le_utf8Length line.toList
  rw [← Text.utf8Length_eq_length_iff, Text.utf8Length_toList, String.length_toList] at notAscii
  rw [Text.utf8Length_toList, String.length_toList] at longer
  rw [Marker.caretCount, Span.columnsOn, Marker.indent_eq fits, if_neg notSingle, if_neg notSingle]
  omega

/-! ### The underline -/

/-- A marker that starts on a line of the file is rendered as that line over a row of carets, which
starts below the start of the span, and both rows have gutters of one width. The carets are as many
as the span takes columns of the line, and none but one that has to be there stands past the end of
the line, exactly where they count columns. Elsewhere they are as many as the bytes of the line from
the start column on. -/
theorem underline_marks_span_iff {file : File} {marker : Marker} {line : String}
    (isLine : file.line? marker.span.start.line = some line) (fits : marker.span.FitsOn line) :
    ∃ carets, marker.render .plain file = marker.above file ++
        underlined marker.span.start.line line (marker.span.start.column - 1) carets ∧
      (gutter (row ' ' (toString marker.span.start.line).length)).length =
        (gutter (toString marker.span.start.line)).length ∧
      (marker.render .plain file = marker.above file ++
          underlined marker.span.start.line line (marker.span.start.column - 1)
            (marker.span.columnsOn line) ↔ marker.CountsColumns line) ∧
      (carets = 1 ∨ marker.span.start.column - 1 + carets ≤ line.length ↔
        marker.CountsColumns line) ∧
      (¬ marker.CountsColumns line →
        carets = line.utf8ByteSize - (marker.span.start.column - 1)) := by
  have rendered := render_plain isLine
  rw [Marker.indent_eq fits] at rendered
  refine ⟨marker.caretCount line, rendered, length_gutter_row _, ?_, ?_,
    fun otherwise => (Marker.caretCount_of_not_countsColumns otherwise fits).1⟩
  · rw [rendered, underlined_inj]
    refine ⟨fun same => ?_, fun countsColumns => (countsColumns.caretCount fits).1⟩
    by_contra otherwise
    have more := (Marker.caretCount_of_not_countsColumns otherwise fits).2.1
    exact absurd same (Nat.ne_of_gt more)
  · refine ⟨fun within => ?_, fun countsColumns => (countsColumns.caretCount fits).2⟩
    by_contra otherwise
    obtain ⟨-, -, several, beyond⟩ := Marker.caretCount_of_not_countsColumns otherwise fits
    rcases within with one | within
    · exact absurd one (Nat.ne_of_gt several)
    · exact absurd beyond (Nat.not_lt_of_le within)

/-- A file whose first line is one character of two bytes. -/
def accented : File := ⟨"a", "é\nb"⟩

/-- A marker that goes on to its second line. -/
def acrossLines : Marker where
  level := .error
  span := ⟨⟨1, 1, 0⟩, ⟨2, 1, 3⟩⟩
  message := "m"

theorem line?_accented : accented.line? acrossLines.span.start.line = some "é" := by cbv

theorem fitsOn_accented : acrossLines.span.FitsOn "é" where
  start_pos := Nat.le_refl 1
  start_le := by decide
  stop_le sameLine := absurd sameLine (by decide)

/-- There the carets are as many as the line has bytes. -/
theorem two_carets_below_character :
    accented.line? acrossLines.span.start.line = some "é" ∧ acrossLines.span.FitsOn "é" ∧
      ¬ acrossLines.CountsColumns "é" ∧
      acrossLines.render .plain accented = acrossLines.above accented ++ underlined 1 "é" 0 2 := by
  have otherwise : ¬ acrossLines.CountsColumns "é" := by
    rintro (sameLine | ascii | atEnd)
    · exact absurd sameLine (by decide)
    · exact absurd (ascii 'é' (by simp)) (by decide)
    · exact absurd atEnd (by decide)
  obtain ⟨carets, rendered, -, -, -, isBytes⟩ :=
    underline_marks_span_iff line?_accented fitsOn_accented
  have two : carets = 2 := isBytes otherwise
  exact ⟨line?_accented, fitsOn_accented, otherwise, two ▸ rendered⟩

/-- The span calls for one caret, two are rendered. -/
theorem caret_past_line_end :
    accented.line? acrossLines.span.start.line = some "é" ∧ acrossLines.span.FitsOn "é" ∧
      acrossLines.span.columnsOn "é" = 1 ∧
      acrossLines.render .plain accented = "error: m\n --> a:1:1\n   |\n 1 | é\n   | ^^\n" ∧
      acrossLines.render .plain accented ≠
        acrossLines.above accented ++ underlined 1 "é" 0 (acrossLines.span.columnsOn "é") := by
  have rendered : acrossLines.render .plain accented =
      "error: m\n --> a:1:1\n   |\n 1 | é\n   | ^^\n" := by cbv
  refine ⟨line?_accented, fitsOn_accented, by decide, rendered, ?_⟩
  rw [rendered]
  decide

end Banana.Report
