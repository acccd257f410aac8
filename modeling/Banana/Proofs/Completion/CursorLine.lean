/-
This file proves that the candidates at a place of a source depend on nothing but the line of the
place, up to its column. The text before a place is all lines above it, each with its line feed, and
the characters of its own line before the column; so the line of the cursor at the end of that text
is these characters, and no other line is looked at.
-/

import Mathlib
import Banana.Proofs.Source.Places
import Banana.Session.Basic

namespace Banana.Text

/-- Lines, each with a line feed behind it. -/
def ended (lines : List (List Char)) : List Char :=
  lines.flatMap (· ++ ['\n'])

theorem lastLine_ended (lines : List (List Char)) : lastLine (ended lines) = [] := by
  rcases List.eq_nil_or_concat lines with rfl | ⟨front, line, rfl⟩
  · rfl
  · rw [ended, List.concat_eq_append, List.flatMap_append, List.flatMap_singleton,
      ← List.append_assoc, lastLine_feed]

/-- The text before a place is the lines above it and what its own line has before the column. -/
theorem beforePlace_eq (column index : Nat) (text : List Char) :
    beforePlace column (index + 1) text =
      (lines text)[index]?.map fun line =>
        ended ((lines text).take index) ++ line.take (column - 1) := by
  induction text generalizing index with
  | nil =>
    cases index with
    | zero => rfl
    | succ index => rfl
  | cons c rest inductionHypothesis =>
    cases index with
    | zero =>
      rw [head?_split]
      rfl
    | succ index =>
      rw [beforePlace]
      by_cases feed : c = '\n'
      · have here : lines (c :: rest) = [] :: lines rest := if_pos feed
        rw [if_pos feed, inductionHypothesis, here, List.getElem?_cons_succ, List.take_succ_cons,
          Option.map_map, feed]
        rfl
      · rw [if_neg feed, inductionHypothesis (index + 1)]
        cases cut : lines rest with
        | nil => exact absurd cut (split_ne_nil '\n' rest)
        | cons part others =>
          have here : lines (c :: rest) = (c :: part) :: others := by
            rw [lines] at cut ⊢
            rw [split, if_neg feed, cut]
          rw [here, List.getElem?_cons_succ, List.getElem?_cons_succ, List.take_succ_cons,
            List.take_succ_cons, Option.map_map]
          rfl

theorem beforePlace_isPrefix {column line : Nat} {text before : List Char}
    (isBefore : beforePlace column line text = some before) : before <+: text := by
  induction line, text using beforePlace.induct column generalizing before with
  | case1 => simp only [beforePlace, reduceCtorEq] at isBefore
  | case2 text =>
    rw [beforePlace, Option.some_inj] at isBefore
    exact isBefore ▸ (List.take_prefix _ _).trans (List.takeWhile_prefix _)
  | case3 => simp only [beforePlace, reduceCtorEq] at isBefore
  | case4 line c rest below above =>
    rw [beforePlace] at isBefore
    obtain ⟨front, isFront, rfl⟩ := Option.map_eq_some_iff.mp isBefore
    refine (List.prefix_cons_inj c).mpr ?_
    split at isFront
    · exact below isFront
    · exact above isFront

end Banana.Text

namespace Banana.Source

/-- The characters of a line before a column, or the whole line if it has no such column. -/
def beforeColumn (column : Nat) (line : String) : String :=
  String.ofList (line.toList.take (min (column - 1) line.length))

theorem toList_beforeColumn (column : Nat) (line : String) :
    (beforeColumn column line).toList = line.toList.take (column - 1) := by
  rw [beforeColumn, String.toList_ofList, List.take_eq_take_iff, String.length_toList,
    Nat.min_assoc, Nat.min_self]

theorem File.no_feed {file : File} {number : Nat} {line : String}
    (isLine : file.line? number = some line) : '\n' ∉ line.toList := by
  cases number with
  | zero => cases isLine
  | succ index =>
    obtain ⟨text, standsThere, rfl⟩ := Option.map_eq_some_iff.mp isLine
    rw [String.toList_ofList]
    exact Text.not_mem_of_mem_split (List.mem_of_getElem? standsThere)

theorem File.line?_eq_none_iff (file : File) (number : Nat) :
    file.line? number = none ↔ number = 0 ∨ file.lineCount < number := by
  cases number with
  | zero => simp [File.line?]
  | succ index =>
    rw [File.line?, Option.map_eq_none_iff, List.getElem?_eq_none_iff, File.lineCount]
    omega

end Banana.Source

namespace Banana.Completion

open Source

/-- The text before a place, by the line of the place. -/
theorem linePrefix?_eq (file : File) (line column : Nat) :
    linePrefix? file.source line column = (file.line? line).map fun text =>
      String.ofList (Text.ended (file.lines.take (line - 1)) ++
        (beforeColumn column text).toList) := by
  cases line with
  | zero =>
    rw [linePrefix?, Text.beforePlace]
    rfl
  | succ index =>
    rw [linePrefix?, Text.beforePlace_eq, File.line?, Option.map_map, Option.map_map]
    simp only [Function.comp_def, toList_beforeColumn, String.toList_ofList]
    rfl

theorem no_feed_beforeColumn {file : File} {line : Nat} {text : String}
    (isLine : file.line? line = some text) (column : Nat) :
    '\n' ∉ (beforeColumn column text).toList := by
  rw [toList_beforeColumn]
  exact fun member => file.no_feed isLine (List.mem_of_mem_take member)

/-- The text before a place ends in what the line of the place has before the column. -/
theorem cursorLine_of_linePrefix? {file : File} {line column : Nat} {text before : String}
    (isLine : file.line? line = some text)
    (isBefore : linePrefix? file.source line column = some before) :
    cursorLine before = beforeColumn column text := by
  rw [linePrefix?_eq, isLine, Option.map_some] at isBefore
  obtain rfl := Option.some.inj isBefore
  rw [cursorLine, String.toList_ofList, Text.lastLine_append (no_feed_beforeColumn isLine column),
    Text.lastLine_ended, List.nil_append, String.ofList_toList]

/-- What a text is completed with depends on the line of the cursor only. -/
theorem complete_eq_of_cursorLine {session : Session} {first second : String}
    (same : cursorLine first = cursorLine second) :
    session.complete first = session.complete second := by
  have lines := String.ofList_inj.mp same
  rw [Session.complete, Session.complete, resolve, resolve, classify, classify, lines]

/-- A text of one line is its own line of the cursor. -/
theorem cursorLine_of_no_feed {text : String} (oneLine : '\n' ∉ text.toList) :
    cursorLine text = text := by
  rw [cursorLine, Text.lastLine_of_not_mem oneLine, String.ofList_toList]

/-- What is offered at a place is what is offered behind the line of the place up to the column. -/
theorem completeAt_eq (session : Session) (file : File) (line column : Nat) :
    session.completeAt file.source line column =
      match file.line? line with
      | some text => session.complete (beforeColumn column text)
      | none => [] := by
  rw [Session.completeAt, linePrefix?_eq]
  cases isLine : file.line? line with
  | none => rfl
  | some text =>
    refine complete_eq_of_cursorLine ?_
    have isBefore := linePrefix?_eq file line column
    rw [isLine, Option.map_some] at isBefore
    rw [cursorLine_of_linePrefix? isLine isBefore,
      cursorLine_of_no_feed (no_feed_beforeColumn isLine column)]

/-- There is a text before a place exactly if its line is one of the source. The source starts with
this text, and its last line is the line of the place up to the column, which is what is completed
there. So the same is offered at a place of every source that has the same line with that number,
and nothing is offered where there is no such line. -/
theorem completeAt_depends_on_line (session : Session) (file : File) (line column : Nat) :
    (linePrefix? file.source line column = none ↔ line = 0 ∨ file.lineCount < line) ∧
    (∀ before, linePrefix? file.source line column = some before →
      before.toList <+: file.source.toList ∧
      ∃ text, file.line? line = some text ∧ cursorLine before = beforeColumn column text ∧
        session.completeAt file.source line column = session.complete (beforeColumn column text)) ∧
    (∀ other : File, other.line? line = file.line? line →
      session.completeAt other.source line column = session.completeAt file.source line column) ∧
    (line = 0 ∨ file.lineCount < line → session.completeAt file.source line column = []) := by
  refine ⟨?_, fun before isBefore => ⟨?_, ?_⟩, fun other sameLine => ?_, fun noLine => ?_⟩
  · rw [linePrefix?_eq, Option.map_eq_none_iff, File.line?_eq_none_iff]
  · obtain ⟨characters, isCut, rfl⟩ := Option.map_eq_some_iff.mp isBefore
    rw [String.toList_ofList]
    exact Text.beforePlace_isPrefix isCut
  · cases isLine : file.line? line with
    | none =>
      rw [linePrefix?_eq, isLine] at isBefore
      cases isBefore
    | some text =>
      have offered := completeAt_eq session file line column
      rw [isLine] at offered
      exact ⟨text, rfl, cursorLine_of_linePrefix? isLine isBefore, offered⟩
  · rw [completeAt_eq, completeAt_eq, sameLine]
  · rw [completeAt_eq, (file.line?_eq_none_iff line).mpr noLine]

/-- A session that knows the type of one variable. -/
def sinkSession : Session where
  table := .ofList [("src", .component "Sink" [⟨"port", .number, .null⟩])]

/-- The parameters of the variable are offered on the second line, whatever stands on the others and
behind the column, and nothing on a line that is missing. -/
theorem completeAt_second_line :
    linePrefix? "é = 1\nsrc.p\n" 2 5 = some "é = 1\nsrc." ∧
      cursorLine "é = 1\nsrc." = beforeColumn 5 "src.p" ∧
      (File.mk "" "\nsrc.p").line? 2 = (File.mk "" "é = 1\nsrc.p\n").line? 2 ∧
      sinkSession.completeAt "\nsrc.p" 2 5 =
        [⟨"src.port", "src.port", "number default_value: null", .parameter⟩] ∧
      (File.mk "" "é = 1\nsrc.p\n").lineCount < 4 ∧
      sinkSession.completeAt "é = 1\nsrc.p\n" 4 1 = [] := by
  have isBefore : linePrefix? "é = 1\nsrc.p\n" 2 5 = some "é = 1\nsrc." := by cbv
  have isLine : (File.mk "" "é = 1\nsrc.p\n").line? 2 = some "src.p" := by cbv
  have sameLine : (File.mk "" "\nsrc.p").line? 2 = (File.mk "" "é = 1\nsrc.p\n").line? 2 := by cbv
  have missing : (File.mk "" "é = 1\nsrc.p\n").lineCount < 4 := by cbv
  obtain ⟨-, found, alike, -⟩ :=
    completeAt_depends_on_line sinkSession ⟨"", "é = 1\nsrc.p\n"⟩ 2 5
  obtain ⟨-, text, isText, ends, offered⟩ := found _ isBefore
  obtain rfl := Option.some.inj (isLine.symm.trans isText)
  have candidates : sinkSession.complete (beforeColumn 5 "src.p") =
      [⟨"src.port", "src.port", "number default_value: null", .parameter⟩] := by cbv
  exact ⟨isBefore, ends, sameLine, (alike _ sameLine).trans (offered.trans candidates), missing,
    (completeAt_depends_on_line sinkSession ⟨"", "é = 1\nsrc.p\n"⟩ 4 1).2.2.2 (Or.inr missing)⟩

end Banana.Completion
