/-
This file proves that the places of tokens say the same in all their coordinates, whatever the
grammar and whatever its groups. A token starts and stops on one line, its line counts the line
feeds before it, its columns count the characters since the start of the line, and the text before a
place, the line itself and the text of the token are found by line and column as well as by offset.

Every token of a line runs between two places along that line, so both of its places lie behind some
text that the source starts with; everything else follows from what is known of such places.
-/

import Mathlib
import Banana.Grammar.Language
import Banana.Proofs.Highlight.Tiling
import Banana.Proofs.Source.Places

namespace Banana.Source

/-- Whether the coordinates of a place agree in a source: its offset cuts off the text that stands
before it, line and column count the line feeds and the characters since the last of them in that
text, they lead back to it, and each of them fits into 32 bits. -/
def Position.AgreesIn (place : Position) (source : String) : Prop :=
  ∃ before, (Text.slice 0 place.offset source.toList).map String.ofList = some before ∧
    place.line = before.toList.count '\n' + 1 ∧
    place.column = (Text.lastLine before.toList).length + 1 ∧
    Completion.linePrefix? source place.line place.column = some before ∧
    place.line < 2 ^ 32 ∧ place.column < 2 ^ 32

/-- The place behind a text that a source starts with agrees in it, if the source is not too long
for places of 32 bits. -/
theorem agreesIn_placeAfter {source : String} {before after : List Char}
    (stands : source.toList = before ++ after)
    (small : Text.utf8Length source.toList < 2 ^ 32 - 1) :
    (placeAfter before).AgreesIn source := by
  have whole : source = String.ofList (before ++ after) := by rw [← stands, String.ofList_toList]
  have cut : Text.slice 0 (Text.utf8Length before) source.toList = some before := by
    have sliced := Text.slice_append [] before after
    rwa [Text.utf8Length, Nat.zero_add, List.nil_append, ← stands] at sliced
  have within : Text.utf8Length before ≤ Text.utf8Length source.toList := by
    rw [stands, Text.utf8Length_append]
    exact Nat.le_add_right _ _
  have characters := length_le_utf8Length before
  have feeds : before.count '\n' ≤ before.length := List.count_le_length
  have column : (Text.lastLine before).length ≤ before.length := by
    rw [Text.lastLine, List.length_reverse]
    exact (List.takeWhile_prefix _).length_le.trans_eq List.length_reverse
  refine ⟨String.ofList before, congrArg _ cut, ?_, ?_, ?_, ?_, ?_⟩
  · rw [String.toList_ofList]
    rfl
  · rw [String.toList_ofList]
    rfl
  · rw [whole]
    exact linePrefix?_placeAfter before after
  · show before.count '\n' + 1 < 2 ^ 32
    omega
  · show (Text.lastLine before).length + 1 < 2 ^ 32
    omega

end Banana.Source

namespace Banana.Highlight

open Source

/-- Walking along a line from the place behind a text. -/
theorem advance_placeAfter {before more : List Char} (oneLine : '\n' ∉ more) :
    advance (placeAfter before) more = placeAfter (before ++ more) := by
  rw [advance, placeAfter, placeAfter, Text.lastLine_append oneLine, List.length_append,
    List.count_append, List.count_eq_zero_of_not_mem oneLine, Text.utf8Length_append,
    Nat.add_right_comm, Nat.add_zero]

/-- The place at the start of a line lies behind all lines before it. -/
theorem lineStart_eq_placeAfter {front : List Char} (isStart : Text.lastLine front = []) :
    ⟨front.count '\n' + 1, 1, Text.utf8Length front⟩ = placeAfter front := by
  rw [placeAfter, isStart]
  rfl

/-- The lines behind a line and its line feed stand in a source with the number and at the offset
that are counted on from those of the line. -/
theorem stands_behind_line {source front line next : List Char} {others : List (List Char)}
    (stands : source = front ++ Text.join '\n' (line :: next :: others)) (oneLine : '\n' ∉ line) :
    source = (front ++ line ++ ['\n']) ++ Text.join '\n' (next :: others) ∧
      (front ++ line ++ ['\n']).count '\n' + 1 = front.count '\n' + 1 + 1 ∧
      Text.utf8Length (front ++ line ++ ['\n']) =
        Text.utf8Length front + Text.utf8Length line + 1 := by
  refine ⟨?_, ?_, ?_⟩
  · rw [stands, Text.join_cons _ _ _ (List.cons_ne_nil next others)]
    simp only [List.append_assoc, List.singleton_append]
  · rw [List.count_append, List.count_append, List.count_eq_zero_of_not_mem oneLine]
    rfl
  · rw [Text.utf8Length_append, Text.utf8Length_append]
    rfl

/-- Whether the coordinates of a token agree in a source: it starts and stops on one line, each of
its places agrees, and its text stands between its columns in the line with its number. -/
structure Token.AgreesIn (token : Token) (source : String) : Prop where
  sameLine : token.span.start.line = token.span.stop.line
  start : token.span.start.AgreesIn source
  stop : token.span.stop.AgreesIn source
  columns : ∀ name, ∃ line, (File.mk name source).line? token.span.start.line = some line ∧
    token.span.slice source = some (String.ofList
      ((line.toList.take (token.span.stop.column - 1)).drop (token.span.start.column - 1)))

/-- A token between the places before and behind some text of one line agrees. -/
theorem Token.agreesIn_of_places {source : String} {before text after : List Char} {token : Token}
    (stands : source.toList = before ++ text ++ after) (oneLine : '\n' ∉ text)
    (places : token.span = ⟨placeAfter before, placeAfter (before ++ text)⟩)
    (small : Text.utf8Length source.toList < 2 ^ 32 - 1) : token.AgreesIn source := by
  have startStands : source.toList = before ++ (text ++ after) := by rw [stands, List.append_assoc]
  have whole : source = String.ofList (before ++ (text ++ after)) := by
    rw [← startStands, String.ofList_toList]
  obtain ⟨kind, span⟩ := token
  dsimp only at places
  subst places
  have sliced : (Span.mk (placeAfter before) (placeAfter (before ++ text))).slice source =
      some (String.ofList text) := by
    rw [← advance_placeAfter oneLine]
    exact slice_of_piece .invalid stands rfl
  constructor
  · show before.count '\n' + 1 = (before ++ text).count '\n' + 1
    rw [List.count_append, List.count_eq_zero_of_not_mem oneLine, Nat.add_zero]
  · exact agreesIn_placeAfter startStands small
  · exact agreesIn_placeAfter stands small
  · intro name
    refine ⟨String.ofList (Text.lastLine before ++ (text ++ after).takeWhile (· != '\n')), ?_, ?_⟩
    · rw [whole]
      exact line?_placeAfter name before (text ++ after)
    · rw [sliced]
      have visible : ∀ c ∈ text, (c != '\n') = true := fun c member =>
        bne_iff_ne.mpr (ne_of_mem_of_not_mem member oneLine)
      show _ = some (String.ofList (List.drop ((Text.lastLine before).length + 1 - 1)
        (List.take ((Text.lastLine (before ++ text)).length + 1 - 1) _)))
      rw [String.toList_ofList, Text.lastLine_append oneLine, List.takeWhile_append_of_pos visible,
        Nat.add_sub_cancel, Nat.add_sub_cancel, ← List.append_assoc, List.take_left, List.drop_left]

/-! ### Places along a line -/

/-- Whether a token runs between two places along a text that starts at a place. -/
def Token.RunsAlong (token : Token) (place : Position) (text : List Char) : Prop :=
  ∃ before inside after, text = before ++ inside ++ after ∧
    token.span = ⟨advance place before, advance place (before ++ inside)⟩

theorem runsAlong_of_mem_tokenBetween {place : Position} {text : List Char}
    {kind : Grammar.TokenClass} {start stop : Nat} {token : Token}
    (member : token ∈ tokenBetween place text kind start stop) : token.RunsAlong place text := by
  rw [tokenBetween] at member
  split at member
  · next further =>
    rw [List.mem_singleton.mp member]
    have inside := take_split text (Nat.le_of_lt further)
    refine ⟨text.take start, (text.take stop).drop start, text.drop stop, ?_, ?_⟩
    · rw [inside, List.take_append_drop]
    · rw [inside]
  · exact absurd member List.not_mem_nil

theorem runsAlong_of_mem_groupTokens {place : Position} {text : List Char} {found : Pattern.Match}
    {index : Nat} {kinds : List Grammar.TokenClass} {token : Token}
    (member : token ∈ groupTokens place text found index kinds) : token.RunsAlong place text := by
  induction kinds generalizing index with
  | nil => exact absurd member List.not_mem_nil
  | cons kind kinds inductionHypothesis =>
    rw [groupTokens] at member
    rcases List.mem_append.mp member with here | further
    · split at here
      · exact runsAlong_of_mem_tokenBetween here
      · exact absurd here List.not_mem_nil
    · exact inductionHypothesis further

/-- What runs along the rest of a text runs along the whole of it. -/
theorem Token.RunsAlong.skip {token : Token} {place : Position} {front rest : List Char}
    (runs : token.RunsAlong (advance place front) rest) :
    token.RunsAlong place (front ++ rest) := by
  obtain ⟨before, inside, after, rfl, places⟩ := runs
  refine ⟨front ++ before, inside, after, by simp only [List.append_assoc], ?_⟩
  rw [places, advance_advance, advance_advance, List.append_assoc]

end Banana.Highlight

namespace Banana.Highlighter

open Grammar Highlight Source

variable {engine : Pattern.Engine}

theorem runsAlong_of_mem_step {highlighter : Highlighter engine} {stack : Stack} {place : Position}
    {text : List Char} {token : Token}
    (member : token ∈ (highlighter.step stack place text).tokens) : token.RunsAlong place text := by
  rcases highlighter.step_cases stack place text with
    ⟨rules, rule, found, -, -, -, -, same⟩ | same
  · rw [same] at member
    cases action : rule.action with
    | groups kinds =>
      rw [action] at member
      exact runsAlong_of_mem_groupTokens member
    | _ =>
      rw [action] at member
      exact runsAlong_of_mem_tokenBetween member
  · rw [same] at member
    dsimp only at member
    exact runsAlong_of_mem_tokenBetween member

/-- The tokens of the rest of a line run along it. -/
theorem runsAlong_of_mem_scanLine {highlighter : Highlighter engine} {stack : Stack}
    {place : Position} {text : List Char} {token : Token}
    (member : token ∈ (highlighter.scanLine stack place text).1) : token.RunsAlong place text := by
  induction length : text.length using Nat.strongRecOn generalizing stack place text with
  | ind bound inductionHypothesis =>
    by_cases nonempty : text = []
    · subst nonempty
      rw [scanLine_nil] at member
      exact absurd member List.not_mem_nil
    · rw [highlighter.scanLine_of_ne_nil stack place nonempty] at member
      rcases List.mem_append.mp member with here | further
      · exact runsAlong_of_mem_step here
      · have goesOn := (highlighter.step_advances stack place nonempty).1
        have some := List.length_pos_iff.mpr nonempty
        have shorter : (text.drop (highlighter.step stack place text).length).length < bound := by
          rw [List.length_drop]
          omega
        have runs := (inductionHypothesis _ shorter further rfl).skip
        rwa [List.take_append_drop] at runs

/-- The tokens of lines that are left of the source agree. -/
theorem agreesIn_of_mem_scanLines {highlighter : Highlighter engine} {stack : Stack}
    {source : String} {front : List Char} {lines : List (List Char)} {token : Token}
    (stands : source.toList = front ++ Text.join '\n' lines) (isStart : Text.lastLine front = [])
    (eachOneLine : ∀ line ∈ lines, '\n' ∉ line)
    (small : Text.utf8Length source.toList < 2 ^ 32 - 1)
    (member : token ∈ (highlighter.scanLines stack (front.count '\n' + 1) (Text.utf8Length front)
      lines).1) : token.AgreesIn source := by
  induction lines generalizing stack front with
  | nil => exact absurd member List.not_mem_nil
  | cons line rest inductionHypothesis =>
    obtain ⟨oneLine, restOneLine⟩ := List.forall_mem_cons.mp eachOneLine
    obtain ⟨behind, lineStands⟩ := stands_join_cons stands
    rcases List.mem_append.mp member with here | further
    · rw [lineStart_eq_placeAfter isStart] at here
      obtain ⟨before, inside, after, rfl, places⟩ := runsAlong_of_mem_scanLine here
      simp only [List.mem_append, not_or] at oneLine
      obtain ⟨⟨beforeOneLine, insideOneLine⟩, -⟩ := oneLine
      have uptoOneLine : '\n' ∉ before ++ inside := by
        rw [List.mem_append, not_or]
        exact ⟨beforeOneLine, insideOneLine⟩
      rw [advance_placeAfter beforeOneLine, advance_placeAfter uptoOneLine,
        ← List.append_assoc] at places
      have insideStands : source.toList = (front ++ before) ++ inside ++ (after ++ behind) := by
        rw [lineStands]
        simp only [List.append_assoc]
      exact Token.agreesIn_of_places insideStands insideOneLine places small
    · cases rest with
      | nil => exact absurd further List.not_mem_nil
      | cons next others =>
        obtain ⟨restStands, number, offset⟩ := stands_behind_line stands oneLine
        have next : token ∈ (highlighter.scanLines _ _ _ (next :: others)).1 := further
        rw [← number, ← offset] at next
        exact inductionHypothesis restStands (Text.lastLine_feed _) restOneLine next

/-- The coordinates of all tokens agree: whatever the highlighter, whether it was made from a
grammar and whatever limit its searches have, in every source whose lines and columns fit into 32
bits. -/
theorem coordinates_agree (highlighter : Highlighter engine) (source : String)
    (small : Text.utf8Length source.toList < 2 ^ 32 - 1) :
    ∀ token ∈ highlighter.highlight source, token.AgreesIn source := by
  intro token member
  have stands : source.toList = [] ++ Text.join '\n' (Text.lines source.toList) :=
    (Text.join_split '\n' source.toList).symm
  exact agreesIn_of_mem_scanLines stands rfl (fun _ => Text.not_mem_of_mem_split) small member

/-- A grammar without any rule, under which each character is a token of its own. -/
def ruleless : Grammar := { Grammar.ofComponents [] with rules := fun _ => some [] }

/-- The highlighter of that grammar. -/
def rulelessHighlighter : Highlighter Pattern.engine where
  grammar := ruleless
  rules := fun
    | .root => some []
    | .whitespace => some []
    | .string => some []

theorem ofGrammar_ruleless : ofGrammar ruleless = .ok rulelessHighlighter := by
  have ready (state : State) : ruleless.readyRules Pattern.engine state = .ok (some []) := by
    show (do
      let lexemes ← ruleless.flatten _ []
      some <$> lexemes.mapM (Lexeme.ready Pattern.engine ruleless)) = _
    rw [flatten]
    rfl
  rw [ofGrammar, ofGrammarWith, ready, ready, ready]
  rfl

/-- The token behind a line feed and a character of two bytes. -/
theorem coordinates_agree_behind_feed :
    Text.utf8Length "é\nx".toList < 2 ^ 32 - 1 ∧ ofGrammar ruleless = .ok rulelessHighlighter ∧
      ⟨.invalid, ⟨⟨2, 1, 3⟩, ⟨2, 2, 4⟩⟩⟩ ∈ rulelessHighlighter.highlight "é\nx" ∧
      Token.AgreesIn ⟨.invalid, ⟨⟨2, 1, 3⟩, ⟨2, 2, 4⟩⟩⟩ "é\nx" := by
  have small : Text.utf8Length "é\nx".toList < 2 ^ 32 - 1 := by decide
  have tokens : rulelessHighlighter.highlight "é\nx" =
      [⟨.invalid, ⟨⟨1, 1, 0⟩, ⟨1, 2, 2⟩⟩⟩, ⟨.invalid, ⟨⟨2, 1, 3⟩, ⟨2, 2, 4⟩⟩⟩] := by cbv
  have found : ⟨.invalid, ⟨⟨2, 1, 3⟩, ⟨2, 2, 4⟩⟩⟩ ∈ rulelessHighlighter.highlight "é\nx" := by
    rw [tokens]
    exact List.mem_cons_of_mem _ List.mem_cons_self
  exact ⟨small, ofGrammar_ruleless, found, coordinates_agree _ _ small _ found⟩

end Banana.Highlighter
