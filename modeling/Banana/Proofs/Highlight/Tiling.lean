/-
This file proves that highlighting loses no text and covers none twice. The tokens of a line mark
parts of the source that are not empty and lie end to end from the first to the last byte of the
line, so their texts make up the line, and the lines make up the source. All that a grammar has to
do for this is to keep the groups of a match end to end where it gives them classes; empty matches
and searches that are given up only leave the place to another rule or to the default class.
-/

import Banana.Proofs.Highlight.Pieces

namespace Banana.Highlight

open Source

/-! ### What it means to cover a source -/

/-- Where a token starts and stops in the source. -/
def Token.region (token : Token) : Nat × Nat := (token.span.start.offset, token.span.stop.offset)

/-- The texts of tokens one after the other. -/
def tokensText (source : String) (tokens : List Token) : List Char :=
  tokens.flatMap fun token => (token.text source).toList

/-- Whether tokens cover a line with a number, which starts at an offset of the source. -/
structure CoversLine (source : String) (number offset : Nat) (line : List Char)
    (tokens : List Token) : Prop where
  onLine : ∀ token ∈ tokens, token.span.start.line = number ∧ token.span.stop.line = number
  nonempty : ∀ token ∈ tokens, token.span.start.offset < token.span.stop.offset
  onBoundaries : ∀ token ∈ tokens, (token.span.slice source).isSome
  noFeed : ∀ token ∈ tokens, '\n' ∉ (token.text source).toList
  endToEnd : EndToEnd offset (tokens.map Token.region) (offset + Text.utf8Length line)
  text : tokensText source tokens = line

/-- Whether lists of tokens cover lines, the first of which has a number and starts at an offset. -/
def CoversLines (source : String) :
    Nat → Nat → List (List Char) → List (List Token) → Prop
  | _, _, [], [] => True
  | number, offset, line :: lines, tokens :: others =>
    CoversLine source number offset line tokens ∧
      CoversLines source (number + 1) (offset + Text.utf8Length line + 1) lines others
  | _, _, _, _ => False

/-- Whether tokens cover a source: line by line, and so that the texts of the lines, joined by line
feeds, are the source. -/
def Covers (source : String) (tokens : List Token) : Prop :=
  ∃ byLine, tokens = byLine.flatten ∧
    CoversLines source 1 0 (Text.lines source.toList) byLine ∧
    Text.join '\n' (byLine.map (tokensText source)) = source.toList

/-! ### Pieces cover what they are laid out on -/

/-- The token for some text marks that text where it stands. -/
theorem slice_of_piece {source : String} {before text after : List Char} (kind : Grammar.TokenClass)
    {place : Position} (stands : source.toList = before ++ text ++ after)
    (offset : place.offset = Text.utf8Length before) :
    (Token.mk kind ⟨place, advance place text⟩).span.slice source = some (String.ofList text) := by
  show (Text.slice place.offset (place.offset + Text.utf8Length text) source.toList).map _ = _
  rw [offset, stands, Text.slice_append]
  rfl

theorem utf8Length_pos {text : List Char} (nonempty : text ≠ []) : 0 < Text.utf8Length text := by
  cases text with
  | nil => exact absurd rfl nonempty
  | cons c rest => exact Nat.add_pos_left (Char.utf8Size_pos c) _

/-- Pieces that stand somewhere in the source cover what they make up. -/
theorem coversLine_layOut {source : String} {before after : List Char} (place : Position)
    (pieces : List Piece) (filled : NoneEmpty pieces) (oneLine : '\n' ∉ textOf pieces)
    (stands : source.toList = before ++ textOf pieces ++ after)
    (offset : place.offset = Text.utf8Length before) :
    CoversLine source place.line place.offset (textOf pieces) (layOut place pieces) := by
  induction pieces generalizing before place with
  | nil =>
    exact ⟨fun _ member => absurd member List.not_mem_nil,
      fun _ member => absurd member List.not_mem_nil,
      fun _ member => absurd member List.not_mem_nil,
      fun _ member => absurd member List.not_mem_nil, rfl, rfl⟩
  | cons piece rest inductionHypothesis =>
    obtain ⟨kind, text⟩ := piece
    obtain ⟨nonempty, restFilled⟩ := List.forall_mem_cons.mp filled
    have total : textOf ((kind, text) :: rest) = text ++ textOf rest := rfl
    rw [total] at oneLine stands ⊢
    rw [List.mem_append, not_or] at oneLine
    have hereStands : source.toList = before ++ text ++ (textOf rest ++ after) := by
      rw [stands]
      simp only [List.append_assoc]
    have restStands : source.toList = before ++ text ++ textOf rest ++ after := by
      rw [stands, ← List.append_assoc before]
    have here : (Token.mk kind ⟨place, advance place text⟩).span.slice source =
        some (String.ofList text) :=
      slice_of_piece kind hereStands offset
    have hereText : ((Token.mk kind ⟨place, advance place text⟩).text source).toList = text := by
      rw [Token.text, here, Option.getD_some, String.toList_ofList]
    have others := inductionHypothesis (advance place text) restFilled oneLine.2 restStands (by
      rw [Text.utf8Length_append, ← offset]
      rfl)
    have longer := utf8Length_pos nonempty
    refine ⟨?_, ?_, ?_, ?_, ?_, ?_⟩
    · exact List.forall_mem_cons.mpr ⟨⟨rfl, rfl⟩, others.onLine⟩
    · exact List.forall_mem_cons.mpr ⟨Nat.lt_add_of_pos_right longer, others.nonempty⟩
    · exact List.forall_mem_cons.mpr ⟨by rw [here]; rfl, others.onBoundaries⟩
    · exact List.forall_mem_cons.mpr ⟨by rw [hereText]; exact oneLine.1, others.noFeed⟩
    · refine ⟨rfl, Nat.le_add_right _ _, ?_⟩
      rw [Text.utf8Length_append, ← Nat.add_assoc]
      exact others.endToEnd
    · show ((Token.mk kind ⟨place, advance place text⟩).text source).toList ++
        tokensText source (layOut (advance place text) rest) = _
      rw [hereText, others.text]

/-- What stands in front of a line that is one of several. -/
theorem stands_join_cons {source : List Char} {before line : List Char} {others : List (List Char)}
    (stands : source = before ++ Text.join '\n' (line :: others)) :
    ∃ after, source = before ++ line ++ after := by
  cases others with
  | nil => exact ⟨[], by rw [stands, List.append_nil]; rfl⟩
  | cons next rest =>
    rw [Text.join_cons _ _ _ (List.cons_ne_nil next rest), ← List.append_assoc] at stands
    exact ⟨_, stands⟩

/-- The pieces of lines that are left of the source cover these lines. -/
theorem coversLines_layOutLines {source : String} {before : List Char} (number offset : Nat)
    (lines : List (List Piece)) (filled : ∀ line ∈ lines, NoneEmpty line)
    (eachOneLine : ∀ line ∈ lines, '\n' ∉ textOf line)
    (stands : source.toList = before ++ Text.join '\n' (lines.map textOf))
    (isOffset : offset = Text.utf8Length before) :
    ∃ byLine, layOutLines number offset lines = byLine.flatten ∧
      CoversLines source number offset (lines.map textOf) byLine := by
  induction lines generalizing before number offset with
  | nil => exact ⟨[], rfl, trivial⟩
  | cons line rest inductionHypothesis =>
    obtain ⟨lineFilled, restFilled⟩ := List.forall_mem_cons.mp filled
    obtain ⟨oneLine, restOneLine⟩ := List.forall_mem_cons.mp eachOneLine
    obtain ⟨after, lineStands⟩ := stands_join_cons stands
    have here := coversLine_layOut ⟨number, 1, offset⟩ line lineFilled oneLine lineStands isOffset
    cases rest with
    | nil => exact ⟨[layOut ⟨number, 1, offset⟩ line], by rw [layOutLines]; rfl, here, trivial⟩
    | cons next others =>
      rw [List.map_cons, Text.join_cons _ _ _ (by simp)] at stands
      have restStands : source.toList = (before ++ textOf line ++ ['\n']) ++
          Text.join '\n' ((next :: others).map textOf) := by
        rw [stands]
        simp
      obtain ⟨byLine, flat, covered⟩ := inductionHypothesis (number + 1)
        (offset + Text.utf8Length (textOf line) + 1) restFilled restOneLine restStands
        (by simp [isOffset, Text.utf8Length]; rfl)
      refine ⟨layOut ⟨number, 1, offset⟩ line :: byLine, ?_, here, covered⟩
      rw [layOutLines, flat]
      rfl

/-- The texts of tokens that cover lines are the lines. -/
theorem CoversLines.texts {source : String} {number offset : Nat} {lines : List (List Char)}
    {byLine : List (List Token)} (covered : CoversLines source number offset lines byLine) :
    byLine.map (tokensText source) = lines := by
  induction lines generalizing number offset byLine with
  | nil =>
    cases byLine with
    | nil => rfl
    | cons tokens others => exact covered.elim
  | cons line rest inductionHypothesis =>
    cases byLine with
    | nil => exact covered.elim
    | cons tokens others =>
      obtain ⟨here, behind⟩ := covered
      rw [List.map_cons, here.text, inductionHypothesis behind]

/-- No token that covers a part of a line covers a line feed. -/
theorem CoversLines.noFeed {source : String} {number offset : Nat} {lines : List (List Char)}
    {byLine : List (List Token)} (covered : CoversLines source number offset lines byLine)
    {token : Token} (member : token ∈ byLine.flatten) : '\n' ∉ (token.text source).toList := by
  induction lines generalizing number offset byLine with
  | nil =>
    cases byLine with
    | nil => cases member
    | cons tokens others => exact covered.elim
  | cons line rest inductionHypothesis =>
    cases byLine with
    | nil => exact covered.elim
    | cons tokens others =>
      obtain ⟨here, behind⟩ := covered
      rcases List.mem_append.mp member with onLine | further
      · exact here.noFeed token onLine
      · exact inductionHypothesis behind further

end Banana.Highlight

namespace Banana.Highlighter

open Grammar Highlight Source

variable {engine : Pattern.Engine}

/-- The highlighter with another limit on its searches. -/
def limitedBy (highlighter : Highlighter engine) (givesUp : engine.Regex → List Char → Bool) :
    Highlighter engine :=
  { highlighter with givesUp := givesUp }

/-- Fewer matches do not tear groups apart. -/
theorem GroupsEndToEnd.limitedBy {highlighter : Highlighter engine}
    (endToEnd : highlighter.GroupsEndToEnd) (unlimited : highlighter.givesUp = fun _ _ => false)
    (givesUp : engine.Regex → List Char → Bool) :
    (highlighter.limitedBy givesUp).GroupsEndToEnd := by
  intro state rules defined rule member kinds action text found oneLine matched nonempty
  refine endToEnd state rules defined rule member kinds action text found oneLine ?_ nonempty
  unfold find? at matched ⊢
  rw [unlimited]
  split at matched
  · cases matched
  · exact matched

/-- The tokens of a source cover it when groups lie end to end. -/
theorem covers_highlight {highlighter : Highlighter engine} (endToEnd : highlighter.GroupsEndToEnd)
    (source : String) : Covers source (highlighter.highlight source) := by
  obtain ⟨pieces, tokens, lines, filled⟩ := highlight_eq_layOutLines endToEnd source
  have stands : source.toList = [] ++ Text.join '\n' (pieces.map textOf) := by
    rw [lines]
    exact (Text.join_split '\n' source.toList).symm
  have eachOneLine (line : List Piece) (member : line ∈ pieces) : '\n' ∉ textOf line := by
    have isLine : textOf line ∈ Text.lines source.toList := by
      rw [← lines]
      exact List.mem_map_of_mem member
    exact Text.not_mem_of_mem_split isLine
  obtain ⟨byLine, flat, covered⟩ :=
    coversLines_layOutLines 1 0 pieces filled eachOneLine stands rfl
  rw [lines] at covered
  refine ⟨byLine, by rw [tokens, flat], covered, ?_⟩
  rw [covered.texts]
  exact Text.join_split '\n' source.toList

end Banana.Highlighter
