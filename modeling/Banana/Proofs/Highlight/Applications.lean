/-
This file says which rule is applied at a moment of highlighting and what stands there in the
source. The rule is the first one of the current state that matches some text, and it alone decides
what the step finds; the text left at a moment is a part of the source, and the place of the moment
lies behind everything that stands before it.
-/

import Banana.Proofs.Highlight.Coordinates
import Banana.Proofs.Highlight.Moments

namespace Banana.Highlight

open Grammar Source

/-! ### The first rule that matches -/

/-- Whether a rule is the first one of a list that matches some text, with its match. Rules before
it may match the empty text. -/
inductive IsFirstMatch {engine : Pattern.Engine}
    (find? : engine.Regex → List Char → Option Pattern.Match) (text : List Char)
    (rule : ReadyRule engine) (found : Pattern.Match) : List (ReadyRule engine) → Prop
  | here (others : List (ReadyRule engine)) (matched : find? rule.pattern text = some found)
      (nonempty : 0 < found.stop) : IsFirstMatch find? text rule found (rule :: others)
  | there {other : ReadyRule engine} {others : List (ReadyRule engine)}
      (passed : ∀ earlier, find? other.pattern text = some earlier → earlier.stop = 0)
      (further : IsFirstMatch find? text rule found others) :
      IsFirstMatch find? text rule found (other :: others)

section FirstMatch

variable {engine : Pattern.Engine} {find? : engine.Regex → List Char → Option Pattern.Match}
  {text : List Char} {rules : List (ReadyRule engine)} {rule : ReadyRule engine}
  {found : Pattern.Match}

theorem IsFirstMatch.mem (isFirst : IsFirstMatch find? text rule found rules) : rule ∈ rules := by
  induction isFirst with
  | here => exact List.mem_cons_self
  | there _ _ inductionHypothesis => exact List.mem_cons_of_mem _ inductionHypothesis

theorem IsFirstMatch.matched (isFirst : IsFirstMatch find? text rule found rules) :
    find? rule.pattern text = some found ∧ 0 < found.stop := by
  induction isFirst with
  | here _ matched nonempty => exact ⟨matched, nonempty⟩
  | there _ _ inductionHypothesis => exact inductionHypothesis

theorem firstRule?_of_isFirstMatch (isFirst : IsFirstMatch find? text rule found rules) :
    firstRule? find? text rules = some (rule.action, found) := by
  induction isFirst with
  | here others matched nonempty =>
    rw [firstRule?, matched]
    exact if_neg (Nat.ne_of_gt nonempty)
  | @there other others passed _ inductionHypothesis =>
    rw [firstRule?]
    cases earlier : find? other.pattern text with
    | none => exact inductionHypothesis
    | some match_ => exact (if_pos (passed match_ earlier)).trans inductionHypothesis

/-- Either some rule is the first one that matches, or none matches anything. -/
theorem exists_isFirstMatch_or (find? : engine.Regex → List Char → Option Pattern.Match)
    (text : List Char) (rules : List (ReadyRule engine)) :
    (∃ rule found, IsFirstMatch find? text rule found rules) ∨
      firstRule? find? text rules = none := by
  induction rules with
  | nil => exact Or.inr rfl
  | cons other others inductionHypothesis =>
    by_cases passed : ∀ earlier, find? other.pattern text = some earlier → earlier.stop = 0
    · rcases inductionHypothesis with ⟨rule, found, isFirst⟩ | none
      · exact Or.inl ⟨rule, found, .there passed isFirst⟩
      · refine Or.inr ?_
        rw [firstRule?]
        cases earlier : find? other.pattern text with
        | none => exact none
        | some match_ => exact (if_pos (passed match_ earlier)).trans none
    · obtain ⟨found, matched, nonempty⟩ := by simpa only [not_forall] using passed
      exact Or.inl ⟨other, found, .here others matched (Nat.pos_of_ne_zero nonempty)⟩

end FirstMatch

end Banana.Highlight

namespace Banana.Highlighter

open Grammar Highlight Source

variable {engine : Pattern.Engine} {highlighter : Highlighter engine} {moment : Moment}
  {rule : ReadyRule engine} {found : Pattern.Match}

/-! ### The rule applied at a moment -/

/-- Whether a rule is applied at a moment, with its match. -/
def Moment.Applies (moment : Moment) (highlighter : Highlighter engine) (rule : ReadyRule engine)
    (found : Pattern.Match) : Prop :=
  ∃ rules, highlighter.rules moment.stack.current = some rules ∧
    IsFirstMatch highlighter.find? moment.text rule found rules

/-- The rule that is applied decides what is found. -/
theorem Moment.Applies.step_eq (applies : moment.Applies highlighter rule found) :
    moment.step highlighter =
      ⟨actionTokens highlighter.grammar moment.place moment.text found rule.action, found.stop,
        actionStack moment.stack rule.action⟩ := by
  obtain ⟨rules, defined, isFirst⟩ := applies
  rw [Moment.step, Highlighter.step, defined, Option.getD_some, firstRule?_of_isFirstMatch isFirst]

/-- At a moment a rule is applied, or one character becomes a token of the default class. -/
theorem Moment.applies_or (moment : Moment) (highlighter : Highlighter engine) :
    (∃ rule found, moment.Applies highlighter rule found) ∨
      moment.step highlighter =
        ⟨tokenBetween moment.place moment.text highlighter.grammar.defaultToken 0 1, 1,
          moment.stack⟩ := by
  rcases exists_isFirstMatch_or highlighter.find? moment.text
    ((highlighter.rules moment.stack.current).getD []) with ⟨rule, found, isFirst⟩ | none
  · cases defined : highlighter.rules moment.stack.current with
    | none =>
      rw [defined] at isFirst
      exact absurd isFirst.mem List.not_mem_nil
    | some rules =>
      rw [defined] at isFirst
      exact Or.inl ⟨rule, found, rules, defined, isFirst⟩
  · exact Or.inr (by rw [Moment.step, Highlighter.step, none])

/-- A rule that is applied is one of the current state, and its pattern finds its match. -/
theorem Moment.Applies.matched (applies : moment.Applies highlighter rule found) :
    (∃ rules, highlighter.rules moment.stack.current = some rules ∧ rule ∈ rules) ∧
      engine.find? rule.pattern moment.text = some found ∧ 0 < found.stop := by
  obtain ⟨rules, defined, isFirst⟩ := applies
  obtain ⟨matched, nonempty⟩ := isFirst.matched
  unfold find? at matched
  split at matched
  · cases matched
  · exact ⟨⟨rules, defined, isFirst.mem⟩, matched, nonempty⟩

/-- A match stops in the text that is left, behind its start and behind its first character. -/
theorem Moment.Applies.bounds (applies : moment.Applies highlighter rule found) :
    found.start ≤ found.stop ∧ 0 < found.stop ∧ found.stop ≤ moment.text.length := by
  obtain ⟨-, matched, nonempty⟩ := applies.matched
  obtain ⟨ordered, within⟩ := engine.find?_bounds matched
  exact ⟨ordered, nonempty, within⟩

/-- A rule whose action is no list of groups finds one token, for all that the step goes past. -/
theorem Moment.Applies.tokens_of_single (applies : moment.Applies highlighter rule found)
    (single : ∀ kinds, rule.action ≠ .groups kinds) :
    (moment.step highlighter).tokens =
      [⟨actionKind highlighter.grammar ((moment.text.take found.stop).drop found.start) rule.action,
        moment.place, advance moment.place (moment.text.take found.stop)⟩] := by
  rw [applies.step_eq]
  have one (kind : TokenClass) := tokenBetween_zero moment.place moment.text kind applies.bounds.2.1
  cases action : rule.action with
  | groups kinds => exact absurd action (single kinds)
  | _ => exact one _

/-- A rule that looks its match up finds one token. -/
theorem Moment.Applies.tokens_of_cases (applies : moment.Applies highlighter rule found)
    {set : KeywordSet} {present default : TokenClass}
    (looksUp : rule.action = .cases set present default) :
    (moment.step highlighter).tokens =
      [⟨if highlighter.grammar.keywordSetContains set
            (String.ofList ((moment.text.take found.stop).drop found.start)) then present
          else default,
        moment.place, advance moment.place (moment.text.take found.stop)⟩] := by
  rw [applies.tokens_of_single (by simp [looksUp]), looksUp]
  rfl

/-! ### What stands at a moment -/

/-- The text left at a moment is what is left of the line behind the text taken before. -/
theorem exists_taken_of_mem_lineMoments {stack : Stack} {place : Position} {text : List Char}
    (member : moment ∈ highlighter.lineMoments stack place text) :
    ∃ taken, text = taken ++ moment.text ∧ moment.place = advance place taken := by
  fun_induction lineMoments highlighter stack place text with
  | case1 stack place => exact absurd member List.not_mem_nil
  | case2 stack place c rest step next inductionHypothesis =>
    rcases List.mem_cons.mp member with rfl | later
    · exact ⟨[], rfl, rfl⟩
    · obtain ⟨taken, total, reached⟩ := inductionHypothesis later
      rw [drop_step] at total
      refine ⟨(c :: rest).take step.length ++ taken, ?_, ?_⟩
      · rw [List.append_assoc, ← total, List.take_append_drop]
      · rw [reached, advance_advance]

/-- What stands before, at and behind a moment of lines that are left of a source. -/
theorem exists_before_of_mem_linesMoments {source front : List Char} {stack : Stack}
    {lines : List (List Char)} (stands : source = front ++ Text.join '\n' lines)
    (isStart : Text.lastLine front = []) (eachOneLine : ∀ line ∈ lines, '\n' ∉ line)
    (member : moment ∈ highlighter.linesMoments stack (front.count '\n' + 1)
      (Text.utf8Length front) lines) :
    ∃ before after, source = before ++ moment.text ++ after ∧
      moment.place = placeAfter before ∧ '\n' ∉ moment.text := by
  induction lines generalizing stack front with
  | nil => exact absurd member List.not_mem_nil
  | cons line rest inductionHypothesis =>
    obtain ⟨oneLine, restOneLine⟩ := List.forall_mem_cons.mp eachOneLine
    rcases List.mem_append.mp member with here | further
    · obtain ⟨behind, lineStands⟩ := stands_join_cons stands
      rw [lineStart_eq_placeAfter isStart] at here
      obtain ⟨taken, rfl, reached⟩ := exists_taken_of_mem_lineMoments here
      rw [List.mem_append, not_or] at oneLine
      refine ⟨front ++ taken, behind, ?_, ?_, oneLine.2⟩
      · rw [lineStands]
        simp only [List.append_assoc]
      · rw [reached, advance_placeAfter oneLine.1]
    · cases rest with
      | nil => exact absurd further List.not_mem_nil
      | cons next others =>
        obtain ⟨restStands, number, offset⟩ := stands_behind_line stands oneLine
        rw [← number, ← offset] at further
        exact inductionHypothesis restStands (Text.lastLine_feed _) restOneLine further

/-- What stands before, at and behind a moment of a source. -/
theorem exists_before_of_mem_moments {source : String}
    (member : moment ∈ highlighter.moments source) :
    ∃ before after, source.toList = before ++ moment.text ++ after ∧
      moment.place = placeAfter before ∧ '\n' ∉ moment.text := by
  have stands : source.toList = [] ++ Text.join '\n' (Text.lines source.toList) :=
    (Text.join_split '\n' source.toList).symm
  exact exists_before_of_mem_linesMoments stands rfl (fun _ => Text.not_mem_of_mem_split) member

/-- The text of a token for the first characters that are left at a moment is these characters. -/
theorem text_of_mem_moments {source : String} (member : moment ∈ highlighter.moments source)
    (kind : TokenClass) (count : Nat) :
    (Token.mk kind ⟨moment.place, advance moment.place (moment.text.take count)⟩).text source =
      String.ofList (moment.text.take count) := by
  obtain ⟨before, after, stands, reached, -⟩ := exists_before_of_mem_moments member
  have pieceStands : source.toList =
      before ++ moment.text.take count ++ (moment.text.drop count ++ after) := by
    rw [stands, List.append_assoc, List.append_assoc before,
      ← List.append_assoc (moment.text.take _), List.take_append_drop]
  have offset : moment.place.offset = Text.utf8Length before := by
    rw [reached]
    rfl
  rw [Token.text, slice_of_piece kind pieceStands offset, Option.getD_some]

end Banana.Highlighter
