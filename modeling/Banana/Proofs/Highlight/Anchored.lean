/-
This file says where the match of an applied rule starts, whatever engine the patterns are for. Each
pattern is written into a group that is tied to the current place, and a rule whose text is a
pattern by itself is tried there or not at all. But the text is not read by itself: one that closes
the group puts an alternative outside of it, which may match further on; and a pattern may also move
the start of its match. What stands between the place and the match is then taken along, while the
match alone is looked up.
-/

import Banana.Grammar.Language
import Banana.Proofs.Highlight.Applications
import Banana.Proofs.Pattern.Trials

namespace Banana.Grammar

/-- The text of a pattern with the two names expanded. -/
def expansion (grammar : Grammar) (pattern : String) : String :=
  let symbols := Text.replaceAll "@symbols".toList (enclosed grammar.symbols) pattern.toList
  String.ofList (Text.replaceAll "@escapes".toList (enclosed grammar.escapes) symbols)

theorem expand_eq (grammar : Grammar) (pattern : String) :
    grammar.expand pattern = '^' :: enclosed (grammar.expansion pattern) := rfl

/-- Whether the expanded text of a lexeme's pattern is a pattern by itself. -/
def IsWhole (grammar : Grammar) (engine : Pattern.Engine) (lexeme : Lexeme) : Prop :=
  (engine.compile? (grammar.expansion lexeme.pattern).toList).isSome

end Banana.Grammar

namespace Banana.Highlight

open Grammar

section Trials

variable {engine : Pattern.Engine} (trials : engine.Trials) {grammar : Grammar} {lexeme : Lexeme}
  {rule : ReadyRule engine} (readied : lexeme.ready engine grammar = .ok rule) {text : List Char}
  {found : Pattern.Match} (matched : engine.find? rule.pattern text = some found)
include trials readied matched

/-- The match of a rule whose text is a pattern by itself is the one that this pattern has at the
place. -/
theorem tryAt?_of_compile? {inner : engine.Regex}
    (isPattern : engine.compile? (grammar.expansion lexeme.pattern).toList = some inner) :
    trials.tryAt? rule.pattern text 0 = some found ∧ trials.tryAt? inner text 0 = some found := by
  have compiled := (ready_eq_ok_iff.mp readied).2.1
  rw [expand_eq] at compiled
  have tied := trials.tied isPattern compiled text
  obtain ⟨place, -, isThere⟩ := trials.tried matched
  have atStart : place = 0 := by
    by_contra further
    rw [tied, if_neg further] at isThere
    cases isThere
  rw [atStart] at isThere
  refine ⟨isThere, ?_⟩
  rw [tied, if_pos rfl] at isThere
  exact isThere

/-- Such a rule matches at the place, unless its pattern moves the start of the match. -/
theorem start_eq_zero_of_isWhole (isWhole : grammar.IsWhole engine lexeme)
    (unmarked : ¬ Pattern.startMark <:+: grammar.expand lexeme.pattern) : found.start = 0 := by
  obtain ⟨inner, isPattern⟩ := Option.isSome_iff_exists.mp isWhole
  obtain ⟨isHere, -⟩ := tryAt?_of_compile? trials readied matched isPattern
  exact trials.unmoved (ready_eq_ok_iff.mp readied).2.1 unmarked isHere

end Trials

/-- What is left of a text without its first characters is all of it only when there are none. -/
theorem drop_eq_self_iff {text : List Char} {count : Nat} (within : count ≤ text.length) :
    text.drop count = text ↔ count = 0 := by
  constructor
  · intro same
    have lengths := congrArg List.length same
    rw [List.length_drop] at lengths
    omega
  · rintro rfl
    exact List.drop_zero

/-- The text of a token without its first characters. -/
def Token.textFrom (token : Token) (source : String) (count : Nat) : List Char :=
  (token.text source).toList.drop count

end Banana.Highlight

namespace Banana.Highlighter

open Grammar Highlight Source

/-- A rule that is applied has matched exactly the text that its step goes past when its match
starts at the place, and only then. The match does start there when the rule's expanded text is a
pattern by itself that does not move the start, and in any case such a text matches at the place
what it matches by itself. A rule that looks its match up, or asks for the bracket it starts with,
gives its one token the class of the token's text from the start of the match on; that is the
token's own text, or its first character, when the match starts at the place. -/
theorem match_is_anchored_iff {engine : Pattern.Engine} (trials : engine.Trials)
    {grammar : Grammar} {highlighter : Highlighter engine}
    (accepted : ofGrammarWith engine grammar = .ok highlighter)
    (givesUp : engine.Regex → List Char → Bool) {source : String} {moment : Moment}
    (member : moment ∈ (highlighter.limitedBy givesUp).moments source) {rule : ReadyRule engine}
    {found : Pattern.Match} (applies : moment.Applies (highlighter.limitedBy givesUp) rule found) :
    ((moment.text.take found.stop).drop found.start =
        moment.text.take (moment.step (highlighter.limitedBy givesUp)).length ↔
      found.start = 0) ∧
    (∃ lexeme, grammar.StandsFor moment.stack.current lexeme ∧
      lexeme.ready engine grammar = .ok rule ∧
      (found.start ≠ 0 → ¬ grammar.IsWhole engine lexeme ∨
        Pattern.startMark <:+: grammar.expand lexeme.pattern) ∧
      ∀ inner, engine.compile? (grammar.expansion lexeme.pattern).toList = some inner →
        trials.tryAt? inner moment.text 0 = some found) ∧
    (∀ set present default, rule.action = .cases set present default →
      ∃ token, (moment.step (highlighter.limitedBy givesUp)).tokens = [token] ∧
        (token.kind = if grammar.keywordSetContains set
          (String.ofList (token.textFrom source found.start)) then present else default) ∧
        (found.start = 0 → token.kind =
          if grammar.keywordSetContains set (token.text source) then present else default)) ∧
    (rule.action = .brackets →
      ∃ token, (moment.step (highlighter.limitedBy givesUp)).tokens = [token] ∧
        token.kind =
          ((token.textFrom source found.start).head?.bind grammar.bracketClass).getD .angle ∧
        (found.start = 0 → token.kind =
          ((token.text source).toList.head?.bind grammar.bracketClass).getD .angle)) := by
  obtain ⟨⟨rules, defined, isRule⟩, matched, nonempty⟩ := applies.matched
  obtain ⟨ordered, -, within⟩ := applies.bounds
  obtain ⟨-, made, isGrammar, -⟩ := ofGrammarWith_eq_ok_iff.mp accepted
  have isMade := made moment.stack.current
  have sameRules : highlighter.rules moment.stack.current = some rules := defined
  rw [sameRules] at isMade
  obtain ⟨lexeme, standsFor, readied⟩ := exists_lexeme_of_readyRules isMade isRule
  have sameGrammar : (highlighter.limitedBy givesUp).grammar = grammar := isGrammar
  -- The text of the step's token, from the start of the match on and as a whole.
  have textFrom (kind : TokenClass) : Token.textFrom
      ⟨kind, moment.place, advance moment.place (moment.text.take found.stop)⟩ source found.start =
        (moment.text.take found.stop).drop found.start := by
    rw [Token.textFrom, text_of_mem_moments member, String.toList_ofList]
  have whole (kind : TokenClass) (atStart : found.start = 0) : (Token.text
      ⟨kind, moment.place, advance moment.place (moment.text.take found.stop)⟩ source).toList =
        (moment.text.take found.stop).drop found.start := by
    rw [text_of_mem_moments member, String.toList_ofList, atStart, List.drop_zero]
  refine ⟨?text, ⟨lexeme, standsFor, readied, ?start, fun inner isPattern =>
      (tryAt?_of_compile? trials readied matched isPattern).2⟩,
    fun set present default looksUp => ?cases, fun isBrackets => ?brackets⟩
  case text =>
    rw [applies.step_eq]
    refine drop_eq_self_iff ?_
    rw [List.length_take_of_le within]
    exact ordered
  case start =>
    intro further
    by_contra neither
    obtain ⟨isWhole, unmarked⟩ := not_or.mp neither
    exact further (start_eq_zero_of_isWhole trials readied matched (not_not.mp isWhole) unmarked)
  case cases =>
    refine ⟨_, applies.tokens_of_cases looksUp, ?_, fun atStart => ?_⟩
    · rw [textFrom, sameGrammar]
    · rw [← String.ofList_toList (s := Token.text _ source), whole _ atStart, sameGrammar]
  case brackets =>
    refine ⟨_, applies.tokens_of_single (by simp [isBrackets]), ?_, fun atStart => ?_⟩
    · rw [textFrom, sameGrammar, isBrackets]
      rfl
    · rw [whole _ atStart, sameGrammar, isBrackets]
      rfl

/-- A grammar with one rule, which tells operators from other texts. -/
def choosing (pattern : String) : Grammar where
  __ := Grammar.ofComponents []
  rules state :=
    if state = .root then some [.lexeme ⟨pattern, .cases .operators .operator .invalid⟩]
    else none

/-- The highlighter of that grammar, with its pattern as a tree. -/
def chooser (pattern : String) (tree : Pattern) : Highlighter Pattern.engine where
  grammar := choosing pattern
  rules state :=
    if state = .root then some [⟨tree, .cases .operators .operator .invalid⟩] else none

/-- A letter or a plus sign. -/
def inGroup : Pattern :=
  .sequence (.anchor .start) (.either (.char 'a') (.char '+'))

/-- A letter at the place, or a plus sign anywhere. -/
def outOfGroup : Pattern :=
  .either (.sequence (.anchor .start) (.char 'a')) (.char '+')

theorem ofGrammar_inGroup :
    ofGrammar (choosing "a|\\+") = .ok (chooser "a|\\+" inGroup) :=
  ofGrammarWith_eq_ok_iff.mpr ⟨rfl, fun state => by cases state <;> cbv, rfl, rfl⟩

theorem ofGrammar_outOfGroup :
    ofGrammar (choosing "a)|(?:\\+") = .ok (chooser "a)|(?:\\+" outOfGroup) :=
  ofGrammarWith_eq_ok_iff.mpr ⟨rfl, fun state => by cases state <;> cbv, rfl, rfl⟩

/-- A plus sign is matched where it stands when both alternatives are in the group. -/
theorem plus_matched_at_its_place :
    let limited := (chooser "a|\\+" inGroup).limitedBy fun _ _ => false
    let moment : Moment := ⟨.initial, ⟨1, 1, 0⟩, ['+']⟩
    ofGrammar (choosing "a|\\+") = .ok (chooser "a|\\+" inGroup) ∧
      moment ∈ limited.moments "+" ∧
      moment.Applies limited ⟨inGroup, .cases .operators .operator .invalid⟩ ⟨0, 1, []⟩ ∧
      ['+'] = moment.text.take (moment.step limited).length ∧
      ∃ token, (moment.step limited).tokens = [token] ∧
        token.kind = if (choosing "a|\\+").keywordSetContains .operators (token.text "+") then
          .operator else .invalid := by
  intro limited moment
  have all : limited.moments "+" = [moment] := by cbv
  have member : moment ∈ limited.moments "+" := by
    rw [all]
    exact List.mem_cons_self
  have applies : moment.Applies limited ⟨inGroup, .cases .operators .operator .invalid⟩
      ⟨0, 1, []⟩ := ⟨_, rfl, .here _ rfl Nat.zero_lt_one⟩
  obtain ⟨text, -, classes, -⟩ :=
    match_is_anchored_iff Pattern.trials ofGrammar_inGroup _ member applies
  obtain ⟨token, isOne, -, own⟩ := classes _ _ _ rfl
  exact ⟨ofGrammar_inGroup, member, applies, text.mpr rfl, token, isOne, own rfl⟩

/-- A text that closes the group and opens another one makes a text an operator that is none: the
plus sign is found further on, and what stands before it becomes a part of the token. -/
theorem operator_for_letter_and_plus :
    ofGrammar (choosing "a)|(?:\\+") = .ok (chooser "a)|(?:\\+" outOfGroup) ∧
      (∃ moment ∈ (chooser "a)|(?:\\+" outOfGroup).moments "x+", ∃ rule found,
        moment.Applies (chooser "a)|(?:\\+" outOfGroup) rule found ∧
          (moment.text.take found.stop).drop found.start ≠
            moment.text.take (moment.step (chooser "a)|(?:\\+" outOfGroup)).length) ∧
      (chooser "a)|(?:\\+" outOfGroup).highlight "x+" = [⟨.operator, ⟨1, 1, 0⟩, ⟨1, 3, 2⟩⟩] ∧
      (Token.mk .operator ⟨⟨1, 1, 0⟩, ⟨1, 3, 2⟩⟩).text "x+" = "x+" ∧
      (choosing "a)|(?:\\+").isOperator "x+" = false := by
  have all : (chooser "a)|(?:\\+" outOfGroup).moments "x+" =
      [⟨.initial, ⟨1, 1, 0⟩, ['x', '+']⟩] := by cbv
  have step : Moment.step ⟨.initial, ⟨1, 1, 0⟩, ['x', '+']⟩ (chooser "a)|(?:\\+" outOfGroup) =
      ⟨[⟨.operator, ⟨1, 1, 0⟩, ⟨1, 3, 2⟩⟩], 2, .initial⟩ := by cbv
  refine ⟨ofGrammar_outOfGroup, ⟨⟨.initial, ⟨1, 1, 0⟩, ['x', '+']⟩, by simp [all],
    ⟨outOfGroup, .cases .operators .operator .invalid⟩, ⟨1, 2, []⟩,
    ⟨_, rfl, .here _ rfl Nat.zero_lt_two⟩, ?_⟩, by cbv, by cbv, by cbv⟩
  rw [step]
  decide

end Banana.Highlighter
