/-
This file compares the highlighters of the pipeline language with two lists of components.
Capitalised words are the only ones that are looked up among the names of components, and they are
what stands at the current place; so the tokens of a source differ exactly where such a word names a
component of one list and none of the other.
-/

import Banana.Proofs.Highlight.Anchored
import Banana.Proofs.Highlight.Keywords
import Banana.Proofs.Language.Agreement

namespace Banana.Highlight

open Grammar Source

/-! ### Classes that an action gives -/

/-- The classes that an action may give to tokens. -/
def classesOf (brackets : List BracketPair) : Action → List TokenClass
  | .token kind | .push kind _ | .pop kind => [kind]
  | .cases _ present default => [present, default]
  | .brackets => .angle :: brackets.map (·.kind)
  | .groups kinds => kinds

theorem kind_of_mem_tokenBetween {place : Position} {text : List Char} {kind : TokenClass}
    {start stop : Nat} {token : Token} (member : token ∈ tokenBetween place text kind start stop) :
    token.kind = kind := by
  unfold tokenBetween at member
  split at member
  · rw [List.mem_singleton.mp member]
  · exact absurd member List.not_mem_nil

theorem kind_mem_of_mem_groupTokens {place : Position} {text : List Char} {found : Pattern.Match}
    {token : Token} {kinds : List TokenClass} {index : Nat}
    (member : token ∈ groupTokens place text found index kinds) : token.kind ∈ kinds := by
  induction kinds generalizing index with
  | nil => exact absurd member List.not_mem_nil
  | cons kind rest inductionHypothesis =>
    rcases List.mem_append.mp member with here | further
    · cases region : found.group? index with
      | none =>
        rw [region] at here
        exact absurd here List.not_mem_nil
      | some bounds =>
        rw [region] at here
        rw [kind_of_mem_tokenBetween here]
        exact List.mem_cons_self
    · exact List.mem_cons_of_mem _ (inductionHypothesis further)

theorem actionKind_mem {grammar : Grammar} {matched : List Char} {action : Action}
    (single : ∀ kinds, action ≠ .groups kinds) :
    actionKind grammar matched action ∈ classesOf grammar.brackets action := by
  cases action with
  | groups kinds => exact absurd rfl (single kinds)
  | cases set present default =>
    rw [actionKind]
    split <;> simp [classesOf]
  | brackets =>
    rw [actionKind, classesOf, List.mem_cons]
    cases matched.head? with
    | none => exact Or.inl rfl
    | some c =>
      rw [Option.bind_some, bracketClass]
      cases found : grammar.brackets.find? fun pair => pair.opening == c || pair.closing == c with
      | none => exact Or.inl rfl
      | some pair => exact Or.inr (List.mem_map_of_mem (List.mem_of_find?_eq_some found))
  | _ => exact List.mem_cons_self

/-- Each token of an action has one of its classes. -/
theorem kind_mem_of_mem_actionTokens {grammar : Grammar} {place : Position} {text : List Char}
    {found : Pattern.Match} {action : Action} {token : Token}
    (member : token ∈ actionTokens grammar place text found action) :
    token.kind ∈ classesOf grammar.brackets action := by
  cases action with
  | groups kinds => exact kind_mem_of_mem_groupTokens member
  | _ =>
    rw [kind_of_mem_tokenBetween member]
    exact actionKind_mem (by simp)

end Banana.Highlight

namespace Banana.Grammar.Language

open Highlight Schema Highlighter

/-! ### Capitalised words -/

/-- The classes of capitalised words. -/
def wordClasses : List TokenClass := [.componentName, .capitalised]

/-- What is done with a capitalised word. -/
def lookUp : Action := .cases .typeKeywords .componentName .capitalised

/-- The pattern of a capitalised word. -/
def wordText : String := "[A-Z][A-Za-z0-9_$]*"

/-- The patterns among some rules. -/
def lexemesOf (rules : List Rule) : List Lexeme :=
  rules.filterMap fun
    | .lexeme lexeme => some lexeme
    | .included _ => none

/-- A lexeme of the language stands in one of the lists of rules. -/
theorem exists_mem_lexemesOf {components : List Component} {state : State} {lexeme : Lexeme}
    (standsFor : (Grammar.ofComponents components).StandsFor state lexeme) :
    ∃ other, lexeme ∈ lexemesOf (lexicalRules other) := by
  obtain ⟨other, _, -, ⟨⟩, member⟩ := standsFor
  exact ⟨other, List.mem_filterMap.mpr ⟨_, member, rfl⟩⟩

section Lexemes

variable {state : State} {lexeme : Lexeme} (member : lexeme ∈ lexemesOf (lexicalRules state))
include member

/-- Only capitalised words are looked up. -/
theorem pattern_eq_of_lookUp (isLookUp : lexeme.action = lookUp) : lexeme.pattern = wordText := by
  have each : ∀ lexeme ∈ lexemesOf (lexicalRules state), lexeme.action = lookUp →
      lexeme.pattern = wordText := by
    cases state <;> decide
  exact each lexeme member isLookUp

/-- Only the look-up of capitalised words gives their classes. -/
theorem kind_not_mem_wordClasses (components : List Component)
    (notLookUp : lexeme.action ≠ lookUp) :
    ∀ kind ∈ classesOf (Grammar.ofComponents components).brackets lexeme.action,
      kind ∉ wordClasses := by
  have each : ∀ lexeme ∈ lexemesOf (lexicalRules state), lexeme.action ≠ lookUp →
      ∀ kind ∈ classesOf (Grammar.ofComponents []).brackets lexeme.action, kind ∉ wordClasses := by
    cases state <;> decide
  exact each lexeme member notLookUp

theorem looksNothingUp (notLookUp : lexeme.action ≠ lookUp) (present default : TokenClass) :
    lexeme.action ≠ .cases .typeKeywords present default := by
  have each : ∀ lexeme ∈ lexemesOf (lexicalRules state), lexeme.action ≠ lookUp →
      ∀ present default, lexeme.action ≠ .cases .typeKeywords present default := by
    cases state <;>
      simp [lexemesOf, lexicalRules, Grammar.rootRules, Grammar.whitespaceRules,
        Grammar.stringRules, Rule.token, lookUp]
  exact each lexeme member notLookUp present default

end Lexemes

/-! ### Two lists of components -/

/-- Whether a word names a component of one list and none of the other. -/
def NamedByOne (components others : List Component) (word : String) : Prop :=
  Xor (word ∈ components.map (·.name)) (word ∈ others.map (·.name))

/-- Whether two tokens, found with two lists of components, have different classes exactly if they
are for a capitalised word that only one of the lists names. -/
def DifferByName (components others : List Component) (source : String)
    (one other : Token) : Prop :=
  one.kind ≠ other.kind ↔
    one.kind ∈ wordClasses ∧ NamedByOne components others (one.text source)

section Components

variable {engine : Pattern.Engine} (trials : engine.Trials)
  (isPattern : (engine.compile? wordText.toList).isSome) {components : List Component}
  {highlighter : Highlighter engine}
  (accepted : ofGrammarWith engine (.ofComponents components) = .ok highlighter)
include trials isPattern accepted

/-- A capitalised word that is looked up stands at the place. -/
theorem start_eq_zero_of_lookUp {state : State} {rules : List (ReadyRule engine)}
    (defined : highlighter.rules state = some rules) {rule : ReadyRule engine}
    (isRule : rule ∈ rules) (isLookUp : rule.action = lookUp) {text : List Char}
    {found : Pattern.Match} (matched : engine.find? rule.pattern text = some found) :
    found.start = 0 := by
  have made := (ofGrammarWith_eq_ok_iff.mp accepted).2.1 state
  rw [defined] at made
  obtain ⟨lexeme, standsFor, readied⟩ := exists_lexeme_of_readyRules made isRule
  obtain ⟨other, member⟩ := exists_mem_lexemesOf standsFor
  have isWord : lexeme.pattern = wordText :=
    pattern_eq_of_lookUp member ((ready_eq_ok_iff.mp readied).2.2.symm.trans isLookUp)
  refine start_eq_zero_of_isWhole trials readied matched ?_ ?_
  · have expansion : (Grammar.ofComponents components).expansion wordText = wordText := by cbv
    rw [IsWhole, isWord, expansion]
    exact isPattern
  · have expanded : (Grammar.ofComponents components).expand wordText =
        "^(?:[A-Z][A-Za-z0-9_$]*)".toList := by cbv
    rw [isWord, expanded]
    decide

/-- At a moment of a source the tokens found with two lists of components differ exactly in the
classes of capitalised words that only one list names. -/
theorem forall₂_step_components (others : List Component)
    (givesUp : engine.Regex → List Char → Bool) {source : String} {moment : Moment}
    (member : moment ∈ (highlighter.limitedBy givesUp).moments source) :
    List.Forall₂ (DifferByName components others source)
      (moment.step (highlighter.limitedBy givesUp)).tokens
      (moment.step ((highlighter.limitedBy givesUp).withTypeKeywords
        (Grammar.ofComponents others).typeKeywords)).tokens := by
  let first := highlighter.limitedBy givesUp
  let words := (Grammar.ofComponents others).typeKeywords
  show List.Forall₂ _ (moment.step first).tokens (moment.step (first.withTypeKeywords words)).tokens
  obtain ⟨-, made, isGrammar, -⟩ := ofGrammarWith_eq_ok_iff.mp accepted
  have sameGrammar : first.grammar = .ofComponents components := isGrammar
  -- Equal tokens whose classes are not those of capitalised words.
  have alike {tokens : List Token} (noWords : ∀ token ∈ tokens, token.kind ∉ wordClasses) :
      List.Forall₂ (DifferByName components others source) tokens tokens :=
    List.forall₂_same.mpr fun token isIn =>
      ⟨fun different => absurd rfl different, fun both => absurd both.1 (noWords token isIn)⟩
  by_cases applied : ∃ rule found, moment.Applies first rule found
  · obtain ⟨rule, found, applies⟩ := applied
    obtain ⟨⟨rules, defined, isRule⟩, matched, nonempty⟩ := applies.matched
    by_cases isLookUp : rule.action = lookUp
    · have fromStart := start_eq_zero_of_lookUp trials isPattern accepted defined isRule isLookUp
        matched
      have here := applies.tokens_of_cases isLookUp
      have there := (applies.withTypeKeywords words).tokens_of_cases isLookUp
      rw [fromStart, List.drop_zero] at here there
      rw [here, there]
      refine .cons ?_ .nil
      rw [DifferByName, text_of_mem_moments member]
      show (if first.grammar.isTypeKeyword _ then TokenClass.componentName else _) ≠ _ ↔
        (if first.grammar.isTypeKeyword _ then TokenClass.componentName else _) ∈ _ ∧ _
      rw [sameGrammar]
      generalize String.ofList (moment.text.take found.stop) = word
      show (if (Grammar.ofComponents components).isTypeKeyword word then TokenClass.componentName
          else .capitalised) ≠ (if (Grammar.ofComponents others).isTypeKeyword word then _ else _) ↔
        (if (Grammar.ofComponents components).isTypeKeyword word then _ else _) ∈ wordClasses ∧ _
      rw [Direct.isTypeKeyword_ofComponents, Direct.isTypeKeyword_ofComponents, NamedByOne, Xor]
      by_cases inFirst : word ∈ components.map (·.name) <;>
        by_cases inSecond : word ∈ others.map (·.name) <;>
        simp [inFirst, inSecond, wordClasses]
    · have isMade := made moment.stack.current
      have sameRules : highlighter.rules moment.stack.current = some rules := defined
      rw [sameRules] at isMade
      obtain ⟨lexeme, standsFor, readied⟩ := exists_lexeme_of_readyRules isMade isRule
      obtain ⟨other, isLexeme⟩ := exists_mem_lexemesOf standsFor
      have sameAction := (ready_eq_ok_iff.mp readied).2.2
      rw [sameAction] at isLookUp
      rw [applies.tokens_withTypeKeywords words
        (sameAction ▸ looksNothingUp isLexeme isLookUp)]
      refine alike fun token isIn => ?_
      rw [applies.step_eq, sameGrammar, sameAction] at isIn
      exact kind_not_mem_wordClasses isLexeme components isLookUp _
        (kind_mem_of_mem_actionTokens isIn)
  · rw [(moment.applies_or first).resolve_left applied,
      (moment.applies_or (first.withTypeKeywords words)).resolve_left applied]
    refine alike fun token isIn => ?_
    change token ∈ tokenBetween moment.place moment.text first.grammar.defaultToken 0 1 at isIn
    rw [kind_of_mem_tokenBetween isIn, sameGrammar]
    exact (by decide : TokenClass.invalid ∉ wordClasses)

/-- The tokens of a source that are found with two lists of components. -/
theorem forall₂_highlight_components (others : List Component)
    (givesUp : engine.Regex → List Char → Bool) (source : String) :
    List.Forall₂ (DifferByName components others source)
      ((highlighter.limitedBy givesUp).highlight source)
      (((highlighter.limitedBy givesUp).withTypeKeywords
        (Grammar.ofComponents others).typeKeywords).highlight source) :=
  (inLockstep_withTypeKeywords (highlighter.limitedBy givesUp)
    (Grammar.ofComponents others).typeKeywords).forall₂_highlight fun _ member =>
      forall₂_step_components trials isPattern accepted others givesUp member

end Components

end Banana.Grammar.Language

namespace Banana.Highlighter

open Grammar Highlight Schema

/-- Two accepted grammars that differ in their type keywords only find tokens with the same regions
in every source and are in the same states after every line. The classes differ only at tokens for a
match that is looked up among the type keywords; and for two lists of components these are exactly
the tokens of capitalised words that only one of the lists names, with every engine that the pattern
of such words is a pattern for. -/
theorem typeKeywords_change_classes_only {engine : Pattern.Engine} {first second : Grammar}
    {firstReady secondReady : Highlighter engine} (same : first.SameButTypeKeywords second)
    (firstAccepted : ofGrammarWith engine first = .ok firstReady)
    (secondAccepted : ofGrammarWith engine second = .ok secondReady)
    (givesUp : engine.Regex → List Char → Bool) (source : String) :
    ((firstReady.limitedBy givesUp).highlight source).map Token.span =
      ((secondReady.limitedBy givesUp).highlight source).map Token.span ∧
    (∀ count, (firstReady.limitedBy givesUp).statesAfter source count =
      (secondReady.limitedBy givesUp).statesAfter source count) ∧
    List.Forall₂
      (fun one other => one.kind ≠ other.kind →
        LookedUp (firstReady.limitedBy givesUp) (secondReady.limitedBy givesUp) source one other)
      ((firstReady.limitedBy givesUp).highlight source)
      ((secondReady.limitedBy givesUp).highlight source) ∧
    ∀ components others, first = .ofComponents components → second = .ofComponents others →
      engine.Trials → (engine.compile? Language.wordText.toList).isSome →
        List.Forall₂
          (fun one other => one.kind ≠ other.kind ↔ one.kind ∈ Language.wordClasses ∧
            Language.NamedByOne components others (one.text source))
          ((firstReady.limitedBy givesUp).highlight source)
          ((secondReady.limitedBy givesUp).highlight source) := by
  obtain ⟨words, ready⟩ := exists_withTypeKeywords same firstAccepted secondAccepted
  have limited : secondReady.limitedBy givesUp =
      (firstReady.limitedBy givesUp).withTypeKeywords words := by
    rw [ready]
    rfl
  have inLockstep := inLockstep_withTypeKeywords (firstReady.limitedBy givesUp) words
  have alike := forall₂_highlight_withTypeKeywords (firstReady.limitedBy givesUp) words source
  rw [← limited] at inLockstep alike
  refine ⟨?spans, inLockstep.statesAfter source, alike.imp fun _ _ both => both.2, ?components⟩
  case spans =>
    rw [← List.forall₂_eq_eq_eq, List.forall₂_map_left_iff, List.forall₂_map_right_iff]
    exact alike.imp fun _ _ both => both.1
  case components =>
    rintro components others rfl rfl trials isPattern
    rw [eq_withTypeKeywords_of_ofGrammarWith firstAccepted secondAccepted]
    exact Language.forall₂_highlight_components trials isPattern firstAccepted others givesUp source

/-- A component that comes into the catalog changes the class of a word that names it. -/
theorem class_changes_for_new_component :
    let sink : Component := .new "Sink" "takes what comes"
    ((Language.highlighter []).highlight "Sink x").map (·.kind) =
      [.capitalised, .white, .reference] ∧
    ((Language.highlighter [sink]).highlight "Sink x").map (·.kind) =
      [.componentName, .white, .reference] ∧
    ((Language.highlighter []).highlight "Sink x").map Token.span =
      ((Language.highlighter [sink]).highlight "Sink x").map Token.span ∧
    List.Forall₂
      (fun one other => one.kind ≠ other.kind ↔ one.kind ∈ Language.wordClasses ∧
        Language.NamedByOne [] [sink] (one.text "Sink x"))
      ((Language.highlighter []).highlight "Sink x")
      ((Language.highlighter [sink]).highlight "Sink x") := by
  intro sink
  have same : (Grammar.ofComponents []).SameButTypeKeywords (.ofComponents [sink]) := rfl
  have isPattern : (Pattern.engine.compile? Language.wordText.toList).isSome := by cbv
  obtain ⟨spans, -, -, components⟩ := typeKeywords_change_classes_only same
    (Language.ofGrammar_ofComponents []) (Language.ofGrammar_ofComponents [sink])
    (fun _ _ => false) "Sink x"
  exact ⟨by cbv, by cbv, spans, components [] [sink] rfl rfl Pattern.trials isPattern⟩

end Banana.Highlighter
