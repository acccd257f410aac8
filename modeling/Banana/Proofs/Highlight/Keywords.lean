/-
This file says what the type keywords of a grammar are for. Whether a grammar is accepted, which
rule is applied at a moment, how far it goes and which states it leads to do not depend on them: a
word is looked up only when its rule has been applied, and the answer is only the class of a token.
So two highlighters that differ in their type keywords are in lockstep.
-/

import Banana.Proofs.Highlight.Lockstep

namespace Banana.Grammar

open Highlight

/-- The grammar with other type keywords. -/
def withTypeKeywords (grammar : Grammar) (words : List String) : Grammar :=
  { grammar with typeKeywords := words }

/-- Whether two grammars differ in their type keywords only. -/
def SameButTypeKeywords (first second : Grammar) : Prop :=
  second = first.withTypeKeywords second.typeKeywords

/-! ### Acceptance -/

theorem flatten_withTypeKeywords (grammar : Grammar) (words : List String) (closed : List State)
    (rules : List Rule) :
    (grammar.withTypeKeywords words).flatten closed rules = grammar.flatten closed rules := by
  have sameRules : (grammar.withTypeKeywords words).rules = grammar.rules := rfl
  fun_induction flatten grammar closed rules with
  | case1 closed => rw [flatten]
  | case2 closed first rest inductionHypothesis => rw [flatten, inductionHypothesis]
  | case3 closed state rest isClosed undefined =>
    rw [flatten, dif_pos isClosed, sameRules, undefined]
  | case4 closed state rest isClosed rules defined insideHypothesis restHypothesis =>
    rw [flatten, dif_pos isClosed, sameRules, defined]
    dsimp only
    rw [insideHypothesis, restHypothesis]
  | case5 closed state rest notClosed => rw [flatten, dif_neg notClosed]

variable (engine : Pattern.Engine)

theorem ready_withTypeKeywords (grammar : Grammar) (words : List String) (lexeme : Lexeme) :
    lexeme.ready engine (grammar.withTypeKeywords words) = lexeme.ready engine grammar := by
  have checked : lexeme.action.checkState (grammar.withTypeKeywords words) =
      lexeme.action.checkState grammar := by
    cases lexeme.action <;> rfl
  have expanded : (grammar.withTypeKeywords words).expand lexeme.pattern =
      grammar.expand lexeme.pattern := rfl
  rw [Lexeme.ready, checked, expanded, Lexeme.ready]

theorem readyRules_withTypeKeywords (grammar : Grammar) (words : List String) (state : State) :
    (grammar.withTypeKeywords words).readyRules engine state =
      grammar.readyRules engine state := by
  have ready : Lexeme.ready engine (grammar.withTypeKeywords words) =
      Lexeme.ready engine grammar := funext (ready_withTypeKeywords engine grammar words)
  have sameRules : (grammar.withTypeKeywords words).rules = grammar.rules := rfl
  rw [readyRules, readyRules, sameRules]
  cases grammar.rules state with
  | none => rfl
  | some rules =>
    dsimp only
    rw [flatten_withTypeKeywords, ready]

end Banana.Grammar

namespace Banana.Highlighter

open Grammar Highlight Source

variable {engine : Pattern.Engine}

/-- The highlighter with other type keywords. -/
def withTypeKeywords (highlighter : Highlighter engine) (words : List String) :
    Highlighter engine :=
  { highlighter with grammar := highlighter.grammar.withTypeKeywords words }

/-- Other type keywords make the same rules ready. -/
theorem eq_withTypeKeywords_of_ofGrammarWith {grammar : Grammar} {words : List String}
    {first second : Highlighter engine} (accepted : ofGrammarWith engine grammar = .ok first)
    (acceptedToo : ofGrammarWith engine (grammar.withTypeKeywords words) = .ok second) :
    second = first.withTypeKeywords words := by
  obtain ⟨-, made, isGrammar, limit⟩ := ofGrammarWith_eq_ok_iff.mp accepted
  obtain ⟨-, madeToo, isOther, otherLimit⟩ := ofGrammarWith_eq_ok_iff.mp acceptedToo
  have sameRules : second.rules = first.rules := funext fun state => by
    have both := (madeToo state).symm.trans (readyRules_withTypeKeywords engine grammar words state)
    exact Except.ok.inj (both.trans (made state))
  show Highlighter.mk second.grammar second.rules second.givesUp =
    ⟨first.grammar.withTypeKeywords words, first.rules, first.givesUp⟩
  rw [isOther, isGrammar, sameRules, limit, otherLimit]

/-- Accepted grammars that differ in their type keywords only have highlighters that do. -/
theorem exists_withTypeKeywords {first second : Grammar}
    {firstReady secondReady : Highlighter engine} (same : first.SameButTypeKeywords second)
    (firstAccepted : ofGrammarWith engine first = .ok firstReady)
    (secondAccepted : ofGrammarWith engine second = .ok secondReady) :
    ∃ words, secondReady = firstReady.withTypeKeywords words := by
  rw [SameButTypeKeywords] at same
  rw [same] at secondAccepted
  exact ⟨_, eq_withTypeKeywords_of_ofGrammarWith firstAccepted secondAccepted⟩

/-! ### Lockstep -/

theorem inLockstep_withTypeKeywords (highlighter : Highlighter engine) (words : List String) :
    highlighter.InLockstep (highlighter.withTypeKeywords words) :=
  inLockstep_of_same_rules rfl rfl

/-! ### Tokens -/

variable {highlighter : Highlighter engine} {moment : Moment} {rule : ReadyRule engine}
  {found : Pattern.Match}

/-- The same rule is applied at a moment whatever the type keywords are. -/
theorem Moment.Applies.withTypeKeywords (applies : moment.Applies highlighter rule found)
    (words : List String) : moment.Applies (highlighter.withTypeKeywords words) rule found :=
  applies

/-- A rule that looks nothing up among the type keywords finds the same whatever they are. -/
theorem Moment.Applies.tokens_withTypeKeywords (applies : moment.Applies highlighter rule found)
    (words : List String)
    (looksNothingUp : ∀ present default, rule.action ≠ .cases .typeKeywords present default) :
    (moment.step (highlighter.withTypeKeywords words)).tokens =
      (moment.step highlighter).tokens := by
  rw [applies.step_eq, (applies.withTypeKeywords words).step_eq]
  show actionTokens (highlighter.grammar.withTypeKeywords words) _ _ _ rule.action =
    actionTokens highlighter.grammar _ _ _ rule.action
  cases action : rule.action with
  | cases set present default =>
    cases set with
    | typeKeywords => exact absurd action (looksNothingUp present default)
    | operators => rfl
  | _ => rfl

/-- Whether two tokens are all that is found at one moment, where a rule is applied that looks its
match up among the type keywords: one is found by the first highlighter, the other by the second. -/
def LookedUp (first second : Highlighter engine) (source : String) (one other : Token) : Prop :=
  ∃ moment ∈ first.moments source, ∃ rule found present default,
    moment.Applies first rule found ∧ moment.Applies second rule found ∧
      rule.action = .cases .typeKeywords present default ∧
      (moment.step first).tokens = [one] ∧ (moment.step second).tokens = [other]

/-- At a moment of a source other type keywords change nothing but classes, and these only where a
match is looked up. -/
theorem forall₂_step_withTypeKeywords {source : String}
    (member : moment ∈ highlighter.moments source) (words : List String) :
    List.Forall₂
      (fun one other => one.span = other.span ∧ (one.kind ≠ other.kind →
        LookedUp highlighter (highlighter.withTypeKeywords words) source one other))
      (moment.step highlighter).tokens
      (moment.step (highlighter.withTypeKeywords words)).tokens := by
  by_cases applied : ∃ rule found, moment.Applies highlighter rule found
  · obtain ⟨rule, found, applies⟩ := applied
    by_cases looksUp : ∃ present default, rule.action = .cases .typeKeywords present default
    · obtain ⟨present, default, looksUp⟩ := looksUp
      have here := applies.tokens_of_cases looksUp
      have there := (applies.withTypeKeywords words).tokens_of_cases looksUp
      rw [here, there]
      refine .cons ⟨rfl, fun _ => ?_⟩ .nil
      exact ⟨moment, member, rule, found, present, default, applies,
        applies.withTypeKeywords words, looksUp, here, there⟩
    · rw [applies.tokens_withTypeKeywords words fun present default same =>
        looksUp ⟨present, default, same⟩]
      exact List.forall₂_same.mpr fun token _ => ⟨rfl, fun different => absurd rfl different⟩
  · -- No rule is applied with the other keywords either, for these are the same rules.
    have same : moment.step (highlighter.withTypeKeywords words) = moment.step highlighter := by
      rw [(moment.applies_or highlighter).resolve_left applied,
        (moment.applies_or (highlighter.withTypeKeywords words)).resolve_left applied]
      rfl
    rw [same]
    exact List.forall₂_same.mpr fun token _ => ⟨rfl, fun different => absurd rfl different⟩

/-- In a source other type keywords change nothing but classes. -/
theorem forall₂_highlight_withTypeKeywords (highlighter : Highlighter engine) (words : List String)
    (source : String) :
    List.Forall₂
      (fun one other => one.span = other.span ∧ (one.kind ≠ other.kind →
        LookedUp highlighter (highlighter.withTypeKeywords words) source one other))
      (highlighter.highlight source) ((highlighter.withTypeKeywords words).highlight source) :=
  (inLockstep_withTypeKeywords highlighter words).forall₂_highlight fun _ member =>
    forall₂_step_withTypeKeywords member words

end Banana.Highlighter
