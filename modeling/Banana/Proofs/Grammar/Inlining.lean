/-
This file proves that including a state means writing its rules out. The rules of a state, with each
inclusion replaced by the rules that it stands for, are a list without inclusions; the grammar that
has these lists for its states is accepted whenever the original is, and finds the same tokens in
every source.

Replacing inclusions is defined without any record of the states that are open, so it need not come
to an end for every grammar. For an accepted one it does, because flattening does.
-/

import Banana.Proofs.Highlight.Lockstep

namespace Banana.Grammar

open Highlight Source

/-! ### Writing inclusions out -/

/-- What a list of rules becomes when each inclusion is replaced, in its place and every time it
occurs, by the rules of the state, with their own inclusions replaced in the same way. -/
inductive Inlines (grammar : Grammar) : List Rule → List Lexeme → Prop
  | done : Inlines grammar [] []
  | kept {lexeme : Lexeme} {rest : List Rule} {others : List Lexeme}
      (behind : Inlines grammar rest others) :
      Inlines grammar (.lexeme lexeme :: rest) (lexeme :: others)
  | replaced {state : State} {rest rules : List Rule} {inside others : List Lexeme}
      (defined : grammar.rules state = some rules) (within : Inlines grammar rules inside)
      (behind : Inlines grammar rest others) :
      Inlines grammar (.included state :: rest) (inside ++ others)

/-- Whether a grammar is another one with the inclusions of all states written out. -/
structure IsInlined (grammar inlined : Grammar) : Prop where
  /-- Everything but the rules is the same. -/
  same : inlined = { grammar with rules := inlined.rules }
  /-- The same states are defined, each with its rules written out. -/
  rules : ∀ state, Option.Rel
    (fun rules written => ∃ lexemes, grammar.Inlines rules lexemes ∧
      written = lexemes.map Rule.lexeme)
    (grammar.rules state) (inlined.rules state)

/-- There is at most one way to write the inclusions of a list of rules out. -/
theorem Inlines.unique {grammar : Grammar} {rules : List Rule} {lexemes others : List Lexeme}
    (inlines : grammar.Inlines rules lexemes) (again : grammar.Inlines rules others) :
    lexemes = others := by
  induction inlines generalizing others with
  | done =>
    cases again
    rfl
  | kept _ inductionHypothesis =>
    cases again with
    | kept behind => rw [inductionHypothesis behind]
  | replaced defined _ _ insideHypothesis restHypothesis =>
    cases again with
    | replaced definedAgain within behind =>
      cases definedAgain.symm.trans defined
      rw [insideHypothesis within, restHypothesis behind]

/-- Where flattening succeeds it writes the inclusions out. -/
theorem inlines_of_flatten {grammar : Grammar} {closed : List State} {rules : List Rule}
    {lexemes : List Lexeme} (flat : grammar.flatten closed rules = .ok lexemes) :
    grammar.Inlines rules lexemes := by
  fun_induction flatten grammar closed rules generalizing lexemes with
  | case1 closed =>
    cases flat
    exact .done
  | case2 closed first rest inductionHypothesis =>
    obtain ⟨others, found, same⟩ := bind_eq_ok_iff.mp flat
    cases same
    exact .kept (inductionHypothesis found)
  | case3 closed state rest isClosed undefined => cases flat
  | case4 closed state rest isClosed rules defined insideHypothesis restHypothesis =>
    obtain ⟨inside, foundInside, more⟩ := bind_eq_ok_iff.mp flat
    obtain ⟨others, foundOthers, same⟩ := bind_eq_ok_iff.mp more
    cases same
    exact .replaced defined (insideHypothesis foundInside) (restHypothesis foundOthers)
  | case5 closed state rest notClosed => cases flat

/-- Without inclusions there is nothing to flatten. -/
theorem flatten_lexemes (grammar : Grammar) (closed : List State) (lexemes : List Lexeme) :
    grammar.flatten closed (lexemes.map Rule.lexeme) = .ok lexemes := by
  induction lexemes with
  | nil => rw [List.map_nil, flatten]
  | cons lexeme rest inductionHypothesis =>
    rw [List.map_cons, flatten, inductionHypothesis]
    rfl

/-! ### Making the rules ready -/

section Inlined

variable {grammar inlined : Grammar}

/-- A state is undefined in both grammars, or it has its rules written out. -/
theorem IsInlined.rules_cases (isInlined : grammar.IsInlined inlined) (state : State) :
    (grammar.rules state = none ∧ inlined.rules state = none) ∨
      ∃ rules lexemes, grammar.rules state = some rules ∧ grammar.Inlines rules lexemes ∧
        inlined.rules state = some (lexemes.map Rule.lexeme) := by
  have written := isInlined.rules state
  revert written
  cases grammar.rules state <;> cases inlined.rules state <;> intro written
  · exact Or.inl ⟨rfl, rfl⟩
  · cases written
  · cases written
  · obtain ⟨lexemes, inlines, rfl⟩ := Option.rel_some_some.mp written
    exact Or.inr ⟨_, lexemes, rfl, inlines, rfl⟩

theorem IsInlined.isSome_rules (isInlined : grammar.IsInlined inlined) (state : State) :
    (inlined.rules state).isSome = (grammar.rules state).isSome := by
  rcases isInlined.rules_cases state with ⟨undefined, same⟩ | ⟨_, _, defined, -, same⟩
  · rw [undefined, same]
  · rw [defined, same]
    rfl

/-- A lexeme is made ready in the same way: the same states are defined, and the named patterns are
the same. -/
theorem IsInlined.ready (isInlined : grammar.IsInlined inlined) (engine : Pattern.Engine)
    (lexeme : Lexeme) : lexeme.ready engine inlined = lexeme.ready engine grammar := by
  have checked : lexeme.action.checkState inlined = lexeme.action.checkState grammar := by
    cases lexeme.action with
    | push kind next => rw [Action.checkState, Action.checkState, isInlined.isSome_rules]
    | _ => rfl
  have expanded : inlined.expand lexeme.pattern = grammar.expand lexeme.pattern := by
    rw [isInlined.same]
    rfl
  rw [Lexeme.ready, Lexeme.ready, checked, expanded]

/-- The rules of a state that can be made ready are the same when its inclusions are written out. -/
theorem IsInlined.readyRules (isInlined : grammar.IsInlined inlined) {engine : Pattern.Engine}
    {state : State} {result : Option (List (ReadyRule engine))}
    (made : grammar.readyRules engine state = .ok result) :
    inlined.readyRules engine state = .ok result := by
  rcases readyRules_eq_ok_iff.mp made with
    ⟨undefined, rfl⟩ | ⟨rules, lexemes, ready, defined, flat, all, rfl⟩
  · refine readyRules_eq_ok_iff.mpr (Or.inl ⟨?_, rfl⟩)
    rw [← Option.isNone_iff_eq_none, ← Option.not_isSome, isInlined.isSome_rules, undefined]
    rfl
  · rcases isInlined.rules_cases state with ⟨undefined, -⟩ | ⟨_, others, again, inlines, written⟩
    · cases undefined.symm.trans defined
    · cases again.symm.trans defined
      obtain rfl := inlines.unique (inlines_of_flatten flat)
      refine readyRules_eq_ok_iff.mpr
        (Or.inr ⟨_, others, ready, written, flatten_lexemes _ _ _, ?_, rfl⟩)
      rw [← all]
      exact congrArg (List.mapM · others) (funext (isInlined.ready engine))

theorem IsInlined.unique {other : Grammar} (isInlined : grammar.IsInlined inlined)
    (again : grammar.IsInlined other) : inlined = other := by
  have sameRules : inlined.rules = other.rules := by
    funext state
    rcases isInlined.rules_cases state with ⟨undefined, same⟩ | ⟨_, _, defined, inlines, written⟩
    · rcases again.rules_cases state with ⟨-, same'⟩ | ⟨_, _, defined, -, -⟩
      · rw [same, same']
      · cases undefined.symm.trans defined
    · rcases again.rules_cases state with ⟨undefined, -⟩ | ⟨_, _, defined', inlines', written'⟩
      · cases undefined.symm.trans defined
      · cases defined.symm.trans defined'
        rw [written, written', inlines.unique inlines']
  rw [isInlined.same, again.same, sameRules]

end Inlined

/-- The grammar with its inclusions written out by flattening. -/
def inlinedByFlattening (grammar : Grammar) : Grammar :=
  { grammar with
    rules := fun state => (grammar.rules state).map fun rules =>
      ((grammar.flatten (State.all.erase state) rules).toOption.getD []).map Rule.lexeme }

/-- The inclusions of an accepted grammar can be written out. -/
theorem isInlined_inlinedByFlattening {grammar : Grammar} {engine : Pattern.Engine}
    (made : ∀ state, ∃ result, grammar.readyRules engine state = .ok result) :
    grammar.IsInlined grammar.inlinedByFlattening := by
  refine ⟨rfl, fun state => ?_⟩
  obtain ⟨result, made⟩ := made state
  show Option.Rel _ _ (Option.map _ _)
  rcases readyRules_eq_ok_iff.mp made with
    ⟨undefined, -⟩ | ⟨rules, lexemes, _, defined, flat, -, -⟩
  · rw [undefined]
    exact .none
  · rw [defined, Option.map_some, flat]
    exact .some ⟨lexemes, inlines_of_flatten flat, rfl⟩

/-! ### The rules that are tried -/

variable {engine : Pattern.Engine}

/-- Whether rules that were made ready are the rules of a list without inclusions, one for each and
in the same order. -/
def AreReady (grammar : Grammar) (rules : List Rule) (ready : List (ReadyRule engine)) : Prop :=
  List.Forall₂ (fun rule made => ∃ lexeme, rule = .lexeme lexeme ∧
    lexeme.ready engine grammar = .ok made) rules ready

theorem areReady_of_mapM {grammar : Grammar} {lexemes : List Lexeme}
    {ready : List (ReadyRule engine)}
    (all : lexemes.mapM (Lexeme.ready engine grammar) = .ok ready) :
    grammar.AreReady (lexemes.map Rule.lexeme) ready := by
  induction lexemes generalizing ready with
  | nil =>
    cases all
    exact .nil
  | cons lexeme rest inductionHypothesis =>
    rw [List.mapM_cons] at all
    obtain ⟨first, readFirst, more⟩ := bind_eq_ok_iff.mp all
    obtain ⟨others, readOthers, same⟩ := bind_eq_ok_iff.mp more
    cases same
    exact .cons ⟨lexeme, rfl, readFirst⟩ (inductionHypothesis readOthers)

/-- The rules tried in a state are those of the list with its inclusions written out. -/
theorem IsInlined.areReady {grammar inlined : Grammar} (isInlined : grammar.IsInlined inlined)
    {state : State} {result : Option (List (ReadyRule engine))}
    (made : grammar.readyRules engine state = .ok result) :
    Option.Rel grammar.AreReady (inlined.rules state) result := by
  rcases readyRules_eq_ok_iff.mp made with
    ⟨undefined, rfl⟩ | ⟨rules, lexemes, ready, defined, flat, all, rfl⟩
  · rcases isInlined.rules_cases state with ⟨-, same⟩ | ⟨_, _, defined, -, -⟩
    · rw [same]
      exact .none
    · cases undefined.symm.trans defined
  · rcases isInlined.rules_cases state with ⟨undefined, -⟩ | ⟨_, _, again, inlines, written⟩
    · cases undefined.symm.trans defined
    · cases again.symm.trans defined
      obtain rfl := inlines.unique (inlines_of_flatten flat)
      rw [written]
      exact .some (areReady_of_mapM all)

end Banana.Grammar

namespace Banana.Highlighter

open Grammar Highlight Source

variable {engine : Pattern.Engine}

/-- What is found in a step depends on the grammar through its words and classes only, not through
the rules it is written in. -/
theorem step_withRules (highlighter : Highlighter engine) (rules : State → Option (List Rule))
    (stack : Stack) (place : Position) (text : List Char) :
    Highlighter.step { highlighter with grammar := { highlighter.grammar with rules := rules } }
      stack place text = highlighter.step stack place text := by
  have tokens (found : Pattern.Match) (action : Action) :
      actionTokens { highlighter.grammar with rules := rules } place text found action =
        actionTokens highlighter.grammar place text found action := by
    cases action with
    | cases set _ _ => cases set <;> rfl
    | _ => rfl
  let written : Highlighter engine :=
    { highlighter with grammar := { highlighter.grammar with rules := rules } }
  have find : written.find? = highlighter.find? := rfl
  have sameRules : written.rules = highlighter.rules := rfl
  show written.step stack place text = _
  rw [step, step, find, sameRules]
  cases firstRule? highlighter.find? text ((highlighter.rules stack.current).getD []) with
  | none => rfl
  | some applied => exact congrArg (Step.mk · _ _) (tokens applied.2 applied.1)

/-- Including a state means writing its rules out. The inclusions of an accepted grammar can be
written out in exactly one way; the grammar without them is accepted too, and finds the same tokens
in every source, wherever searches are given up. The rules tried in a state are those of the list
that is written out, in its order, where each inclusion has left its rules every time it occurs. -/
theorem inlined_highlights_alike {grammar : Grammar} {highlighter : Highlighter engine}
    (accepted : ofGrammarWith engine grammar = .ok highlighter) :
    (∃! inlined, grammar.IsInlined inlined) ∧
    ∀ inlined, grammar.IsInlined inlined →
      (∃ other, ofGrammarWith engine inlined = .ok other ∧ ∀ givesUp source,
        (other.limitedBy givesUp).highlight source =
          (highlighter.limitedBy givesUp).highlight source) ∧
      ∀ state, Option.Rel grammar.AreReady (inlined.rules state) (highlighter.rules state) := by
  obtain ⟨root, made, rfl, unlimited⟩ := ofGrammarWith_eq_ok_iff.mp accepted
  have written := isInlined_inlinedByFlattening fun state => ⟨_, made state⟩
  refine ⟨⟨_, written, fun other isInlined => isInlined.unique written⟩, ?_⟩
  intro inlined isInlined
  refine ⟨⟨{ highlighter with grammar := inlined }, ?_, fun givesUp source => ?_⟩,
    fun state => isInlined.areReady (made state)⟩
  · exact ofGrammarWith_eq_ok_iff.mpr ⟨(isInlined.isSome_rules .root).trans root,
      fun state => isInlined.readyRules (made state), rfl, unlimited⟩
  · refine highlight_eq_of_step (fun stack place text => ?_) source
    rw [isInlined.same]
    exact step_withRules (highlighter.limitedBy givesUp) inlined.rules stack place text

/-- A grammar whose top level includes the state of strings and, once more, the state of blanks that
the state of strings includes. -/
def nesting : Grammar where
  __ := Grammar.ofComponents []
  rules
    | .root => some [.included .string, .lexeme ⟨"'", .push .quote .string⟩,
        .included .whitespace]
    | .whitespace => some [.lexeme ⟨" ", .token .white⟩]
    | .string => some [.included .whitespace, .lexeme ⟨"x", .pop .string⟩]

/-- That grammar without inclusions. -/
def nestingWrittenOut : Grammar where
  __ := nesting
  rules
    | .root => some [.lexeme ⟨" ", .token .white⟩, .lexeme ⟨"x", .pop .string⟩,
        .lexeme ⟨"'", .push .quote .string⟩, .lexeme ⟨" ", .token .white⟩]
    | .whitespace => some [.lexeme ⟨" ", .token .white⟩]
    | .string => some [.lexeme ⟨" ", .token .white⟩, .lexeme ⟨"x", .pop .string⟩]

/-- The rules that its states stand for. -/
def nestingRules : State → List (ReadyRule Pattern.engine)
  | .root => [⟨.sequence (.anchor .start) (.char ' '), .token .white⟩,
      ⟨.sequence (.anchor .start) (.char 'x'), .pop .string⟩,
      ⟨.sequence (.anchor .start) (.char '\''), .push .quote .string⟩,
      ⟨.sequence (.anchor .start) (.char ' '), .token .white⟩]
  | .whitespace => [⟨.sequence (.anchor .start) (.char ' '), .token .white⟩]
  | .string => [⟨.sequence (.anchor .start) (.char ' '), .token .white⟩,
      ⟨.sequence (.anchor .start) (.char 'x'), .pop .string⟩]

theorem ofGrammar_nesting : ofGrammar nesting =
    .ok { grammar := nesting, rules := fun state => some (nestingRules state) } :=
  ofGrammarWith_eq_ok_iff.mpr ⟨rfl, fun state => by cases state <;> cbv, rfl, rfl⟩

theorem isInlined_nestingWrittenOut : nesting.IsInlined nestingWrittenOut := by
  have blanks : nesting.Inlines [.lexeme ⟨" ", .token .white⟩] [⟨" ", .token .white⟩] :=
    .kept .done
  have string : nesting.Inlines [.included .whitespace, .lexeme ⟨"x", .pop .string⟩]
      [⟨" ", .token .white⟩, ⟨"x", .pop .string⟩] :=
    .replaced rfl blanks (.kept .done)
  refine ⟨rfl, fun state => ?_⟩
  cases state with
  | root => exact .some ⟨_, .replaced rfl string (.kept (.replaced rfl blanks .done)), rfl⟩
  | whitespace => exact .some ⟨_, blanks, rfl⟩
  | string => exact .some ⟨_, string, rfl⟩

/-- Both grammars find the same tokens in a source of two lines. -/
theorem nesting_highlights_alike :
    ofGrammar nesting =
        .ok { grammar := nesting, rules := fun state => some (nestingRules state) } ∧
      nesting.IsInlined nestingWrittenOut ∧
      nestingWrittenOut.highlight "' \n x" = nesting.highlight "' \n x" := by
  obtain ⟨other, accepted, alike⟩ :=
    ((inlined_highlights_alike ofGrammar_nesting).2 _ isInlined_nestingWrittenOut).1
  refine ⟨ofGrammar_nesting, isInlined_nestingWrittenOut, ?_⟩
  obtain ⟨-, -, -, unlimited⟩ := ofGrammarWith_eq_ok_iff.mp accepted
  have same := alike (fun _ _ => false) "' \n x"
  rw [Grammar.highlight, Grammar.highlight, ofGrammar_nesting, ofGrammar, accepted]
  refine congrArg Except.ok (Eq.trans ?_ same)
  rw [limitedBy, ← unlimited]

end Banana.Highlighter
