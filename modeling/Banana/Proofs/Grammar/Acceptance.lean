/-
This file says which grammars are accepted: those that define the top level, whose inclusions name
defined states and never come back to a state that they started from or went through, whose rules
enter defined states only, and whose patterns are well-formed for the engine after expansion. A
state that is included several times without coming back to itself is no fault.

The grammar is checked state by state on flattened rules, so what has to be shown is that the
conditions on all chains of inclusions from a state say that its rules unfold.
-/

import Banana.Highlight.Scan
import Banana.Proofs.Grammar.Inclusions

namespace Banana.Grammar

/-! ### Conditions on a grammar -/

/-- What is asked of a defined state: its chains of inclusions lead to defined states and meet no
state twice, and the rules that it stands for enter defined states and have well-formed patterns. -/
structure IsSoundAt (grammar : Grammar) (engine : Pattern.Engine) (state : State) : Prop where
  included : ∀ other next, grammar.LeadsTo state other → grammar.Includes other next →
    (grammar.rules next).isSome
  chains : ∀ chain, (state :: chain).IsChain grammar.Includes → (state :: chain).Nodup
  entered : ∀ lexeme kind next, grammar.StandsFor state lexeme →
    lexeme.action = .push kind next → (grammar.rules next).isSome
  patterns : ∀ lexeme, grammar.StandsFor state lexeme →
    (engine.compile? (grammar.expand lexeme.pattern)).isSome

/-- What is asked of a grammar. -/
structure IsSound (grammar : Grammar) (engine : Pattern.Engine) : Prop where
  root : (grammar.rules .root).isSome
  states : ∀ state, (grammar.rules state).isSome → grammar.IsSoundAt engine state

/-! ### Chains and unfolding -/

/-- What an inclusion leads to is defined when the rules unfold. -/
theorem Unfolds.isSome_of_leadsTo {grammar : Grammar} {closed : List State} {rules : List Rule}
    (unfolds : grammar.Unfolds closed rules) {state other : State}
    (member : Rule.included state ∈ rules) (leads : grammar.LeadsTo state other) :
    (grammar.rules other).isSome := by
  induction leads using Relation.ReflTransGen.head_induction_on generalizing closed rules with
  | refl =>
    obtain ⟨-, inside, defined, -⟩ := unfolds.included member
    rw [defined]
    rfl
  | head includes further inductionHypothesis =>
    obtain ⟨-, inside, defined, inner⟩ := unfolds.included member
    obtain ⟨_, same, isIn⟩ := includes
    rw [defined] at same
    cases same
    exact inductionHypothesis inner isIn

/-- Every state of a chain behind the first one is included by a state that the first leads to. -/
theorem exists_includes_of_mem {grammar : Grammar} {state next : State} {chain : List State}
    (isChain : (state :: chain).IsChain grammar.Includes) (member : next ∈ chain) :
    ∃ other, grammar.LeadsTo state other ∧ grammar.Includes other next := by
  induction chain generalizing state with
  | nil => exact absurd member List.not_mem_nil
  | cons first rest inductionHypothesis =>
    obtain ⟨includes, isChain⟩ := List.isChain_cons_cons.mp isChain
    rcases List.mem_cons.mp member with rfl | further
    · exact ⟨state, .refl, includes⟩
    · obtain ⟨other, leads, otherIncludes⟩ := inductionHypothesis isChain further
      exact ⟨other, .head includes leads, otherIncludes⟩

/-- The rules of a state unfold with that state open exactly when its chains lead to defined states
and meet no state twice. -/
theorem unfolds_iff {grammar : Grammar} {state : State} {rules : List Rule}
    (defined : grammar.rules state = some rules) :
    grammar.Unfolds (State.all.erase state) rules ↔
      (∀ other next, grammar.LeadsTo state other → grammar.Includes other next →
        (grammar.rules next).isSome) ∧
      ∀ chain, (state :: chain).IsChain grammar.Includes → (state :: chain).Nodup := by
  have different : State.all.Nodup := by decide
  have startsIn (chain : List State) :
      (state :: chain).IsChain grammar.Includes ↔ grammar.StartsIn rules chain := by
    have starts : grammar.StartsIn [.included state] (state :: chain) ↔ _ :=
      startsIn_cons_iff defined
    simpa [StartsIn] using starts
  constructor
  · intro unfolds
    refine ⟨fun other next leads includes => ?_, fun chain isChain => ?_⟩
    · obtain ⟨first, ⟨_, same, isIn⟩, further⟩ :=
        Relation.TransGen.head'_iff.mp (Relation.TransGen.tail' leads includes)
      rw [defined] at same
      cases same
      exact unfolds.isSome_of_leadsTo isIn further
    · obtain ⟨chainDifferent, eachClosed⟩ := unfolds chain ((startsIn chain).mp isChain)
      refine List.nodup_cons.mpr ⟨fun again => ?_, chainDifferent⟩
      exact absurd (eachClosed state again).1 different.not_mem_erase
  · rintro ⟨included, chains⟩ chain starts
    have isChain := (startsIn chain).mpr starts
    obtain ⟨notAgain, chainDifferent⟩ := List.nodup_cons.mp (chains chain isChain)
    refine ⟨chainDifferent, fun next member => ⟨?_, ?_⟩⟩
    · have isOther : next ≠ state := fun same => notAgain (same ▸ member)
      exact (List.mem_erase_of_ne isOther).mpr (State.mem_all next)
    · obtain ⟨other, leads, includes⟩ := exists_includes_of_mem isChain member
      exact included other next leads includes

/-! ### Making rules ready -/

variable {engine : Pattern.Engine}

theorem checkState_eq_ok_iff (grammar : Grammar) (action : Action) :
    action.checkState grammar = .ok () ↔
      ∀ kind next, action = .push kind next → (grammar.rules next).isSome := by
  cases action with
  | push kind next =>
    rw [Action.checkState]
    by_cases isDefined : (grammar.rules next).isSome
    · simp [isDefined]
    · simp [isDefined]
  | _ => simp [Action.checkState]

/-- A lexeme can be made ready when it enters a defined state and its pattern is well-formed, and
it keeps its action. -/
theorem ready_eq_ok_iff {grammar : Grammar} {lexeme : Lexeme} {rule : ReadyRule engine} :
    lexeme.ready engine grammar = .ok rule ↔ lexeme.action.checkState grammar = .ok () ∧
      engine.compile? (grammar.expand lexeme.pattern) = some rule.pattern ∧
      rule.action = lexeme.action := by
  rw [Lexeme.ready, bind_eq_ok_iff]
  constructor
  · rintro ⟨_, checked, found⟩
    cases parsed : engine.compile? (grammar.expand lexeme.pattern) with
    | none =>
      rw [parsed] at found
      cases found
    | some pattern =>
      rw [parsed] at found
      cases found
      exact ⟨checked, rfl, rfl⟩
  · rintro ⟨checked, parsed, sameAction⟩
    refine ⟨(), checked, ?_⟩
    rw [parsed]
    cases rule
    cases sameAction
    rfl

/-- A list of computations succeeds when each of them does, and its results are theirs. -/
theorem mapM_eq_ok {fault α β : Type} {read : α → Except fault β} {items : List α}
    {results : List β} (read_all : items.mapM read = .ok results) :
    (∀ item ∈ items, ∃ result, read item = .ok result) ∧
      ∀ result ∈ results, ∃ item ∈ items, read item = .ok result := by
  induction items generalizing results with
  | nil =>
    cases read_all
    simp
  | cons item rest inductionHypothesis =>
    rw [List.mapM_cons] at read_all
    obtain ⟨first, readFirst, more⟩ := bind_eq_ok_iff.mp read_all
    obtain ⟨others, readOthers, same⟩ := bind_eq_ok_iff.mp more
    cases same
    obtain ⟨each, origins⟩ := inductionHypothesis readOthers
    refine ⟨List.forall_mem_cons.mpr ⟨⟨first, readFirst⟩, each⟩, ?_⟩
    refine List.forall_mem_cons.mpr ⟨⟨item, List.mem_cons_self, readFirst⟩, ?_⟩
    intro result member
    obtain ⟨origin, isIn, read⟩ := origins result member
    exact ⟨origin, List.mem_cons_of_mem _ isIn, read⟩

theorem exists_mapM_eq_ok {fault α β : Type} {read : α → Except fault β} {items : List α}
    (each : ∀ item ∈ items, ∃ result, read item = .ok result) :
    ∃ results, items.mapM read = .ok results := by
  induction items with
  | nil => exact ⟨[], rfl⟩
  | cons item rest inductionHypothesis =>
    obtain ⟨⟨first, readFirst⟩, restEach⟩ := List.forall_mem_cons.mp each
    obtain ⟨others, readOthers⟩ := inductionHypothesis restEach
    refine ⟨first :: others, ?_⟩
    rw [List.mapM_cons, readFirst, readOthers]
    rfl

/-! ### States -/

/-- What is known of the rules of a state when they are made ready. -/
theorem readyRules_eq_ok_iff {grammar : Grammar} {state : State}
    {result : Option (List (ReadyRule engine))} :
    grammar.readyRules engine state = .ok result ↔
      (grammar.rules state = none ∧ result = none) ∨
      ∃ rules lexemes ready, grammar.rules state = some rules ∧
        grammar.flatten (State.all.erase state) rules = .ok lexemes ∧
        lexemes.mapM (Lexeme.ready engine grammar) = .ok ready ∧ result = some ready := by
  rw [readyRules]
  cases defined : grammar.rules state with
  | none => simp [eq_comm]
  | some rules =>
    constructor
    · intro made
      obtain ⟨lexemes, flat, readied⟩ := bind_eq_ok_iff.mp made
      cases all : lexemes.mapM (Lexeme.ready engine grammar) with
      | error fault =>
        rw [all] at readied
        cases readied
      | ok ready =>
        rw [all] at readied
        cases readied
        exact Or.inr ⟨rules, lexemes, ready, rfl, flat, all, rfl⟩
    · rintro (⟨⟨⟩, -⟩ | ⟨_, lexemes, ready, ⟨⟩, flat, all, rfl⟩)
      refine bind_eq_ok_iff.mpr ⟨lexemes, flat, ?_⟩
      rw [all]
      rfl

/-- A state and the rules made ready for it are defined alike. -/
theorem isSome_of_readyRules {grammar : Grammar} {state : State}
    {result : Option (List (ReadyRule engine))}
    (made : grammar.readyRules engine state = .ok result) :
    result.isSome = (grammar.rules state).isSome := by
  rcases readyRules_eq_ok_iff.mp made with ⟨undefined, rfl⟩ | ⟨rules, _, _, defined, -, -, rfl⟩
  · rw [undefined]
    rfl
  · rw [defined]
    rfl

/-- The lexemes that the rules of a state are flattened to are those that it stands for. -/
theorem mem_flatten_iff_standsFor {grammar : Grammar} {state : State} {rules : List Rule}
    {closed : List State} {lexemes : List Lexeme} (defined : grammar.rules state = some rules)
    (flat : grammar.flatten closed rules = .ok lexemes) (lexeme : Lexeme) :
    lexeme ∈ lexemes ↔ grammar.StandsFor state lexeme := by
  rw [standsFor_iff defined, mem_flatten_iff flat]

/-- A rule made ready comes from a lexeme that the state stands for. -/
theorem exists_lexeme_of_readyRules {grammar : Grammar} {state : State}
    {ready : List (ReadyRule engine)} (made : grammar.readyRules engine state = .ok (some ready))
    {rule : ReadyRule engine} (member : rule ∈ ready) :
    ∃ lexeme, grammar.StandsFor state lexeme ∧ lexeme.ready engine grammar = .ok rule := by
  rcases readyRules_eq_ok_iff.mp made with ⟨-, ⟨⟩⟩ | ⟨rules, lexemes, _, defined, flat, all, ⟨⟩⟩
  obtain ⟨lexeme, isFlat, readied⟩ := (mapM_eq_ok all).2 rule member
  exact ⟨lexeme, (mem_flatten_iff_standsFor defined flat lexeme).mp isFlat, readied⟩

/-- A rule made ready enters defined states only. -/
theorem isSome_of_entered {grammar : Grammar} {state : State}
    {ready : List (ReadyRule engine)} (made : grammar.readyRules engine state = .ok (some ready))
    {rule : ReadyRule engine} (member : rule ∈ ready)
    {kind : TokenClass} {next : State} (action : rule.action = .push kind next) :
    (grammar.rules next).isSome := by
  obtain ⟨lexeme, -, readied⟩ := exists_lexeme_of_readyRules made member
  obtain ⟨checked, -, sameAction⟩ := ready_eq_ok_iff.mp readied
  exact (checkState_eq_ok_iff grammar _).mp checked kind next (sameAction.symm.trans action)

/-- The rules of a state can be made ready exactly when the state is undefined or sound. -/
theorem readyRules_isOk_iff (grammar : Grammar) (state : State) :
    (∃ result, grammar.readyRules engine state = .ok result) ↔
      ((grammar.rules state).isSome → grammar.IsSoundAt engine state) := by
  have different : (State.all.erase state).Nodup := List.Nodup.erase _ (by decide)
  constructor
  · rintro ⟨result, made⟩ isDefined
    rcases readyRules_eq_ok_iff.mp made with
      ⟨undefined, -⟩ | ⟨rules, lexemes, ready, defined, flat, all, -⟩
    · rw [undefined] at isDefined
      cases isDefined
    · have each (lexeme : Lexeme) (standsFor : grammar.StandsFor state lexeme) :
          ∃ rule, lexeme.ready engine grammar = .ok rule :=
        (mapM_eq_ok all).1 lexeme ((mem_flatten_iff_standsFor defined flat lexeme).mpr standsFor)
      obtain ⟨included, chains⟩ :=
        (unfolds_iff defined).mp ((flatten_isOk_iff rules different).mp ⟨lexemes, flat⟩)
      refine ⟨included, chains, ?_, ?_⟩
      · intro lexeme kind next standsFor action
        obtain ⟨rule, readied⟩ := each lexeme standsFor
        exact (checkState_eq_ok_iff grammar _).mp (ready_eq_ok_iff.mp readied).1 kind next action
      · intro lexeme standsFor
        obtain ⟨rule, readied⟩ := each lexeme standsFor
        rw [(ready_eq_ok_iff.mp readied).2.1]
        rfl
  · intro sound
    cases defined : grammar.rules state with
    | none => exact ⟨none, readyRules_eq_ok_iff.mpr (Or.inl ⟨defined, rfl⟩)⟩
    | some rules =>
      obtain ⟨included, chains, entered, patterns⟩ := sound (by rw [defined]; rfl)
      obtain ⟨lexemes, flat⟩ :=
        (flatten_isOk_iff rules different).mpr ((unfolds_iff defined).mpr ⟨included, chains⟩)
      have each : ∀ lexeme ∈ lexemes, ∃ rule, lexeme.ready engine grammar = .ok rule := by
        intro lexeme member
        have standsFor := (mem_flatten_iff_standsFor defined flat lexeme).mp member
        obtain ⟨pattern, parsed⟩ := Option.isSome_iff_exists.mp (patterns lexeme standsFor)
        have checked : lexeme.action.checkState grammar = .ok () :=
          (checkState_eq_ok_iff grammar _).mpr fun kind next => entered lexeme kind next standsFor
        exact ⟨⟨pattern, lexeme.action⟩, ready_eq_ok_iff.mpr ⟨checked, parsed, rfl⟩⟩
      obtain ⟨ready, all⟩ := exists_mapM_eq_ok each
      exact ⟨some ready,
        readyRules_eq_ok_iff.mpr (Or.inr ⟨rules, lexemes, ready, defined, flat, all, rfl⟩)⟩

/-! ### Grammars -/

/-- An accepted grammar defines the top level, and its highlighter has the grammar, the rules of
every state and no limit on its searches. -/
theorem ofGrammarWith_eq_ok_iff {grammar : Grammar} {highlighter : Highlighter engine} :
    Highlighter.ofGrammarWith engine grammar = .ok highlighter ↔ (grammar.rules .root).isSome ∧
      (∀ state, grammar.readyRules engine state = .ok (highlighter.rules state)) ∧
      highlighter.grammar = grammar ∧ highlighter.givesUp = fun _ _ => false := by
  constructor
  · intro accepted
    obtain ⟨root, rootMade, more⟩ := bind_eq_ok_iff.mp accepted
    obtain ⟨whitespace, whitespaceMade, more⟩ := bind_eq_ok_iff.mp more
    obtain ⟨string, stringMade, more⟩ := bind_eq_ok_iff.mp more
    by_cases missing : root.isNone
    · rw [if_pos missing] at more
      cases more
    · rw [if_neg missing] at more
      cases more
      refine ⟨?_, fun state => ?_, rfl, rfl⟩
      · rw [← isSome_of_readyRules rootMade]
        cases root with
        | none => exact absurd rfl missing
        | some rules => rfl
      · cases state with
        | root => exact rootMade
        | whitespace => exact whitespaceMade
        | string => exact stringMade
  · rintro ⟨rootDefined, made, sameGrammar, unlimited⟩
    obtain ⟨_, rules, _⟩ := highlighter
    cases sameGrammar
    cases unlimited
    dsimp only at made
    have rootThere := isSome_of_readyRules (made .root)
    rw [Highlighter.ofGrammarWith, made, made, made]
    cases rootRules : rules .root with
    | none =>
      rw [rootRules, rootDefined] at rootThere
      cases rootThere
    | some ready =>
      refine congrArg Except.ok ?_
      show Highlighter.mk _ _ _ = Highlighter.mk _ _ _
      congr 1
      funext state
      cases state with
      | root => exact rootRules.symm
      | whitespace => rfl
      | string => rfl

theorem readyRules_of_ofGrammarWith {grammar : Grammar} {highlighter : Highlighter engine}
    (accepted : Highlighter.ofGrammarWith engine grammar = .ok highlighter) :
    (grammar.rules .root).isSome ∧
      ∀ state, grammar.readyRules engine state = .ok (highlighter.rules state) :=
  ⟨(ofGrammarWith_eq_ok_iff.mp accepted).1, (ofGrammarWith_eq_ok_iff.mp accepted).2.1⟩

/-- A grammar is accepted exactly when it is sound. -/
theorem ofGrammarWith_isOk_iff (grammar : Grammar) :
    (∃ highlighter, Highlighter.ofGrammarWith engine grammar = .ok highlighter) ↔
      grammar.IsSound engine := by
  constructor
  · rintro ⟨highlighter, accepted⟩
    obtain ⟨root, made⟩ := readyRules_of_ofGrammarWith accepted
    exact ⟨root, fun state => (readyRules_isOk_iff grammar state).mp ⟨_, made state⟩⟩
  · intro sound
    have made (state : State) := (readyRules_isOk_iff grammar state).mpr (sound.states state)
    obtain ⟨root, rootMade⟩ := made .root
    obtain ⟨whitespace, whitespaceMade⟩ := made .whitespace
    obtain ⟨string, stringMade⟩ := made .string
    have rootDefined := sound.root
    rw [← isSome_of_readyRules rootMade] at rootDefined
    rw [Highlighter.ofGrammarWith, rootMade, whitespaceMade, stringMade]
    cases root with
    | none => cases rootDefined
    | some rules => exact ⟨_, rfl⟩

end Banana.Grammar
