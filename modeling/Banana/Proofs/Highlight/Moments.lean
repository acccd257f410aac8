/-
This file lists the moments of highlighting a source: one for each time that the rules of the
current state are tried, with the states that have been entered, the place, and the rest of the
line. The tokens of the source are those found at its moments, one after the other.

From this follows what the states are at every moment. The top level is never left, and each state
above it was entered by a rule, which a grammar is only accepted with when that state is defined; so
there is always a current state, and it always has its rules.
-/

import Mathlib
import Banana.Grammar.Language
import Banana.Proofs.Grammar.Acceptance
import Banana.Proofs.Highlight.Tiling

namespace Banana.Highlighter

open Grammar Highlight Source

variable {engine : Pattern.Engine}

/-! ### Moments -/

/-- A moment at which rules are tried: the states, the place and the rest of the line. -/
structure Moment where
  stack : Stack
  place : Position
  text : List Char

/-- What is found at a moment. -/
def Moment.step (moment : Moment) (highlighter : Highlighter engine) : Step :=
  highlighter.step moment.stack moment.place moment.text

/-- The moments of the rest of a line. -/
def lineMoments (highlighter : Highlighter engine) (stack : Stack) (place : Position) :
    List Char → List Moment
  | [] => []
  | c :: rest =>
    let step := highlighter.step stack place (c :: rest)
    let next := advance place ((c :: rest).take step.length)
    ⟨stack, place, c :: rest⟩ ::
      highlighter.lineMoments step.stack next (rest.drop (step.length - 1))
termination_by text => text.length
decreasing_by
  simp only [List.length_cons, List.length_drop]
  omega

/-- The moments of lines, the first of which has a number and starts at an offset. -/
def linesMoments (highlighter : Highlighter engine) (stack : Stack) (number offset : Nat) :
    List (List Char) → List Moment
  | [] => []
  | line :: rest =>
    highlighter.lineMoments stack ⟨number, 1, offset⟩ line ++
      highlighter.linesMoments (highlighter.scanLine stack ⟨number, 1, offset⟩ line).2 (number + 1)
        (offset + Text.utf8Length line + 1) rest

/-- The moments of highlighting a source. -/
def moments (highlighter : Highlighter engine) (source : String) : List Moment :=
  highlighter.linesMoments .initial 1 0 (Text.lines source.toList)

/-- The tokens of the rest of a line are those found at its moments. -/
theorem scanLine_tokens (highlighter : Highlighter engine) (stack : Stack) (place : Position)
    (text : List Char) :
    (highlighter.scanLine stack place text).1 =
      (highlighter.lineMoments stack place text).flatMap fun moment =>
        (moment.step highlighter).tokens := by
  fun_induction lineMoments highlighter stack place text with
  | case1 stack place =>
    rw [scanLine_nil]
    rfl
  | case2 stack place c rest step next inductionHypothesis =>
    rw [scanLine, List.flatMap_cons, ← inductionHypothesis]
    rfl

/-- The tokens of a source are those found at its moments. -/
theorem highlight_eq_flatMap_moments (highlighter : Highlighter engine) (source : String) :
    highlighter.highlight source =
      (highlighter.moments source).flatMap fun moment => (moment.step highlighter).tokens := by
  rw [highlight, moments]
  generalize Text.lines source.toList = lines
  generalize Stack.initial = stack
  generalize 1 = number
  generalize 0 = offset
  induction lines generalizing stack number offset with
  | nil => rfl
  | cons line rest inductionHypothesis =>
    rw [scanLines, linesMoments, List.flatMap_append, ← scanLine_tokens, ← inductionHypothesis]

/-! ### What holds of the states at every moment -/

/-- What every step keeps holds of the states at all moments of a line and at its end. -/
theorem forall_lineMoments {highlighter : Highlighter engine} {motive : Stack → Prop}
    (kept : ∀ stack place text, motive stack → motive (highlighter.step stack place text).stack)
    (stack : Stack) (place : Position) (text : List Char) (here : motive stack) :
    (∀ moment ∈ highlighter.lineMoments stack place text, motive moment.stack) ∧
      motive (highlighter.scanLine stack place text).2 := by
  fun_induction lineMoments highlighter stack place text with
  | case1 stack place =>
    rw [scanLine_nil]
    exact ⟨fun _ member => absurd member List.not_mem_nil, here⟩
  | case2 stack place c rest step next inductionHypothesis =>
    obtain ⟨further, last⟩ := inductionHypothesis (kept stack place (c :: rest) here)
    rw [scanLine]
    exact ⟨List.forall_mem_cons.mpr ⟨here, further⟩, last⟩

/-- What every step keeps holds of the states at all moments of a source. -/
theorem forall_moments {highlighter : Highlighter engine} {motive : Stack → Prop}
    (initially : motive .initial)
    (kept : ∀ stack place text, motive stack → motive (highlighter.step stack place text).stack)
    (source : String) : ∀ moment ∈ highlighter.moments source, motive moment.stack := by
  rw [moments]
  generalize Text.lines source.toList = lines
  generalize Stack.initial = stack at initially ⊢
  generalize 1 = number
  generalize 0 = offset
  induction lines generalizing stack number offset with
  | nil => exact fun _ member => absurd member List.not_mem_nil
  | cons line rest inductionHypothesis =>
    obtain ⟨onLine, last⟩ := forall_lineMoments kept stack ⟨number, 1, offset⟩ line initially
    rw [linesMoments]
    intro moment member
    rcases List.mem_append.mp member with here | further
    · exact onLine moment here
    · exact inductionHypothesis _ last _ _ moment further

end Banana.Highlighter

namespace Banana.Highlight

open Grammar Source

/-- The states that have been entered, the current one first. -/
def Stack.states (stack : Stack) : List State := stack.current :: stack.below

/-- Whether the top level is at the bottom of the states and all of them are defined. -/
structure Stack.IsWithin (stack : Stack) (grammar : Grammar) : Prop where
  bottom : stack.states.getLast? = some .root
  defined : ∀ state ∈ stack.states, (grammar.rules state).isSome

theorem Stack.IsWithin.push {stack : Stack} {grammar : Grammar} (within : stack.IsWithin grammar)
    {next : State} (defined : (grammar.rules next).isSome) :
    (stack.push next).IsWithin grammar where
  bottom := within.bottom
  defined := List.forall_mem_cons.mpr ⟨defined, within.defined⟩

theorem Stack.IsWithin.pop {stack : Stack} {grammar : Grammar} (within : stack.IsWithin grammar) :
    stack.pop.IsWithin grammar := by
  obtain ⟨current, below⟩ := stack
  cases below with
  | nil => exact within
  | cons next below =>
    exact ⟨within.bottom, fun state member => within.defined state (List.mem_cons_of_mem _ member)⟩

end Banana.Highlight

namespace Banana.Highlighter

open Grammar Highlight Source

variable {engine : Pattern.Engine}

/-- A step of the highlighter of an accepted grammar enters defined states only, and leaves the top
level where it is. -/
theorem isWithin_step {grammar : Grammar} {highlighter : Highlighter engine}
    (accepted : ofGrammarWith engine grammar = .ok highlighter)
    (givesUp : engine.Regex → List Char → Bool) (stack : Stack) (place : Position)
    (text : List Char) (within : stack.IsWithin grammar) :
    ((highlighter.limitedBy givesUp).step stack place text).stack.IsWithin grammar := by
  have made := (readyRules_of_ofGrammarWith accepted).2
  rcases (highlighter.limitedBy givesUp).step_cases stack place text with
    ⟨rules, rule, found, defined, member, -, -, same⟩ | same
  · rw [same]
    have sameRules : highlighter.rules stack.current = some rules := defined
    have current := made stack.current
    rw [sameRules] at current
    cases action : rule.action with
    | push kind next => exact within.push (isSome_of_entered current member action)
    | pop kind => exact within.pop
    | _ => exact within
  · rw [same]
    exact within

/-- A grammar is accepted with an engine exactly when it is sound for that engine: the top level is
defined; what a chain of inclusions from a defined state leads to is defined, and the chain meets no
state twice; and the rules that a defined state stands for enter defined states and have patterns
that the engine compiles. Replacing
inclusions comes to an end, whatever the rules and whatever states are open, and what it comes to is
what the rules are flattened to. The highlighter of an accepted grammar finds its tokens moment by
moment, and at every moment, as well as after the step made there, there are states, the top level
is at the bottom of them, they are all defined, and the current one has its rules. -/
theorem accepts_exactly_sound (engine : Pattern.Engine) (grammar : Grammar) :
    ((∃ highlighter, ofGrammarWith engine grammar = .ok highlighter) ↔
      grammar.IsSound engine) ∧
    (∀ visiting rules, ∃! result, grammar.Flattens visiting rules result) ∧
    (∀ state rules, grammar.rules state = some rules →
      grammar.Flattens [state] rules (grammar.flatten (State.all.erase state) rules)) ∧
    (∀ highlighter, ofGrammarWith engine grammar = .ok highlighter → ∀ givesUp source,
      (highlighter.limitedBy givesUp).highlight source =
        ((highlighter.limitedBy givesUp).moments source).flatMap
          (fun moment => (moment.step (highlighter.limitedBy givesUp)).tokens) ∧
      ∀ moment ∈ (highlighter.limitedBy givesUp).moments source,
        ∀ stack ∈ [moment.stack, (moment.step (highlighter.limitedBy givesUp)).stack],
          stack.states ≠ [] ∧ stack.states.getLast? = some .root ∧
          (∀ state ∈ stack.states, (grammar.rules state).isSome) ∧
          ∃ rules, (highlighter.limitedBy givesUp).rules stack.current = some rules) := by
  refine ⟨ofGrammarWith_isOk_iff grammar, flattens_total grammar, ?_, ?_⟩
  · intro state rules _
    refine flattens_flatten ⟨List.Nodup.erase _ (by decide), fun other => ?_⟩ rules
    have different : State.all.Nodup := by decide
    rw [different.mem_erase_iff, List.mem_singleton]
    exact and_iff_left (State.mem_all other)
  · intro highlighter accepted givesUp source
    refine ⟨highlight_eq_flatMap_moments _ source, fun moment member stack isStack => ?_⟩
    obtain ⟨root, made⟩ := readyRules_of_ofGrammarWith accepted
    have initially : Stack.initial.IsWithin grammar :=
      ⟨rfl, fun state isRoot => by rw [List.mem_singleton.mp isRoot]; exact root⟩
    have kept := isWithin_step accepted givesUp
    have here := forall_moments initially kept source moment member
    have within : stack.IsWithin grammar := by
      rcases List.mem_cons.mp isStack with rfl | isNext
      · exact here
      · rw [List.mem_singleton.mp isNext]
        exact kept _ _ _ here
    refine ⟨List.cons_ne_nil _ _, within.bottom, within.defined, ?_⟩
    have current := within.defined stack.current List.mem_cons_self
    rw [← isSome_of_readyRules (made stack.current)] at current
    exact Option.isSome_iff_exists.mp current

/-- A grammar that includes one state three times. -/
def sharing : Grammar where
  __ := Grammar.ofComponents []
  rules
    | .root => some [.included .whitespace, .lexeme ⟨"'", .push .quote .string⟩,
        .included .whitespace]
    | .whitespace => some [.lexeme ⟨" ", .token .white⟩]
    | .string => some [.included .whitespace, .lexeme ⟨"'", .pop .quote⟩]

/-- The rules that its states stand for. -/
def sharingRules : State → List (ReadyRule Pattern.engine)
  | .root => [⟨.sequence (.anchor .start) (.char ' '), .token .white⟩,
      ⟨.sequence (.anchor .start) (.char '\''), .push .quote .string⟩,
      ⟨.sequence (.anchor .start) (.char ' '), .token .white⟩]
  | .whitespace => [⟨.sequence (.anchor .start) (.char ' '), .token .white⟩]
  | .string => [⟨.sequence (.anchor .start) (.char ' '), .token .white⟩,
      ⟨.sequence (.anchor .start) (.char '\''), .pop .quote⟩]

/-- The highlighter of that grammar. -/
def sharingHighlighter : Highlighter Pattern.engine where
  grammar := sharing
  rules
    | .root => some (sharingRules .root)
    | .whitespace => some (sharingRules .whitespace)
    | .string => some (sharingRules .string)

theorem ofGrammar_sharing : ofGrammar sharing = .ok sharingHighlighter := by
  have made (state : State) :
      sharing.readyRules Pattern.engine state = .ok (some (sharingRules state)) := by
    cases state <;> cbv
  rw [ofGrammar, ofGrammarWith, made, made, made]
  rfl

/-- That grammar is sound. Its top level gets the rule for blanks twice, and a state that is entered
on one line is still there on the next one. -/
theorem accepts_sharing :
    ofGrammar sharing = .ok sharingHighlighter ∧ sharing.IsSound Pattern.engine ∧
      sharing.Flattens [.root] [.included .whitespace, .lexeme ⟨"'", .push .quote .string⟩,
          .included .whitespace]
        (.ok [⟨" ", .token .white⟩, ⟨"'", .push .quote .string⟩, ⟨" ", .token .white⟩]) ∧
      ∃ moment ∈ (sharingHighlighter.limitedBy fun _ _ => false).moments "'\n ",
        moment.stack = ⟨.string, [.root]⟩ ∧ moment.place = ⟨2, 1, 2⟩ ∧
          ∃ rules, sharingHighlighter.rules moment.stack.current = some rules := by
  obtain ⟨accepts, -, flattens, runs⟩ := accepts_exactly_sound Pattern.engine sharing
  have flat : sharing.flatten (State.all.erase .root) [.included .whitespace,
      .lexeme ⟨"'", .push .quote .string⟩, .included .whitespace] =
        .ok [⟨" ", .token .white⟩, ⟨"'", .push .quote .string⟩, ⟨" ", .token .white⟩] := by cbv
  have all : (sharingHighlighter.limitedBy fun _ _ => false).moments "'\n " =
      [⟨.initial, ⟨1, 1, 0⟩, ['\'']⟩, ⟨⟨.string, [.root]⟩, ⟨2, 1, 2⟩, [' ']⟩] := by cbv
  have member : ⟨⟨.string, [.root]⟩, ⟨2, 1, 2⟩, [' ']⟩ ∈
      (sharingHighlighter.limitedBy fun _ _ => false).moments "'\n " := by
    rw [all]
    exact List.mem_cons_of_mem _ List.mem_cons_self
  have inside := (runs _ ofGrammar_sharing (fun _ _ => false) "'\n ").2 _ member _
    List.mem_cons_self
  exact ⟨ofGrammar_sharing, accepts.mp ⟨_, ofGrammar_sharing⟩, flat ▸ flattens .root _ rfl,
    _, member, rfl, rfl, inside.2.2.2⟩

end Banana.Highlighter
