/-
This file finds the tokens of a source. It goes line by line, tries the rules of the current state
in their order at the current place, and takes the first one that matches some text; where none
does, one character becomes a token of the default class. A rule whose search is given up counts as
one that does not match. The states that have been entered are kept from one line to the next.
-/

import Banana.Grammar.Ready
import Banana.Highlight.Token
import Banana.Text.Lines

namespace Banana

open Grammar Highlight Source

/-- A grammar whose rules are ready for matching with an engine. -/
structure Highlighter (engine : Pattern.Engine) where
  grammar : Grammar
  rules : State → Option (List (ReadyRule engine))
  /-- Whether the search for a pattern in the rest of a line is given up: never, unless the search
  has a limit. -/
  givesUp : engine.Regex → List Char → Bool := fun _ _ => false

namespace Highlighter

/-- The match of a pattern in the rest of a line, unless the search is given up. -/
def find? {engine : Pattern.Engine} (highlighter : Highlighter engine) (pattern : engine.Regex)
    (text : List Char) : Option Pattern.Match :=
  if highlighter.givesUp pattern text then none else engine.find? pattern text

/-- Makes a grammar ready for an engine, state by state; the top level must be defined. -/
def ofGrammarWith (engine : Pattern.Engine) (grammar : Grammar) :
    Except Fault (Highlighter engine) := do
  let root ← grammar.readyRules engine .root
  let whitespace ← grammar.readyRules engine .whitespace
  let string ← grammar.readyRules engine .string
  if root.isNone then
    throw (.unknownState .root)
  pure {
    grammar := grammar
    rules
      | .root => root
      | .whitespace => whitespace
      | .string => string }

/-- Makes a grammar ready for the engine of this library. -/
def ofGrammar (grammar : Grammar) : Except Fault (Highlighter Pattern.engine) :=
  ofGrammarWith Pattern.engine grammar

end Highlighter

namespace Highlight

/-- The states that have been entered and not left: the current one and those below it. -/
structure Stack where
  current : State
  below : List State
  deriving DecidableEq

namespace Stack

/-- The states at the start of a source. -/
def initial : Stack := ⟨.root, []⟩

/-- Enters a state. -/
def push (stack : Stack) (next : State) : Stack :=
  ⟨next, stack.current :: stack.below⟩

/-- Leaves the current state, unless it is the last one. -/
def pop (stack : Stack) : Stack :=
  match stack.below with
  | [] => stack
  | next :: below => ⟨next, below⟩

end Stack

/-- The place behind some text that starts at a place. -/
def advance (place : Position) (text : List Char) : Position where
  line := place.line
  column := place.column + text.length
  offset := place.offset + Text.utf8Length text

/-- The token for the characters of a text between two counts, unless there are none. -/
def tokenBetween (place : Position) (text : List Char) (kind : TokenClass) (start stop : Nat) :
    List Token :=
  if start < stop then
    [⟨kind, advance place (text.take start), advance place (text.take stop)⟩]
  else
    []

/-- The tokens for the groups of a match, in the order of the groups. -/
def groupTokens (place : Position) (text : List Char) (found : Pattern.Match) :
    Nat → List TokenClass → List Token
  | _, [] => []
  | index, kind :: kinds =>
    let here := match found.group? index with
      | some (start, stop) => tokenBetween place text kind start stop
      | none => []
    here ++ groupTokens place text found (index + 1) kinds

/-- The class of a match that an action gives one token. -/
def actionKind (grammar : Grammar) (matched : List Char) : Action → TokenClass
  | .token kind | .push kind _ | .pop kind => kind
  | .cases set present default =>
    if grammar.keywordSetContains set (String.ofList matched) then present else default
  | .brackets => (matched.head?.bind grammar.bracketClass).getD .angle
  | .groups _ => grammar.defaultToken

/-- The tokens for a match in the text that starts at a place. -/
def actionTokens (grammar : Grammar) (place : Position) (text : List Char)
    (found : Pattern.Match) : Action → List Token
  | .groups kinds => groupTokens place text found 1 kinds
  | action =>
    let matched := (text.take found.stop).drop found.start
    tokenBetween place text (actionKind grammar matched action) 0 found.stop

/-- The states after an action. -/
def actionStack (stack : Stack) : Action → Stack
  | .push _ next => stack.push next
  | .pop _ => stack.pop
  | _ => stack

/-- The first rule that matches some text, with its match. -/
def firstRule? {engine : Pattern.Engine} (find? : engine.Regex → List Char → Option Pattern.Match)
    (text : List Char) : List (ReadyRule engine) → Option (Action × Pattern.Match)
  | [] => none
  | rule :: rest =>
    match find? rule.pattern text with
    | some found =>
      if found.stop = 0 then firstRule? find? text rest else some (rule.action, found)
    | none => firstRule? find? text rest

end Highlight

namespace Highlighter

/-- What is found at one place: the tokens, how many characters they are for, and the states
afterwards. -/
structure Step where
  tokens : List Token
  length : Nat
  stack : Stack

variable {engine : Pattern.Engine}

/-- Tries the rules of the current state at a place. -/
def step (highlighter : Highlighter engine) (stack : Stack) (place : Position)
    (text : List Char) : Step :=
  match firstRule? highlighter.find? text ((highlighter.rules stack.current).getD []) with
  | some (action, found) =>
    ⟨actionTokens highlighter.grammar place text found action, found.stop,
      actionStack stack action⟩
  | none => ⟨tokenBetween place text highlighter.grammar.defaultToken 0 1, 1, stack⟩

/-- The tokens of the rest of a line, and the states at its end. -/
def scanLine (highlighter : Highlighter engine) (stack : Stack) (place : Position) :
    List Char → List Token × Stack
  | [] => ([], stack)
  | c :: rest =>
    let step := highlighter.step stack place (c :: rest)
    let next := advance place ((c :: rest).take step.length)
    let (tokens, after) := highlighter.scanLine step.stack next (rest.drop (step.length - 1))
    (step.tokens ++ tokens, after)
termination_by text => text.length
decreasing_by
  simp only [List.length_cons, List.length_drop]
  omega

/-- The tokens of lines, the first of which has a number and starts at an offset, and the states
after them. -/
def scanLines (highlighter : Highlighter engine) (stack : Stack) (number offset : Nat) :
    List (List Char) → List Token × Stack
  | [] => ([], stack)
  | line :: rest =>
    let (tokens, after) := highlighter.scanLine stack ⟨number, 1, offset⟩ line
    let (others, last) :=
      highlighter.scanLines after (number + 1) (offset + Text.utf8Length line + 1) rest
    (tokens ++ others, last)

/-- The tokens of a source. -/
def highlight (highlighter : Highlighter engine) (source : String) : List Token :=
  (highlighter.scanLines .initial 1 0 (Text.lines source.toList)).1

end Highlighter

/-- The tokens of a source under a grammar, unless the grammar is refused. -/
def Grammar.highlight (grammar : Grammar) (source : String) :
    Except Fault (List Token) :=
  (Highlighter.ofGrammar grammar).map (·.highlight source)

end Banana
