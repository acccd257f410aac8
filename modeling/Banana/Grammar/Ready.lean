/-
This file makes a grammar ready for matching with a pattern engine. The inclusions of every state
are replaced by the rules they stand for, and every pattern is expanded and read. A grammar is
refused when a state includes itself, when it refers to a state that is not defined, when a pattern
is malformed, or when the top level is missing.
-/

import Banana.Grammar.Basic
import Banana.Pattern.Engine
import Banana.Text.Replace

namespace Banana.Grammar

/-- Why a grammar is refused. -/
inductive Fault where
  | pattern (text : String)
  | unknownState (state : State)
  | includeCycle (state : State)
  deriving DecidableEq

/-- What is said about a fault. -/
def Fault.message : Fault → String
  | pattern text => "invalid pattern \u0060" ++ text ++ "\u0060"
  | unknownState state => "grammar references unknown state " ++ state.label
  | includeCycle state => "state " ++ state.label ++ " includes itself"

/-- A rule ready for matching. -/
structure ReadyRule (engine : Pattern.Engine) where
  pattern : engine.Regex
  action : Action

/-- The lexemes that a list of rules stands for. An inclusion is one of a state on the way to
itself unless the state is one of the `closed` ones, which no inclusion around it has opened. -/
def flatten (grammar : Grammar) (closed : List State) : List Rule → Except Fault (List Lexeme)
  | [] => .ok []
  | .lexeme first :: rest => do
    let others ← flatten grammar closed rest
    pure (first :: others)
  | .included state :: rest =>
    if _ : state ∈ closed then
      match grammar.rules state with
      | none => .error (.unknownState state)
      | some rules => do
        let inside ← flatten grammar (closed.erase state) rules
        let others ← flatten grammar closed rest
        pure (inside ++ others)
    else
      .error (.includeCycle state)
termination_by rules => (closed.length, rules.length)
decreasing_by
  · exact Prod.Lex.right _ (Nat.lt_succ_self _)
  · have isClosed : state ∈ closed := ‹state ∈ closed›
    have nonempty : 0 < closed.length := List.length_pos_of_mem isClosed
    have shorter : (closed.erase state).length < closed.length := by
      rw [List.length_erase_of_mem isClosed]
      omega
    exact Prod.Lex.left _ _ shorter
  · exact Prod.Lex.right _ (Nat.lt_succ_self _)

/-- A named pattern as a part of another one. -/
def enclosed (text : String) : List Char :=
  ['(', '?', ':'] ++ text.toList ++ [')']

/-- The text of a pattern with the two names expanded, tied to the current place. -/
def expand (grammar : Grammar) (pattern : String) : List Char :=
  let symbols := Text.replaceAll "@symbols".toList (enclosed grammar.symbols) pattern.toList
  let escapes := Text.replaceAll "@escapes".toList (enclosed grammar.escapes) symbols
  '^' :: enclosed (String.ofList escapes)

/-- Whether the states that an action refers to are defined. -/
def Action.checkState (grammar : Grammar) : Action → Except Fault Unit
  | .push _ next => if (grammar.rules next).isSome then .ok () else .error (.unknownState next)
  | _ => .ok ()

/-- Makes a lexeme ready for matching. -/
def Lexeme.ready (engine : Pattern.Engine) (grammar : Grammar) (lexeme : Lexeme) :
    Except Fault (ReadyRule engine) := do
  lexeme.action.checkState grammar
  match engine.compile? (grammar.expand lexeme.pattern) with
  | some pattern => pure ⟨pattern, lexeme.action⟩
  | none => throw (.pattern lexeme.pattern)

/-- The rules of a state, ready for matching, if the state is defined. -/
def readyRules (grammar : Grammar) (engine : Pattern.Engine) (state : State) :
    Except Fault (Option (List (ReadyRule engine))) :=
  match grammar.rules state with
  | none => .ok none
  | some rules => do
    let lexemes ← grammar.flatten (State.all.erase state) rules
    some <$> lexemes.mapM (Lexeme.ready engine grammar)

end Banana.Grammar
