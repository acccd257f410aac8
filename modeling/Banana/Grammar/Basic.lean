/-
This file holds tokenizer grammars as plain data: for each state a list of rules that are tried in
order at the current place, and the word sets and bracket pairs that the rules refer to. A state
without a list is undefined, which is not the same as an empty list.
-/

import Banana.Grammar.TokenClass

namespace Banana.Grammar

/-- What a tokenizer may be in the middle of. -/
inductive State where
  /-- The top level of a line. -/
  | root
  /-- Blanks and comments, inlined into other states. -/
  | whitespace
  /-- The inside of a string. -/
  | string
  deriving DecidableEq, Inhabited

namespace State

/-- The name of a state in a grammar. -/
def name : State → String
  | root => "root"
  | whitespace => "whitespace"
  | string => "string"

/-- The name of a state in a message. -/
def label : State → String
  | root => "Root"
  | whitespace => "Whitespace"
  | string => "String"

/-- All states, in the order in which they are checked. -/
def all : List State := [root, whitespace, string]

/-- The state with a name. -/
def ofName? (name : String) : Option State :=
  all.find? (·.name == name)

theorem mem_all (state : State) : state ∈ all := by
  cases state <;> decide

theorem ofName?_name (state : State) : ofName? state.name = some state := by
  cases state <;> decide

end State

/-- A set of words that a rule can look a match up in. -/
inductive KeywordSet where
  | typeKeywords
  | operators
  deriving DecidableEq

/-- The name of a word set. -/
def KeywordSet.name : KeywordSet → String
  | typeKeywords => "typeKeywords"
  | operators => "operators"

/-- What becomes of a matched text. -/
inductive Action where
  /-- One token. -/
  | token (kind : TokenClass)
  /-- One token, whose class says whether the text is in a word set. -/
  | cases (set : KeywordSet) (matched default : TokenClass)
  /-- One token with the class of the bracket that the text starts with. -/
  | brackets
  /-- One token for each group of the pattern. -/
  | groups (kinds : List TokenClass)
  /-- One token, and a state is entered. -/
  | push (kind : TokenClass) (next : State)
  /-- One token, and the current state is left. -/
  | pop (kind : TokenClass)
  deriving DecidableEq

/-- A pattern and what becomes of its matches. In the pattern `@symbols` and `@escapes` stand for
the two named patterns of the grammar. -/
structure Lexeme where
  pattern : String
  action : Action
  deriving DecidableEq

/-- A rule: a pattern of its own, or all rules of another state. -/
inductive Rule where
  | lexeme (lexeme : Lexeme)
  | included (state : State)
  deriving DecidableEq

/-- Two brackets that match each other. -/
structure BracketPair where
  opening : Char
  closing : Char
  kind : TokenClass
  deriving DecidableEq

end Banana.Grammar

namespace Banana

open Grammar

/-- A description of the tokens of a language. -/
structure Grammar where
  defaultToken : TokenClass
  operators : List String
  typeKeywords : List String
  symbols : String
  escapes : String
  brackets : List BracketPair
  rules : State → Option (List Rule)

namespace Grammar

/-- Whether a word names a component. -/
def isTypeKeyword (grammar : Grammar) (word : String) : Bool :=
  grammar.typeKeywords.contains word

/-- Whether a word is an operator. -/
def isOperator (grammar : Grammar) (word : String) : Bool :=
  grammar.operators.contains word

/-- Whether a word is in a word set. -/
def keywordSetContains (grammar : Grammar) : KeywordSet → String → Bool
  | .typeKeywords => grammar.isTypeKeyword
  | .operators => grammar.isOperator

/-- The class of a bracket. -/
def bracketClass (grammar : Grammar) (c : Char) : Option TokenClass :=
  (grammar.brackets.find? fun pair => pair.opening == c || pair.closing == c).map (·.kind)

/-- How many rules a state has, where an inclusion counts as one. -/
def ruleCount (grammar : Grammar) (state : State) : Nat :=
  ((grammar.rules state).getD []).length

end Grammar

end Banana
