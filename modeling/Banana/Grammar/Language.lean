/-
This file holds the grammar of the pipeline language. Only its set of component names depends on
the catalog; operators, symbols, escapes and rules are fixed. The comma is an operator and
therefore a symbol too, so that a run such as `=,` is one symbol run and no operator.
-/

import Banana.Grammar.Basic
import Banana.Schema.Catalog

namespace Banana.Grammar

open Schema

/-- The operators of the language. -/
def operatorWords : List String := ["=", ">", "<", "+", "-", "*", "/", "->", ","]

/-- The pattern of a run of symbols. -/
def symbolRun : String := "[=><!~?:&|+\\-*/\\^%,]+"

/-- The pattern of an escape sequence in a string or a character literal. -/
def escapeSequence : String :=
  "\\\\(?:[abfnrtv\\\\\"']|x[0-9A-Fa-f]\x7b1,4\x7d|u[0-9A-Fa-f]\x7b4\x7d|U[0-9A-Fa-f]\x7b8\x7d)"

/-- A rule that makes a match one token. -/
def Rule.token (pattern : String) (kind : TokenClass) : Rule :=
  .lexeme ⟨pattern, .token kind⟩

/-- The rules at the top level. Decimal fractions are tried before whole numbers, and a string
that does not end on its line before the quote that opens one. -/
def rootRules : List Rule :=
  [.lexeme ⟨"[A-Z][A-Za-z0-9_$]*", .cases .typeKeywords .componentName .capitalised⟩,
    .token "[a-z_$][.A-Za-z0-9_$]*(?:[ \\t\\r\\n]*)" .reference,
    .token "[0-9]*\\.[0-9]+(?:[eE][\\-+]?[0-9]+)?" .float,
    .token "[0-9]+" .integer,
    .included .whitespace,
    .lexeme ⟨"[\x7b\x7d()\\[\\]]", .brackets⟩,
    .lexeme ⟨"[<>](?!@symbols)", .brackets⟩,
    .lexeme ⟨"@symbols", .cases .operators .operator .unclassified⟩,
    .token "\"(?:[^\"\\\\]|\\\\.)*$" .invalidString,
    .lexeme ⟨"\"", .push .quote .string⟩,
    .token "'[^\\\\']'" .string,
    .lexeme ⟨"(')(@escapes)(')", .groups [.string, .escape, .string]⟩,
    .token "'" .invalidString]

/-- The rules for blanks and comments. -/
def whitespaceRules : List Rule :=
  [.token "[ \\t\\r\\n]+" .white, .token "#.*$" .comment]

/-- The rules inside a string. -/
def stringRules : List Rule :=
  [.token "[^\\\\\"]+" .string,
    .token "@escapes" .escape,
    .token "\\\\." .unknownEscape,
    .lexeme ⟨"\"", .pop .quote⟩]

/-- The rules of every state. -/
def lexicalRules : State → List Rule
  | .root => rootRules
  | .whitespace => whitespaceRules
  | .string => stringRules

/-- The grammar of the language with a list of components: their names, each once, are its type
keywords. -/
def ofComponents (components : List Component) : Grammar where
  defaultToken := .invalid
  operators := operatorWords
  typeKeywords := (components.map (·.name)).eraseDups
  symbols := symbolRun
  escapes := escapeSequence
  brackets := [⟨'(', ')', .parenthesis⟩, ⟨'[', ']', .array⟩, ⟨'\x7b', '\x7d', .brace⟩]
  rules state := some (lexicalRules state)

end Banana.Grammar
