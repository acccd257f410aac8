/-
This file holds the rules of the pipeline language as they are after reading: every pattern as a
tree, the inclusions replaced by the rules they stand for. The grammar of every catalog is accepted
and has these rules, so the texts of the patterns need not be looked at again.
-/

import Mathlib
import Banana.Grammar.Language
import Banana.Highlight.Scan

namespace Banana.Grammar.Language

open Pattern Highlight Schema

/-! ### Sets of characters -/

def capital : CharSet := ⟨false, [('A', 'Z')]⟩

/-- What may follow in a word. -/
def wordPart : CharSet := ⟨false, [('A', 'Z'), ('a', 'z'), ('0', '9'), ('_', '_'), ('$', '$')]⟩

/-- What a dotted path starts with. -/
def pathStart : CharSet := ⟨false, [('a', 'z'), ('_', '_'), ('$', '$')]⟩

/-- What may follow in a dotted path. -/
def pathPart : CharSet :=
  ⟨false, [('.', '.'), ('A', 'Z'), ('a', 'z'), ('0', '9'), ('_', '_'), ('$', '$')]⟩

def digit : CharSet := ⟨false, [('0', '9')]⟩

def hexDigit : CharSet := ⟨false, [('0', '9'), ('A', 'F'), ('a', 'f')]⟩

def blank : CharSet := ⟨false, [(' ', ' '), ('\t', '\t'), ('\r', '\r'), ('\n', '\n')]⟩

def bracket : CharSet :=
  ⟨false, [('\x7b', '\x7b'), ('\x7d', '\x7d'), ('(', '('), (')', ')'), ('[', '['), (']', ']')]⟩

def angle : CharSet := ⟨false, [('<', '<'), ('>', '>')]⟩

def symbol : CharSet :=
  ⟨false, [('=', '='), ('>', '>'), ('<', '<'), ('!', '!'), ('~', '~'), ('?', '?'), (':', ':'),
    ('&', '&'), ('|', '|'), ('+', '+'), ('-', '-'), ('*', '*'), ('/', '/'), ('^', '^'),
    ('%', '%'), (',', ',')]⟩

/-- What an escape sequence of two characters ends with. -/
def escapeLetter : CharSet :=
  ⟨false, [('a', 'a'), ('b', 'b'), ('f', 'f'), ('n', 'n'), ('r', 'r'), ('t', 't'), ('v', 'v'),
    ('\\', '\\'), ('"', '"'), ('\'', '\'')]⟩

/-- What stands for itself in a string. -/
def plainInString : CharSet := ⟨true, [('\\', '\\'), ('"', '"')]⟩

/-- The same, as the pattern of a string without an end writes it. -/
def plainInOpenString : CharSet := ⟨true, [('"', '"'), ('\\', '\\')]⟩

/-- What stands for itself in a character literal. -/
def plainInLiteral : CharSet := ⟨true, [('\\', '\\'), ('\'', '\'')]⟩

/-! ### Patterns -/

/-- A pattern tied to the current place. -/
def tied (pattern : Pattern) : Pattern := .sequence (.anchor .start) pattern

/-- As many characters of a set as there are. -/
def runOf (set : CharSet) : Pattern := .repeated (.one set) 0 none true

/-- As many characters of a set as there are, and at least one. -/
def someOf (set : CharSet) : Pattern := .repeated (.one set) 1 none true

/-- Between two numbers of characters of a set, as many as there are. -/
def between (set : CharSet) (least most : Nat) : Pattern :=
  .repeated (.one set) least (some most) true

def capitalisedWord : Pattern := .sequence (.one capital) (runOf wordPart)

def path : Pattern := .sequence (.sequence (.one pathStart) (runOf pathPart)) (runOf blank)

def exponent : Pattern :=
  .sequence (.sequence (.one ⟨false, [('e', 'e'), ('E', 'E')]⟩)
    (between ⟨false, [('-', '-'), ('+', '+')]⟩ 0 1)) (someOf digit)

def fraction : Pattern :=
  .sequence (.sequence (.sequence (runOf digit) (.char '.')) (someOf digit))
    (.repeated exponent 0 (some 1) true)

def comment : Pattern :=
  .sequence (.sequence (.char '#') (runOf .withoutFeed)) (.anchor .finish)

def loneAngle : Pattern := .sequence (.one angle) (.ahead false (someOf symbol))

def unclosedString : Pattern :=
  .sequence (.sequence (.char '"')
    (.repeated (.either (.one plainInOpenString) (.sequence (.char '\\') (.one .withoutFeed)))
      0 none true))
    (.anchor .finish)

def escape : Pattern :=
  .sequence (.char '\\') (.either (.one escapeLetter)
    (.either (.sequence (.char 'x') (between hexDigit 1 4))
      (.either (.sequence (.char 'u') (between hexDigit 4 4))
        (.sequence (.char 'U') (between hexDigit 8 8)))))

def unknownEscape : Pattern := .sequence (.char '\\') (.one .withoutFeed)

def plainLiteral : Pattern :=
  .sequence (.sequence (.char '\'') (.one plainInLiteral)) (.char '\'')

def escapedLiteral : Pattern :=
  .sequence (.sequence (.capture 1 (.char '\'')) (.capture 2 escape)) (.capture 3 (.char '\''))

/-! ### Rules -/

def whitespaceRules : List (ReadyRule Pattern.engine) :=
  [⟨tied (someOf blank), .token .white⟩, ⟨tied comment, .token .comment⟩]

def rootRules : List (ReadyRule Pattern.engine) :=
  [⟨tied capitalisedWord, .cases .typeKeywords .componentName .capitalised⟩,
    ⟨tied path, .token .reference⟩,
    ⟨tied fraction, .token .float⟩,
    ⟨tied (someOf digit), .token .integer⟩,
    ⟨tied (someOf blank), .token .white⟩,
    ⟨tied comment, .token .comment⟩,
    ⟨tied (.one bracket), .brackets⟩,
    ⟨tied loneAngle, .brackets⟩,
    ⟨tied (someOf symbol), .cases .operators .operator .unclassified⟩,
    ⟨tied unclosedString, .token .invalidString⟩,
    ⟨tied (.char '"'), .push .quote .string⟩,
    ⟨tied plainLiteral, .token .string⟩,
    ⟨tied escapedLiteral, .groups [.string, .escape, .string]⟩,
    ⟨tied (.char '\''), .token .invalidString⟩]

def stringRules : List (ReadyRule Pattern.engine) :=
  [⟨tied (someOf plainInString), .token .string⟩,
    ⟨tied escape, .token .escape⟩,
    ⟨tied unknownEscape, .token .unknownEscape⟩,
    ⟨tied (.char '"'), .pop .quote⟩]

/-- The rules of a state. -/
def rules : State → List (ReadyRule Pattern.engine)
  | .root => rootRules
  | .whitespace => whitespaceRules
  | .string => stringRules

/-- The highlighter of the language with a list of components. -/
def highlighter (components : List Component) : Highlighter Pattern.engine where
  grammar := .ofComponents components
  rules state := some (rules state)

/-! ### Reading the patterns -/

theorem readyRules_ofComponents (components : List Component) (state : State) :
    (Grammar.ofComponents components).readyRules Pattern.engine state =
      .ok (some (rules state)) := by
  cases state <;> cbv

/-- The grammar of every list of components is accepted. -/
theorem ofGrammar_ofComponents (components : List Component) :
    Highlighter.ofGrammar (.ofComponents components) = .ok (highlighter components) := by
  simp only [Highlighter.ofGrammar, Highlighter.ofGrammarWith, readyRules_ofComponents]
  refine congrArg Except.ok ?_
  show Highlighter.mk _ _ _ = Highlighter.mk _ _ _
  congr 1
  funext state
  cases state <;> rfl

end Banana.Grammar.Language
