/-
This file holds the tokens that the highlighter finds: regions of a source, each with a class.
-/

import Banana.Grammar.TokenClass
import Banana.Source.Span

namespace Banana.Highlight

open Grammar Source

/-- A highlighted region of a source. -/
structure Token where
  kind : TokenClass
  span : Span
  deriving DecidableEq

/-- The text of a token; nothing when the source does not have its region. -/
def Token.text (token : Token) (source : String) : String :=
  (token.span.slice source).getD ""

/-- A token as it is listed for a reader. -/
def Token.display (token : Token) : String :=
  token.kind.name ++ " at " ++ toString token.span.start.line ++ ":" ++
    toString token.span.start.column

end Banana.Highlight
