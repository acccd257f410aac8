/-
This file holds the classes of tokens. The name of a class is the word that the theme of an editor
knows it by.
-/

namespace Banana.Grammar

/-- What a piece of source text is shown as. -/
inductive TokenClass where
  /-- A capitalised word that names a component. -/
  | componentName
  /-- Any other capitalised word. -/
  | capitalised
  /-- A word that starts with a small letter, with the dots inside it and the blanks behind it. -/
  | reference
  | float
  | integer
  /-- The inside of a string, or a character literal. -/
  | string
  | quote
  | escape
  | unknownEscape
  /-- A string without its end, or a lone apostrophe. -/
  | invalidString
  | parenthesis
  | array
  | brace
  /-- An angle bracket that stands alone. -/
  | angle
  | operator
  /-- A run of symbols that is no operator. -/
  | unclassified
  | white
  | comment
  /-- A character that no rule accepts. -/
  | invalid
  deriving DecidableEq, Inhabited

namespace TokenClass

/-- The name of a class. -/
def name : TokenClass → String
  | componentName => "keyword.type.identifier"
  | capitalised => "identifier"
  | reference => "identifier.type"
  | float => "number.float"
  | integer => "number.integer"
  | string => "string"
  | quote => "string.quote"
  | escape => "string.escape"
  | unknownEscape => "string.escape.invalid"
  | invalidString => "string.invalid"
  | parenthesis => "delimiter.parenthesis"
  | array => "delimiter.array"
  | brace => "delimiter.bracket"
  | angle => "delimiter.angle"
  | operator => "operator"
  | unclassified => ""
  | white => "white"
  | comment => "comment"
  | invalid => "invalid"

/-- All classes. -/
def all : List TokenClass :=
  [componentName, capitalised, reference, float, integer, string, quote, escape, unknownEscape,
    invalidString, parenthesis, array, brace, angle, operator, unclassified, white, comment,
    invalid]

/-- The class with a name. -/
def ofName? (name : String) : Option TokenClass :=
  all.find? (·.name == name)

/-- Whether tokens of a class mean nothing to the program: blanks and comments. -/
def isTrivia : TokenClass → Bool
  | white | comment => true
  | _ => false

theorem ofName?_name (kind : TokenClass) : ofName? kind.name = some kind := by
  cases kind <;> decide

end TokenClass

end Banana.Grammar
