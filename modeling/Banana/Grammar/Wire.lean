/-
This file writes grammars and editor settings as JSON, the form in which an editor installs them.
-/

import Banana.Grammar.Basic
import Banana.Grammar.Editor
import Banana.Json.Value

namespace Banana.Grammar

/-- A class by its name. -/
def TokenClass.toJson (kind : TokenClass) : Json :=
  .string kind.name

/-- The wire form of what becomes of a matched text. -/
def Action.toJson : Action → Json
  | .token kind => .object [("token", kind.toJson)]
  | .cases set matched default =>
    .object [("cases", .object [("set", .string set.name), ("matched", matched.toJson),
      ("default", default.toJson)])]
  | .brackets => .string "brackets"
  | .groups kinds => .object [("groups", .array (kinds.map TokenClass.toJson))]
  | .push kind next =>
    .object [("push", .object [("token", kind.toJson), ("next", .string next.name)])]
  | .pop kind => .object [("pop", .object [("token", kind.toJson)])]

/-- The wire form of a rule; an inclusion has an empty pattern. -/
def Rule.toJson : Rule → Json
  | .lexeme ⟨pattern, action⟩ => .object [("regex", .string pattern), ("action", action.toJson)]
  | .included state =>
    .object [("regex", .string ""), ("action", .object [("include", .string state.name)])]

/-- A character as a string. -/
def charToJson (c : Char) : Json :=
  .string (String.singleton c)

/-- The wire form of a bracket pair. -/
def BracketPair.toJson (pair : BracketPair) : Json :=
  .object [("open", charToJson pair.opening), ("close", charToJson pair.closing),
    ("token", pair.kind.toJson)]

/-- The wire form of a grammar. It has a list of further keywords and a text behind token names,
both always empty. -/
def toJson (grammar : Grammar) : Json :=
  let strings (words : List String) : Json := .array (words.map .string)
  let states := State.all.filterMap fun state =>
    (grammar.rules state).map fun rules => (state.name, Json.array (rules.map Rule.toJson))
  .object [("defaultToken", grammar.defaultToken.toJson), ("operators", strings grammar.operators),
    ("keywords", strings []), ("typeKeywords", strings grammar.typeKeywords),
    ("symbols", .string grammar.symbols), ("escapes", .string grammar.escapes),
    ("brackets", .array (grammar.brackets.map BracketPair.toJson)), ("tokenizer", .object states),
    ("tokenPostfix", .string "")]

/-- The wire form of editor settings. -/
def EditorSettings.toJson (settings : EditorSettings) : Json :=
  let pairs := settings.autoClosingPairs.map fun (opening, closing) =>
    Json.array [charToJson opening, charToJson closing]
  .object [("lineComment", .string settings.lineComment), ("autoClosingPairs", .array pairs),
    ("wordSeparators", .string settings.wordSeparators)]

end Banana.Grammar
