/-
This file says which kind of completion the text before the cursor asks for. Only the line of the
cursor counts, and the first of three forms that fits it is taken: a dotted path up to the cursor,
an open call behind an assignment sign, and an assignment in which no call has started.
-/

import Banana.Text.Blank
import Banana.Text.Lines

namespace Banana.Completion

/-- What the cursor stands behind. -/
inductive Context where
  /-- A path whose next member is asked for; its last dot is part of it. -/
  | dottedPath (path : String)
  /-- The arguments of a call of a component. -/
  | callArgument (component args : String)
  /-- An assignment sign, or the start of what is assigned. -/
  | postAssignment
  /-- Nothing that could be completed. -/
  | nothing
  deriving DecidableEq

/-- Whether there is nothing to complete. -/
def Context.isNothing (context : Context) : Bool :=
  context == .nothing

/-- The characters of names. -/
def isNameChar (c : Char) : Bool :=
  c.isAlpha || c == '_' || c == '$'

/-- The characters of a path: those of names, blanks and dots. -/
def isPathChar (c : Char) : Bool :=
  isNameChar c || c == ' ' || c == '.'

/-- The characters that no path may follow directly, since they would be part of a longer one. -/
def joinsPath (c : Char) : Bool :=
  isNameChar c || c.isDigit || c == '.'

/-- Whether a text is a path that ends in a dot. -/
def isPath (text : List Char) : Bool :=
  text.head?.any isNameChar && text.all isPathChar && text.getLast? == some '.'

/-- The longest path at the end of a text, told which character stands before the text. -/
def pathAtEnd? (previous : Option Char) : List Char → Option (List Char)
  | [] => none
  | c :: rest =>
    if !previous.any joinsPath && isPath (c :: rest) then
      some (c :: rest)
    else
      pathAtEnd? (some c) rest

/-- What follows the first equals sign of a line, unless the line starts with it. -/
def assigned? (line : List Char) : Option (List Char) :=
  match line.takeWhile (· != '='), line.dropWhile (· != '=') with
  | _ :: _, _ :: value => some value
  | _, _ => none

/-- The name and the arguments of a call that is still open: blanks, the name, spaces, an opening
parenthesis and no closing one. -/
def openCall? (value : List Char) : Option (List Char × List Char) :=
  let text := value.dropWhile Text.isBlank
  let name := text.takeWhile isNameChar
  match name, (text.dropWhile isNameChar).dropWhile (· == ' ') with
  | _ :: _, '(' :: args => if args.contains ')' then none else some (name, args)
  | _, _ => none

/-- Whether a value has started in which there is no call. -/
def isBareValue (value : List Char) : Bool :=
  !value.isEmpty && value.all fun c => c != '(' && c != '\n' && c != '\r'

/-- The context at the end of a line. -/
def Context.ofLine (line : List Char) : Context :=
  match pathAtEnd? none line with
  | some path => .dottedPath (String.ofList path)
  | none =>
    match assigned? line with
    | none => .nothing
    | some value =>
      match openCall? value with
      | some (name, args) => .callArgument (String.ofList name) (String.ofList args)
      | none => if isBareValue value then .postAssignment else .nothing

/-- The part of a text that lies on the line of the cursor at its end. -/
def cursorLine (text : String) : String :=
  String.ofList (Text.lastLine text.toList)

/-- The context at the end of a text. -/
def classify (text : String) : Context :=
  Context.ofLine (Text.lastLine text.toList)

end Banana.Completion
