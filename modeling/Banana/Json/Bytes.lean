/-
This file reads the bytes of a JSON document as text. Bytes that are no UTF-8 are refused only where
someone reads them: a string that is skipped over may hold any, while a string that is read stands
for no text then. Such a sequence therefore becomes two low halves of a character where it stands
inside a string, which no half in front of them can be completed by, and elsewhere a character that
no token has.
-/

import Banana.Text.Utf8

namespace Banana.Json

/-- Where in a document a character stands: outside of the strings, inside of one, or there behind
a backslash. -/
inductive Place where
  | outside
  | inside
  | escaped

/-- Where the next character stands. -/
def Place.after : Place → Char → Place
  | .outside, '"' => .inside
  | .outside, _ => .outside
  | .inside, '"' => .outside
  | .inside, '\\' => .escaped
  | .inside, _ => .inside
  | .escaped, _ => .inside

/-- What stands for an ill-formed sequence of bytes. -/
def Place.illFormed : Place → List Char
  | .inside => ['\\', 'u', 'd', 'c', '0', '0', '\\', 'u', 'd', 'c', '0', '0']
  | _ => ['\ufffd']

/-- The text of characters of which some are ill-formed. -/
def textFrom : Place → List (Option Char) → List Char
  | _, [] => []
  | place, some c :: rest => c :: textFrom (place.after c) rest
  | place, none :: rest => place.illFormed ++ textFrom place rest

/-- The text of the bytes of a document. -/
def textOfBytes (bytes : List UInt8) : List Char :=
  textFrom .outside (Text.decodeFrom none bytes)

end Banana.Json
