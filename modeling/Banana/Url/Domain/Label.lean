/-
This file reads the labels of domain names, the parts between the dots. A label with a character
beyond ASCII is written in ASCII behind a mark; one that bears the mark has to be written that way
itself. In what a label means no mark stands at the front, and joiners only where they show.
-/

import Banana.Character.Joining
import Banana.Character.Mark
import Banana.Text.Composed
import Banana.Url.Domain.Meaning
import Banana.Url.Punycode

namespace Banana.Url.Domain

open Character

/-! ### Joiners -/

/-- Whether a character that joins is next to the front of a text. -/
def meetsJoining (joins : Char → Bool) (text : List Char) : Bool :=
  (text.dropWhile isTransparent).head?.any joins

/-- Whether a joiner has an effect between the characters before it, from the last to the first, and
those behind it. The joiner that keeps letters apart also has one between letters that join. -/
def joinerShows (joiner : Char) (before rest : List Char) : Bool :=
  before.head?.any isVirama ||
    (joiner == '\u200C' && meetsJoining joinsNext before && meetsJoining joinsPrevious rest)

/-- Whether all joiners of a text have an effect; `before` is what comes before the text, from the
last character to the first. -/
def joinersShow (before : List Char) : List Char → Bool
  | [] => true
  | c :: rest =>
    ((c != '\u200C' && c != '\u200D') || joinerShows c before rest) &&
      joinersShow (c :: before) rest

/-! ### Labels -/

/-- A label of a domain name: how it is written, and what that means. -/
structure Label where
  written : List Char
  meant : List Char

namespace Label

/-- The mark of a label that is written in ASCII but is not. -/
def asciiMark : List Char := ['x', 'n', '-', '-']

/-- Whether all characters of a text are of ASCII. -/
def isAscii (text : List Char) : Bool :=
  text.all fun c => c.toNat < 0x80

/-- Whether no mark is at the front of a label and all its joiners have an effect. -/
def isWellFormed (label : List Char) : Bool :=
  !label.head?.any isMark && joinersShow [] label

/-- The label that bears the mark and has a text behind it. That text is short and stands for a
label that needs the mark and that stands for itself. -/
def ofMarked? (text : List Char) : Option Label :=
  if isAscii text && text.length ≤ 2000 then
    match Punycode.decode? text with
    | some meant =>
      if !isAscii meant && isWellFormed meant && meant.all (fun c => meaning? c == some [c]) &&
          Text.composed meant == meant then
        some ⟨asciiMark ++ text, meant⟩
      else
        none
    | none => none
  else
    none

/-- The label that means a text, which is short if it needs the mark. -/
def ofMeant? (meant : List Char) : Option Label :=
  if isAscii meant then
    some ⟨meant, meant⟩
  else if isWellFormed meant && meant.length ≤ 1000 then
    some ⟨asciiMark ++ Punycode.encode meant, meant⟩
  else
    none

/-- The label that a text without capital letters is. -/
def ofText? (text : List Char) : Option Label :=
  if asciiMark.isPrefixOf text then ofMarked? (text.drop asciiMark.length) else ofMeant? text

end Label

end Banana.Url.Domain
