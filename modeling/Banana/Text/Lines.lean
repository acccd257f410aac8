/-
This file holds the lines of a text. A line ends before a line feed, the line feed belongs to no
line, and a text always has at least one line.
-/

import Banana.Text.Split

namespace Banana.Text

/-- The lines of a text: there is one more of them than there are line feeds. -/
def lines (text : List Char) : List (List Char) :=
  split '\n' text

/-- What follows the last line feed; the whole text when it has none. -/
def lastLine (text : List Char) : List Char :=
  (text.reverse.takeWhile (· != '\n')).reverse

/-- The text up to a column of a line, both counted from one, if there is such a line. A column
past the end of the line stands for the end, and column zero for the start. -/
def beforePlace (column : Nat) : Nat → List Char → Option (List Char)
  | 0, _ => none
  | 1, text => some ((text.takeWhile (· != '\n')).take (column - 1))
  | _ + 2, [] => none
  | line + 2, c :: rest =>
    let before := if c = '\n' then beforePlace column (line + 1) rest
      else beforePlace column (line + 2) rest
    before.map (c :: ·)

end Banana.Text
