/-
This file reads tables of characters. A table is a text of rows with blanks or line ends between
them. The numbers of a row are hexadecimal, with a sign between each two; most are code points.
-/

import Banana.Text.Hexadecimal

namespace Banana.Character

/-- The rows of a table that are read so far and the numbers of the row that is being read, both
from the last to the first. -/
structure TableReader where
  rows : List (List Nat)
  numbers : List Nat

/-- The reader after one more character. -/
def TableReader.step (reader : TableReader) (c : Char) : TableReader :=
  match Text.hexValue? c, reader.numbers with
  | some digit, [] => { reader with numbers := [digit] }
  | some digit, number :: others => { reader with numbers := (16 * number + digit) :: others }
  | none, [] => reader
  | none, numbers =>
    if c == ' ' || c == '\n' then
      { rows := numbers.reverse :: reader.rows, numbers := [] }
    else
      { reader with numbers := 0 :: numbers }

/-- The rows of a table. -/
def rows (table : String) : List (List Nat) :=
  ((table.toList.foldl TableReader.step ⟨[], []⟩).step '\n').rows.reverse

/-- The rows of a table, each as its first number and the others. -/
def listTable (table : String) : List (Nat × List Nat) :=
  (rows table).filterMap fun
    | first :: others => some (first, others)
    | [] => none

/-! ### Ranges -/

/-- The code points from a first to a last one. -/
structure Range where
  first : Nat
  last : Nat
  deriving DecidableEq

namespace Range

/-- The ranges of a table, whose rows are code points on their own and the ends of ranges. -/
def table (table : String) : List Range :=
  (rows table).filterMap fun
    | [code] => some ⟨code, code⟩
    | [first, last] => some ⟨first, last⟩
    | _ => none

/-- Whether a character is in one of some ranges. -/
def contains (ranges : List Range) (c : Char) : Bool :=
  ranges.any fun range => range.first ≤ c.toNat && c.toNat ≤ range.last

end Range

/-! ### Ranges with a number -/

/-- The code points from a first to a last one, with a number that belongs to them. -/
structure Run where
  first : Nat
  last : Nat
  value : Nat
  deriving DecidableEq

namespace Run

/-- The runs of a table, whose rows end with the numbers that belong to them. -/
def table (table : String) : List Run :=
  (rows table).filterMap fun
    | [code, value] => some ⟨code, code, value⟩
    | [first, last, value] => some ⟨first, last, value⟩
    | _ => none

/-- The run that a character is in. -/
def find? (runs : List Run) (c : Char) : Option Run :=
  runs.find? fun run => run.first ≤ c.toNat && c.toNat ≤ run.last

/-- The character that is as far from the value of a run as another one is from its start. -/
def shifted (run : Run) (c : Char) : Char :=
  Char.ofNat (run.value + (c.toNat - run.first))

end Run

end Banana.Character
