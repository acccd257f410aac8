/-
This file writes the labels of internationalised domain names in ASCII, the encoding called
Punycode. The ASCII characters of a label come first; then the others are inserted one after the
other in the order of their code points, each as a number that says how far the place of insertion
is from the last one. The numbers are written in base 36 with the least digit first and with a
threshold at each digit that tells the last one, and the thresholds adapt to the size of the
numbers so far.
-/

namespace Banana.Url.Punycode

/-- The character of a digit. -/
def digitChar (digit : Nat) : Char :=
  if digit < 26 then Char.ofNat ('a'.toNat + digit) else Char.ofNat ('0'.toNat + (digit - 26))

/-- The digit that a character stands for. -/
def digit? (c : Char) : Option Nat :=
  if 'a' ≤ c ∧ c ≤ 'z' then some (c.toNat - 'a'.toNat)
  else if 'A' ≤ c ∧ c ≤ 'Z' then some (c.toNat - 'A'.toNat)
  else if c.isDigit then some (c.toNat - '0'.toNat + 26)
  else none

/-- The threshold at a digit, whose places are counted in steps of 36. -/
def threshold (place bias : Nat) : Nat :=
  if place ≤ bias then 1 else if bias + 26 ≤ place then 26 else place - bias

theorem threshold_pos (place bias : Nat) : 1 ≤ threshold place bias := by
  unfold threshold
  split
  · omega
  · split <;> omega

theorem threshold_le (place bias : Nat) : threshold place bias ≤ 26 := by
  unfold threshold
  split
  · omega
  · split <;> omega

/-- Divides a number by 35 until it is small, and counts the divisions in steps of 36. -/
def scaleDown (delta steps : Nat) : Nat × Nat :=
  if 455 < delta then scaleDown (delta / 35) (steps + 36) else (delta, steps)
termination_by delta
decreasing_by exact Nat.div_lt_self (by omega) (by omega)

/-- The bias after a number has been written. -/
def adapt (delta count : Nat) (first : Bool) : Nat :=
  let damped := if first then delta / 700 else delta / 2
  let (small, steps) := scaleDown (damped + damped / count) 0
  steps + 36 * small / (small + 38)

/-! ### Writing -/

/-- The digits of a number. -/
def writeNumber (bias place value : Nat) : List Char :=
  let least := threshold place bias
  if value < least then
    [digitChar value]
  else
    digitChar (least + (value - least) % (36 - least)) ::
      writeNumber bias (place + 36) ((value - least) / (36 - least))
termination_by value
decreasing_by
  have positive := threshold_pos place bias
  have bounded := threshold_le place bias
  calc (value - threshold place bias) / (36 - threshold place bias)
      ≤ value - threshold place bias := Nat.div_le_self _ _
    _ < value := by omega

/-- The state of the writer: what it has written, how far the place is from that of the last
insertion, the bias, and how many characters have been dealt with. -/
structure Writer where
  written : List Char
  delta : Nat
  bias : Nat
  handled : Nat

/-- Goes past one character of the label while the characters with one code point are inserted. -/
def Writer.pass (basicCount code : Nat) (writer : Writer) (c : Char) : Writer :=
  if c.toNat < code then
    { writer with delta := writer.delta + 1 }
  else if c.toNat = code then
    { written := writer.written ++ writeNumber writer.bias 36 writer.delta
      delta := 0
      bias := adapt writer.delta (writer.handled + 1) (writer.handled == basicCount)
      handled := writer.handled + 1 }
  else
    writer

/-- Inserts the characters with the code points of an increasing list. -/
def Writer.insertAll (label : List Char) (basicCount : Nat) : List Nat → Nat → Writer → Writer
  | [], _, writer => writer
  | code :: rest, next, writer =>
    let moved := { writer with delta := writer.delta + (code - next) * (writer.handled + 1) }
    let passed := label.foldl (Writer.pass basicCount code) moved
    insertAll label basicCount rest (code + 1) { passed with delta := passed.delta + 1 }

/-- Puts a number into an increasing list, unless it is there. -/
def insertSorted (value : Nat) : List Nat → List Nat
  | [] => [value]
  | first :: rest =>
    if value < first then value :: first :: rest
    else if value = first then first :: rest
    else first :: insertSorted value rest

/-- The label in ASCII. -/
def encode (label : List Char) : List Char :=
  let basic := label.filter (·.toNat < 0x80)
  let codes := (label.filter (0x80 ≤ ·.toNat)).foldr (fun c => insertSorted c.toNat) []
  let start := if basic.isEmpty then [] else basic ++ ['-']
  start ++ (Writer.insertAll label basic.length codes 0x80 ⟨[], 0, 72, basic.length⟩).written

/-! ### Reading -/

/-- The state of the reader: the label so far, the code point and the place of the next insertion,
the bias, and the number that is being read with its place and weight. -/
structure Reader where
  label : List Char
  code : Nat
  position : Nat
  bias : Nat
  value : Nat
  place : Nat
  weight : Nat

/-- A text with a character inserted. -/
def insertAt (position : Nat) (c : Char) (text : List Char) : List Char :=
  text.take position ++ c :: text.drop position

/-- The reader after one more digit. -/
def Reader.step? (reader : Reader) (c : Char) : Option Reader :=
  match digit? c with
  | none => none
  | some digit =>
    let value := reader.value + digit * reader.weight
    let least := threshold reader.place reader.bias
    if digit < least then
      let count := reader.label.length + 1
      let total := reader.position + value
      let code := reader.code + total / count
      if code.isValidChar then
        some {
          label := insertAt (total % count) (Char.ofNat code) reader.label
          code := code
          position := total % count + 1
          bias := adapt value count (reader.position == 0)
          value := 0
          place := 36
          weight := 1 }
      else
        none
    else
      some { reader with
        value := value
        place := reader.place + 36
        weight := reader.weight * (36 - least) }

/-- The ASCII characters in front of the last hyphen, and what is behind it. A hyphen at the front
has none before it, and belongs to the digits. -/
def basicPart (text : List Char) : List Char × List Char :=
  let digits := (text.reverse.takeWhile (· != '-')).reverse
  let basic := text.take (text.length - digits.length - 1)
  if basic.isEmpty then ([], text) else (basic, digits)

/-- The label that an ASCII text stands for. -/
def decode? (text : List Char) : Option (List Char) :=
  let (basic, digits) := basicPart text
  match digits.foldlM Reader.step? ⟨basic, 0x80, 0, 72, 0, 36, 1⟩ with
  | some reader => if reader.place = 36 ∧ reader.weight = 1 then some reader.label else none
  | none => none

end Banana.Url.Punycode
