/-
This file measures a text in the bytes of its UTF-8 form and cuts it at byte offsets. A cut is
possible exactly where a character ends, so a slice is refused when its bounds are reversed, lie
past the end or fall inside a character.
-/

namespace Banana.Text

/-- How many bytes the UTF-8 form of a text takes. -/
def utf8Length : List Char → Nat
  | [] => 0
  | c :: rest => c.utf8Size + utf8Length rest

/-- The text up to a byte offset and the text from there on, when the offset lies between two
characters. -/
def splitAtByte : Nat → List Char → Option (List Char × List Char)
  | 0, text => some ([], text)
  | _ + 1, [] => none
  | offset + 1, c :: rest =>
    if c.utf8Size ≤ offset + 1 then
      (splitAtByte (offset + 1 - c.utf8Size) rest).map fun (before, after) => (c :: before, after)
    else
      none

/-- The text between two byte offsets. -/
def slice (start stop : Nat) (text : List Char) : Option (List Char) :=
  if start ≤ stop then
    match splitAtByte start text with
    | some (_, after) => (splitAtByte (stop - start) after).map Prod.fst
    | none => none
  else
    none

@[simp]
theorem utf8Length_append (first second : List Char) :
    utf8Length (first ++ second) = utf8Length first + utf8Length second := by
  induction first with
  | nil => simp [utf8Length]
  | cons c rest inductionHypothesis => simp [utf8Length, inductionHypothesis, Nat.add_assoc]

/-- Cutting where the first of two texts ends gives the two texts back. -/
theorem splitAtByte_append (first second : List Char) :
    splitAtByte (utf8Length first) (first ++ second) = some (first, second) := by
  induction first with
  | nil => simp [utf8Length, splitAtByte]
  | cons c rest inductionHypothesis =>
    have positive : 0 < c.utf8Size := Char.utf8Size_pos c
    obtain ⟨size, isSize⟩ : ∃ size, c.utf8Size + utf8Length rest = size + 1 :=
      ⟨c.utf8Size + utf8Length rest - 1, by omega⟩
    have remaining : size + 1 - c.utf8Size = utf8Length rest := by omega
    rw [utf8Length, isSize, List.cons_append, splitAtByte, if_pos (by omega), remaining,
      inductionHypothesis]
    rfl

/-- The slice that the byte lengths around a text mark is that text. -/
theorem slice_append (before middle after : List Char) :
    slice (utf8Length before) (utf8Length before + utf8Length middle) (before ++ middle ++ after) =
      some middle := by
  rw [slice, if_pos (by omega), List.append_assoc, splitAtByte_append]
  simp [splitAtByte_append]

end Banana.Text
