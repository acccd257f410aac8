/-
This file replaces every occurrence of one text inside another, from left to right and without
overlaps.
-/

namespace Banana.Text

/-- Goes through a text in which the first `skip` characters belong to an occurrence that is
already replaced. -/
def replaceFrom (target replacement : List Char) : Nat → List Char → List Char
  | _, [] => []
  | skip + 1, _ :: rest => replaceFrom target replacement skip rest
  | 0, c :: rest =>
    if target.isPrefixOf (c :: rest) then
      replacement ++ replaceFrom target replacement (target.length - 1) rest
    else
      c :: replaceFrom target replacement 0 rest

/-- The text with every occurrence of a non-empty target replaced. -/
def replaceAll (target replacement text : List Char) : List Char :=
  replaceFrom target replacement 0 text

end Banana.Text
