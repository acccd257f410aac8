/-
This file holds what the characters of a domain name stand for: capital letters for small ones,
other forms of a character for the character itself, and invisible characters for nothing.
-/

import Banana.Url.Domain.Letter
import Banana.Url.Domain.Refused
import Banana.Url.Domain.Spelling

namespace Banana.Url.Domain

open Character

/-- The ranges of the characters that stand for nothing. -/
def ignoredRanges : List Range := Range.table "
AD 34F 115F-1160 17B4-17B5 180B-180F 200B 2060-2064 206A-206F 3164 FE00-FE0F FEFF FFA0 1BCA0-1BCA3
1D173-1D17A E0100-E01EF
"

/-- What a character of a domain name stands for, unless no domain name has it. -/
def meaning? (c : Char) : Option (List Char) :=
  if c.toNat < 0x80 then some [c.toLower]
  else if Range.contains refusedRanges c then none
  else if Range.contains ignoredRanges c then some []
  else
    match Run.find? letterRuns c, spellings.find? (·.1 == c.toNat) with
    | some run, _ => some [run.shifted c]
    | none, some (_, codes) => some (codes.map Char.ofNat)
    | none, none => some [c]

end Banana.Url.Domain
