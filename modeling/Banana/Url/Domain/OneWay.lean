/-
This file says which labels can be shown in a domain name with characters that run from right to
left, without a chance that a reader takes one label for another. A label runs one way from its
first character on, and ends with a letter or a number that runs that way.
-/

import Banana.Character.Direction

namespace Banana.Url.Domain

open Character

/-- What a label that runs from left to right is made of. -/
def leftToRightParts : List Direction :=
  [.leftToRight, .europeanNumber, .europeanSeparator, .commonSeparator, .europeanTerminator,
    .neutral, .boundaryNeutral, .nonspacingMark]

/-- What a label that runs from right to left is made of. -/
def rightToLeftParts : List Direction :=
  [.rightToLeft, .arabicLetter, .arabicNumber, .europeanNumber, .europeanSeparator,
    .commonSeparator, .europeanTerminator, .neutral, .boundaryNeutral, .nonspacingMark]

/-- Whether a label runs one way, given the directions of its characters. Marks at its end do not
count, and numbers of two kinds do not go together in a label that runs from right to left. -/
def runsOneWay : List Direction → Bool
  | [] => true
  | first :: rest =>
    let fromEnd := rest.reverse.dropWhile (· == .nonspacingMark)
    match first with
    | .leftToRight =>
      fromEnd.all leftToRightParts.contains &&
        fromEnd.head?.all [.leftToRight, .europeanNumber].contains
    | .rightToLeft | .arabicLetter =>
      fromEnd.all rightToLeftParts.contains &&
        fromEnd.head?.all [.rightToLeft, .arabicLetter, .europeanNumber, .arabicNumber].contains &&
        !(fromEnd.contains .europeanNumber && fromEnd.contains .arabicNumber)
    | _ => false

end Banana.Url.Domain
