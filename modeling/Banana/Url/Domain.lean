/-
This file writes domain names in ASCII. Each character gives way to what it stands for, the whole is
composed, and then the labels are written one by one. Where a label runs from right to left, all
labels have to run one way each.
-/

import Banana.Text.Split
import Banana.Url.Domain.Label
import Banana.Url.Domain.OneWay

namespace Banana.Url.Domain

open Character

/-- The ASCII characters that no domain name has. -/
def isForbidden (c : Char) : Bool :=
  c.toNat ≤ 0x20 || c.toNat == 0x7F ||
    ['%', '#', '/', ':', '<', '>', '?', '@', '[', '\\', ']', '^', '|'].contains c

/-- What a domain name stands for. -/
def meant? (name : List Char) : Option (List Char) :=
  (name.mapM meaning?).map fun meanings => Text.composed meanings.flatten

/-- Whether labels can be shown next to each other. -/
def areReadable (labels : List Label) : Bool :=
  !(labels.any fun label => label.meant.any isRightToLeft) ||
    labels.all fun label => runsOneWay (label.meant.map direction)

/-- A domain name in ASCII. -/
def ascii? (name : List Char) : Option (List Char) := do
  let meant ← meant? name
  let labels ← (Text.split '.' meant).mapM Label.ofText?
  if meant.any isForbidden || !areReadable labels then
    none
  else
    some (Text.join '.' (labels.map (·.written)))

end Banana.Url.Domain
