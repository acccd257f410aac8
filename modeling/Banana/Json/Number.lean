/-
This file holds the numbers of JSON. An integer literal that fits a signed or an unsigned 64-bit
word stays an integer; every other literal is a binary floating-point value, and minus zero is one
too. A literal with a fraction or an exponent is read in three steps: its leading digits as far as
they fit an unsigned 64-bit word, that word rounded to a floating-point value, and one
multiplication or division by a power of ten, rounded again. A literal too large for a
floating-point value is no number at all.
-/

import Banana.Decimal.Shortest

namespace Banana.Json

/-- A number: an integer, or the bits of a floating-point value. -/
inductive Number where
  | integer (value : Int)
  | real (bits : UInt64)
  deriving DecidableEq, Inhabited

/-- A number as it is spelled. The whole part has at least one digit, a fraction and an exponent
have at least one digit where they are present. -/
structure Literal where
  negative : Bool
  whole : List Char
  fraction : Option (List Char)
  exponent : Option (Bool × List Char)
  deriving DecidableEq, Inhabited

/-! ### Reading a literal -/

/-- The number that decimal digits spell. -/
def digitsValue (digits : List Char) : Nat :=
  digits.foldl (fun value c => 10 * value + (c.toNat - '0'.toNat)) 0

/-- The largest unsigned 64-bit word. -/
def maxWord : Nat := UInt64.size - 1

/-- Leading digits gathered into a word, and the power of ten that they are to be scaled by. -/
structure Significand where
  word : Nat
  scale : Int

/-- Takes the digits before the decimal point while the word holds them; a digit that is dropped
leaves a factor of ten behind, and no later digit before the point is taken. -/
def Significand.takeWhole (significand : Significand) : List Char → Significand
  | [] => significand
  | c :: rest =>
    let grown := 10 * significand.word + (c.toNat - '0'.toNat)
    if grown ≤ maxWord then
      takeWhole { significand with word := grown } rest
    else
      { significand with scale := significand.scale + (rest.length + 1) }

/-- Takes the digits behind the decimal point while the word holds them; the others are lost. -/
def Significand.takeFraction (significand : Significand) : List Char → Significand
  | [] => significand
  | c :: rest =>
    let grown := 10 * significand.word + (c.toNat - '0'.toNat)
    if grown ≤ maxWord then
      takeFraction ⟨grown, significand.scale - 1⟩ rest
    else
      significand

/-- A floating-point value divided by a power of ten, in steps of at most `10 ^ 308`. -/
def scaleDown (value : Float) (places : Nat) : Float :=
  if places ≤ 308 then
    value / Float.ofScientific 1 false places
  else if value == 0 then
    value
  else
    scaleDown (value / Float.ofScientific 1 false 308) (places - 308)
termination_by places

/-- The floating-point value of a scaled word, unless it is too large. -/
def Significand.toFloat? (significand : Significand) : Option Float :=
  let value := significand.word.toUInt64.toFloat
  match significand.scale with
  | .ofNat places =>
    if places ≤ 308 then
      let scaled := value * Float.ofScientific 1 false places
      if scaled.isInf then none else some scaled
    else if significand.word = 0 then
      some value
    else
      none
  | .negSucc places => some (scaleDown value (places + 1))

/-- The largest power of ten that is kept as such; a larger one makes the value infinite or zero. -/
def maxScale : Nat := 0x7FFFFFFF

/-- The floating-point value of a literal, without its sign. -/
def Literal.magnitude? (literal : Literal) : Option Float :=
  let significand := (Significand.takeFraction · (literal.fraction.getD [])) <|
    Significand.takeWhole ⟨0, 0⟩ literal.whole
  match literal.exponent with
  | none => significand.toFloat?
  | some (down, digits) =>
    let power := digitsValue digits
    if power ≤ maxScale then
      let scale := if down then significand.scale - power else significand.scale + power
      Significand.toFloat? { significand with scale := scale }
    else if significand.word = 0 || down then
      some 0
    else
      none

/-- The floating-point number of a literal. -/
def Literal.real? (literal : Literal) : Option Number :=
  literal.magnitude?.map fun value =>
    .real (if literal.negative then (-value).toBits else value.toBits)

/-- The value of the highest bit of a 64-bit word, which marks negative numbers. -/
def signBit : Nat := 0x8000000000000000

/-- The number that a literal stands for. -/
def Literal.number? (literal : Literal) : Option Number :=
  match literal.fraction, literal.exponent with
  | none, none =>
    let value := digitsValue literal.whole
    if literal.negative then
      if 0 < value && value ≤ signBit then some (.integer (-value)) else literal.real?
    else if value ≤ maxWord then
      some (.integer value)
    else
      literal.real?
  | _, _ => literal.real?

/-- The unsigned integer below a bound that a literal spells, written without sign, fraction and
exponent. -/
def Literal.natural? (bound : Nat) (literal : Literal) : Option Nat :=
  match literal.negative, literal.fraction, literal.exponent with
  | false, none, none =>
    let value := digitsValue literal.whole
    if value < bound then some value else none
  | _, _, _ => none

/-! ### Writing a number -/

/-- The text of the fraction of a literal. -/
def fractionText : Option (List Char) → List Char
  | none => []
  | some digits => '.' :: digits

/-- The text of the exponent of a literal, which always shows its sign. -/
def exponentText : Option (Bool × List Char) → List Char
  | none => []
  | some (down, digits) => 'e' :: (if down then '-' else '+') :: digits

/-- The text of a literal after its sign. -/
def Literal.unsignedText (literal : Literal) : List Char :=
  literal.whole ++ (fractionText literal.fraction ++ exponentText literal.exponent)

/-- The text of a literal. -/
def Literal.text (literal : Literal) : List Char :=
  if literal.negative then '-' :: literal.unsignedText else literal.unsignedText

/-- An integer as it is spelled; its value is the one without the sign. -/
def integerLiteral (negative : Bool) (value : Nat) : Literal :=
  ⟨negative, Nat.toDigits 10 value, none, none⟩

/-- Digits without the zeros at their end, and the power of ten of the first one. -/
def scientific (digits : Decimal.Digits) : List Char × Int :=
  let written := Nat.toDigits 10 digits.coefficient
  ((written.reverse.dropWhile (· == '0')).reverse, digits.exponent + written.length - 1)

/-- A positive decimal as it is spelled: with at least one digit behind a point when the first
digit stands for `10 ^ -5` to `10 ^ 15`, else with an exponent. -/
def decimalLiteral (negative : Bool) (digits : Decimal.Digits) : Literal :=
  let (written, power) := scientific digits
  if power < -5 || 15 < power then
    let fraction := match written.drop 1 with
      | [] => none
      | rest => some rest
    ⟨negative, written.take 1, fraction, some (power < 0, Nat.toDigits 10 power.natAbs)⟩
  else if power < 0 then
    ⟨negative, ['0'], some (List.replicate (power.natAbs - 1) '0' ++ written), none⟩
  else
    let places := power.toNat + 1
    let padded := written ++ List.replicate (places - written.length) '0'
    let fraction := match padded.drop places with
      | [] => ['0']
      | rest => rest
    ⟨negative, padded.take places, some fraction, none⟩

/-- The value of the bit that stands in front of the fraction of a floating-point value. -/
def leadingBit : Nat := 0x10000000000000

/-- A floating-point value that is finite, as it is spelled; its bits are those without the
sign. -/
def realLiteral (negative : Bool) (bits : Nat) : Literal :=
  let exponent : Nat := bits / leadingBit
  let fraction : Nat := bits % leadingBit
  if exponent = 0 then
    if fraction = 0 then
      ⟨negative, ['0'], some ['0'], none⟩
    else
      decimalLiteral negative (Decimal.Interval.around fraction (-1074) false).shortest
  else
    decimalLiteral negative
      (Decimal.Interval.around (fraction + leadingBit) ((exponent : Int) - 1075)
        (fraction == 0 && 1 < exponent)).shortest

/-- A number as it is spelled. -/
def Number.literal : Number → Literal
  | .integer (.ofNat value) => integerLiteral false value
  | .integer (.negSucc value) => integerLiteral true (value + 1)
  | .real bits => realLiteral (signBit ≤ bits.toNat) (bits.toNat % signBit)

/-- The text of a number. -/
def Number.text (number : Number) : List Char :=
  number.literal.text

end Banana.Json
