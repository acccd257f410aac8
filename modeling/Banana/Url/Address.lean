/-
This file reads the addresses that a host can be. An IPv4 address is up to four numbers, decimal,
octal behind a zero or hexadecimal behind `0x`, of which the last fills all bytes that the others
leave. An IPv6 address is eight pieces of up to four hexadecimal digits, of which one run of zeros
may be left out; the last two may be written as an IPv4 address in plain decimal.
-/

import Banana.Text.Split
import Banana.Url.Basic

namespace Banana.Url

/-! ### IPv4 -/

/-- The value of digits in a base, all of which have to be digits of it. -/
def digitsIn? (base : Nat) (text : List Char) : Option Nat :=
  text.foldlM (fun value c => do
    let digit ← Text.hexValue? c
    if digit < base then pure (value * base + digit) else none) 0

/-- A part of an IPv4 address; a base without digits stands for zero. -/
def ipv4Number? : List Char → Option Nat
  | [] => none
  | '0' :: 'x' :: digits | '0' :: 'X' :: digits => digitsIn? 16 digits
  | '0' :: digit :: digits => digitsIn? 8 (digit :: digits)
  | digits => digitsIn? 10 digits

/-- The parts of a name between its dots; a dot at the end closes the last one. -/
def hostParts (name : List Char) : List (List Char) :=
  let parts := Text.split '.' name
  if parts.length > 1 && parts.getLast? == some [] then parts.dropLast else parts

/-- Whether the last part of a name is a number, so that the name has to be an IPv4 address. -/
def endsInNumber (name : List Char) : Bool :=
  match (hostParts name).getLast? with
  | some last => (!last.isEmpty && last.all Char.isDigit) || (ipv4Number? last).isSome
  | none => false

/-- The address of numbers in a number of bytes: each but the last is one byte. -/
def joinNumbers? : Nat → List Nat → Option Nat
  | 0, _ | _, [] => none
  | room + 1, [last] => if last < Nat.pow 256 (room + 1) then some last else none
  | room + 1, number :: rest =>
    if number < 256 then (joinNumbers? room rest).map (number * Nat.pow 256 room + ·) else none

/-- The IPv4 address that a name spells. -/
def ipv4? (name : List Char) : Option Nat :=
  ((hostParts name).mapM ipv4Number?).bind (joinNumbers? 4)

/-! ### IPv6 -/

/-- A piece of an IPv6 address. -/
def piece? (text : List Char) : Option Nat :=
  if 1 ≤ text.length ∧ text.length ≤ 4 then digitsIn? 16 text else none

/-- A byte in plain decimal, without zeros before it. -/
def plainByte? (text : List Char) : Option Nat :=
  match text with
  | [] => none
  | '0' :: _ :: _ => none
  | digits => (digitsIn? 10 digits).filter (· < 256)

/-- The two pieces that an IPv4 address at the end stands for. -/
def lastPieces? (text : List Char) : Option (List Nat) :=
  match (Text.split '.' text).mapM plainByte? with
  | some [first, second, third, fourth] => some [256 * first + second, 256 * third + fourth]
  | _ => none

/-- The pieces of the parts between colons. -/
def piecesOfParts? (mayEndInIpv4 : Bool) : List (List Char) → Option (List Nat)
  | [] => some []
  | [last] =>
    if mayEndInIpv4 && last.contains '.' then lastPieces? last
    else (piece? last).map ([·])
  | part :: rest =>
    match piece? part, piecesOfParts? mayEndInIpv4 rest with
    | some piece, some pieces => some (piece :: pieces)
    | _, _ => none

/-- The pieces of a text between colons; an empty text has none. -/
def pieces? (mayEndInIpv4 : Bool) (text : List Char) : Option (List Nat) :=
  if text.isEmpty then some [] else piecesOfParts? mayEndInIpv4 (Text.split ':' text)

/-- The texts before and after the first double colon. -/
def splitAtGap : List Char → Option (List Char × List Char)
  | [] => none
  | ':' :: ':' :: rest => some ([], rest)
  | c :: rest => (splitAtGap rest).map fun (before, after) => (c :: before, after)

/-- The IPv6 address that a text spells. -/
def ipv6? (text : List Char) : Option (List Nat) :=
  match splitAtGap text with
  | none => (pieces? true text).filter (·.length == 8)
  | some (before, after) =>
    match pieces? false before, pieces? true after with
    | some left, some right =>
      if left.length + right.length < 8 then
        some (left ++ List.replicate (8 - left.length - right.length) 0 ++ right)
      else
        none
    | _, _ => none

end Banana.Url
