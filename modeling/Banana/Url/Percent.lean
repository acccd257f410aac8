/-
This file writes characters of a URL as percent signs with two hexadecimal digits for each byte, and
reads them back. Which ASCII characters are written that way depends on the part of the URL; all
other characters always are.
-/

import Banana.Text.Hexadecimal
import Banana.Text.Utf8

namespace Banana.Url

/-- The characters written as bytes in a part of a URL. -/
abbrev EncodeSet := Char → Bool

/-- The hexadecimal digit of a number below sixteen. -/
def upperHexDigit (value : Nat) : Char :=
  (Nat.digitChar value).toUpper

/-- A byte with its percent sign. -/
def percentByte (byte : UInt8) : List Char :=
  ['%', upperHexDigit (byte.toNat / 16), upperHexDigit (byte.toNat % 16)]

/-- Writes a text so that no character of a set, and no character beyond ASCII, stands in it. -/
def percentEncode (set : EncodeSet) (text : List Char) : List Char :=
  text.flatMap fun c =>
    if c.toNat < 0x80 && !set c then [c] else (String.utf8EncodeChar c).flatMap percentByte

/-- The byte that a percent sign with two characters behind it stands for. -/
def percentByte? (high low : Char) : Option UInt8 :=
  match Text.hexValue? high, Text.hexValue? low with
  | some high, some low => some (UInt8.ofNat (16 * high + low))
  | _, _ => none

/-- The bytes of a text in which percent signs stand for bytes. A percent sign without two
hexadecimal digits behind it stands for itself. The first `skip` characters belong to a byte that
is already read. -/
def percentDecodeFrom : Nat → List Char → List UInt8
  | _, [] => []
  | skip + 1, _ :: rest => percentDecodeFrom skip rest
  | 0, c :: rest =>
    match c, rest with
    | '%', high :: low :: _ =>
      match percentByte? high low with
      | some byte => byte :: percentDecodeFrom 2 rest
      | none => String.utf8EncodeChar c ++ percentDecodeFrom 0 rest
    | _, _ => String.utf8EncodeChar c ++ percentDecodeFrom 0 rest

/-- The bytes of a text in which percent signs stand for bytes. -/
def percentDecode (text : List Char) : List UInt8 :=
  percentDecodeFrom 0 text

/-! ### The sets -/

/-- The control characters. -/
def controlSet : EncodeSet := fun c =>
  c.toNat < 0x20 || c.toNat == 0x7F

/-- The characters written as bytes in a fragment. -/
def fragmentSet : EncodeSet := fun c =>
  controlSet c || [' ', '"', '<', '>', '\u0060'].contains c

/-- The characters written as bytes in a path. -/
def pathSet : EncodeSet := fun c =>
  fragmentSet c || ['#', '?', '\x7b', '\x7d'].contains c

/-- The characters written as bytes in a user name or a password. -/
def credentialSet : EncodeSet := fun c =>
  pathSet c || ['/', ':', ';', '=', '@', '[', '\\', ']', '^', '|'].contains c

/-- The characters written as bytes in a query; the apostrophe only where the scheme is special. -/
def querySet (special : Bool) : EncodeSet := fun c =>
  controlSet c || [' ', '"', '#', '<', '>'].contains c || (special && c == '\'')

end Banana.Url
