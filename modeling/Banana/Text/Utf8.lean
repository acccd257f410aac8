/-
This file converts between texts and their UTF-8 bytes. Reading goes byte by byte. A sequence that
can not be continued is ill-formed up to the byte that does not fit, and that byte starts anew; a
strict reading refuses ill-formed bytes, a lenient one puts one replacement character for each such
sequence.
-/

namespace Banana.Text

/-- The UTF-8 bytes of a text. -/
def encodeUtf8 (text : List Char) : List UInt8 :=
  text.flatMap String.utf8EncodeChar

/-- A character of which some bytes have been read: the bits so far, how many bytes are missing, and
the range that the next one has to be in. -/
structure Unfinished where
  bits : Nat
  missing : Nat
  low : Nat
  high : Nat

/-- What the first byte of a character says. -/
inductive FirstByte where
  | whole (c : Char)
  | unfinished (read : Unfinished)
  | illFormed

/-- Reads the first byte of a character. The range of the second byte excludes characters written
with too many bytes, the surrogates, and everything beyond the last code point. -/
def readFirst (byte : UInt8) : FirstByte :=
  let code := byte.toNat
  if code < 0x80 then .whole (Char.ofNat code)
  else if code < 0xC2 then .illFormed
  else if code < 0xE0 then .unfinished ⟨code - 0xC0, 1, 0x80, 0xBF⟩
  else if code = 0xE0 then .unfinished ⟨0, 2, 0xA0, 0xBF⟩
  else if code = 0xED then .unfinished ⟨0xD, 2, 0x80, 0x9F⟩
  else if code < 0xF0 then .unfinished ⟨code - 0xE0, 2, 0x80, 0xBF⟩
  else if code = 0xF0 then .unfinished ⟨0, 3, 0x90, 0xBF⟩
  else if code < 0xF4 then .unfinished ⟨code - 0xF0, 3, 0x80, 0xBF⟩
  else if code = 0xF4 then .unfinished ⟨4, 3, 0x80, 0x8F⟩
  else .illFormed

/-- What has been read after a first byte: a character, or nothing where the byte is ill-formed,
and the character that is still unfinished. -/
def startChar (byte : UInt8) : List (Option Char) × Option Unfinished :=
  match readFirst byte with
  | .whole c => ([some c], none)
  | .unfinished read => ([], some read)
  | .illFormed => ([none], none)

/-- What has been read after one more byte of an unfinished character. -/
def continueChar (read : Unfinished) (byte : UInt8) : List (Option Char) × Option Unfinished :=
  let code := byte.toNat
  if read.low ≤ code ∧ code ≤ read.high then
    let bits := 0x40 * read.bits + (code - 0x80)
    if read.missing ≤ 1 then
      ([some (Char.ofNat bits)], none)
    else
      ([], some ⟨bits, read.missing - 1, 0x80, 0xBF⟩)
  else
    let (found, unfinished) := startChar byte
    (none :: found, unfinished)

/-- The characters of bytes, with nothing for each ill-formed sequence. -/
def decodeFrom : Option Unfinished → List UInt8 → List (Option Char)
  | none, [] => []
  | some _, [] => [none]
  | unfinished, byte :: rest =>
    let (found, next) := match unfinished with
      | some read => continueChar read byte
      | none => startChar byte
    found ++ decodeFrom next rest

/-- The text that well-formed bytes stand for. -/
def decodeUtf8? (bytes : List UInt8) : Option (List Char) :=
  (decodeFrom none bytes).mapM id

/-- The text of bytes in which ill-formed sequences are replaced. -/
def decodeUtf8Leniently (bytes : List UInt8) : List Char :=
  (decodeFrom none bytes).map (·.getD '\ufffd')

end Banana.Text
