/-
This file holds the bytes that go over a connection. A request is written with its length, and asks
for the connection to be closed behind the answer. An answer is read from the bytes that have come
so far: its body ends where its length or its last chunk says, and where there is neither, with the
connection. Interim answers are skipped.
-/

import Banana.Http.Exchange
import Banana.Text.Blank
import Banana.Text.Hexadecimal
import Banana.Text.Utf8

namespace Banana.Http

/-! ### Requests -/

/-- The host and the port that a request names. -/
def Request.hostText (request : Request) : String :=
  match request.url.authority with
  | some authority => String.ofList (authority.host.chars ++ authority.portChars)
  | none => ""

/-- The lines of a request before its body, the last of which is empty. -/
def Request.head (request : Request) : List String :=
  let size := request.body.utf8ByteSize
  let length := if size = 0 then [] else ["content-length: " ++ toString size]
  [request.method.name ++ " " ++ request.url.target ++ " HTTP/1.1",
    "content-type: application/json", "accept: application/json", "host: " ++ request.hostText,
    "connection: close"] ++ length ++ [""]

/-- The bytes of a request. -/
def Request.bytes (request : Request) : List UInt8 :=
  let lines := request.head.flatMap fun line => line.toList ++ ['\r', '\n']
  Text.encodeUtf8 (lines ++ request.body.toList)

/-! ### Lines -/

/-- What is read from bytes of which more may come. -/
inductive Reading (α : Type) where
  /-- More bytes are needed. -/
  | unfinished
  | malformed
  | complete (value : α)

/-- The value of a reading put to use. -/
def Reading.andThen {α β : Type} (reading : Reading α) (next : α → Reading β) : Reading β :=
  match reading with
  | .unfinished => .unfinished
  | .malformed => .malformed
  | .complete value => next value

/-- The reading of something that is either there or malformed. -/
def Reading.ofOption {α : Type} : Option α → Reading α
  | some value => .complete value
  | none => .malformed

/-- The first line of bytes, without its end, and what follows it. -/
def firstLine? : List UInt8 → Option (List Char × List UInt8)
  | [] => none
  | byte :: rest =>
    match Char.ofNat byte.toNat with
    | '\n' => some ([], rest)
    | c => (firstLine? rest).map fun (line, after) =>
      (if c = '\r' && line.isEmpty then line else c :: line, after)

/-- A line takes at least the byte that ends it. -/
theorem length_lt_of_firstLine? {bytes after : List UInt8} {line : List Char}
    (found : firstLine? bytes = some (line, after)) : after.length < bytes.length := by
  induction bytes generalizing line after with
  | nil => simp [firstLine?] at found
  | cons byte rest inductionHypothesis =>
    rw [firstLine?] at found
    split at found
    · simp only [Option.some.injEq, Prod.mk.injEq] at found
      simp [found.2]
    · obtain ⟨_, isFirst, same⟩ := Option.map_eq_some_iff.1 found
      have shorter := inductionHypothesis isFirst
      rw [(Prod.mk.inj same).2] at shorter
      exact Nat.lt_succ_of_lt shorter

/-- The lines up to an empty one, and what follows that. -/
def linesUntilEmpty (bytes : List UInt8) : Reading (List (List Char) × List UInt8) :=
  match _ : firstLine? bytes with
  | none => .unfinished
  | some ([], after) => .complete ([], after)
  | some (line, after) =>
    (linesUntilEmpty after).andThen fun (lines, rest) => .complete (line :: lines, rest)
termination_by bytes.length
decreasing_by exact length_lt_of_firstLine? ‹_›

/-! ### Answers -/

/-- The head of an answer. -/
structure Head where
  status : Nat
  fields : List (List Char × List Char)

/-- The number that decimal digits spell. -/
def decimal? (digits : List Char) : Option Nat :=
  if digits.isEmpty then none
  else digits.foldlM (fun value c =>
    if c.isDigit then some (10 * value + (c.toNat - '0'.toNat)) else none) 0

/-- The status in the first line of an answer, which starts with the version of the protocol. -/
def status? (line : List Char) : Option Nat :=
  match line with
  | 'H' :: 'T' :: 'T' :: 'P' :: '/' :: '1' :: '.' :: minor :: ' ' :: rest =>
    if minor.isDigit then
      (decimal? (rest.take 3)).filter fun status =>
        100 ≤ status && (rest.drop 3).head?.all (· == ' ')
    else
      none
  | _ => none

/-- A field of a head: its name in small letters, and its value. -/
def headField? (line : List Char) : Option (List Char × List Char) :=
  match line.dropWhile (· != ':') with
  | _ :: value => some ((line.takeWhile (· != ':')).map Char.toLower, Text.trim value)
  | [] => none

/-- The head that lines spell. -/
def Head.ofLines? : List (List Char) → Option Head
  | [] => none
  | line :: others => do pure ⟨← status? line, ← others.mapM headField?⟩

/-- The value of a field of a head. -/
def Head.value? (head : Head) (name : String) : Option (List Char) :=
  head.fields.lookup name.toList

/-- The body in chunks: each stands behind a line with its length in hexadecimal digits, and the
last one is empty. -/
def chunks (bytes : List UInt8) : Reading (List UInt8) :=
  match _ : firstLine? bytes with
  | none => .unfinished
  | some (line, after) =>
    let digits := Text.trim (line.takeWhile (· != ';'))
    match digits.foldlM (fun value c => (Text.hexValue? c).map (16 * value + ·)) 0 with
    | none => .malformed
    | some 0 =>
      if digits.isEmpty then .malformed
      else (linesUntilEmpty after).andThen fun _ => .complete []
    | some size =>
      match _ : firstLine? (after.drop size) with
      | none => .unfinished
      | some ([], rest) =>
        (chunks rest).andThen fun others => .complete (after.take size ++ others)
      | some _ => .malformed
termination_by bytes.length
decreasing_by
  have sizeLine := length_lt_of_firstLine? ‹firstLine? bytes = _›
  have chunkEnd := length_lt_of_firstLine? ‹firstLine? (after.drop size) = _›
  rw [List.length_drop] at chunkEnd
  omega

/-- The body behind a head, where the connection may be closed already. -/
def bodyIn (head : Head) (closed : Bool) (bytes : List UInt8) : Reading (List UInt8) :=
  if head.status = 204 || head.status = 304 then
    .complete []
  else if (head.value? "transfer-encoding").any (·.map Char.toLower == "chunked".toList) then
    chunks bytes
  else
    match head.value? "content-length" with
    | some digits =>
      (Reading.ofOption (decimal? digits)).andThen fun size =>
        if size ≤ bytes.length then .complete (bytes.take size) else .unfinished
    | none => if closed then .complete bytes else .unfinished

/-- The first head that does not belong to an interim answer, and what follows it, of at most `room`
heads. -/
def finalHead : Nat → List UInt8 → Reading (Head × List UInt8)
  | 0, _ => .malformed
  | room + 1, bytes =>
    (linesUntilEmpty bytes).andThen fun (lines, rest) =>
      (Reading.ofOption (Head.ofLines? lines)).andThen fun head =>
        if head.status < 200 then finalHead room rest else .complete (head, rest)

/-- What is said when a connection ends before the head of an answer. -/
def brokenHead : String := "client error (SendRequest)"

/-- What is said when a connection ends before the end of a body. -/
def brokenBody : String := "error reading a body from connection"

/-- The reply in the bytes that have come, unless more can come and are needed. -/
def replyIn? (closed : Bool) (bytes : List UInt8) : Option Reply :=
  match finalHead (bytes.length + 1) bytes with
  | .unfinished => if closed then some (.broken brokenHead) else none
  | .malformed => some (.broken brokenHead)
  | .complete (head, rest) =>
    match bodyIn head closed rest with
    | .unfinished => if closed then some (.broken brokenBody) else none
    | .malformed => some (.broken brokenBody)
    | .complete bytes => some (.answer head.status bytes)

end Banana.Http
