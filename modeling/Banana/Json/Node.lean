/-
This file reads a JSON document into a tree of what the text spells. A node still holds literals
and string units: whether a number is in range, a string is well formed and the nesting is shallow
enough is asked only of the parts of a document that someone reads, and not of the parts that are
skipped. The reader runs over the tokens once, keeping the containers that are still open in a
list.
-/

import Banana.Json.Token
import Banana.Json.Value

namespace Banana.Json

/-- What a JSON document spells. -/
inductive Node where
  | null
  | bool (value : Bool)
  | number (literal : Literal)
  | string (units : List Unit16)
  | array (items : List Node)
  | object (fields : List (List Unit16 × Node))
  deriving Inhabited

/-! ### From tokens to a tree -/

/-- A container that is still open, its finished parts in reverse. -/
inductive Frame where
  | array (before : List Node)
  | object (before : List (List Unit16 × Node)) (key : List Unit16)

/-- What the next token has to be. -/
inductive Expecting where
  | value
  | firstItem
  | key (before : List (List Unit16 × Node))
  | colon (before : List (List Unit16 × Node)) (key : List Unit16)
  | afterValue (value : Node)

/-- The state of the reader after the first token of a value. -/
def begin (frames : List Frame) : Token → Option (Expecting × List Frame)
  | .null => some (.afterValue .null, frames)
  | .bool value => some (.afterValue (.bool value), frames)
  | .number literal => some (.afterValue (.number literal), frames)
  | .string units => some (.afterValue (.string units), frames)
  | .openArray => some (.firstItem, frames)
  | .openObject => some (.key [], frames)
  | _ => none

/-- The state of the reader after a token. A comma must be followed by another part, so only an
object that is still empty may be closed where a key could stand. -/
def step : Expecting × List Frame → Token → Option (Expecting × List Frame)
  | (.value, frames), token => begin frames token
  | (.firstItem, frames), .closeArray => some (.afterValue (.array []), frames)
  | (.firstItem, frames), token => begin (.array [] :: frames) token
  | (.key [], frames), .closeObject => some (.afterValue (.object []), frames)
  | (.key before, frames), .string key => some (.colon before key, frames)
  | (.colon before key, frames), .colon => some (.value, .object before key :: frames)
  | (.afterValue value, .array before :: frames), .comma =>
    some (.value, .array (value :: before) :: frames)
  | (.afterValue value, .array before :: frames), .closeArray =>
    some (.afterValue (.array (value :: before).reverse), frames)
  | (.afterValue value, .object before key :: frames), .comma =>
    some (.key ((key, value) :: before), frames)
  | (.afterValue value, .object before key :: frames), .closeObject =>
    some (.afterValue (.object ((key, value) :: before).reverse), frames)
  | _, _ => none

/-- The tree that a sequence of tokens spells. -/
def nodeOfTokens? (tokens : List Token) : Option Node :=
  match tokens.foldlM step (.value, []) with
  | some (.afterValue node, []) => some node
  | _ => none

/-- The tree that a text spells: one value, with blanks around its tokens. -/
def Node.parse? (text : List Char) : Option Node :=
  match tokens text with
  | some read => nodeOfTokens? read
  | none => none

/-! ### What a tree stands for -/

/-- The text that string units spell: a high half must be followed by a low half. -/
def textOfUnits? : List Unit16 → Option (List Char)
  | [] => some []
  | .char c :: rest => (textOfUnits? rest).map (c :: ·)
  | .surrogate high :: .surrogate low :: rest =>
    if high < 0xDC00 ∧ 0xDC00 ≤ low then
      (textOfUnits? rest).map
        (Char.ofNat (0x10000 + (high - 0xD800) * 0x400 + (low - 0xDC00)) :: ·)
    else
      none
  | .surrogate _ :: _ => none

/-- The string that string units spell. -/
def stringOfUnits? (units : List Unit16) : Option String :=
  (textOfUnits? units).map String.ofList

/-- How many containers may be nested in a document. -/
def maxDepth : Nat := 127

mutual

/-- The value of a node in which at most `room` containers may be nested: its numbers have to be in
range and its strings well formed. Of two fields with one name the later value wins, in the place
of the earlier. -/
def Node.value? (room : Nat) : Node → Option Json
  | .null => some .null
  | .bool value => some (.bool value)
  | .number literal => literal.number?.map .number
  | .string units => (stringOfUnits? units).map .string
  | .array items =>
    match room with
    | 0 => none
    | room + 1 => (valueItems? room items).map .array
  | .object fields =>
    match room with
    | 0 => none
    | room + 1 => (valueFields? room fields).map fun pairs => .object (Entries.ofList pairs)

/-- The values of the items of an array. -/
def valueItems? (room : Nat) : List Node → Option (List Json)
  | [] => some []
  | node :: rest =>
    match node.value? room, valueItems? room rest with
    | some value, some values => some (value :: values)
    | _, _ => none

/-- The names and values of the fields of an object. -/
def valueFields? (room : Nat) : List (List Unit16 × Node) → Option (List (String × Json))
  | [] => some []
  | (key, node) :: rest =>
    match stringOfUnits? key, node.value? room, valueFields? room rest with
    | some name, some value, some values => some ((name, value) :: values)
    | _, _, _ => none

end

/-- The value that a text spells. -/
def parse? (text : List Char) : Option Json :=
  match Node.parse? text with
  | some node => node.value? maxDepth
  | none => none

end Banana.Json
