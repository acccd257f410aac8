/-
This file cuts the text of a pattern into tokens. An opening brace that does not start a repetition
count, and one that follows nothing that could be repeated, stands for itself. Inside a bracketed
class a hyphen stands for itself next to a bracket, and a closing bracket does at the very start.

Only a part of the syntax is read. Named sets of characters, conditions on words, classes inside
classes and operations on them, references back to groups, conditions on what stands before a place
and flags are refused.
-/

import Banana.Pattern.Basic

namespace Banana.Pattern

/-- What an opening parenthesis starts. -/
inductive GroupKind where
  | capturing
  | plain
  | ahead (positive : Bool)
  | once
  deriving DecidableEq

/-- The pieces of a pattern's text. -/
inductive Token where
  | openGroup (kind : GroupKind)
  | closeGroup
  | bar
  | one (set : CharSet)
  | anchor (anchor : Anchor)
  | quantifier (least : Nat) (most : Option Nat) (manner : Manner)
  deriving DecidableEq

/-- Whether a token ends something that a repetition may follow. -/
def Token.endsAtom : Token → Bool
  | .closeGroup | .one _ | .anchor _ => true
  | _ => false

/-! ### Characters and classes -/

/-- Whether a character with a backslash before it stands for itself. Letters, digits and angle
brackets have meanings of their own there, most of which are not read. -/
def standsForItself (c : Char) : Bool :=
  c.toNat < 128 && !c.isAlphanum && c != '<' && c != '>'

/-- The character that a backslash and another character stand for. -/
def escapedChar? (c : Char) : Option Char :=
  match c with
  | 'n' => some '\n'
  | 'r' => some '\r'
  | 't' => some '\t'
  | 'v' => some '\x0b'
  | 'f' => some '\x0c'
  | 'a' => some '\x07'
  | 'e' => some '\x1b'
  | c => if standsForItself c then some c else none

/-- The character at the front of the inside of a class, and how many characters spell it. -/
def classChar? : List Char → Option (Char × Nat)
  | [] | '[' :: _ | ['\\'] => none
  | '\\' :: c :: _ => (escapedChar? c).map (·, 2)
  | c :: _ => some (c, 1)

/-- The range at the front of the inside of a class, and how many characters spell it. -/
def classRange? (text : List Char) : Option ((Char × Char) × Nat) :=
  match classChar? text with
  | none => none
  | some (low, used) =>
    match text.drop used with
    | '-' :: '-' :: _ => none
    | '-' :: ']' :: _ => some ((low, low), used)
    | '-' :: rest =>
      match classChar? rest with
      | some (high, more) => if low ≤ high then some ((low, high), used + 1 + more) else none
      | none => none
    | _ => some ((low, low), used)

/-- Whether a text starts with an operation on classes: what two of them share, what one has and
the other has not, or what only one of them has. -/
def startsOperation : List Char → Bool
  | '&' :: '&' :: _ | '-' :: '-' :: _ | '~' :: '~' :: _ => true
  | _ => false

/-- The range at the front of the inside of a class, unless an operation stands there. -/
def itemRange? (text : List Char) : Option ((Char × Char) × Nat) :=
  if startsOperation text then none else classRange? text

/-- The ranges of a class up to its closing bracket, and how many characters spell them with the
bracket. The first `skip` characters are already spoken for. -/
def classBody? : Nat → List Char → Option (List (Char × Char) × Nat)
  | _, [] => none
  | skip + 1, _ :: rest => (classBody? skip rest).map fun (ranges, used) => (ranges, used + 1)
  | 0, ']' :: _ => some ([], 1)
  | 0, c :: rest =>
    match itemRange? (c :: rest) with
    | some (range, length) =>
      (classBody? (length - 1) rest).map fun (ranges, used) => (range :: ranges, used + 1)
    | none => none

/-- The ranges of a class whose first characters may stand for themselves: hyphens, or a closing
bracket. -/
def classInside? : List Char → Option (List (Char × Char) × Nat)
  | '-' :: rest =>
    (classInside? rest).map fun (ranges, used) => (('-', '-') :: ranges, used + 1)
  | text => classBody? 0 text

/-- The set that a bracketed class spells, and how many characters follow its opening bracket. -/
def class? (text : List Char) : Option (CharSet × Nat) :=
  let (negated, inside) := match text with
    | '^' :: rest => (true, rest)
    | _ => (false, text)
  let skipped := if negated then 1 else 0
  match inside with
  | ']' :: rest =>
    (classBody? 0 rest).map fun (ranges, used) =>
      (⟨negated, (']', ']') :: ranges⟩, used + skipped + 1)
  | _ => (classInside? inside).map fun (ranges, used) => (⟨negated, ranges⟩, used + skipped)

/-! ### Repetition counts -/

/-- The number that digits spell, if there are any. -/
def count? (digits : List Char) : Option Nat :=
  if digits.isEmpty then none
  else some (digits.foldl (fun value c => 10 * value + (c.toNat - '0'.toNat)) 0)

/-- The bounds between braces, and how many characters follow the opening brace. Of `{m,n}` either
number may be missing, of `{m}` not. -/
def bounds? (text : List Char) : Option ((Nat × Option Nat) × Nat) :=
  let low := text.takeWhile Char.isDigit
  match text.dropWhile Char.isDigit with
  | '\x7d' :: _ => (count? low).map fun least => ((least, some least), low.length + 1)
  | ',' :: rest =>
    let high := rest.takeWhile Char.isDigit
    match rest.dropWhile Char.isDigit with
    | '\x7d' :: _ => some (((count? low).getD 0, count? high), low.length + high.length + 2)
    | _ => none
  | _ => none

/-- The bounds that the characters behind an atom give, and how many there are. -/
def quantifier? : List Char → Option ((Nat × Option Nat) × Nat)
  | '*' :: _ => some ((0, none), 1)
  | '+' :: _ => some ((1, none), 1)
  | '?' :: _ => some ((0, some 1), 1)
  | '\x7b' :: rest => (bounds? rest).map fun (bounds, used) => (bounds, used + 1)
  | _ => none

/-- How a repetition goes on, and how many characters say so. -/
def manner : List Char → Manner × Nat
  | '?' :: _ => (.reluctant, 1)
  | '+' :: _ => (.possessive, 1)
  | _ => (.greedy, 0)

/-! ### Tokens -/

/-- What a parenthesis opens, and how many characters after it say so. -/
def groupKind? : List Char → Option (GroupKind × Nat)
  | '?' :: ':' :: _ => some (.plain, 2)
  | '?' :: '=' :: _ => some (.ahead true, 2)
  | '?' :: '!' :: _ => some (.ahead false, 2)
  | '?' :: '>' :: _ => some (.once, 2)
  | '?' :: _ => none
  | _ => some (.capturing, 0)

/-- What a backslash stands for together with the character behind it. -/
def escape? : Char → Option Token
  | 'A' => some (.anchor .start)
  | 'z' => some (.anchor .finish)
  | c => (escapedChar? c).map fun meant => .one (.single meant)

/-- The token that starts with a character, and how many further characters it takes. -/
def plainToken? (c : Char) (rest : List Char) : Option (Token × Nat) :=
  match c with
  | '(' => (groupKind? rest).map fun (kind, used) => (.openGroup kind, used)
  | ')' => some (.closeGroup, 0)
  | '|' => some (.bar, 0)
  | '.' => some (.one .withoutFeed, 0)
  | '^' => some (.anchor .start, 0)
  | '$' => some (.anchor .finish, 0)
  | '[' => (class? rest).map fun (set, used) => (.one set, used)
  | '*' | '+' | '?' => none
  | '\\' =>
    match rest with
    | next :: _ => (escape? next).map (·, 1)
    | [] => none
  | c => some (.one (.single c), 0)

/-- The token at the front of a text, and how many characters it takes after its first. Only
behind an atom can it be a repetition. -/
def token? (afterAtom : Bool) (c : Char) (rest : List Char) : Option (Token × Nat) :=
  match if afterAtom then quantifier? (c :: rest) else none with
  | some ((least, most), used) =>
    let (how, more) := manner (rest.drop (used - 1))
    some (.quantifier least most how, used - 1 + more)
  | none => plainToken? c rest

/-- The tokens of a text whose first `skip` characters belong to a token that is already read. -/
def tokensFrom : Nat → Bool → List Char → Option (List Token)
  | _, _, [] => some []
  | skip + 1, afterAtom, _ :: rest => tokensFrom skip afterAtom rest
  | 0, afterAtom, c :: rest =>
    match token? afterAtom c rest with
    | some (token, used) => (tokensFrom used token.endsAtom rest).map (token :: ·)
    | none => none

/-- The tokens of a pattern's text. -/
def tokens? (text : List Char) : Option (List Token) :=
  tokensFrom 0 false text

end Banana.Pattern
