/-
This file cuts the text of a JSON document into tokens: the punctuation marks, the three words,
number literals and strings. A string token keeps what was spelled, escape by escape, because
where a document is skipped over a string may hold halves of characters that no text can hold.
-/

import Banana.Json.Number

namespace Banana.Json

/-- What one position of a string spells: a character, or one of the 16-bit halves that a `\u`
escape may name. -/
inductive Unit16 where
  | char (c : Char)
  | surrogate (half : Nat)
  deriving DecidableEq

/-- The pieces of a JSON document. -/
inductive Token where
  | openObject
  | closeObject
  | openArray
  | closeArray
  | colon
  | comma
  | null
  | bool (value : Bool)
  | number (literal : Literal)
  | string (units : List Unit16)
  deriving DecidableEq

/-- The blanks that may stand between two tokens. -/
def isSpace (c : Char) : Bool :=
  c == ' ' || c == '\n' || c == '\t' || c == '\r'

/-- The value of a hexadecimal digit. -/
def hexDigit? (c : Char) : Option Nat :=
  if '0' ≤ c ∧ c ≤ '9' then some (c.toNat - '0'.toNat)
  else if 'a' ≤ c ∧ c ≤ 'f' then some (c.toNat - 'a'.toNat + 10)
  else if 'A' ≤ c ∧ c ≤ 'F' then some (c.toNat - 'A'.toNat + 10)
  else none

/-- The 16-bit unit that four hexadecimal digits name. -/
def unitOfHex? (first second third fourth : Char) : Option Unit16 :=
  match hexDigit? first, hexDigit? second, hexDigit? third, hexDigit? fourth with
  | some a, some b, some c, some d =>
    let unit := ((a * 16 + b) * 16 + c) * 16 + d
    some (if 0xD800 ≤ unit && unit ≤ 0xDFFF then .surrogate unit else .char (Char.ofNat unit))
  | _, _, _, _ => none

/-- The character that a one-letter escape names. -/
def escaped? : Char → Option Char
  | '"' => some '"'
  | '\\' => some '\\'
  | '/' => some '/'
  | 'b' => some '\x08'
  | 'f' => some '\x0c'
  | 'n' => some '\n'
  | 'r' => some '\r'
  | 't' => some '\t'
  | _ => none

/-- Reads a string after its opening quote: what it spells, and the text after its closing quote.
Control characters must be escaped. -/
def readString : List Char → Option (List Unit16 × List Char)
  | [] => none
  | '"' :: rest => some ([], rest)
  | '\\' :: 'u' :: a :: b :: c :: d :: rest =>
    match unitOfHex? a b c d with
    | some unit => (readString rest).map fun (units, after) => (unit :: units, after)
    | none => none
  | '\\' :: c :: rest =>
    match escaped? c with
    | some meant => (readString rest).map fun (units, after) => (.char meant :: units, after)
    | none => none
  | c :: rest =>
    if c.toNat < 0x20 || c == '\\' then
      none
    else
      (readString rest).map fun (units, after) => (.char c :: units, after)

/-- The decimal digits at the front of a text, and what follows them. -/
def spanDigits (text : List Char) : List Char × List Char :=
  (text.takeWhile Char.isDigit, text.dropWhile Char.isDigit)

/-- Reads the digits that must follow here. -/
def readDigits (text : List Char) : Option (List Char × List Char) :=
  match spanDigits text with
  | ([], _) => none
  | found => some found

/-- Reads the whole part of a number; a zero stands alone. -/
def readWhole : List Char → Option (List Char × List Char)
  | '0' :: rest => some (['0'], rest)
  | text => readDigits text

/-- Reads the fraction of a number, if it has one. -/
def readFraction : List Char → Option (Option (List Char) × List Char)
  | '.' :: rest => (readDigits rest).map fun (digits, after) => (some digits, after)
  | text => some (none, text)

/-- Reads the digits of an exponent after its letter and its sign. -/
def readPower (down : Bool) (text : List Char) :
    Option (Option (Bool × List Char) × List Char) :=
  (readDigits text).map fun (digits, after) => (some (down, digits), after)

/-- Reads the exponent of a number, if it has one. -/
def readExponent : List Char → Option (Option (Bool × List Char) × List Char)
  | 'e' :: rest | 'E' :: rest =>
    match rest with
    | '+' :: digits => readPower false digits
    | '-' :: digits => readPower true digits
    | digits => readPower false digits
  | text => some (none, text)

/-- Reads a number after its sign. -/
def readLiteral (negative : Bool) (text : List Char) : Option (Literal × List Char) := do
  let (whole, afterWhole) ← readWhole text
  let (fraction, afterFraction) ← readFraction afterWhole
  let (exponent, after) ← readExponent afterFraction
  pure (⟨negative, whole, fraction, exponent⟩, after)

/-- Reads the token at the front of a text that does not begin with a blank. -/
def readToken : List Char → Option (Token × List Char)
  | '\x7b' :: rest => some (.openObject, rest)
  | '\x7d' :: rest => some (.closeObject, rest)
  | '[' :: rest => some (.openArray, rest)
  | ']' :: rest => some (.closeArray, rest)
  | ':' :: rest => some (.colon, rest)
  | ',' :: rest => some (.comma, rest)
  | 'n' :: 'u' :: 'l' :: 'l' :: rest => some (.null, rest)
  | 't' :: 'r' :: 'u' :: 'e' :: rest => some (.bool true, rest)
  | 'f' :: 'a' :: 'l' :: 's' :: 'e' :: rest => some (.bool false, rest)
  | '"' :: rest => (readString rest).map fun (units, after) => (.string units, after)
  | '-' :: rest => (readLiteral true rest).map fun (literal, after) => (.number literal, after)
  | text => (readLiteral false text).map fun (literal, after) => (.number literal, after)

/-! ### A token uses up some of the text -/

theorem length_readString {text : List Char} {units : List Unit16} {after : List Char}
    (read : readString text = some (units, after)) : after.length < text.length := by
  induction text using readString.induct generalizing units after with
  | case1 => simp [readString] at read
  | case2 rest =>
    simp only [readString, Option.some.injEq, Prod.mk.injEq] at read
    simp [← read.2]
  | case3 a b c d rest unit named inductionHypothesis =>
    simp only [readString, named, Option.map_eq_some_iff, Prod.mk.injEq, Prod.exists] at read
    obtain ⟨_, _, found, _, rfl⟩ := read
    have := inductionHypothesis found
    simp only [List.length_cons]
    omega
  | case4 a b c d rest unnamed => simp [readString, unnamed] at read
  | case5 c rest notHex meant named inductionHypothesis =>
    rw [readString.eq_4 _ _ notHex] at read
    simp only [named, Option.map_eq_some_iff, Prod.mk.injEq, Prod.exists] at read
    obtain ⟨_, _, found, _, rfl⟩ := read
    have := inductionHypothesis found
    simp only [List.length_cons]
    omega
  | case6 c rest notHex unnamed =>
    rw [readString.eq_4 _ _ notHex] at read
    simp [unnamed] at read
  | case7 c rest notQuote notHex notEscape forbidden =>
    rw [readString.eq_5 _ _ notQuote notHex notEscape] at read
    simp [forbidden] at read
  | case8 c rest notQuote notHex notEscape allowed inductionHypothesis =>
    rw [readString.eq_5 _ _ notQuote notHex notEscape, if_neg allowed] at read
    simp only [Option.map_eq_some_iff, Prod.mk.injEq, Prod.exists] at read
    obtain ⟨_, _, found, _, rfl⟩ := read
    have := inductionHypothesis found
    simp only [List.length_cons]
    omega

theorem length_spanDigits (text : List Char) :
    (spanDigits text).1.length + (spanDigits text).2.length = text.length := by
  rw [spanDigits, ← List.length_append, List.takeWhile_append_dropWhile]

theorem length_readDigits {text digits after : List Char}
    (read : readDigits text = some (digits, after)) : after.length < text.length := by
  have total := length_spanDigits text
  rw [readDigits] at read
  split at read
  · simp at read
  next found notEmpty =>
    simp only [Option.some.injEq] at read
    rw [read] at total notEmpty
    cases digits with
    | nil => exact absurd rfl (notEmpty after)
    | cons c rest =>
      simp only [List.length_cons] at total
      omega

theorem length_readWhole {text digits after : List Char}
    (read : readWhole text = some (digits, after)) : after.length < text.length := by
  rw [readWhole.eq_def] at read
  split at read
  · simp only [Option.some.injEq, Prod.mk.injEq] at read
    simp [← read.2]
  · exact length_readDigits read

theorem length_readFraction {text after : List Char} {fraction : Option (List Char)}
    (read : readFraction text = some (fraction, after)) : after.length ≤ text.length := by
  rw [readFraction.eq_def] at read
  split at read
  · simp only [Option.map_eq_some_iff, Prod.mk.injEq, Prod.exists] at read
    obtain ⟨_, _, found, _, rfl⟩ := read
    have := length_readDigits found
    simp only [List.length_cons]
    omega
  · simp only [Option.some.injEq, Prod.mk.injEq] at read
    simp [read.2]

theorem length_readPower {down : Bool} {text after : List Char}
    {exponent : Option (Bool × List Char)}
    (read : readPower down text = some (exponent, after)) : after.length < text.length := by
  simp only [readPower, Option.map_eq_some_iff, Prod.mk.injEq, Prod.exists] at read
  obtain ⟨_, _, found, _, rfl⟩ := read
  exact length_readDigits found

theorem length_readExponent {text after : List Char} {exponent : Option (Bool × List Char)}
    (read : readExponent text = some (exponent, after)) : after.length ≤ text.length := by
  rw [readExponent.eq_def] at read
  split at read
  all_goals first
    | (simp only [Option.some.injEq, Prod.mk.injEq] at read
       simp [read.2])
    | (split at read <;>
        (have shorter := length_readPower read
         simp only [List.length_cons] at *
         omega))

theorem length_readLiteral {negative : Bool} {text after : List Char} {literal : Literal}
    (read : readLiteral negative text = some (literal, after)) : after.length < text.length := by
  simp only [readLiteral, bind, Option.bind_eq_some_iff, Prod.exists, pure, Option.some.injEq,
    Prod.mk.injEq] at read
  obtain ⟨_, _, whole, _, _, fraction, _, _, exponent, _, rfl⟩ := read
  have := length_readWhole whole
  have := length_readFraction fraction
  have := length_readExponent exponent
  omega

theorem length_readToken {text after : List Char} {token : Token}
    (read : readToken text = some (token, after)) : after.length < text.length := by
  rw [readToken.eq_def] at read
  split at read
  all_goals first
    | (simp only [Option.some.injEq, Prod.mk.injEq] at read
       simp only [← read.2, List.length_cons]
       omega)
    | (simp only [Option.map_eq_some_iff, Prod.mk.injEq, Prod.exists] at read
       obtain ⟨_, _, found, _, rfl⟩ := read
       first
         | (have shorter := length_readString found
            simp only [List.length_cons]
            omega)
         | (have shorter := length_readLiteral found
            simp only [List.length_cons]
            omega)
         | exact length_readLiteral found)

/-! ### All tokens of a document -/

/-- The tokens of a text; `none` when some part of it is no token. -/
def tokens (text : List Char) : Option (List Token) :=
  match text with
  | [] => some []
  | c :: rest =>
    if isSpace c then
      tokens rest
    else
      match _ : readToken (c :: rest) with
      | some (token, after) => (tokens after).map (token :: ·)
      | none => none
termination_by text.length
decreasing_by
  · simp
  · exact length_readToken ‹_›

end Banana.Json
