/-
This file reads the pipeline language without patterns, rules or a stack of states. The first
character at a place says what stands there, and the piece goes as far as it can. A line is either
outside of strings or inside one, and that is all that is kept from one line to the next.
-/

import Banana.Proofs.Highlight.Pieces

namespace Banana.Direct

open Grammar Highlight

/-- What a text is in the middle of. -/
inductive Mode where
  | outside
  | inString
  deriving DecidableEq

/-- What is read at the front of a text: some pieces, and what the text behind them is in. -/
structure Reading where
  pieces : List Piece
  mode : Mode

/-! ### Characters -/

def isCapital (c : Char) : Bool := 'A' ≤ c && c ≤ 'Z'

def isSmall (c : Char) : Bool := 'a' ≤ c && c ≤ 'z'

def isDigit (c : Char) : Bool := '0' ≤ c && c ≤ '9'

def isHexDigit (c : Char) : Bool :=
  isDigit c || ('A' ≤ c && c ≤ 'F') || ('a' ≤ c && c ≤ 'f')

/-- What words are made of. -/
def isWordPart (c : Char) : Bool :=
  isCapital c || isSmall c || isDigit c || c == '_' || c == '$'

/-- What dotted paths start with. -/
def isPathStart (c : Char) : Bool := isSmall c || c == '_' || c == '$'

/-- What dotted paths are made of. -/
def isPathPart (c : Char) : Bool := c == '.' || isWordPart c

def isBlank (c : Char) : Bool := c == ' ' || c == '\t' || c == '\r'

/-- What symbol runs are made of. -/
def isSymbol (c : Char) : Bool :=
  ['=', '>', '<', '!', '~', '?', ':', '&', '|', '+', '-', '*', '/', '^', '%', ','].contains c

theorem isWordPart_of_isCapital {c : Char} (capital : isCapital c = true) :
    isWordPart c = true := by
  simp [isWordPart, capital]

theorem isPathPart_of_isPathStart {c : Char} (start : isPathStart c = true) :
    isPathPart c = true := by
  simp only [isPathStart, Bool.or_eq_true] at start
  simp only [isPathPart, isWordPart, Bool.or_eq_true]
  rcases start with (isSmall | isUnderscore) | isDollar
  · exact Or.inr (Or.inl (Or.inl (Or.inl (Or.inr isSmall))))
  · exact Or.inr (Or.inl (Or.inr isUnderscore))
  · exact Or.inr (Or.inr isDollar)

/-- What stands for itself in a string. -/
def isPlain (c : Char) : Bool := c != '\\' && c != '"'

/-- The class of a bracket. -/
def bracketKind? : Char → Option TokenClass
  | '(' | ')' => some .parenthesis
  | '[' | ']' => some .array
  | '\x7b' | '\x7d' => some .brace
  | _ => none

/-! ### Numbers and symbols -/

/-- The sign at the front of a text, if there is one. -/
def sign (text : List Char) : List Char := (text.take 1).filter fun c => c == '+' || c == '-'

/-- The power of ten at the front of a text, if it is complete. -/
def exponent : List Char → List Char
  | [] => []
  | mark :: rest =>
    let digits := (rest.drop (sign rest).length).takeWhile isDigit
    if (mark = 'e' ∨ mark = 'E') ∧ digits ≠ [] then mark :: (sign rest ++ digits) else []

/-- The decimal fraction at the front of a text: digits or none, a point and at least one digit,
then a power of ten or none. -/
def fraction? (text : List Char) : Option (List Char) :=
  let whole := text.takeWhile isDigit
  match text.dropWhile isDigit with
  | '.' :: rest =>
    let digits := rest.takeWhile isDigit
    if digits = [] then none
    else some (whole ++ '.' :: digits ++ exponent (rest.dropWhile isDigit))
  | _ => none

/-- The class of a symbol run. An angle bracket is one when it stands alone. -/
def symbolKind (run : List Char) : TokenClass :=
  if run = ['<'] ∨ run = ['>'] then .angle
  else if run ∈ [['='], ['+'], ['-'], ['*'], ['/'], ['-', '>'], [',']] then .operator
  else .unclassified

/-! ### Strings and character literals -/

/-- Between two numbers of hexadecimal digits at the front of a text, as many as there are. -/
def hexDigits? (least most : Nat) (text : List Char) : Option (List Char) :=
  let digits := (text.takeWhile isHexDigit).take most
  if least ≤ digits.length then some digits else none

/-- The escape sequence of a backslash and a letter, and of the digits behind them. -/
def escapeOf? (letter : Char) (rest : List Char) : Option (List Char) :=
  if ['a', 'b', 'f', 'n', 'r', 't', 'v', '\\', '"', '\''].contains letter then
    some ['\\', letter]
  else if letter = 'x' then (hexDigits? 1 4 rest).map (['\\', 'x'] ++ ·)
  else if letter = 'u' then (hexDigits? 4 4 rest).map (['\\', 'u'] ++ ·)
  else if letter = 'U' then (hexDigits? 8 8 rest).map (['\\', 'U'] ++ ·)
  else none

/-- The escape sequence at the front of a text. -/
def escapeSequence? : List Char → Option (List Char)
  | '\\' :: letter :: rest => escapeOf? letter rest
  | _ => none

theorem escapeSequence?_of_ne {first : Char} (notBackslash : first ≠ '\\') (rest : List Char) :
    escapeSequence? (first :: rest) = none := by
  unfold escapeSequence?
  split
  · next same => exact absurd (List.cons.inj same).1 notBackslash
  · rfl

/-- Whether the inside of a string reaches the end of a line in characters that stand for
themselves and pairs of a backslash and another character. -/
def isUnclosed : List Char → Bool
  | [] => true
  | '"' :: _ => false
  | ['\\'] => false
  | '\\' :: _ :: rest => isUnclosed rest
  | _ :: rest => isUnclosed rest

theorem isUnclosed_cons {c : Char} (notQuote : c ≠ '"') (notBackslash : c ≠ '\\')
    (rest : List Char) : isUnclosed (c :: rest) = isUnclosed rest := by
  rw [isUnclosed.eq_def]
  split
  · next same => cases same
  · next same => exact absurd (List.cons.inj same).1 notQuote
  · next same => exact absurd (List.cons.inj same).1 notBackslash
  · next same => exact absurd (List.cons.inj same).1 notBackslash
  · next same => rw [(List.cons.inj same).2]

/-- Whether a text starts with a character that stands for itself and an apostrophe. -/
def isPlainLiteral : List Char → Bool
  | c :: '\'' :: _ => c != '\\' && c != '\''
  | _ => false

/-- The escape sequence at the front of a text, if an apostrophe follows it. -/
def quotedEscape? (text : List Char) : Option (List Char) :=
  (escapeSequence? text).filter fun sequence => (text.drop sequence.length).head? == some '\''

/-- A character and an apostrophe are there to be taken. -/
theorem isPlainLiteral_length {text : List Char} (isLiteral : isPlainLiteral text = true) :
    2 ≤ text.length := by
  unfold isPlainLiteral at isLiteral
  split at isLiteral
  · simp
  · cases isLiteral

/-- What an apostrophe starts: a literal of one character, one of an escape sequence, or nothing. -/
def readApostrophe (rest : List Char) : List Piece :=
  if isPlainLiteral rest then
    [(.string, '\'' :: rest.take 2)]
  else
    match quotedEscape? rest with
    | some sequence => [(.string, ['\'']), (.escape, sequence), (.string, ['\''])]
    | none => [(.invalidString, ['\''])]

/-! ### Lines -/

/-- What is read outside of strings. -/
def readOutside (names : List String) : List Char → Reading
  | [] => ⟨[], .outside⟩
  | c :: rest =>
    let text := c :: rest
    if isCapital c then
      let word := text.takeWhile isWordPart
      ⟨[(if String.ofList word ∈ names then .componentName else .capitalised, word)], .outside⟩
    else if isPathStart c then
      let path := text.takeWhile isPathPart
      ⟨[(.reference, path ++ (text.drop path.length).takeWhile isBlank)], .outside⟩
    else if let some number := fraction? text then
      ⟨[(.float, number)], .outside⟩
    else if isDigit c then
      ⟨[(.integer, text.takeWhile isDigit)], .outside⟩
    else if isBlank c then
      ⟨[(.white, text.takeWhile isBlank)], .outside⟩
    else if c = '#' then
      ⟨[(.comment, text)], .outside⟩
    else if let some kind := bracketKind? c then
      ⟨[(kind, [c])], .outside⟩
    else if isSymbol c then
      let run := text.takeWhile isSymbol
      ⟨[(symbolKind run, run)], .outside⟩
    else if c = '"' then
      if isUnclosed rest then ⟨[(.invalidString, text)], .outside⟩
      else ⟨[(.quote, [c])], .inString⟩
    else if c = '\'' then
      ⟨readApostrophe rest, .outside⟩
    else
      ⟨[(.invalid, [c])], .outside⟩

/-- What is read inside a string. -/
def readInString : List Char → Reading
  | [] => ⟨[], .inString⟩
  | c :: rest =>
    let text := c :: rest
    if isPlain c then ⟨[(.string, text.takeWhile isPlain)], .inString⟩
    else if let some sequence := escapeSequence? text then ⟨[(.escape, sequence)], .inString⟩
    else if c = '\\' ∧ rest ≠ [] then ⟨[(.unknownEscape, text.take 2)], .inString⟩
    else if c = '"' then ⟨[(.quote, [c])], .outside⟩
    else ⟨[(.invalid, [c])], .inString⟩

/-- What is read at the front of a text. -/
def read (names : List String) : Mode → List Char → Reading
  | .outside => readOutside names
  | .inString => readInString

/-- The pieces of the rest of a line, and what its end is in. -/
def readLine (names : List String) (mode : Mode) : List Char → List Piece × Mode
  | [] => ([], mode)
  | c :: rest =>
    let reading := read names mode (c :: rest)
    let (others, last) :=
      readLine names reading.mode (rest.drop ((textOf reading.pieces).length - 1))
    (reading.pieces ++ others, last)
termination_by text => text.length
decreasing_by
  simp only [List.length_cons, List.length_drop]
  omega

/-- The pieces of lines, and what their end is in. -/
def readLines (names : List String) (mode : Mode) : List (List Char) → List (List Piece) × Mode
  | [] => ([], mode)
  | line :: rest =>
    let (pieces, after) := readLine names mode line
    let (others, last) := readLines names after rest
    (pieces :: others, last)

/-- The tokens of a source, given the names of the components. -/
def tokens (names : List String) (source : String) : List Token :=
  layOutLines 1 0 (readLines names .outside (Text.lines source.toList)).1

/-! ### What is read stands at the front -/

theorem of_mem_takeWhile {test : Char → Bool} {text : List Char} {c : Char}
    (member : c ∈ text.takeWhile test) : test c = true :=
  List.all_eq_true.mp List.all_takeWhile c member

theorem sign_append_drop (text : List Char) :
    sign text ++ text.drop (sign text).length = text := by
  cases text with
  | nil => rfl
  | cons c rest =>
    cases isSign : (c == '+' || c == '-') <;> simp [sign, isSign]

theorem exponent_of_complete {mark : Char} {rest : List Char} (isMark : mark = 'e' ∨ mark = 'E')
    (digitsThere : (rest.drop (sign rest).length).takeWhile isDigit ≠ []) :
    exponent (mark :: rest) =
      mark :: (sign rest ++ (rest.drop (sign rest).length).takeWhile isDigit) :=
  if_pos ⟨isMark, digitsThere⟩

theorem exponent_of_incomplete {mark : Char} {rest : List Char}
    (incomplete : ¬ ((mark = 'e' ∨ mark = 'E') ∧
      (rest.drop (sign rest).length).takeWhile isDigit ≠ [])) :
    exponent (mark :: rest) = [] :=
  if_neg incomplete

theorem exponent_isPrefix (text : List Char) : exponent text <+: text := by
  cases text with
  | nil => exact List.prefix_refl _
  | cons mark rest =>
    dsimp only [exponent]
    split
    · refine (List.prefix_cons_inj mark).mpr ?_
      obtain ⟨behind, split⟩ :=
        List.takeWhile_prefix isDigit (l := rest.drop (sign rest).length)
      exact ⟨behind, by rw [List.append_assoc, split, sign_append_drop]⟩
    · exact List.nil_prefix

theorem fraction?_isPrefix {text number : List Char} (isNumber : fraction? text = some number) :
    number <+: text := by
  dsimp only [fraction?] at isNumber
  split at isNumber
  · next rest behindWhole =>
    split at isNumber
    · cases isNumber
    · cases isNumber
      obtain ⟨behind, split⟩ := exponent_isPrefix (rest.dropWhile isDigit)
      refine ⟨behind, ?_⟩
      calc text.takeWhile isDigit ++ '.' :: rest.takeWhile isDigit ++
            exponent (rest.dropWhile isDigit) ++ behind
          = text.takeWhile isDigit ++ '.' :: (rest.takeWhile isDigit ++
              (exponent (rest.dropWhile isDigit) ++ behind)) := by simp
        _ = text.takeWhile isDigit ++ '.' :: rest := by
            rw [split, List.takeWhile_append_dropWhile]
        _ = text := by rw [← behindWhole, List.takeWhile_append_dropWhile]
  · cases isNumber

theorem fraction?_ne_nil {text number : List Char} (isNumber : fraction? text = some number) :
    number ≠ [] := by
  dsimp only [fraction?] at isNumber
  split at isNumber
  · split at isNumber
    · cases isNumber
    · cases isNumber
      simp
  · cases isNumber

theorem hexDigits?_isPrefix {least most : Nat} {text digits : List Char}
    (areDigits : hexDigits? least most text = some digits) : digits <+: text := by
  dsimp only [hexDigits?] at areDigits
  split at areDigits
  · cases areDigits
    exact (List.take_prefix _ _).trans (List.takeWhile_prefix _)
  · cases areDigits

theorem isHexDigit_of_mem_hexDigits? {least most : Nat} {text digits : List Char}
    (areDigits : hexDigits? least most text = some digits) :
    ∀ c ∈ digits, isHexDigit c = true := by
  dsimp only [hexDigits?] at areDigits
  split at areDigits
  · cases areDigits
    exact fun c member => of_mem_takeWhile (List.mem_of_mem_take member)
  · cases areDigits

/-- Each kind of escape sequence is a backslash, a letter and digits that follow. -/
theorem escapeOf?_split {letter : Char} {rest sequence : List Char}
    (isEscape : escapeOf? letter rest = some sequence) :
    ∃ digits, digits <+: rest ∧ (∀ c ∈ digits, isHexDigit c = true) ∧
      sequence = '\\' :: letter :: digits := by
  have lettered {c : Char} {least most : Nat}
      (matched : (hexDigits? least most rest).map (['\\', c] ++ ·) = some sequence) :
      ∃ digits, digits <+: rest ∧ (∀ c ∈ digits, isHexDigit c = true) ∧
        sequence = '\\' :: c :: digits := by
    obtain ⟨digits, areDigits, rfl⟩ := Option.map_eq_some_iff.mp matched
    exact ⟨digits, hexDigits?_isPrefix areDigits, isHexDigit_of_mem_hexDigits? areDigits, rfl⟩
  unfold escapeOf? at isEscape
  split at isEscape
  · cases isEscape
    exact ⟨[], List.nil_prefix, fun _ member => absurd member List.not_mem_nil, rfl⟩
  · split at isEscape
    · next isX => exact isX ▸ lettered isEscape
    · split at isEscape
      · next isU => exact isU ▸ lettered isEscape
      · split at isEscape
        · next isLong => exact isLong ▸ lettered isEscape
        · cases isEscape

theorem escapeSequence?_isPrefix {text sequence : List Char}
    (isEscape : escapeSequence? text = some sequence) : sequence <+: text := by
  unfold escapeSequence? at isEscape
  split at isEscape
  · next letter rest =>
    obtain ⟨digits, front, -, rfl⟩ := escapeOf?_split isEscape
    exact List.prefix_append_right_inj ['\\', letter] |>.mpr front
  · cases isEscape

theorem escapeSequence?_ne_nil {text sequence : List Char}
    (isEscape : escapeSequence? text = some sequence) : sequence ≠ [] := by
  unfold escapeSequence? at isEscape
  split at isEscape
  · obtain ⟨digits, -, -, rfl⟩ := escapeOf?_split isEscape
    exact List.cons_ne_nil _ _
  · cases isEscape

/-- An escape sequence in a literal stands between the apostrophes. -/
theorem quotedEscape?_split {text sequence : List Char}
    (isQuoted : quotedEscape? text = some sequence) :
    ∃ behind, text = sequence ++ '\'' :: behind := by
  obtain ⟨isEscape, followed⟩ := Option.filter_eq_some_iff.mp isQuoted
  obtain ⟨behind, rfl⟩ := escapeSequence?_isPrefix isEscape
  rw [List.drop_left, beq_iff_eq] at followed
  obtain ⟨rest, rfl⟩ := List.head?_eq_some_iff.mp followed
  exact ⟨rest, rfl⟩

end Banana.Direct
