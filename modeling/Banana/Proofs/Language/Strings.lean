/-
This file says what the patterns of strings, escape sequences and character literals find. An escape
sequence with hexadecimal digits could also be read with fewer of them, but then a digit follows it
and no apostrophe. A string without an end is read in one way only, so that it is found exactly when
that way comes to the end of the line.
-/

import Banana.Proofs.Language.Symbols

namespace Banana.Grammar.Language

open Pattern Highlight Direct

/-! ### Escape sequences -/

/-- Whether the first of some ways goes past a given text, where there is one, and every other way
stops before a hexadecimal digit. -/
def Settles (cursors : List Cursor) (cursor : Cursor) : Option (List Char) → Prop
  | none => cursors = []
  | some text => ∃ others, cursors = cursor.skip text.length :: others ∧
      ∀ other ∈ others, ∃ c rest, other.rest = c :: rest ∧ isHexDigit c = true

theorem contains_escapeLetter (c : Char) : escapeLetter.contains c =
    ['a', 'b', 'f', 'n', 'r', 't', 'v', '\\', '"', '\''].contains c := by
  rw [Bool.eq_iff_iff]
  simp [CharSet.contains, escapeLetter, between_self]

/-- Hexadecimal digits, as many as there are between two bounds. -/
theorem settles_between {least most : Nat} (ordered : least ≤ most) (cursor : Cursor) :
    Settles ((between hexDigit least most).ways cursor) cursor
      (hexDigits? least most cursor.rest) := by
  have length : ((cursor.rest.takeWhile isHexDigit).take most).length =
      min most (run hexDigit cursor.rest) := by
    rw [List.length_take, run_eq contains_hexDigit]
  dsimp only [hexDigits?]
  rcases ways_bounded hexDigit ordered cursor with ⟨tooFew, noWay⟩ | ⟨enough, longest⟩
  · rw [if_neg (by omega)]
    exact noWay
  · rw [if_pos (by omega)]
    obtain ⟨others, ways, shorter⟩ := longest
    refine ⟨others, by rw [length]; exact ways, fun other member => ?_⟩
    obtain ⟨fewer, isFewer, rfl⟩ := shorter other member
    have inside : fewer < run hexDigit cursor.rest := by omega
    obtain ⟨c, rest, standsThere, isIn⟩ := drop_eq_cons_of_lt_run inside
    rw [contains_hexDigit] at isIn
    exact ⟨c, rest, by rw [Cursor.rest_skip, standsThere], isIn⟩

/-- A letter that something else should start with has no way. -/
theorem ways_char_sequence_of_ne {letter c : Char} (different : c ≠ letter) (second : Pattern)
    {cursor : Cursor} {rest : List Char} (front : cursor.rest = c :: rest) :
    (Pattern.sequence (.char letter) second).ways cursor = [] := by
  rw [ways, ways_char, front, List.head?_cons, if_neg fun same => different (Option.some.inj same)]
  rfl

/-- A letter and then something else. -/
theorem ways_char_sequence {letter : Char} (second : Pattern) {cursor : Cursor}
    {rest : List Char} (front : cursor.rest = letter :: rest) :
    (Pattern.sequence (.char letter) second).ways cursor = second.ways (cursor.skip 1) := by
  rw [ways, ways_char, front, List.head?_cons, if_pos rfl, List.flatMap_singleton]

/-- What settles behind some text does so with the text before it. -/
theorem Settles.map_append {cursors : List Cursor} {cursor : Cursor} (before : List Char)
    {text? : Option (List Char)} (settles : Settles cursors (cursor.skip before.length) text?) :
    Settles cursors cursor (text?.map (before ++ ·)) := by
  cases text? with
  | none => exact settles
  | some text =>
    obtain ⟨others, ways, stuck⟩ := settles
    refine ⟨others, ?_, stuck⟩
    rw [ways, Cursor.skip_skip, List.length_append]

/-- An escape sequence behind its backslash. At most one of the four alternatives has a way, because
their letters are different. -/
theorem settles_escape_backslash {cursor : Cursor} {c : Char} {rest : List Char}
    (front : cursor.rest = '\\' :: c :: rest) :
    Settles (escape.ways cursor) cursor (escapeSequence? ('\\' :: c :: rest)) := by
  have behind : (cursor.skip 1).rest = c :: rest := Cursor.rest_skip_one front
  have behindLetter : (cursor.skip 2).rest = rest := by
    rw [Cursor.rest_skip, front]
    rfl
  have lettered (letter : Char) {least most : Nat} (ordered : least ≤ most)
      (isLetter : c = letter) : Settles
        ((Pattern.sequence (.char letter) (between hexDigit least most)).ways (cursor.skip 1))
        cursor ((hexDigits? least most rest).map (['\\', letter] ++ ·)) := by
    subst isLetter
    have settles := settles_between ordered ((cursor.skip 1).skip 1)
    rw [Cursor.skip_skip, behindLetter] at settles
    rw [ways_char_sequence _ behind, Cursor.skip_skip]
    exact Settles.map_append ['\\', c] settles
  have noLetter (letter : Char) (second : Pattern) (different : c ≠ letter) :
      (Pattern.sequence (.char letter) second).ways (cursor.skip 1) = [] :=
    ways_char_sequence_of_ne different second behind
  have parts : escape.ways cursor = (Pattern.one escapeLetter).ways (cursor.skip 1) ++
      ((Pattern.sequence (.char 'x') (between hexDigit 1 4)).ways (cursor.skip 1) ++
        ((Pattern.sequence (.char 'u') (between hexDigit 4 4)).ways (cursor.skip 1) ++
          (Pattern.sequence (.char 'U') (between hexDigit 8 8)).ways (cursor.skip 1))) := by
    rw [escape, ways_char_sequence _ front]
    rfl
  rw [parts, escapeSequence?, escapeOf?, ← contains_escapeLetter]
  cases isShort : escapeLetter.contains c with
  | true =>
    rw [ways_one_of_mem behind isShort, noLetter 'x', noLetter 'u', noLetter 'U']
    · exact ⟨[], by rw [Cursor.skip_skip]; rfl, fun _ member => absurd member List.not_mem_nil⟩
    all_goals
      rintro rfl
      exact absurd isShort (by decide)
  | false =>
    rw [ways_one_of_not_mem behind isShort, List.nil_append, if_neg (by decide)]
    by_cases isX : c = 'x'
    · rw [if_pos isX, noLetter 'u' _ (by rw [isX]; decide), noLetter 'U' _ (by rw [isX]; decide),
        List.append_nil, List.append_nil]
      exact lettered 'x' (by decide) isX
    · rw [if_neg isX, noLetter 'x' _ isX, List.nil_append]
      by_cases isU : c = 'u'
      · rw [if_pos isU, noLetter 'U' _ (by rw [isU]; decide), List.append_nil]
        exact lettered 'u' (by decide) isU
      · rw [if_neg isU, noLetter 'u' _ isU, List.nil_append]
        by_cases isLong : c = 'U'
        · rw [if_pos isLong]
          exact lettered 'U' (by decide) isLong
        · rw [if_neg isLong]
          exact noLetter 'U' _ isLong

/-- The pattern of escape sequences finds the escape sequence at its place. -/
theorem settles_escape (cursor : Cursor) :
    Settles (escape.ways cursor) cursor (escapeSequence? cursor.rest) := by
  cases front : cursor.rest with
  | nil =>
    show ((Pattern.one (.single '\\')).ways cursor).flatMap _ = []
    rw [ways_one_of_nil front]
    rfl
  | cons first rest =>
    by_cases isBackslash : first = '\\'
    · subst isBackslash
      cases rest with
      | cons c rest => exact settles_escape_backslash front
      | nil =>
        have atEnd : (cursor.skip 1).rest = [] := Cursor.rest_skip_one front
        show escape.ways cursor = []
        rw [escape, ways_char_sequence _ front]
        simp only [ways, Pattern.char, atEnd, List.flatMap_nil, List.append_nil]
    · rw [escapeSequence?_of_ne isBackslash]
      exact ways_char_sequence_of_ne isBackslash _ front

theorem find?_escape (text : List Char) :
    (tied escape).find? text =
      (escapeSequence? text).map fun sequence => ⟨0, sequence.length, []⟩ := by
  have settles := settles_escape (.front text)
  rw [front_rest] at settles
  cases isEscape : escapeSequence? text with
  | none =>
    rw [isEscape] at settles
    exact find?_tied_of_no_way settles
  | some sequence =>
    rw [isEscape] at settles
    obtain ⟨others, ways, -⟩ := settles
    refine find?_tied_of_head? (escapeSequence?_isPrefix isEscape).length_le ?_
    rw [ways]
    rfl

/-- A backslash before another character, which need not be an escape sequence. -/
theorem find?_unknownEscape {c : Char} {rest : List Char} (oneLine : '\n' ∉ c :: rest) :
    (tied unknownEscape).find? (c :: rest) =
      if c = '\\' ∧ rest ≠ [] then some ⟨0, 2, []⟩ else none := by
  by_cases isBackslash : c = '\\'
  · subst isBackslash
    have ways := ways_char_sequence (.one .withoutFeed) (front_rest ('\\' :: rest))
    have behind : ((Cursor.front ('\\' :: rest)).skip 1).rest = rest := rfl
    cases rest with
    | nil =>
      rw [ways_one_of_nil behind] at ways
      rw [if_neg (by simp)]
      exact find?_tied_of_no_way ways
    | cons next rest =>
      have isIn : CharSet.withoutFeed.contains next = true :=
        contains_withoutFeed fun isFeed => oneLine (by simp [isFeed])
      rw [ways_one_of_mem behind isIn] at ways
      rw [if_pos ⟨rfl, by simp⟩]
      refine find?_tied_of_head? (by simp) ?_
      rw [unknownEscape, ways, Cursor.skip_skip]
      rfl
  · rw [if_neg fun both => isBackslash both.1]
    exact find?_tied_of_no_way (ways_char_sequence_of_ne isBackslash _ (front_rest _))

/-! ### Character literals -/

/-- The parts of a pattern can be grouped from either side. -/
theorem ways_sequence_sequence (first second third : Pattern) (cursor : Cursor) :
    (Pattern.sequence (.sequence first second) third).ways cursor =
      (Pattern.sequence first (.sequence second third)).ways cursor :=
  List.flatMap_assoc

theorem isPlainLiteral_cons (c : Char) (rest : List Char) :
    isPlainLiteral (c :: rest) = (c != '\\' && c != '\'' && rest.head? == some '\'') := by
  cases rest with
  | nil => simp [isPlainLiteral]
  | cons next rest =>
    unfold isPlainLiteral
    split
    · next same =>
      obtain ⟨rfl, behind⟩ := List.cons.inj same
      simp [(List.cons.inj behind).1]
    · next other =>
      have notApostrophe : next ≠ '\'' := by
        rintro rfl
        exact other c rest rfl
      simp [notApostrophe]

/-- A character that stands for itself in a literal, and the apostrophe behind it. -/
theorem ways_plainInLiteral (cursor : Cursor) :
    (Pattern.sequence (.one plainInLiteral) (.char '\'')).ways cursor =
      if isPlainLiteral cursor.rest then [cursor.skip 2] else [] := by
  have isIn (c : Char) : plainInLiteral.contains c = (c != '\\' && c != '\'') := by
    simp [CharSet.contains, plainInLiteral, between_self, bne]
  rw [ways]
  cases front : cursor.rest with
  | nil =>
    rw [ways_one_of_nil front]
    rfl
  | cons c rest =>
    have behind : (cursor.skip 1).rest = rest := Cursor.rest_skip_one front
    rw [isPlainLiteral_cons, ← isIn]
    cases isPlain : plainInLiteral.contains c with
    | false =>
      rw [ways_one_of_not_mem front isPlain]
      rfl
    | true =>
      rw [ways_one_of_mem front isPlain, List.flatMap_singleton, ways_char, behind,
        Cursor.skip_skip]
      simp only [Bool.true_and, beq_iff_eq]

theorem find?_plainLiteral (c : Char) (rest : List Char) :
    (tied plainLiteral).find? (c :: rest) =
      if c = '\'' ∧ isPlainLiteral rest then some ⟨0, 3, []⟩ else none := by
  have parts : plainLiteral.ways (.front (c :: rest)) = (Pattern.sequence (.char '\'')
      (.sequence (.one plainInLiteral) (.char '\''))).ways (.front (c :: rest)) :=
    ways_sequence_sequence _ _ _ _
  by_cases isApostrophe : c = '\''
  · subst isApostrophe
    rw [ways_char_sequence _ (front_rest _), ways_plainInLiteral, Cursor.skip_skip] at parts
    change _ = if isPlainLiteral rest then _ else _ at parts
    cases isLiteral : isPlainLiteral rest with
    | false =>
      rw [isLiteral] at parts
      exact find?_tied_of_no_way parts
    | true =>
      rw [isLiteral] at parts
      refine find?_tied_of_head? (Nat.succ_le_succ (isPlainLiteral_length isLiteral)) ?_
      rw [parts]
      rfl
  · rw [if_neg fun both => isApostrophe both.1]
    exact find?_tied_of_no_way
      (parts.trans (ways_char_sequence_of_ne isApostrophe _ (front_rest _)))

/-- An apostrophe that a group remembers. -/
theorem ways_capture_apostrophe (index : Nat) (cursor : Cursor) :
    (Pattern.capture index (.char '\'')).ways cursor =
      if cursor.rest.head? = some '\'' then [(cursor.skip 1).remember index cursor.position]
      else [] := by
  show ((Pattern.char '\'').ways cursor).map (·.remember index cursor.position) = _
  rw [ways_char]
  split <;> rfl

/-- The end of a literal whose escape sequence has some length and starts at a place. -/
def literalEnd (cursor : Cursor) (length : Nat) : Cursor :=
  let closing := (cursor.skip length).remember 2 cursor.position
  (closing.skip 1).remember 3 closing.position

section LiteralEnd

variable {cursor : Cursor} {length : Nat} (within : length + 1 ≤ cursor.rest.length)

include within

theorem position_literalEnd :
    (literalEnd cursor length).position = cursor.position + length + 1 := by
  have behind : 1 ≤ ((cursor.skip length).remember 2 cursor.position).rest.length := by
    rw [Cursor.rest_remember, Cursor.rest_skip, List.length_drop]
    omega
  show (((cursor.skip length).remember 2 cursor.position).skip 1).position = _
  rw [Cursor.position_skip _ behind, Cursor.position_remember,
    Cursor.position_skip _ (by omega)]

theorem groups_literalEnd :
    (literalEnd cursor length).groups =
      (3, cursor.position + length, cursor.position + length + 1) ::
        (2, cursor.position, cursor.position + length) :: cursor.groups := by
  have last := position_literalEnd within
  have middle : (cursor.skip length).position = cursor.position + length :=
    Cursor.position_skip _ (by omega)
  show (3, (cursor.skip length).position, (literalEnd cursor length).position) ::
    (((cursor.skip length).remember 2 cursor.position).skip 1).groups = _
  rw [last, Cursor.groups_skip, Cursor.groups_remember, middle, Cursor.groups_skip]

end LiteralEnd

/-- What stands behind an escape sequence with fewer digits is a digit, so only the longest one can
have an apostrophe behind it. -/
theorem ways_quotedEscape (cursor : Cursor) :
    (Pattern.sequence (.capture 2 escape) (.capture 3 (.char '\''))).ways cursor =
      ((quotedEscape? cursor.rest).map fun sequence =>
        literalEnd cursor sequence.length).toList := by
  have parts : (Pattern.sequence (.capture 2 escape) (.capture 3 (.char '\''))).ways cursor =
      (escape.ways cursor).flatMap fun next =>
        (Pattern.capture 3 (.char '\'')).ways (next.remember 2 cursor.position) :=
    List.flatMap_map ..
  simp only [ways_capture_apostrophe] at parts
  have settles := settles_escape cursor
  rw [parts, quotedEscape?]
  cases isEscape : escapeSequence? cursor.rest with
  | none =>
    rw [isEscape] at settles
    rw [show escape.ways cursor = [] from settles]
    rfl
  | some sequence =>
    rw [isEscape] at settles
    obtain ⟨others, ways, beforeDigit⟩ := settles
    rw [ways, List.flatMap_cons, List.flatMap_eq_nil_iff.mpr, List.append_nil]
    · cases followed : (cursor.rest.drop sequence.length).head? == some '\'' with
      | true =>
        rw [if_pos (by simpa using followed), Option.filter_some, if_pos followed]
        rfl
      | false =>
        rw [if_neg (by simpa using followed), Option.filter_some, followed]
        rfl
    · intro other member
      obtain ⟨c, rest, standsThere, isDigit⟩ := beforeDigit other member
      rw [if_neg]
      intro isApostrophe
      rw [Cursor.rest_remember, standsThere] at isApostrophe
      obtain rfl := Option.some.inj isApostrophe
      exact absurd isDigit (by decide)

/-- Where a literal with an escape sequence of some length matches, and where its parts do. -/
def literalMatch (length : Nat) : Match :=
  ⟨0, length + 2, [(3, length + 1, length + 2), (2, 1, length + 1), (1, 0, 1)]⟩

theorem find?_escapedLiteral (c : Char) (rest : List Char) :
    (tied escapedLiteral).find? (c :: rest) =
      if c = '\'' then (quotedEscape? rest).map fun sequence => literalMatch sequence.length
      else none := by
  have parts : escapedLiteral.ways (.front (c :: rest)) =
      ((Pattern.capture 1 (.char '\'')).ways (.front (c :: rest))).flatMap
        (Pattern.sequence (.capture 2 escape) (.capture 3 (.char '\''))).ways :=
    ways_sequence_sequence _ _ _ _
  rw [ways_capture_apostrophe, front_rest] at parts
  rw [tied, find?_start, parts]
  by_cases isApostrophe : c = '\''
  · subst isApostrophe
    let opened := ((Cursor.front ('\'' :: rest)).skip 1).remember 1 0
    rw [if_pos (by simp), if_pos rfl, List.flatMap_singleton, ways_quotedEscape]
    show ((((quotedEscape? rest).map fun sequence =>
      literalEnd opened sequence.length).toList.head?).map _) = _
    cases isQuoted : quotedEscape? rest with
    | none => rfl
    | some sequence =>
      obtain ⟨behind, split⟩ := quotedEscape?_split isQuoted
      have within : sequence.length + 1 ≤ opened.rest.length := by
        show sequence.length + 1 ≤ rest.length
        rw [split, List.length_append, List.length_cons]
        omega
      show some (Match.mk 0 (literalEnd opened sequence.length).position
        (literalEnd opened sequence.length).groups) = some (literalMatch sequence.length)
      rw [position_literalEnd within, groups_literalEnd within]
      show some (Match.mk 0 (1 + sequence.length + 1) [(3, 1 + sequence.length,
        1 + sequence.length + 1), (2, 1, 1 + sequence.length), (1, 0, 1)]) = _
      rw [Nat.add_comm 1 sequence.length]
      rfl
  · rw [if_neg (by simp [isApostrophe]), if_neg isApostrophe]
    rfl

/-! ### Strings without an end -/

/-- What may stand in a string before its end. -/
def inside : Pattern :=
  .either (.one plainInOpenString) (.sequence (.char '\\') (.one .withoutFeed))

/-- Whether a place is the end of its text. -/
def atEnd (cursor : Cursor) : Bool := cursor.rest.isEmpty

/-- The one way to go on in a string. -/
theorem ways_inside {cursor : Cursor} {c : Char} {rest : List Char}
    (front : cursor.rest = c :: rest) (oneLine : '\n' ∉ c :: rest) :
    inside.ways cursor =
      if c = '"' then [] else if c ≠ '\\' then [cursor.skip 1]
      else if rest = [] then [] else [cursor.skip 2] := by
  have isPlain : plainInOpenString.contains c = (c != '"' && c != '\\') := by
    simp [CharSet.contains, plainInOpenString, between_self, bne]
  show (Pattern.one plainInOpenString).ways cursor ++
    (Pattern.sequence (.char '\\') (.one .withoutFeed)).ways cursor = _
  by_cases isBackslash : c = '\\'
  · subst isBackslash
    have behind : (cursor.skip 1).rest = rest := Cursor.rest_skip_one front
    rw [ways_one_of_not_mem front isPlain, ways_char_sequence _ front, List.nil_append,
      if_neg (by decide), if_neg (by decide)]
    cases rest with
    | nil => exact ways_one_of_nil behind
    | cons next rest =>
      have isIn : CharSet.withoutFeed.contains next = true :=
        contains_withoutFeed fun isFeed => oneLine (by simp [isFeed])
      rw [ways_one_of_mem behind isIn, Cursor.skip_skip, if_neg (List.cons_ne_nil _ _)]
  · rw [ways_char_sequence_of_ne isBackslash _ front, List.append_nil, if_pos isBackslash]
    by_cases isQuote : c = '"'
    · rw [if_pos isQuote]
      exact ways_one_of_not_mem front (by rw [isPlain, isQuote]; rfl)
    · rw [if_neg isQuote]
      exact ways_one_of_mem front (by rw [isPlain]; simp [isQuote, isBackslash])

/-- When the ways further on come to the end of the line exactly where they should, the ways from
here do so too. -/
theorem any_ways_inside {cursor : Cursor} (oneLine : '\n' ∉ cursor.rest) {further : Ways}
    (reaches : ∀ count ≤ cursor.rest.length, 0 < count →
      (further (cursor.skip count)).any atEnd = isUnclosed (cursor.rest.drop count)) :
    ((inside.ways cursor).flatMap further ++ [cursor]).any atEnd = isUnclosed cursor.rest := by
  have stops : [cursor].any atEnd = cursor.rest.isEmpty := by simp [atEnd]
  rw [List.any_append, stops]
  cases front : cursor.rest with
  | nil => exact Bool.or_true _
  | cons c rest =>
    rw [front] at reaches oneLine
    rw [List.isEmpty_cons, Bool.or_false, ways_inside front oneLine]
    by_cases isQuote : c = '"'
    · rw [if_pos isQuote, isQuote]
      rfl
    · rw [if_neg isQuote]
      by_cases isBackslash : c = '\\'
      · rw [if_neg (not_not_intro isBackslash), isBackslash]
        cases rest with
        | nil => rfl
        | cons next rest =>
          rw [if_neg (List.cons_ne_nil _ _), List.flatMap_singleton]
          exact reaches 2 (by simp) (by decide)
      · rw [if_pos isBackslash, List.flatMap_singleton, isUnclosed_cons isQuote isBackslash]
        exact reaches 1 (by simp) (by decide)

theorem any_iterateWays_inside (room : Nat) (cursor : Cursor) (oneLine : '\n' ∉ cursor.rest)
    (enough : cursor.rest.length ≤ room) :
    (iterateWays inside.ways true room cursor).any atEnd = isUnclosed cursor.rest := by
  induction room generalizing cursor with
  | zero =>
    have empty : cursor.rest = [] := List.length_eq_zero_iff.mp (Nat.le_zero.mp enough)
    simp [iterateWays, atEnd, empty, isUnclosed]
  | succ room inductionHypothesis =>
    refine any_ways_inside oneLine fun count within further => ?_
    have position := cursor.position_skip within
    rw [if_pos (by omega), ← Cursor.rest_skip]
    refine inductionHypothesis _ ?_ ?_
    · rw [Cursor.rest_skip]
      exact fun member => oneLine (List.mem_of_mem_drop member)
    · rw [Cursor.rest_skip, List.length_drop]
      omega

theorem any_zeroOrMoreWays_inside (cursor : Cursor) (oneLine : '\n' ∉ cursor.rest) :
    (zeroOrMoreWays inside.ways true cursor).any atEnd = isUnclosed cursor.rest := by
  refine any_ways_inside oneLine fun count within further => ?_
  have position := cursor.position_skip within
  rw [if_pos (by omega), ← Cursor.rest_skip]
  refine any_iterateWays_inside _ _ ?_ (Nat.le_refl _)
  rw [Cursor.rest_skip]
  exact fun member => oneLine (List.mem_of_mem_drop member)

theorem flatMap_finish (cursors : List Cursor) :
    cursors.flatMap (Pattern.anchor .finish).ways = cursors.filter atEnd := by
  induction cursors with
  | nil => rfl
  | cons cursor rest inductionHypothesis =>
    rw [List.flatMap_cons, inductionHypothesis, List.filter_cons, ways_finish]
    show (if atEnd cursor then _ else _) ++ _ = _
    cases atEnd cursor <;> rfl

theorem find?_unclosedString {c : Char} {rest : List Char} (oneLine : '\n' ∉ c :: rest) :
    (tied unclosedString).find? (c :: rest) =
      if c = '"' ∧ isUnclosed rest then some ⟨0, (c :: rest).length, []⟩ else none := by
  let repetition : Pattern := .repeated inside 0 none true
  have parts : unclosedString.ways (.front (c :: rest)) =
      ((Pattern.sequence (.char '"') repetition).ways (.front (c :: rest))).filter atEnd :=
    flatMap_finish _
  by_cases isQuote : c = '"'
  · subst isQuote
    rw [ways_char_sequence _ (front_rest _)] at parts
    have reaches : (repetition.ways ((Cursor.front ('"' :: rest)).skip 1)).any atEnd =
        isUnclosed rest :=
      any_zeroOrMoreWays_inside _ fun member => oneLine (List.mem_cons_of_mem _ member)
    cases ways : unclosedString.ways (.front ('"' :: rest)) with
    | nil =>
      have closed : isUnclosed rest = false := by
        rw [← reaches, List.any_eq_false]
        exact List.filter_eq_nil_iff.mp (parts.symm.trans ways)
      rw [if_neg fun both => absurd (closed.symm.trans both.2) (by decide)]
      exact find?_tied_of_no_way ways
    | cons first others =>
      have isWay : first ∈ unclosedString.ways (.front ('"' :: rest)) := by
        rw [ways]
        exact List.mem_cons_self
      obtain ⟨isMember, stopsAtEnd⟩ := List.mem_filter.mp (parts ▸ isWay)
      have isOpen : isUnclosed rest = true := by
        rw [← reaches, List.any_eq_true]
        exact ⟨first, isMember, stopsAtEnd⟩
      obtain ⟨count, within, rfl⟩ :=
        exists_skip_of_not_capturing (by decide : unclosedString.isCapturing = false) isWay
      have whole : count = ('"' :: rest).length := by
        rw [atEnd, Cursor.rest_skip, List.isEmpty_iff, List.drop_eq_nil_iff] at stopsAtEnd
        exact Nat.le_antisymm within stopsAtEnd
      rw [if_pos ⟨rfl, isOpen⟩, ← whole]
      exact find?_tied_of_head? within (by rw [ways]; rfl)
  · rw [if_neg fun both => isQuote both.1]
    refine find?_tied_of_no_way (parts.trans ?_)
    rw [ways_char_sequence_of_ne isQuote _ (front_rest _)]
    rfl

end Banana.Grammar.Language
