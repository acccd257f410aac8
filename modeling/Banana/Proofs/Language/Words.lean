/-
This file says, rule by rule, what the patterns of the pipeline language find at the front of a
text, in the words of the reader that knows no patterns. The parts of a pattern can be taken one
after the other: a run is followed by something that cannot start inside it, or by something that
can always go on, so no shorter run is ever needed.
-/

import Banana.Proofs.Language.Rules
import Banana.Proofs.Language.Direct
import Banana.Proofs.Pattern.Run

namespace Banana.Grammar.Language

open Pattern Highlight Direct

/-! ### Sets of characters -/

theorem contains_capital : capital.contains = isCapital := by
  funext c
  simp [CharSet.contains, capital, isCapital]

theorem contains_wordPart : wordPart.contains = isWordPart := by
  funext c
  simp [CharSet.contains, wordPart, isWordPart, isCapital, isSmall, isDigit, between_self,
    Bool.or_assoc]

theorem contains_pathStart : pathStart.contains = isPathStart := by
  funext c
  simp [CharSet.contains, pathStart, isPathStart, isSmall, between_self, Bool.or_assoc]

theorem contains_pathPart : pathPart.contains = isPathPart := by
  funext c
  simp [CharSet.contains, pathPart, isPathPart, isWordPart, isCapital, isSmall, isDigit,
    between_self, Bool.or_assoc]

theorem contains_digit : digit.contains = isDigit := by
  funext c
  simp [CharSet.contains, digit, isDigit]

theorem contains_hexDigit : hexDigit.contains = isHexDigit := by
  funext c
  simp [CharSet.contains, hexDigit, isHexDigit, isDigit, Bool.or_assoc]

theorem contains_symbol : symbol.contains = isSymbol := by
  funext c
  rw [Bool.eq_iff_iff]
  simp [CharSet.contains, symbol, isSymbol, between_self]

theorem contains_plainInString : plainInString.contains = isPlain := by
  funext c
  simp [CharSet.contains, plainInString, isPlain, between_self, bne]

/-- In a line the blanks are the spaces, the tabs and the carriage returns. -/
theorem contains_blank {c : Char} (noFeed : c ≠ '\n') : blank.contains c = isBlank c := by
  have notFeed : (c == '\n') = false := beq_false_of_ne noFeed
  simp [CharSet.contains, blank, isBlank, between_self, notFeed, Bool.or_assoc]

theorem run_eq {set : CharSet} {test : Char → Bool} (same : set.contains = test)
    (text : List Char) : run set text = (text.takeWhile test).length := by
  rw [run, same]

theorem run_blank {text : List Char} (oneLine : '\n' ∉ text) :
    run blank text = (text.takeWhile isBlank).length := by
  induction text with
  | nil => rfl
  | cons c rest inductionHypothesis =>
    rw [List.mem_cons, not_or] at oneLine
    have same := contains_blank (Ne.symm oneLine.1)
    cases isIn : isBlank c with
    | true =>
      rw [run_cons_of_mem (same.trans isIn), inductionHypothesis oneLine.2,
        List.takeWhile_cons_of_pos isIn]
      rfl
    | false =>
      rw [run_cons_of_not_mem (same.trans isIn), List.takeWhile_cons_of_neg (by simp [isIn])]
      rfl

/-! ### Finding -/

section Finding

variable {pattern : Pattern} {text : List Char}

theorem find?_tied_of_head? {count : Nat} (within : count ≤ text.length)
    (first : (pattern.ways (.front text)).head? = some ((Cursor.front text).skip count)) :
    (tied pattern).find? text = some ⟨0, count, []⟩ := by
  have position : ((Cursor.front text).skip count).position = 0 + count :=
    Cursor.position_skip _ within
  rw [tied, find?_start, first, Option.map_some, position, Nat.zero_add, Cursor.groups_skip]
  rfl

theorem find?_tied_of_no_way (absent : pattern.ways (.front text) = []) :
    (tied pattern).find? text = none := by
  rw [tied, find?_start, absent]
  rfl

end Finding

theorem front_rest (text : List Char) : (Cursor.front text).rest = text := rfl

theorem find?_one (set : CharSet) (c : Char) (rest : List Char) :
    (tied (.one set)).find? (c :: rest) =
      if set.contains c then some ⟨0, 1, []⟩ else none := by
  cases isIn : set.contains c with
  | true =>
    refine find?_tied_of_head? (by simp) ?_
    rw [ways_one_of_mem (front_rest _) isIn]
    rfl
  | false => exact find?_tied_of_no_way (ways_one_of_not_mem (front_rest _) isIn)

/-- A character that has to stand there. -/
theorem ways_char (letter : Char) (cursor : Cursor) :
    (Pattern.char letter).ways cursor =
      if cursor.rest.head? = some letter then [cursor.skip 1] else [] := by
  rw [Pattern.char]
  cases front : cursor.rest with
  | nil => exact ways_one_of_nil front
  | cons c rest =>
    rw [List.head?_cons]
    by_cases same : c = letter
    · rw [if_pos (congrArg some same)]
      exact ways_one_of_mem front (by rw [contains_single, same]; exact beq_self_eq_true letter)
    · rw [if_neg fun equal => same (Option.some.inj equal)]
      exact ways_one_of_not_mem front (by rw [contains_single]; exact beq_false_of_ne same)

theorem find?_char (c first : Char) (rest : List Char) :
    (tied (.char c)).find? (first :: rest) = if first = c then some ⟨0, 1, []⟩ else none := by
  rw [Pattern.char, find?_one, contains_single]
  simp only [beq_iff_eq]

theorem find?_someOf (set : CharSet) (text : List Char) :
    (tied (someOf set)).find? text =
      if run set text = 0 then none else some ⟨0, run set text, []⟩ := by
  rcases ways_oneOrMore set (.front text) with ⟨absent, noWay⟩ | ⟨present, longest⟩
  · rw [front_rest] at absent
    rw [if_pos absent]
    exact find?_tied_of_no_way noWay
  · rw [front_rest] at present longest
    rw [if_neg present]
    exact find?_tied_of_head? (run_le_length _ _) longest.head?

/-- A run that starts with a given character. -/
theorem find?_someOf_cons {set : CharSet} {test : Char → Bool} (same : set.contains = test)
    (c : Char) (rest : List Char) :
    (tied (someOf set)).find? (c :: rest) =
      if test c then some ⟨0, ((c :: rest).takeWhile test).length, []⟩ else none := by
  rw [find?_someOf, run_eq same]
  cases isIn : test c with
  | true => simp [List.takeWhile_cons_of_pos isIn]
  | false => simp [List.takeWhile_cons_of_neg (show ¬ test c = true by simp [isIn])]

/-- A run of blanks in a line. -/
theorem find?_blanks {c : Char} {rest : List Char} (oneLine : '\n' ∉ c :: rest) :
    (tied (someOf blank)).find? (c :: rest) =
      if isBlank c then some ⟨0, ((c :: rest).takeWhile isBlank).length, []⟩ else none := by
  rw [find?_someOf, run_blank oneLine]
  cases isIn : isBlank c with
  | true => simp [List.takeWhile_cons_of_pos isIn]
  | false => simp [List.takeWhile_cons_of_neg (show ¬ isBlank c = true by simp [isIn])]

/-! ### Words and paths -/

theorem find?_capitalisedWord (c : Char) (rest : List Char) :
    (tied capitalisedWord).find? (c :: rest) =
      if isCapital c then some ⟨0, ((c :: rest).takeWhile isWordPart).length, []⟩ else none := by
  have included (c : Char) (isIn : capital.contains c = true) : wordPart.contains c = true := by
    rw [contains_capital] at isIn
    rw [contains_wordPart]
    exact isWordPart_of_isCapital isIn
  rcases ways_one_zeroOrMore included (front_rest (c :: rest)) with
    ⟨isOut, noWay⟩ | ⟨isIn, longest⟩
  · rw [contains_capital] at isOut
    rw [isOut]
    exact find?_tied_of_no_way noWay
  · rw [contains_capital] at isIn
    rw [front_rest, run_eq contains_wordPart] at longest
    rw [isIn]
    exact find?_tied_of_head? (List.takeWhile_prefix _).length_le longest.head?

theorem find?_path {c : Char} {rest : List Char} (oneLine : '\n' ∉ c :: rest) :
    (tied path).find? (c :: rest) =
      if isPathStart c then
        some ⟨0, ((c :: rest).takeWhile isPathPart ++
          ((c :: rest).drop ((c :: rest).takeWhile isPathPart).length).takeWhile isBlank).length,
          []⟩
      else none := by
  have included (c : Char) (isIn : pathStart.contains c = true) : pathPart.contains c = true := by
    rw [contains_pathStart] at isIn
    rw [contains_pathPart]
    exact isPathPart_of_isPathStart isIn
  rcases ways_one_zeroOrMore included (front_rest (c :: rest)) with
    ⟨isOut, noWay⟩ | ⟨isIn, longest⟩
  · rw [contains_pathStart] at isOut
    rw [isOut]
    refine find?_tied_of_no_way ?_
    rw [path, runOf, ways, noWay]
    rfl
  · rw [contains_pathStart] at isIn
    rw [front_rest, run_eq contains_pathPart] at longest
    have blanks := (longest_zeroOrMore blank
      ((Cursor.front (c :: rest)).skip ((c :: rest).takeWhile isPathPart).length)).of_skip
    rw [Cursor.rest_skip, front_rest,
      run_blank fun member => oneLine (List.mem_of_mem_drop member)] at blanks
    rw [isIn, List.length_append]
    refine find?_tied_of_head? ?_ ?_
    · have first := (List.takeWhile_prefix isPathPart (l := c :: rest)).length_le
      have second := (List.takeWhile_prefix isBlank
        (l := (c :: rest).drop ((c :: rest).takeWhile isPathPart).length)).length_le
      rw [List.length_drop] at second
      omega
    · rw [path, ways]
      exact longest.head?_flatMap blanks.head?

end Banana.Grammar.Language
