/-
This file says what the patterns of numbers find: the digits that there are, for a fraction a point
and more digits behind them, and a power of ten where it is complete.
-/

import Banana.Proofs.Language.Words

namespace Banana.Grammar.Language

open Pattern Highlight Direct

def exponentMark : CharSet := ⟨false, [('e', 'e'), ('E', 'E')]⟩

def exponentSign : CharSet := ⟨false, [('-', '-'), ('+', '+')]⟩

theorem contains_exponentMark (c : Char) :
    exponentMark.contains c = true ↔ c = 'e' ∨ c = 'E' := by
  simp [CharSet.contains, exponentMark, between_self]

theorem contains_exponentSign (c : Char) :
    exponentSign.contains c = (c == '+' || c == '-') := by
  simp [CharSet.contains, exponentSign, between_self, Bool.or_comm]

theorem length_sign (text : List Char) : (sign text).length = min 1 (run exponentSign text) := by
  cases text with
  | nil => rfl
  | cons c rest =>
    cases isSign : exponentSign.contains c with
    | true =>
      rw [run_cons_of_mem isSign]
      rw [contains_exponentSign] at isSign
      simp [sign, isSign]
    | false =>
      rw [run_cons_of_not_mem isSign]
      rw [contains_exponentSign] at isSign
      simp [sign, isSign]

/-- A sign is no digit. -/
theorem digit_of_exponentSign (c : Char) (isSign : exponentSign.contains c = true) :
    digit.contains c = false := by
  rw [contains_exponentSign] at isSign
  simp only [Bool.or_eq_true, beq_iff_eq] at isSign
  rcases isSign with rfl | rfl <;> decide

/-- A point is no digit. -/
theorem point_of_digit (c : Char) (isIn : digit.contains c = true) :
    (CharSet.single '.').contains c = false := by
  rw [contains_single, beq_eq_false_iff_ne]
  rintro rfl
  exact absurd isIn (by decide)

/-- The digits of a power of ten are those behind its sign. Without the sign that there is no digit
follows, so the sign stays. -/
theorem head?_ways_signed_digits (cursor : Cursor) :
    (((between exponentSign 0 1).ways cursor).flatMap (someOf digit).ways).head? =
      let digits := (cursor.rest.drop (sign cursor.rest).length).takeWhile isDigit
      if digits = [] then none
      else some (cursor.skip ((sign cursor.rest).length + digits.length)) := by
  extract_lets digits
  have stuck : ∀ fewer < (sign cursor.rest).length,
      (someOf digit).ways (cursor.skip fewer) = [] := by
    intro fewer isFewer
    rw [length_sign] at isFewer
    obtain ⟨c, behind, standsThere, isSign⟩ := drop_eq_cons_of_lt_run
      (Nat.lt_of_lt_of_le isFewer (Nat.min_le_right _ _))
    refine ways_oneOrMore_of_run_eq_zero ?_
    rw [Cursor.rest_skip, standsThere, run_cons_of_not_mem (digit_of_exponentSign c isSign)]
  have count : run digit (cursor.skip (sign cursor.rest).length).rest = digits.length := by
    rw [Cursor.rest_skip, run_eq contains_digit]
  rcases ways_bounded exponentSign (Nat.zero_le 1) cursor with ⟨impossible, -⟩ | ⟨-, signs⟩
  · exact absurd impossible (Nat.not_lt_zero _)
  rw [← length_sign] at signs
  rw [between, signs.flatMap_eq stuck]
  rcases ways_oneOrMore digit (cursor.skip (sign cursor.rest).length) with
    ⟨absent, noWay⟩ | ⟨present, longest⟩
  · rw [count] at absent
    rw [if_pos (List.length_eq_zero_iff.mp absent), someOf, noWay]
    rfl
  · rw [count] at present longest
    rw [if_neg (mt List.length_eq_zero_iff.mpr present), someOf, longest.of_skip.head?]

/-- The pattern of a power of ten finds it where it is complete. -/
theorem head?_ways_exponent (cursor : Cursor) :
    (Language.exponent.ways cursor).head? =
      if Direct.exponent cursor.rest = [] then none
      else some (cursor.skip (Direct.exponent cursor.rest).length) := by
  have parts : Language.exponent.ways cursor =
      (((Pattern.one exponentMark).ways cursor).flatMap
        (between exponentSign 0 1).ways).flatMap (someOf digit).ways := rfl
  rw [parts]
  cases front : cursor.rest with
  | nil =>
    rw [ways_one_of_nil front]
    rfl
  | cons mark rest =>
    cases isMark : exponentMark.contains mark with
    | false =>
      have notMark : ¬ (mark = 'e' ∨ mark = 'E') := by
        rw [← contains_exponentMark, isMark]
        decide
      rw [ways_one_of_not_mem front isMark, exponent_of_incomplete fun both => notMark both.1]
      rfl
    | true =>
      have behind : (cursor.skip 1).rest = rest := Cursor.rest_skip_one front
      rw [ways_one_of_mem front isMark, List.flatMap_singleton, head?_ways_signed_digits, behind]
      dsimp only
      by_cases absent : (rest.drop (sign rest).length).takeWhile isDigit = []
      · rw [if_pos absent, exponent_of_incomplete fun both => both.2 absent]
        rfl
      · rw [if_neg absent, exponent_of_complete ((contains_exponentMark mark).mp isMark) absent,
          if_neg (List.cons_ne_nil _ _), Cursor.skip_skip, List.length_cons, List.length_append,
          Nat.add_comm 1]

/-- A power of ten that may be missing is read as far as it is complete. -/
theorem head?_ways_optional_exponent (cursor : Cursor) :
    ((Pattern.repeated Language.exponent 0 (some 1) true).ways cursor).head? =
      some (cursor.skip (Direct.exponent cursor.rest).length) := by
  rw [ways_optional, List.head?_append, head?_ways_exponent]
  by_cases absent : Direct.exponent cursor.rest = []
  · rw [if_pos absent, absent]
    rfl
  · rw [if_neg absent]
    rfl

/-- The digits in front of a point and the point, which cannot stand among them. -/
theorem ways_whole_point (text : List Char) :
    ((runOf digit).ways (.front text)).flatMap (Pattern.char '.').ways =
      if (text.dropWhile isDigit).head? = some '.' then
        [(Cursor.front text).skip ((text.takeWhile isDigit).length + 1)]
      else [] := by
  have whole : ((runOf digit).ways (.front text)).flatMap (Pattern.char '.').ways =
      (Pattern.char '.').ways ((Cursor.front text).skip (run digit text)) :=
    (longest_zeroOrMore digit (.front text)).flatMap_eq fun fewer isFewer =>
      ways_one_inside_run point_of_digit isFewer
  rw [whole, ways_char, Cursor.rest_skip, front_rest, drop_run, contains_digit, Cursor.skip_skip,
    run_eq contains_digit]

/-- The digits behind a point and the power of ten behind them. -/
theorem head?_ways_decimals (cursor : Cursor) :
    (((someOf digit).ways cursor).flatMap
      (Pattern.repeated Language.exponent 0 (some 1) true).ways).head? =
      let digits := cursor.rest.takeWhile isDigit
      if digits = [] then none
      else some (cursor.skip
        (digits.length + (Direct.exponent (cursor.rest.dropWhile isDigit)).length)) := by
  extract_lets digits
  have count : run digit cursor.rest = digits.length := run_eq contains_digit _
  have power := head?_ways_optional_exponent (cursor.skip (run digit cursor.rest))
  rw [Cursor.rest_skip, drop_run, contains_digit, Cursor.skip_skip, count] at power
  rcases ways_oneOrMore digit cursor with ⟨absent, noWay⟩ | ⟨present, longest⟩
  · rw [count] at absent
    rw [if_pos (List.length_eq_zero_iff.mp absent), someOf, noWay]
    rfl
  · rw [count] at present longest
    rw [if_neg (mt List.length_eq_zero_iff.mpr present)]
    exact longest.head?_flatMap power

/-- The pattern of a decimal fraction finds the fraction at the front of a text. -/
theorem find?_fraction (text : List Char) :
    (tied fraction).find? text =
      (fraction? text).map fun number => ⟨0, number.length, []⟩ := by
  have parts : fraction.ways (.front text) =
      ((((runOf digit).ways (.front text)).flatMap (Pattern.char '.').ways).flatMap
        (someOf digit).ways).flatMap
          (Pattern.repeated Language.exponent 0 (some 1) true).ways := rfl
  rw [ways_whole_point] at parts
  dsimp only [fraction?]
  split
  · next rest pointFollows =>
    rw [pointFollows, List.head?_cons, if_pos rfl, List.flatMap_singleton] at parts
    have behindPoint :
        ((Cursor.front text).skip ((text.takeWhile isDigit).length + 1)).rest = rest := by
      rw [← run_eq contains_digit, ← Cursor.skip_skip, Cursor.rest_skip, Cursor.rest_skip,
        front_rest, drop_run, contains_digit, pointFollows]
      rfl
    have decimals := head?_ways_decimals
      ((Cursor.front text).skip ((text.takeWhile isDigit).length + 1))
    rw [← parts, behindPoint] at decimals
    simp only [Cursor.skip_skip] at decimals
    split
    · next absent =>
      exact find?_tied_of_no_way (List.head?_eq_none_iff.mp (decimals.trans (if_pos absent)))
    · next present =>
      have number : fraction? text = some (text.takeWhile isDigit ++
          '.' :: rest.takeWhile isDigit ++ Direct.exponent (rest.dropWhile isDigit)) := by
        dsimp only [fraction?]
        rw [pointFollows]
        exact if_neg present
      refine find?_tied_of_head? (fraction?_isPrefix number).length_le ?_
      refine (decimals.trans (if_neg present)).trans ?_
      congr 2
      simp only [List.length_append, List.length_cons]
      omega
  · next noPoint =>
    have notThere : (text.dropWhile isDigit).head? ≠ some '.' := by
      intro isThere
      obtain ⟨rest, pointFollows⟩ := List.head?_eq_some_iff.mp isThere
      exact noPoint rest pointFollows
    rw [if_neg notThere] at parts
    exact find?_tied_of_no_way parts

end Banana.Grammar.Language
